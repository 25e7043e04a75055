import FleetScaling.Keyed
import FleetScaling.Proofs.Json.Documents

/-!
# Decoding what was written

A decoder `Decodes` what is written of a type if it gives every value of the type back, as long as
containers may nest deep enough. For records, `Record.Reads` says which value is built from the
members of an object; it is put together field by field, like the record. An object with exactly
these members then decodes to the value (`Record.decoder_object`).
-/

namespace FleetScaling.Json

variable {α β : Type}

/-- Given back is every value that was written, by a decoder that may enter more than `levels`
containers. -/
def Decodes (decoder : Decoder α) (write : α → Value) (levels : Nat) : Prop :=
  ∀ depth, levels < depth → ∀ a, decoder depth (write a).document = .ok a

/-- The text of a value decodes to it, in the compact layout. -/
theorem Decodes.compact {decoder : Decoder α} {write : α → Value} {levels : Nat}
    (h : Decodes decoder write levels) (hl : levels < depthLimit) (a : α) :
    decode decoder (write a).compact = .ok a := by
  unfold decode decodeTokens
  rw [ofText_compact, h _ hl]
  rfl

/-- And in the one on several lines. -/
theorem Decodes.pretty {decoder : Decoder α} {write : α → Value} {levels : Nat}
    (h : Decodes decoder write levels) (hl : levels < depthLimit) (indent : Nat) (a : α) :
    decode decoder ((write a).pretty indent) = .ok a := by
  unfold decode decodeTokens
  rw [ofText_pretty, h _ hl]
  rfl

/-- And in a file that ends with a line feed. -/
theorem Decodes.line {decoder : Decoder α} {write : α → Value} {levels : Nat}
    (h : Decodes decoder write levels) (hl : levels < depthLimit) (indent : Nat) (a : α) :
    decode decoder ((write a).pretty indent ++ "\n") = .ok a := by
  unfold decode decodeTokens
  rw [ofText_line, h _ hl]
  rfl

/-! ## Scalars -/

theorem valueOf_ok (a : α) : valueOf (.ok a) = .ok a := rfl

theorem decodes_text (expected : String) : Decodes (.text expected) .text 0 :=
  fun _ _ _ => rfl

theorem integer_natural {low high : Int} {expected : String} {n : Nat} (hn : n < Decimal.twoPow 64)
    (hl : low ≤ n) (hh : n ≤ high) (depth : Nat) :
    Decoder.integer low high expected depth (Value.integer n).document = .ok (n : Int) := by
  rw [Value.document, writtenNumber_natural hn]
  exact if_pos ⟨hl, hh⟩

theorem integer_negative {low high : Int} {expected : String} {n : Int} (hn : n < 0)
    (h64 : -(Decimal.twoPow 63 : Int) ≤ n) (hl : low ≤ n) (hh : n ≤ high) (depth : Nat) :
    Decoder.integer low high expected depth (Value.integer n).document = .ok n := by
  rw [Value.document, writtenNumber_negative hn h64]
  exact if_pos ⟨hl, hh⟩

theorem decodes_count : Decodes .count (fun t => .integer t.toNat) 0 := by
  intro depth _ t
  have ht := t.toNat_lt
  have hlargest : Decimal.largest 32 = 2 ^ 32 - 1 := rfl
  have h64 : Decimal.twoPow 64 = 2 ^ 64 := rfl
  unfold Decoder.count
  rw [integer_natural (by omega) (by omega) (by omega)]
  show Except.ok (UInt32.ofNat t.toNat) = _
  rw [UInt32.ofNat_toNat]

theorem decodes_size : Decodes .size (fun t => .integer t.toNat) 0 := by
  intro depth _ t
  have ht := t.toNat_lt
  have hlargest : Decimal.largest 64 = 2 ^ 64 - 1 := rfl
  have h64 : Decimal.twoPow 64 = 2 ^ 64 := rfl
  unfold Decoder.size
  rw [integer_natural (by omega) (by omega) (by omega)]
  show Except.ok (UInt64.ofNat t.toNat) = _
  rw [UInt64.ofNat_toNat]

theorem decodes_int64 : Decodes .int64 (fun t => .integer t.toInt) 0 := by
  intro depth _ t
  have hlow : -2 ^ 63 ≤ t.toInt := t.le_toInt
  have hhigh : t.toInt < 2 ^ 63 := t.toInt_lt
  have hlargest : (Decimal.largest 63 : Int) = 2 ^ 63 - 1 := rfl
  have h63 : (Decimal.twoPow 63 : Int) = 2 ^ 63 := rfl
  have h64 : Decimal.twoPow 64 = 2 ^ 64 := rfl
  have read : Decoder.integer (-(Decimal.twoPow 63 : Int)) (Decimal.largest 63) "i64" depth
      (Value.integer t.toInt).document = .ok t.toInt := by
    by_cases hn : t.toInt < 0
    · exact integer_negative hn (by omega) (by omega) (by omega) depth
    · rw [show t.toInt = (t.toInt.toNat : Int) by omega]
      exact integer_natural (by omega) (by omega) (by omega) depth
  unfold Decoder.int64
  rw [read]
  show Except.ok (Int64.ofInt t.toInt) = _
  rw [Int64.ofInt_toInt]

/-- A name among those that are known. -/
theorem Decodes.variant {known : List (String × α)} {name : α → String}
    (h : ∀ a, known.lookup (name a) = some a) :
    Decodes (.variant known) (fun a => .text (name a)) 0 := by
  intro depth _ a
  unfold Decoder.variant
  simp only [Value.document, valueOf_ok, bind, Except.bind, h]

/-- A value that is checked after its text, or another value, was decoded. -/
theorem Decodes.andThen {decoder : Decoder α} {write : α → Value} {levels : Nat}
    (h : Decodes decoder write levels) {check : α → Except DecodeError β} {back : β → α}
    (hb : ∀ b, check (back b) = .ok b) :
    Decodes (decoder.andThen check) (fun b => write (back b)) levels := by
  intro depth hd b
  unfold Decoder.andThen
  rw [h depth hd]
  exact hb b

/-! ## Lists -/

theorem Decodes.list {decoder : Decoder α} {write : α → Value} {levels : Nat}
    (h : Decodes decoder write levels) :
    Decodes (.list decoder) (fun l => .list (l.map write)) (levels + 1) := by
  intro depth hd l
  have read : (Value.documents (l.map write)).mapM (decoder (depth - 1)) = .ok l := by
    rw [Value.documents_eq_map]
    induction l with
    | nil => rfl
    | cons a l ih =>
      rw [List.map_cons, List.map_cons, List.mapM_cons, h (depth - 1) (by omega), ih]
      rfl
  unfold Decoder.list nested
  rw [Value.document]
  dsimp only
  rw [if_neg (by omega), read]
  rfl

/-! ## Records -/

namespace Record

theorem member?_documents (members : List (String × Value)) (name : String) :
    member? (Value.memberDocuments members) name =
      (members.lookup name).map Value.document := by
  induction members with
  | nil => rfl
  | cons member members ih =>
    obtain ⟨key, value⟩ := member
    rw [Value.memberDocuments, member?, List.lookup_cons]
    by_cases h : key = name
    · rw [if_pos h, h, beq_self_eq_true]
      rfl
    · rw [if_neg h, beq_eq_false_iff_ne.2 (Ne.symm h)]
      exact ih

/-- From the members that `find` knows, the record builds a value, and each of them passes the check
of its field. -/
structure Reads (record : Record α) (depth : Nat) (find : String → Option Document) (a : α) :
    Prop where
  value : record.ofMembers depth find = .ok a
  checks : ∀ field ∈ record.fields, ∀ d, find field.1 = some d → field.2 depth d = .ok ()

namespace Reads

variable {depth : Nat} {find : String → Option Document} {a : α}

theorem seq {f : Record (α → β)} {g : α → β} {x : Record α} (hf : f.Reads depth find g)
    (hx : x.Reads depth find a) : (f <*> x).Reads depth find (g a) where
  value := by
    show (do let g ← f.ofMembers depth find; let a ← x.ofMembers depth find; .ok (g a)) = _
    rw [hf.value, hx.value]
    rfl
  checks := by
    intro field hfield
    rcases List.mem_append.1 hfield with hfield | hfield
    · exact hf.checks field hfield
    · exact hx.checks field hfield

theorem map (g : α → β) {x : Record α} (hx : x.Reads depth find a) :
    (g <$> x).Reads depth find (g a) :=
  seq (f := Record.pure g) ⟨rfl, fun _ h => nomatch h⟩ hx

/-- A field that is there. -/
theorem field {name : String} {decoder : Decoder α} {d : Document} (hfind : find name = some d)
    (hd : decoder depth d = .ok a) : (Record.field name decoder).Reads depth find a where
  value := by
    unfold Record.field Record.fieldOr
    dsimp only
    rw [hfind]
    exact hd
  checks := by
    intro field hfield d' hd'
    rw [List.mem_singleton.1 hfield] at hd' ⊢
    cases hfind.symm.trans hd'
    show (decoder depth d).map _ = _
    rw [hd]
    rfl

/-- A field that may be missing. -/
theorem optionalField {name : String} {decoder : Decoder α} {write : α → Value} {value : Option α}
    (hfind : find name = value.map fun a => (write a).document)
    (hn : ∀ a, (write a).document ≠ .null) (hd : ∀ a, decoder depth (write a).document = .ok a) :
    (Record.optionalField name decoder).Reads depth find value := by
  have present (a : α) : decoder.optional depth (write a).document = .ok (some a) := by
    unfold Decoder.optional
    split
    · exact absurd ‹_› (hn a)
    · rw [hd a]
      rfl
  constructor
  · unfold Record.optionalField Record.fieldOr
    dsimp only
    rw [hfind]
    cases value with
    | none => rfl
    | some a => exact present a
  · intro field hfield d hd'
    rw [List.mem_singleton.1 hfield] at hd' ⊢
    rw [hfind] at hd'
    obtain ⟨a, _, rfl⟩ := Option.map_eq_some_iff.1 hd'
    show (decoder.optional depth (write a).document).map _ = _
    rw [present a]
    rfl

end Reads

theorem optionalMember_keys (key : String) (value : Option α) (write : α → Value) :
    ((Value.optionalMember key value write).map Prod.fst).Sublist [key] := by
  cases value with
  | none => exact List.nil_sublist _
  | some a => exact .refl _

/-- Members that are known, each once, pass the checks of their fields. -/
theorem checkMembers_ok {fields : List (String × Decoder Unit)} {depth : Nat} {seen : List String}
    {members : List (String × Value)} (nodup : (members.map Prod.fst).Nodup)
    (fresh : ∀ key ∈ members.map Prod.fst, key ∉ seen)
    (checks : ∀ member ∈ members, ∃ check, fields.lookup member.1 = some check ∧
      check depth member.2.document = .ok ()) :
    checkMembers fields depth none seen (Value.memberDocuments members) = .ok () := by
  induction members generalizing seen with
  | nil => rfl
  | cons member members ih =>
    obtain ⟨key, value⟩ := member
    obtain ⟨check, hcheck, hok⟩ := checks (key, value) List.mem_cons_self
    obtain ⟨hkey, nodup⟩ := List.nodup_cons.1 nodup
    have hseen : seen.contains key = false := by
      have := fresh key List.mem_cons_self
      rwa [← Bool.not_eq_true, List.contains_iff_mem]
    rw [Value.memberDocuments, checkMembers]
    simp only [valueOf_ok, bind, Except.bind, hcheck]
    rw [if_neg (by rw [hseen]; exact Bool.false_ne_true), hok]
    refine ih nodup (fun k hk hmem => ?_) fun m hm => checks m (List.mem_cons_of_mem _ hm)
    rcases List.mem_cons.1 hmem with rfl | hmem
    · exact hkey hk
    · exact fresh k (List.mem_cons_of_mem _ hk) hmem

theorem lookup_of_known {fields : List (String × Decoder Unit)} {name : String}
    (h : name ∈ fields.map Prod.fst) :
    ∃ check, fields.lookup name = some check ∧ (name, check) ∈ fields := by
  induction fields with
  | nil => cases h
  | cons field fields ih =>
    rw [List.lookup_cons]
    by_cases hname : name = field.1
    · refine ⟨field.2, ?_, ?_⟩
      · rw [hname, beq_self_eq_true]
      · rw [hname]
        exact List.mem_cons_self
    · obtain ⟨check, hcheck, hmem⟩ := ih ((List.mem_cons.1 h).resolve_left hname)
      refine ⟨check, ?_, List.mem_cons_of_mem field hmem⟩
      rw [beq_eq_false_iff_ne.2 hname]
      exact hcheck

/-- An object whose members are fields of the record, in their order, decodes to what they build. -/
theorem decoder_object {record : Record α} {name : String} {members : List (String × Value)}
    {depth : Nat} {a : α} (hd : 1 < depth) (distinct : (record.fields.map Prod.fst).Nodup)
    (known : (members.map Prod.fst).Sublist (record.fields.map Prod.fst))
    (reads : record.Reads (depth - 1) (member? (Value.memberDocuments members)) a) :
    record.decoder name depth (Value.object members).document = .ok a := by
  have nodup := distinct.sublist known
  have checked : checkMembers record.fields (depth - 1) none []
      (Value.memberDocuments members) = .ok () := by
    refine checkMembers_ok nodup (fun _ _ h => nomatch h) fun member hm => ?_
    obtain ⟨check, hcheck, hfield⟩ := lookup_of_known (known.subset (List.mem_map_of_mem hm))
    refine ⟨check, hcheck, reads.checks (member.1, check) hfield _ ?_⟩
    rw [member?_documents, lookup_of_mem nodup hm]
    rfl
  unfold decoder nested
  rw [Value.document]
  dsimp only
  rw [if_neg (by omega)]
  show (do checkMembers record.fields (depth - 1) none [] _; record.ofMembers _ _) = _
  rw [checked]
  exact reads.value

end Record

end FleetScaling.Json

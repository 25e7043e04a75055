import FleetScaling.Failure
import FleetScaling.Json.Record
import FleetScaling.Proofs.Keyed
import Mathlib.Data.List.Forall2

/-!
# What decoders accept

Which documents a decoder accepts, and what it makes of them: one equivalence for each kind of
decoder. For records, `Record.Judges` says that the documents of the fields decide what is built, in
an object as in a list; it is put together field by field, like the record. A record then accepts
exactly the documents that have all its fields, each once (`Document.HasFields`), with documents
that the fields accept (`Record.Judges.decoder_eq_ok_iff`).
-/

namespace FleetScaling.Json

variable {α β : Type}

/-! ## Steps -/

theorem bind_eq_ok_iff {ε : Type} {x : Except ε α} {f : α → Except ε β} {b : β} :
    (x >>= f) = .ok b ↔ ∃ a, x = .ok a ∧ f a = .ok b := by
  cases x with
  | ok a => exact ⟨fun h => ⟨a, rfl, h⟩, fun ⟨_, ha, h⟩ => by cases ha; exact h⟩
  | error e => exact ⟨nofun, fun ⟨_, ha, _⟩ => nomatch ha⟩

theorem map_eq_ok_iff {ε : Type} {x : Except ε α} {f : α → β} {b : β} :
    x.map f = .ok b ↔ ∃ a, x = .ok a ∧ f a = b := by
  cases x with
  | ok a => exact ⟨fun h => ⟨a, rfl, Except.ok.inj h⟩, fun ⟨_, ha, h⟩ => by cases ha; rw [← h]; rfl⟩
  | error e => exact ⟨nofun, fun ⟨_, ha, _⟩ => nomatch ha⟩

theorem mapM_eq_ok_iff {ε : Type} {f : α → Except ε β} {items : List α} {values : List β} :
    items.mapM f = .ok values ↔ List.Forall₂ (fun item value => f item = .ok value) items values := by
  induction items generalizing values with
  | nil =>
    rw [List.mapM_nil, List.forall₂_nil_left_iff]
    exact ⟨fun h => (Except.ok.inj h).symm, fun h => congrArg Except.ok h.symm⟩
  | cons item items ih =>
    rw [List.mapM_cons, List.forall₂_cons_left_iff, bind_eq_ok_iff]
    constructor
    · rintro ⟨value, hvalue, h⟩
      obtain ⟨rest, hrest, h⟩ := bind_eq_ok_iff.1 h
      exact ⟨value, rest, hvalue, ih.1 hrest, (Except.ok.inj h).symm⟩
    · rintro ⟨value, rest, hvalue, hrest, rfl⟩
      exact ⟨value, hvalue, bind_eq_ok_iff.2 ⟨rest, ih.2 hrest, rfl⟩⟩

theorem unlessFault_eq_ok_iff {fault : Option Fault} : unlessFault fault = .ok () ↔ fault = none := by
  cases fault <;> simp [unlessFault]

theorem valueOf_eq_ok_iff {value : Except Fault α} {a : α} :
    valueOf value = .ok a ↔ value = .ok a := by
  cases value with
  | ok b => exact ⟨fun h => congrArg Except.ok (Except.ok.inj h), fun h => by cases h; rfl⟩
  | error fault => exact ⟨nofun, nofun⟩

/-- A text is accepted if its document is and nothing stands behind it. -/
theorem decode_eq_ok_iff {decoder : Decoder α} {text : String} {a : α} :
    decode decoder text = .ok a ↔
      ∃ document, Document.ofText text = (document, []) ∧ decoder depthLimit document = .ok a := by
  unfold decode decodeTokens
  rw [bind_eq_ok_iff]
  constructor
  · rintro ⟨value, hvalue, h⟩
    split at h
    · rename_i hempty
      cases h
      exact ⟨_, Prod.ext rfl (List.isEmpty_iff.1 hempty), hvalue⟩
    · cases h
  · rintro ⟨document, hread, h⟩
    rw [hread]
    exact ⟨a, h, rfl⟩

theorem decodeWithin_of_ok {context : String} {decoder : Decoder α} {text : String} {a : α}
    (h : decode decoder text = .ok a) : decodeWithin context decoder text = .ok a := by
  unfold decodeWithin
  rw [h]
  rfl

theorem decodeWithin_of_error {context : String} {decoder : Decoder α} {text : String}
    {e : DecodeError} (h : decode decoder text = .error e) :
    decodeWithin context decoder text = .error ((Failure.of (.malformed e)).within context) := by
  unfold decodeWithin
  rw [h]
  rfl

theorem decodeWithin_eq_ok_iff {context : String} {decoder : Decoder α} {text : String} {a : α} :
    decodeWithin context decoder text = .ok a ↔ decode decoder text = .ok a := by
  refine ⟨fun h => ?_, decodeWithin_of_ok⟩
  rcases read : decode decoder text with e | b
  · rw [decodeWithin_of_error read] at h
    cases h
  · rw [decodeWithin_of_ok read] at h
    exact congrArg Except.ok (Except.ok.inj h)

theorem nested_eq_ok_iff {depth : Nat} {inside : Nat → Except DecodeError α} {a : α} :
    nested depth inside = .ok a ↔ 1 < depth ∧ inside (depth - 1) = .ok a := by
  unfold nested
  split
  · exact ⟨nofun, fun h => by omega⟩
  · exact ⟨fun h => ⟨by omega, h⟩, fun h => h.2⟩

theorem Ending.listFault_eq_none_iff {ending : Ending} :
    ending.listFault = none ↔ ending = .closed := by
  cases ending <;> simp [listFault]

theorem Ending.objectFault_eq_none_iff {ending : Ending} :
    ending.objectFault = none ↔ ending = .closed := by
  cases ending <;> simp [objectFault]

theorem Ending.fixedListFault_eq_none_iff {ending : Ending} :
    ending.fixedListFault = none ↔ ending = .closed := by
  cases ending <;> simp [fixedListFault]

/-! ## Scalars -/

/-- The integer that a document is, if it is one. -/
def Document.integer? : Document → Option Int
  | .number (.ok (.natural n)) => some n
  | .number (.ok (.negative n)) => some n
  | _ => none

namespace Decoder

variable {depth : Nat} {d : Document}

theorem text_eq_ok_iff {expected s : String} :
    text expected depth d = .ok s ↔ d = .text (.ok s) := by
  cases d with
  | text value =>
    refine valueOf_eq_ok_iff.trans ⟨fun h => congrArg Document.text h, fun h => ?_⟩
    exact Document.text.inj h
  | _ => exact ⟨nofun, nofun⟩

theorem integer_eq_ok_iff {low high m : Int} {expected : String} :
    integer low high expected depth d = .ok m ↔ d.integer? = some m ∧ low ≤ m ∧ m ≤ high := by
  have bounded (n : Int) (number : Number) :
      (if low ≤ n ∧ n ≤ high then Except.ok n
        else .error (DecodeError.wrongValue (.number number) expected)) = .ok m ↔
        some n = some m ∧ low ≤ m ∧ m ≤ high := by
    split
    · rename_i h
      refine ⟨fun hm => ?_, fun hm => congrArg Except.ok (Option.some.inj hm.1)⟩
      cases hm
      exact ⟨rfl, h⟩
    · rename_i h
      refine ⟨nofun, fun hm => ?_⟩
      cases hm.1
      exact absurd hm.2 h
  cases d with
  | number value =>
    cases value with
    | ok n =>
      cases n with
      | natural n => exact bounded n _
      | negative n => exact bounded n _
      | float x => exact ⟨nofun, fun h => nomatch h.1⟩
    | error fault => exact ⟨nofun, fun h => nomatch h.1⟩
  | _ => exact ⟨nofun, fun h => nomatch h.1⟩

theorem count_eq_ok_iff {n : UInt32} :
    count depth d = .ok n ↔ d.integer? = some (n.toNat : Int) := by
  have hn := n.toNat_lt
  have hlargest : Decimal.largest 32 = 2 ^ 32 - 1 := rfl
  unfold count
  rw [map_eq_ok_iff]
  constructor
  · rintro ⟨m, hm, rfl⟩
    obtain ⟨hm, hlow, hhigh⟩ := integer_eq_ok_iff.1 hm
    rw [hm, UInt32.toNat_ofNat_of_lt' (by show m.toNat < 2 ^ 32; omega), Int.toNat_of_nonneg hlow]
  · intro h
    refine ⟨n.toNat, integer_eq_ok_iff.2 ⟨h, by omega, by omega⟩, ?_⟩
    rw [Int.toNat_natCast, UInt32.ofNat_toNat]

theorem andThen_eq_ok_iff {decoder : Decoder α} {check : α → Except DecodeError β} {b : β} :
    decoder.andThen check depth d = .ok b ↔ ∃ a, decoder depth d = .ok a ∧ check a = .ok b :=
  bind_eq_ok_iff

theorem untagged_eq_ok_iff {name : String} {judge : Document → Option α} {a : α} :
    untagged name judge depth d = .ok a ↔ d.readFault depth = none ∧ judge d = some a := by
  unfold untagged
  rw [bind_eq_ok_iff]
  constructor
  · rintro ⟨_, hread, h⟩
    refine ⟨unlessFault_eq_ok_iff.1 hread, ?_⟩
    split at h
    · rename_i value hvalue
      exact hvalue.trans (congrArg some (Except.ok.inj h))
    · cases h
  · rintro ⟨hread, h⟩
    exact ⟨(), unlessFault_eq_ok_iff.2 hread, by rw [h]⟩

/-! ## Containers -/

theorem optional_eq_ok_iff {decoder : Decoder α} {o : Option α} :
    decoder.optional depth d = .ok o ↔
      d = .null ∧ o = none ∨ d ≠ .null ∧ ∃ a, decoder depth d = .ok a ∧ some a = o := by
  by_cases h : d = .null
  · subst h
    refine ⟨fun h => Or.inl ⟨rfl, (Except.ok.inj h).symm⟩, ?_⟩
    rintro (⟨-, rfl⟩ | ⟨h, -⟩)
    · rfl
    · exact absurd rfl h
  · have value : decoder.optional depth d = (decoder depth d).map some := by
      cases d <;> first | rfl | exact absurd rfl h
    rw [value, map_eq_ok_iff]
    exact ⟨fun hd => Or.inr ⟨h, hd⟩, fun hd => (hd.resolve_left fun hn => h hn.1).2⟩

theorem list_eq_ok_iff {decoder : Decoder α} {values : List α} :
    list decoder depth d = .ok values ↔ 1 < depth ∧ ∃ items, d = .list items .closed ∧
      List.Forall₂ (fun item value => decoder (depth - 1) item = .ok value) items values := by
  cases d with
  | list items ending =>
    unfold list
    dsimp only
    rw [nested_eq_ok_iff]
    refine and_congr_right fun _ => ?_
    rw [bind_eq_ok_iff]
    constructor
    · rintro ⟨_, hitems, h⟩
      obtain ⟨_, hending, h⟩ := bind_eq_ok_iff.1 h
      cases h
      rw [Ending.listFault_eq_none_iff.1 (unlessFault_eq_ok_iff.1 hending)]
      exact ⟨items, rfl, mapM_eq_ok_iff.1 hitems⟩
    · rintro ⟨_, h, hitems⟩
      cases h
      exact ⟨values, mapM_eq_ok_iff.2 hitems, rfl⟩
  | _ => exact ⟨nofun, fun h => nomatch h.2⟩

theorem members_eq_ok_iff {decoder : Decoder α} {values : List (String × α)} :
    members decoder depth d = .ok values ↔ 1 < depth ∧ ∃ entries, d = .object entries .closed ∧
      List.Forall₂ (fun entry value =>
        entry.1 = .ok value.1 ∧ decoder (depth - 1) entry.2 = .ok value.2) entries values := by
  have one (entry : Except Fault String × Document) (value : String × α) :
      (do let key ← valueOf entry.1; let value ← decoder (depth - 1) entry.2; .ok (key, value)) =
        .ok value ↔ entry.1 = .ok value.1 ∧ decoder (depth - 1) entry.2 = .ok value.2 := by
    rw [bind_eq_ok_iff]
    constructor
    · rintro ⟨key, hkey, h⟩
      obtain ⟨a, ha, h⟩ := bind_eq_ok_iff.1 h
      cases h
      exact ⟨valueOf_eq_ok_iff.1 hkey, ha⟩
    · rintro ⟨hkey, ha⟩
      exact ⟨value.1, valueOf_eq_ok_iff.2 hkey, bind_eq_ok_iff.2 ⟨value.2, ha, rfl⟩⟩
  cases d with
  | object entries ending =>
    unfold members
    dsimp only
    rw [nested_eq_ok_iff]
    refine and_congr_right fun _ => ?_
    rw [bind_eq_ok_iff]
    constructor
    · rintro ⟨_, hentries, h⟩
      obtain ⟨_, hending, h⟩ := bind_eq_ok_iff.1 h
      cases h
      rw [Ending.objectFault_eq_none_iff.1 (unlessFault_eq_ok_iff.1 hending)]
      exact ⟨entries, rfl, (mapM_eq_ok_iff.1 hentries).imp fun entry value => (one entry value).1⟩
    · rintro ⟨_, h, hentries⟩
      cases h
      exact ⟨values, mapM_eq_ok_iff.2 (hentries.imp fun entry value => (one entry value).2), rfl⟩
  | _ => exact ⟨nofun, fun h => nomatch h.2⟩

end Decoder

/-! ## Members of an object -/

/-- The documents of the members with a key, in order. -/
def valuesOf (name : String) (members : Members) : List Document :=
  members.filterMap fun member => match member.1 with
    | .ok key => if key = name then some member.2 else none
    | .error _ => none

section Members

variable {name key : String} {d value : Document} {members : Members}

theorem valuesOf_cons_self : valuesOf key ((.ok key, d) :: members) = d :: valuesOf key members :=
  List.filterMap_cons_some (if_pos rfl)

theorem valuesOf_cons_of_ne (h : key ≠ name) :
    valuesOf name ((.ok key, d) :: members) = valuesOf name members :=
  List.filterMap_cons_none (if_neg h)

theorem valuesOf_cons_error {fault : Fault} :
    valuesOf name ((.error fault, d) :: members) = valuesOf name members :=
  List.filterMap_cons_none rfl

theorem mem_valuesOf_iff : d ∈ valuesOf name members ↔ (.ok name, d) ∈ members := by
  unfold valuesOf
  rw [List.mem_filterMap]
  constructor
  · rintro ⟨⟨key, value⟩, hmem, h⟩
    cases key with
    | ok key =>
      obtain ⟨hkey, hvalue⟩ := Option.ite_none_right_eq_some.1 h
      cases hkey
      cases hvalue
      exact hmem
    | error fault => cases h
  · intro h
    exact ⟨_, h, if_pos rfl⟩

theorem member?_eq_head? : Record.member? members name = (valuesOf name members).head? := by
  induction members with
  | nil => rfl
  | cons member members ih =>
    obtain ⟨key, value⟩ := member
    cases key with
    | ok key =>
      unfold Record.member?
      by_cases h : key = name
      · rw [if_pos h, h, valuesOf_cons_self, List.head?_cons]
      · rw [if_neg h, valuesOf_cons_of_ne h, ih]
    | error fault =>
      unfold Record.member?
      rw [valuesOf_cons_error, ih]

end Members

namespace Record

/-- A member of an object is in order: its key is a string, and its value is what the field of this
name accepts, or is passed over. -/
def Proper (fields : List (String × Decoder Unit)) (depth : Nat)
    (member : Except Fault String × Document) : Prop :=
  ∃ key, member.1 = .ok key ∧ match fields.lookup key with
    | some check => check depth member.2 = .ok ()
    | none => member.2.skipFault = none

section Checks

variable {fields : List (String × Decoder Unit)} {depth : Nat} {last : Option Fault}
  {seen : List String} {members : Members} {key : String} {value : Document} {check : Decoder Unit}

theorem proper_unknown_iff (h : fields.lookup key = none) :
    Proper fields depth (.ok key, value) ↔ value.skipFault = none := by
  refine ⟨fun ⟨k, hk, hvalue⟩ => ?_, fun hvalue => ⟨key, rfl, ?_⟩⟩
  · cases hk
    rwa [h] at hvalue
  · rwa [h]

theorem proper_known_iff (h : fields.lookup key = some check) :
    Proper fields depth (.ok key, value) ↔ check depth value = .ok () := by
  refine ⟨fun ⟨k, hk, hvalue⟩ => ?_, fun hvalue => ⟨key, rfl, ?_⟩⟩
  · cases hk
    rwa [h] at hvalue
  · rwa [h]

theorem checkMembers_unknown_iff (h : fields.lookup key = none) :
    checkMembers fields depth last seen ((.ok key, value) :: members) = .ok () ↔
      value.skipFault = none ∧ checkMembers fields depth last seen members = .ok () := by
  rw [checkMembers]
  refine bind_eq_ok_iff.trans ⟨?_, ?_⟩
  · rintro ⟨_, ⟨⟩, hmember⟩
    rw [h] at hmember
    obtain ⟨_, hskip, hrest⟩ := bind_eq_ok_iff.1 hmember
    exact ⟨unlessFault_eq_ok_iff.1 hskip, hrest⟩
  · rintro ⟨hskip, hrest⟩
    refine ⟨key, rfl, ?_⟩
    rw [h]
    exact bind_eq_ok_iff.2 ⟨(), unlessFault_eq_ok_iff.2 hskip, hrest⟩

theorem checkMembers_known_iff (h : fields.lookup key = some check) :
    checkMembers fields depth last seen ((.ok key, value) :: members) = .ok () ↔
      key ∉ seen ∧ check depth value = .ok () ∧
        checkMembers fields depth last (key :: seen) members = .ok () := by
  rw [checkMembers]
  refine bind_eq_ok_iff.trans ⟨?_, ?_⟩
  · rintro ⟨_, ⟨⟩, hmember⟩
    rw [h] at hmember
    dsimp only at hmember
    split at hmember
    · cases hmember
    · rename_i hseen
      obtain ⟨_, hcheck, hrest⟩ := bind_eq_ok_iff.1 hmember
      exact ⟨mt List.contains_iff_mem.2 hseen, hcheck, hrest⟩
  · rintro ⟨hseen, hcheck, hrest⟩
    refine ⟨key, rfl, ?_⟩
    rw [h]
    dsimp only
    rw [if_neg (mt List.contains_iff_mem.1 hseen)]
    exact bind_eq_ok_iff.2 ⟨(), hcheck, hrest⟩

/-- A field that comes first counts as seen from there on. -/
theorem counted_cons_iff {name : String} (hseen : key ∉ seen) :
    (if name ∈ seen then 1 else 0) + (valuesOf name ((.ok key, value) :: members)).length ≤ 1 ↔
      (if name ∈ key :: seen then 1 else 0) + (valuesOf name members).length ≤ 1 := by
  by_cases h : key = name
  · subst h
    rw [valuesOf_cons_self, List.length_cons, if_pos List.mem_cons_self, if_neg hseen]
    omega
  · rw [valuesOf_cons_of_ne h]
    simp only [List.mem_cons, show (name = key) = False from eq_false (Ne.symm h), false_or]

/-- Members pass if each is in order and no field comes twice. By induction on the members; a field
that was seen may not come at all. -/
theorem checkMembers_eq_ok_iff :
    checkMembers fields depth last seen members = .ok () ↔ last = none ∧
      (∀ member ∈ members, Proper fields depth member) ∧
      ∀ name ∈ fields.map Prod.fst,
        (if name ∈ seen then 1 else 0) + (valuesOf name members).length ≤ 1 := by
  induction members generalizing seen with
  | nil =>
    refine unlessFault_eq_ok_iff.trans ⟨fun h => ⟨h, nofun, fun name _ => ?_⟩, fun h => h.1⟩
    show _ + 0 ≤ 1
    split <;> omega
  | cons member members ih =>
    obtain ⟨key, value⟩ := member
    rw [List.forall_mem_cons]
    cases key with
    | error fault => exact iff_of_false nofun fun ⟨_, ⟨⟨_, hkey, _⟩, _⟩, _⟩ => nomatch hkey
    | ok key =>
      rcases hl : fields.lookup key with _ | check
      · -- a member that is passed over belongs to no field
        have same (name : String) (hname : name ∈ fields.map Prod.fst) :
            valuesOf name ((.ok key, value) :: members) = valuesOf name members :=
          valuesOf_cons_of_ne fun h => lookup_eq_none_iff.1 hl (h ▸ hname)
        rw [checkMembers_unknown_iff hl, proper_unknown_iff hl, ih]
        constructor
        · rintro ⟨hskip, hlast, hproper, honce⟩
          exact ⟨hlast, ⟨hskip, hproper⟩, fun name hname => same name hname ▸ honce name hname⟩
        · rintro ⟨hlast, ⟨hskip, hproper⟩, honce⟩
          exact ⟨hskip, hlast, hproper, fun name hname => same name hname ▸ honce name hname⟩
      · have known : key ∈ fields.map Prod.fst := List.mem_map_of_mem (mem_of_lookup hl)
        rw [checkMembers_known_iff hl, proper_known_iff hl, ih]
        constructor
        · rintro ⟨hseen, hcheck, hlast, hproper, honce⟩
          exact ⟨hlast, ⟨hcheck, hproper⟩, fun name hname =>
            (counted_cons_iff hseen).2 (honce name hname)⟩
        · rintro ⟨hlast, ⟨hcheck, hproper⟩, honce⟩
          have hseen : key ∉ seen := by
            intro hseen
            have := honce key known
            rw [if_pos hseen, valuesOf_cons_self, List.length_cons] at this
            omega
          exact ⟨hseen, hcheck, hlast, hproper, fun name hname =>
            (counted_cons_iff hseen).1 (honce name hname)⟩

end Checks

end Record

/-! ## Records -/

/-- A document has fields with these names and documents: as an object, in which each of the names
comes once and what else there is can be passed over, or as a list of the documents in order. -/
inductive Document.HasFields (names : List String) : Document → List Document → Prop
  | object {members : Members} {values : List Document} :
      (∀ member ∈ members, ∃ key, member.1 = .ok key ∧
        (key ∉ names → member.2.skipFault = none)) →
      List.Forall₂ (fun name d => valuesOf name members = [d]) names values →
      HasFields names (.object members .closed) values
  | list {values : List Document} : names.length = values.length →
      HasFields names (.list values .closed) values

/-- The documents of its fields are settled by a document. -/
theorem Document.HasFields.unique {names : List String} {d : Document}
    {values values' : List Document} (h : d.HasFields names values)
    (h' : d.HasFields names values') : values = values' := by
  cases h with
  | object _ hfound =>
    cases h' with
    | object _ hfound' =>
      refine List.right_unique_forall₂' (fun name d d' hd hd' => ?_) hfound hfound'
      exact List.head_eq_of_cons_eq (hd.symm.trans hd')
  | list _ =>
    cases h' with
    | list _ => rfl

/-- The first document is the only one if there is no other. -/
theorem eq_singleton_of_head? {values : List Document} {d : Document} (h : values.head? = some d)
    (once : values.length ≤ 1) : values = [d] := by
  obtain ⟨rest, rfl⟩ := List.head?_eq_some_iff.1 h
  rw [List.length_cons] at once
  rw [List.length_eq_zero_iff.1 (show rest.length = 0 by omega)]

namespace Record

section Object

variable {fields : List (String × Decoder Unit)} {depth : Nat} {members : Members} {ending : Ending}
  {values : List Document}

/-- Fields that are there and checked, member by member. -/
theorem exists_checked
    (found : List.Forall₂ (fun name d => valuesOf name members = [d]) (fields.map Prod.fst) values)
    (checked : List.Forall₂ (fun field d => field.2 depth d = .ok ()) fields values) :
    ∀ field ∈ fields, ∃ d, valuesOf field.1 members = [d] ∧ field.2 depth d = .ok () := by
  induction checked with
  | nil => exact fun _ h => nomatch h
  | cons hcheck _ ih =>
    obtain ⟨hfound, found⟩ := List.forall₂_cons.1 found
    intro field hfield
    rcases List.mem_cons.1 hfield with rfl | hfield
    · exact ⟨_, hfound, hcheck⟩
    · exact ih found field hfield

/-- Members that passed the checks have the fields that were found among them. -/
theorem hasFields_of_checkMembers
    (hchecked : checkMembers fields depth ending.objectFault [] members = .ok ())
    (hfound : List.Forall₂ (fun field d => member? members field.1 = some d) fields values) :
    (Document.object members ending).HasFields (fields.map Prod.fst) values := by
  obtain ⟨hlast, hproper, honce⟩ := checkMembers_eq_ok_iff.1 hchecked
  rw [Ending.objectFault_eq_none_iff.1 hlast]
  refine .object (fun member hmember => ?_) ?_
  · obtain ⟨key, hkey, hvalue⟩ := hproper member hmember
    refine ⟨key, hkey, fun unknown => ?_⟩
    rwa [lookup_eq_none_iff.2 unknown] at hvalue
  · have hknown := (List.forall₂_and_left (p := (·.1 ∈ fields.map Prod.fst)) _ _).2
      ⟨fun field hfield => List.mem_map_of_mem hfield, hfound⟩
    rw [List.forall₂_map_left_iff]
    refine hknown.imp fun field d ⟨hfield, hfind⟩ => ?_
    -- the first member with the name is the only one
    have hlength := honce field.1 hfield
    rw [if_neg List.not_mem_nil, Nat.zero_add] at hlength
    rw [member?_eq_head?] at hfind
    exact eq_singleton_of_head? hfind hlength

/-- Members that have their fields, with documents that pass, pass the checks. -/
theorem checkMembers_of_hasFields
    (h : (Document.object members ending).HasFields (fields.map Prod.fst) values)
    (hchecks : List.Forall₂ (fun field d => field.2 depth d = .ok ()) fields values) :
    checkMembers fields depth ending.objectFault [] members = .ok () ∧
      List.Forall₂ (fun field d => member? members field.1 = some d) fields values := by
  cases h with
  | object hmembers hfound =>
    have checked := exists_checked hfound hchecks
    refine ⟨checkMembers_eq_ok_iff.2 ⟨rfl, fun member hmember => ?_, fun name hname => ?_⟩, ?_⟩
    · obtain ⟨key, hkey, hskip⟩ := hmembers member hmember
      refine ⟨key, hkey, ?_⟩
      rcases hl : fields.lookup key with _ | check
      · exact hskip (lookup_eq_none_iff.1 hl)
      · obtain ⟨d, hd, hcheck⟩ := checked (key, check) (mem_of_lookup hl)
        have hvalue : member.2 ∈ valuesOf key members := mem_valuesOf_iff.2 (hkey ▸ hmember)
        rw [hd, List.mem_singleton] at hvalue
        exact hvalue ▸ hcheck
    · obtain ⟨field, hfield, rfl⟩ := List.mem_map.1 hname
      obtain ⟨d, hd, _⟩ := checked field hfield
      rw [hd, if_neg List.not_mem_nil]
      exact Nat.le_refl 1
    · rw [List.forall₂_map_left_iff] at hfound
      refine hfound.imp fun field d hd => ?_
      rw [member?_eq_head?, hd, List.head?_cons]

end Object

/-! ### What a decoder makes of a record -/

section Decoded

variable {record : Record α} {name : String} {depth : Nat} {members : Members} {ending : Ending}
  {items : List Document} {a : α}

theorem decoder_object_eq_ok_iff : record.decoder name depth (.object members ending) = .ok a ↔
    1 < depth ∧ checkMembers record.fields (depth - 1) ending.objectFault [] members = .ok () ∧
      record.ofMembers (depth - 1) (member? members) = .ok a := by
  unfold decoder
  dsimp only
  rw [nested_eq_ok_iff]
  refine and_congr_right fun _ => bind_eq_ok_iff.trans ⟨?_, fun h => ⟨(), h⟩⟩
  rintro ⟨_, h⟩
  exact h

theorem decoder_list_eq_ok_iff : record.decoder name depth (.list items ending) = .ok a ↔
    1 < depth ∧ ending = .closed ∧ record.ofItems (depth - 1) ("struct " ++ name ++ " with " ++
      toString record.fields.length ++ if record.fields.length = 1 then " element" else " elements")
        0 ending items = .ok (a, []) := by
  unfold decoder
  dsimp only
  rw [nested_eq_ok_iff]
  refine and_congr_right fun _ => ?_
  rw [bind_eq_ok_iff]
  constructor
  · rintro ⟨⟨b, rest⟩, hb, h⟩
    dsimp only at h
    split at h
    · rename_i hempty
      obtain ⟨_, hending, h⟩ := bind_eq_ok_iff.1 h
      cases h
      rw [List.isEmpty_iff.1 hempty] at hb
      exact ⟨Ending.fixedListFault_eq_none_iff.1 (unlessFault_eq_ok_iff.1 hending), hb⟩
    · cases h
  · rintro ⟨rfl, ha⟩
    exact ⟨(a, []), ha, rfl⟩

end Decoded

/-! ### Fields put together -/

section Together

variable {f : Record (α → β)} {x : Record α} {depth index : Nat} {name expected : String}
  {find : String → Option Document} {ending : Ending} {items rest : List Document}
  {decoder : Decoder α} {absent omitted : Option α} {a : α} {b : β}

theorem seq_ofMembers_eq_ok_iff : (f <*> x).ofMembers depth find = .ok b ↔
    ∃ g a, f.ofMembers depth find = .ok g ∧ x.ofMembers depth find = .ok a ∧ g a = b := by
  refine bind_eq_ok_iff.trans (exists_congr fun g => ?_)
  constructor
  · rintro ⟨hg, h⟩
    obtain ⟨a, ha, h⟩ := bind_eq_ok_iff.1 h
    exact ⟨a, hg, ha, Except.ok.inj h⟩
  · rintro ⟨a, hg, ha, rfl⟩
    exact ⟨hg, bind_eq_ok_iff.2 ⟨a, ha, rfl⟩⟩

theorem seq_ofItems_eq_ok_iff :
    (f <*> x).ofItems depth expected index ending items = .ok (b, rest) ↔
      ∃ g more a, f.ofItems depth expected index ending items = .ok (g, more) ∧
        x.ofItems depth expected (index + f.fields.length) ending more = .ok (a, rest) ∧
        g a = b := by
  refine bind_eq_ok_iff.trans ⟨?_, ?_⟩
  · rintro ⟨⟨g, more⟩, hg, h⟩
    obtain ⟨⟨a, left⟩, ha, h⟩ := bind_eq_ok_iff.1 h
    cases h
    exact ⟨g, more, a, hg, ha, rfl⟩
  · rintro ⟨g, more, a, hg, ha, rfl⟩
    exact ⟨(g, more), hg, bind_eq_ok_iff.2 ⟨(a, rest), ha, rfl⟩⟩

theorem fieldOr_ofMembers_eq_ok_iff :
    (fieldOr name decoder absent omitted).ofMembers depth find = .ok a ↔
      (∃ d, find name = some d ∧ decoder depth d = .ok a) ∨ find name = none ∧ absent = some a := by
  unfold fieldOr
  dsimp only
  rcases find name with _ | d
  · cases absent <;> simp
  · simp

theorem fieldOr_ofItems_eq_ok_iff :
    (fieldOr name decoder absent omitted).ofItems depth expected index ending items =
        .ok (a, rest) ↔
      (∃ d, items = d :: rest ∧ decoder depth d = .ok a) ∨
        items = [] ∧ ending = .closed ∧ omitted = some a ∧ rest = [] := by
  cases items with
  | nil =>
    constructor
    · intro h
      obtain ⟨_, hclosed, h⟩ := bind_eq_ok_iff.1 h
      have closed := Ending.listFault_eq_none_iff.1 (unlessFault_eq_ok_iff.1 hclosed)
      cases omitted with
      | none => cases h
      | some value =>
        cases h
        exact Or.inr ⟨rfl, closed, rfl, rfl⟩
    · rintro (⟨_, h, -⟩ | ⟨-, rfl, rfl, rfl⟩)
      · cases h
      · rfl
  | cons item items =>
    constructor
    · intro h
      obtain ⟨value, hvalue, h⟩ := bind_eq_ok_iff.1 h
      cases h
      exact Or.inl ⟨item, rfl, hvalue⟩
    · rintro (⟨d, hitems, hd⟩ | ⟨h, -⟩)
      · cases hitems
        exact bind_eq_ok_iff.2 ⟨a, hd, rfl⟩
      · cases h

end Together

/-- The documents of its fields decide what a record builds, in an object as in a list, and what it
builds it has checked. -/
structure Judges (record : Record α) (reads : Nat → List Document → α → Prop) : Prop where
  members : ∀ {depth : Nat} {find : String → Option Document} {a : α},
    record.ofMembers depth find = .ok a ↔ ∃ values,
      List.Forall₂ (fun field d => find field.1 = some d) record.fields values ∧ reads depth values a
  items : ∀ {depth : Nat} {expected : String} {index : Nat} {ending : Ending}
    {items rest : List Document} {a : α},
    record.ofItems depth expected index ending items = .ok (a, rest) ↔
      ∃ values, items = values ++ rest ∧ reads depth values a
  checks : ∀ {depth : Nat} {values : List Document} {a : α}, reads depth values a →
    List.Forall₂ (fun field d => field.2 depth d = .ok ()) record.fields values

namespace Judges

/-- What the first documents build is applied to what the others do. -/
def Both (first : Nat → List Document → (α → β) → Prop) (second : Nat → List Document → α → Prop)
    (depth : Nat) (values : List Document) (b : β) : Prop :=
  ∃ v w g a, values = v ++ w ∧ first depth v g ∧ second depth w a ∧ g a = b

theorem congr {record : Record α} {reads reads' : Nat → List Document → α → Prop}
    (h : record.Judges reads)
    (same : ∀ depth values a, reads depth values a ↔ reads' depth values a) :
    record.Judges reads' where
  members := h.members.trans (exists_congr fun values => and_congr_right fun _ => same _ values _)
  items := h.items.trans (exists_congr fun values => and_congr_right fun _ => same _ values _)
  checks ha := h.checks ((same _ _ _).2 ha)

theorem pure (a : α) : (Record.pure a).Judges fun _ values b => values = [] ∧ a = b where
  members := by
    intro depth find b
    constructor
    · intro h
      cases h
      exact ⟨[], .nil, rfl, rfl⟩
    · rintro ⟨_, -, -, rfl⟩
      rfl
  items := by
    intro depth expected index ending items rest b
    constructor
    · intro h
      cases h
      exact ⟨[], rfl, rfl, rfl⟩
    · rintro ⟨_, rfl, rfl, rfl⟩
      rfl
  checks := by
    rintro depth _ _ ⟨rfl, rfl⟩
    exact .nil

theorem seq {f : Record (α → β)} {x : Record α} {first : Nat → List Document → (α → β) → Prop}
    {second : Nat → List Document → α → Prop} (hf : f.Judges first) (hx : x.Judges second) :
    (f <*> x).Judges (Both first second) where
  members := by
    intro depth find b
    rw [seq_ofMembers_eq_ok_iff]
    show _ ↔ ∃ values, List.Forall₂ _ (f.fields ++ x.fields) values ∧ _
    constructor
    · rintro ⟨g, a, hg, ha, rfl⟩
      obtain ⟨v, hv, hg⟩ := hf.members.1 hg
      obtain ⟨w, hw, ha⟩ := hx.members.1 ha
      exact ⟨v ++ w, List.rel_append hv hw, v, w, g, a, rfl, hg, ha, rfl⟩
    · rintro ⟨_, hfound, v, w, g, a, rfl, hg, ha, rfl⟩
      have hlength := (hf.checks hg).length_eq
      have hv := List.forall₂_take f.fields.length hfound
      have hw := List.forall₂_drop f.fields.length hfound
      rw [List.take_left, hlength, List.take_left] at hv
      rw [List.drop_left, hlength, List.drop_left] at hw
      exact ⟨g, a, hf.members.2 ⟨v, hv, hg⟩, hx.members.2 ⟨w, hw, ha⟩, rfl⟩
  items := by
    intro depth expected index ending items rest b
    rw [seq_ofItems_eq_ok_iff]
    constructor
    · rintro ⟨g, more, a, hg, ha, rfl⟩
      obtain ⟨v, rfl, hfirst⟩ := hf.items.1 hg
      obtain ⟨w, rfl, hsecond⟩ := hx.items.1 ha
      rw [← List.append_assoc]
      exact ⟨v ++ w, rfl, v, w, g, a, rfl, hfirst, hsecond, rfl⟩
    · rintro ⟨_, rfl, v, w, g, a, rfl, hg, ha, rfl⟩
      exact ⟨g, w ++ rest, a, hf.items.2 ⟨v, List.append_assoc .., hg⟩, hx.items.2 ⟨w, rfl, ha⟩,
        rfl⟩
  checks := by
    rintro depth _ _ ⟨v, w, g, a, rfl, hg, ha, rfl⟩
    exact List.rel_append (hf.checks hg) (hx.checks ha)

theorem map (g : α → β) {x : Record α} {reads : Nat → List Document → α → Prop}
    (hx : x.Judges reads) :
    (g <$> x).Judges fun depth values b => ∃ a, reads depth values a ∧ g a = b := by
  have both (depth : Nat) (values : List Document) (b : β) :
      Both (fun _ values f => values = [] ∧ g = f) reads depth values b ↔
        ∃ a, reads depth values a ∧ g a = b := by
    constructor
    · rintro ⟨_, w, _, a, rfl, ⟨rfl, rfl⟩, ha, rfl⟩
      exact ⟨a, ha, rfl⟩
    · rintro ⟨a, ha, rfl⟩
      exact ⟨[], values, g, a, rfl, ⟨rfl, rfl⟩, ha, rfl⟩
  exact (seq (pure g) hx).congr both

/-- A field that must be there. -/
theorem field (name : String) (decoder : Decoder α) : (Record.field name decoder).Judges
    fun depth values a => ∃ d, values = [d] ∧ decoder depth d = .ok a where
  members := by
    intro depth find a
    unfold Record.field
    rw [fieldOr_ofMembers_eq_ok_iff]
    constructor
    · rintro (⟨d, hfind, hd⟩ | ⟨-, h⟩)
      · exact ⟨[d], .cons hfind .nil, d, rfl, hd⟩
      · cases h
    · rintro ⟨_, hfound, d, rfl, hd⟩
      exact Or.inl ⟨d, (List.forall₂_cons.1 hfound).1, hd⟩
  items := by
    intro depth expected index ending items rest a
    unfold Record.field
    rw [fieldOr_ofItems_eq_ok_iff]
    constructor
    · rintro (⟨d, rfl, hd⟩ | ⟨-, -, h, -⟩)
      · exact ⟨[d], rfl, d, rfl, hd⟩
      · cases h
    · rintro ⟨_, rfl, d, rfl, hd⟩
      exact Or.inl ⟨d, rfl, hd⟩
  checks := by
    rintro depth _ a ⟨d, rfl, hd⟩
    refine .cons ?_ .nil
    show (decoder depth d).map _ = _
    rw [hd]
    rfl

variable {record : Record α} {reads : Nat → List Document → α → Prop} {name : String} {depth : Nat}
  {d : Document} {a : α}

/-- **What a record accepts.** The documents that have its fields, each once, with documents that
the fields accept. -/
theorem decoder_eq_ok_iff (h : record.Judges reads) :
    record.decoder name depth d = .ok a ↔ 1 < depth ∧ ∃ values,
      d.HasFields (record.fields.map Prod.fst) values ∧ reads (depth - 1) values a := by
  cases d with
  | object members ending =>
    rw [decoder_object_eq_ok_iff]
    refine and_congr_right fun _ => ?_
    constructor
    · rintro ⟨hchecked, ha⟩
      obtain ⟨values, hfound, ha⟩ := h.members.1 ha
      exact ⟨values, hasFields_of_checkMembers hchecked hfound, ha⟩
    · rintro ⟨values, hfields, ha⟩
      obtain ⟨hchecked, hfound⟩ := checkMembers_of_hasFields hfields (h.checks ha)
      exact ⟨hchecked, h.members.2 ⟨values, hfound, ha⟩⟩
  | list items ending =>
    rw [decoder_list_eq_ok_iff]
    refine and_congr_right fun _ => ?_
    constructor
    · rintro ⟨rfl, ha⟩
      obtain ⟨values, hitems, hreads⟩ := h.items.1 ha
      rw [hitems, List.append_nil]
      refine ⟨values, .list ?_, hreads⟩
      rw [List.length_map, (h.checks hreads).length_eq]
    · rintro ⟨values, hfields, ha⟩
      cases hfields with
      | list _ => exact ⟨rfl, h.items.2 ⟨_, (List.append_nil _).symm, ha⟩⟩
  | _ => exact ⟨nofun, fun ⟨_, _, h, _⟩ => nomatch h⟩

end Judges

end Record

end FleetScaling.Json

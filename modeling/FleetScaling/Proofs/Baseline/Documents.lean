import FleetScaling.Operator.Program
import FleetScaling.Proofs.Baseline.Rows
import FleetScaling.Proofs.Json.Accepted
import FleetScaling.Proofs.Json.Records
import FleetScaling.Proofs.Traces

/-!
# Documents of baselines

A document of a baseline is four levels of objects over seconds. What it holds (`Baseline.HeldBy`)
is, at each level, what the last member with a key has; seconds may be written as an integer, as a
fraction or in a text. What is written of a baseline is decoded to it (`Baseline.decodes`), so a
baseline file that is replaced by what is shown of it holds the same, and is shown the same from
then on (`Baseline.shown_holds_same`).
-/

namespace FleetScaling

open Json Decimal Text

namespace Baseline

/-! ## Seconds -/

/-- The seconds that a document stands for: a whole number of 64 bits, another number without its
fraction and within 64 bits, or a whole number in a text. -/
inductive StandsFor : Document → Int64 → Prop
  | natural {m : Nat} {n : Int64} : n.toInt = m → StandsFor (.number (.ok (.natural m))) n
  | negative (m : Int) : StandsFor (.number (.ok (.negative m))) (Int64.ofInt m)
  | large {m : Nat} {x : BinaryFraction} {n : Int64} : 2 ^ 63 ≤ m →
      BinaryFraction.ofFloat? (Float.ofNat m) = some x →
      n.toInt = max (-2 ^ 63) (min x.truncate (2 ^ 63 - 1)) →
      StandsFor (.number (.ok (.natural m))) n
  | float {y : Float} {x : BinaryFraction} {n : Int64} : BinaryFraction.ofFloat? y = some x →
      n.toInt = max (-2 ^ 63) (min x.truncate (2 ^ 63 - 1)) →
      StandsFor (.number (.ok (.float y))) n
  | text {s : String} {n : Int64} : WritesInteger (trimmed s.toList) n.toInt →
      StandsFor (.text (.ok s)) n

theorem toInt_saturated (m : Int) :
    (saturated m).toInt = max (-2 ^ 63) (min m (2 ^ 63 - 1)) := by
  have hmin : Int64.minValue.toInt = -2 ^ 63 := rfl
  have hmax : Int64.maxValue.toInt = 2 ^ 63 - 1 := rfl
  unfold saturated
  split
  · rename_i h
    obtain ⟨hlow, hhigh⟩ := fitsSigned_iff.1 h
    rw [Int64.toInt_ofInt_of_le hlow hhigh]
    omega
  · rename_i h
    have := mt fitsSigned_iff.2 h
    split <;> omega

theorem toInt64_float_eq_ok {y : Float} {n : Int64} (h : (RawSeconds.float y).toInt64 = .ok n) :
    ∃ x, BinaryFraction.ofFloat? y = some x ∧
      n.toInt = max (-2 ^ 63) (min x.truncate (2 ^ 63 - 1)) := by
  unfold RawSeconds.toInt64 at h
  dsimp only at h
  split at h
  · rename_i x hx
    cases h
    exact ⟨x, hx, toInt_saturated x.truncate⟩
  · cases h

theorem standsFor_of_decoded {depth : Nat} {d : Document} {n : Int64}
    (h : secondsDecoder depth d = .ok n) : StandsFor d n := by
  obtain ⟨raw, hraw, hn⟩ := Decoder.andThen_eq_ok_iff.1 h
  obtain ⟨-, hraw⟩ := Decoder.untagged_eq_ok_iff.1 hraw
  unfold RawSeconds.ofDocument? at hraw
  split at hraw
  · rename_i m
    have hlargest : largest 63 = 2 ^ 63 - 1 := rfl
    split at hraw
    · rename_i hm
      cases hraw
      cases hn
      exact .natural (Int64.toInt_ofNat_of_lt (by omega))
    · rename_i hm
      cases hraw
      obtain ⟨x, hx, hn⟩ := toInt64_float_eq_ok hn
      exact .large (by omega) hx hn
  · cases hraw
    cases hn
    exact .negative _
  · cases hraw
    obtain ⟨x, hx, hn⟩ := toInt64_float_eq_ok hn
    exact .float hx hn
  · rename_i s
    cases hraw
    unfold RawSeconds.toInt64 at hn
    dsimp only at hn
    split at hn
    · rename_i m hm
      cases hn
      exact .text (readInt64?_eq_some_iff.1 hm)
    · cases hn
  · cases hraw

/-- Seconds are written as an integer, whatever they were read from. -/
theorem decodes_seconds : Decodes secondsDecoder (fun n => .integer n.toInt) 0 := by
  intro depth _ n
  have hlow : -2 ^ 63 ≤ n.toInt := n.le_toInt
  have hhigh : n.toInt < 2 ^ 63 := n.toInt_lt
  have h63 : (twoPow 63 : Int) = 2 ^ 63 := rfl
  have h64 : twoPow 64 = 2 ^ 64 := rfl
  have hlargest : largest 63 = 2 ^ 63 - 1 := rfl
  refine Decoder.andThen_eq_ok_iff.2 ⟨.integer n, Decoder.untagged_eq_ok_iff.2 ?_, rfl⟩
  by_cases hn : n.toInt < 0
  · rw [Value.document, writtenNumber_negative hn (by omega)]
    refine ⟨rfl, ?_⟩
    unfold RawSeconds.ofDocument?
    dsimp only
    rw [Int64.ofInt_toInt]
  · obtain ⟨m, hm⟩ : ∃ m : Nat, n.toInt = m := ⟨n.toInt.toNat, by omega⟩
    rw [Value.document, hm, writtenNumber_natural (by omega)]
    refine ⟨rfl, ?_⟩
    unfold RawSeconds.ofDocument?
    dsimp only
    rw [if_pos (by omega)]
    have back : Int64.ofNat m = n :=
      Int64.toInt_inj.1 ((Int64.toInt_ofNat_of_lt (by omega)).trans hm.symm)
    rw [back]

/-! ## Collections -/

section Collections

variable {α : Type} {decoder : Decoder α} {depth : Nat} {d : Document} {c : Keyed α}

/-- What a document holds under keys: of the members of an object with one key, what the last has.
-/
def HoldsKeyed (holds : Document → α → Prop) (d : Document) (c : Keyed α) : Prop :=
  ∃ members, d = .object members .closed ∧
    ∀ key, Option.Rel holds (valuesOf key members).getLast? (c.find? key)

theorem rel_getLast? {β : Type} {R : α → β → Prop} {l : List α} {l' : List β}
    (h : List.Forall₂ R l l') : Option.Rel R l.getLast? l'.getLast? := by
  have hreverse := List.forall₂_reverse_iff.2 h
  rw [← List.head?_reverse, ← List.head?_reverse]
  revert hreverse
  generalize l.reverse = r, l'.reverse = r'
  intro hreverse
  cases hreverse with
  | nil => exact .none
  | cons hab _ => exact .some hab

theorem holdsKeyed_of_decoded {holds : Document → α → Prop}
    (hdecoder : ∀ {depth d a}, decoder depth d = .ok a → holds d a)
    (h : keyedDecoder decoder depth d = .ok c) : HoldsKeyed holds d c := by
  obtain ⟨values, hvalues, rfl⟩ := map_eq_ok_iff.1 h
  obtain ⟨-, members, rfl, hmembers⟩ := Decoder.members_eq_ok_iff.1 hvalues
  refine ⟨members, rfl, fun key => ?_⟩
  rw [Keyed.find?_ofList]
  -- the values under the key match, member by member, so the last ones do
  refine rel_getLast? ?_
  clear h hvalues
  induction hmembers with
  | nil => exact .nil
  | @cons member value members values hmember _ ih =>
    obtain ⟨name, d⟩ := member
    obtain ⟨rfl, hd⟩ := hmember
    by_cases hkey : value.1 = key
    · rw [← hkey] at ih ⊢
      rw [valuesOf_cons_self, valuesUnder_cons_self]
      exact .cons (hdecoder hd) ih
    · rw [valuesOf_cons_of_ne hkey, valuesUnder_cons_of_ne hkey]
      exact ih

theorem decodes_keyed {write : α → Value} {levels : Nat} (h : Decodes decoder write levels) :
    Decodes (keyedDecoder decoder) (keyedValue write) (levels + 1) := by
  intro depth hd c
  refine map_eq_ok_iff.2 ⟨c.entries, Decoder.members_eq_ok_iff.2 ⟨by omega, _, rfl, ?_⟩,
    c.ofList_entries⟩
  rw [Value.memberDocuments_eq_map, List.map_map, List.forall₂_map_left_iff, List.forall₂_same]
  exact fun entry _ => ⟨rfl, h (depth - 1) (by omega) entry.2⟩

end Collections

/-! ## Baselines -/

/-- What a document of a baseline holds. -/
def HeldBy (d : Document) (b : Baseline) : Prop :=
  HoldsKeyed (HoldsKeyed (HoldsKeyed (HoldsKeyed StandsFor))) d b.entries

theorem heldBy_of_decoded {depth : Nat} {d : Document} {b : Baseline}
    (h : decoder depth d = .ok b) : HeldBy d b := by
  obtain ⟨entries, hentries, rfl⟩ := map_eq_ok_iff.1 h
  exact holdsKeyed_of_decoded
    (holdsKeyed_of_decoded (holdsKeyed_of_decoded (holdsKeyed_of_decoded standsFor_of_decoded)))
    hentries

theorem decodes : Decodes decoder toValue 4 := by
  intro depth hd b
  exact map_eq_ok_iff.2 ⟨b.entries,
    decodes_keyed (decodes_keyed (decodes_keyed (decodes_keyed decodes_seconds))) depth hd b.entries,
    rfl⟩

/-- What is shown of a baseline file, as a document. -/
theorem showBaseline_apply {b : Baseline} {s : OperatorSurroundings} {path text : String}
    (hread : s.files.read path = .ok text) (h : decode decoder text = .ok b)
    (instanceType : Option String) :
    s.showBaseline .json path instanceType () = ⟨.ok (), (), [b.toValue.pretty 0]⟩ := by
  have hfile : s.baseline path = .ok b := by
    unfold OperatorSurroundings.baseline ofFile
    rw [hread]
    dsimp only
    rw [h]
    rfl
  unfold OperatorSurroundings.showBaseline
  rw [hfile]
  rfl

/-- **What is shown of a baseline.** A text that is accepted holds, at each level, what the last
member with a key has. In whatever order its entries are held, what is written of the baseline is
accepted and decoded to what was written, with the same rows and the same times under every path. So
what is shown of a baseline file may replace it: the file is shown the same from then on. -/
theorem shown_holds_same (text : String) (b : Baseline) (h : decode decoder text = .ok b) :
    (∃ document, Document.ofText text = (document, []) ∧ HeldBy document b) ∧
    (∀ b' : Baseline, b.Same b' →
      decode decoder (b'.toValue.pretty 0) = .ok b' ∧ decode decoder b'.toValue.compact = .ok b' ∧
      decode decoder (b'.toValue.pretty 0 ++ "\n") = .ok b' ∧ b'.rows = b.rows ∧
      ∀ i t s, b'.lookup i t s = b.lookup i t s) ∧
    ∀ (s : OperatorSurroundings) (path : String), s.files.read path = .ok text →
      s.showBaseline .json path none () = ⟨.ok (), (), [b.toValue.pretty 0]⟩ ∧
      ∀ files' : Files, files'.read path = .ok (b.toValue.pretty 0 ++ "\n") →
        { s with files := files' }.showBaseline .json path none () =
          s.showBaseline .json path none () := by
  have hdepth : 4 < depthLimit := by decide
  refine ⟨?_, fun b' hsame => ⟨decodes.pretty hdepth 0 b', decodes.compact hdepth b',
    decodes.line hdepth 0 b', hsame.rows_eq.symm, fun i t s => (hsame.lookup_eq i t s).symm⟩,
    fun s path hread => ?_⟩
  · obtain ⟨document, hread, hdecoded⟩ := Json.decode_eq_ok_iff.1 h
    exact ⟨document, hread, heldBy_of_decoded hdecoded⟩
  · have shown := showBaseline_apply hread h none
    refine ⟨shown, fun files' hread' => ?_⟩
    rw [shown]
    exact showBaseline_apply (s := { s with files := files' }) hread' (decodes.line hdepth 0 b) none

/-- The characters of a baseline with keys that come twice, seconds of every kind, a metric of
another name and a collection without entries. -/
def various : List Char :=
  ["\x7b\"c5.large\": \x7b\"1\": \x7b\x7d\x7d, \"m5\\n\": \x7b\x7d, ",
    "\"c5.large\": \x7b\"1000\": \x7b\"best-effort\": \x7b\"scale_up_time_ec2\": -50.9, ",
    "\"scale_up_time_scheduler\": \" +070 \", \"scale_down_time\": 1, ",
    "\"scale_down_time\": 9223372036854775808, \"p\\\"99\": -9223372036854775808",
    "\x7d\x7d\x7d\x7d"].flatMap String.toList

/-- The same with the last of each key and whole seconds. -/
def variousShown : String :=
  String.join ["\x7b\"c5.large\":\x7b\"1000\":\x7b\"best-effort\":",
    "\x7b\"scale_up_time_ec2\":-50,\"scale_up_time_scheduler\":70,",
    "\"scale_down_time\":9223372036854775807,\"p\\\"99\":-9223372036854775808\x7d\x7d\x7d,",
    "\"m5\\n\":\x7b\x7d\x7d"]

theorem shown_holds_same_various :
    ∃ b, decode decoder (String.ofList various) = .ok b ∧ b.toValue.compact = variousShown ∧
      decode decoder variousShown = .ok b ∧ decode decoder (b.toValue.pretty 0) = .ok b ∧
      b.lookup "c5.large" 1000 .bestEffort = some ⟨-50, 70, 9223372036854775807⟩ := by
  have read : (decode decoder (String.ofList various)).toOption.map
      (fun b => (b.toValue.compact, b.lookup "c5.large" 1000 .bestEffort)) =
        some (variousShown, some ⟨-50, 70, 9223372036854775807⟩) := by
    unfold decode Document.ofText
    rw [String.toList_ofList]
    decide +kernel
  obtain ⟨b, hb, hshown⟩ := Option.map_eq_some_iff.1 read
  obtain ⟨hcompact, hlookup⟩ := Prod.mk.inj hshown
  have hb := eq_ok_of_toOption hb
  obtain ⟨_, written, _⟩ := shown_holds_same _ b hb
  obtain ⟨hpretty, hagain, _⟩ := written b (.refl b)
  exact ⟨b, hb, hcompact, hcompact ▸ hagain, hpretty, hlookup⟩

end Baseline

end FleetScaling

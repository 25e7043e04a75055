import FleetScaling.Proofs.Text.Numerals
import FleetScaling.Settings.Reading
import Mathlib.Algebra.Group.Nat.Defs

/-!
# Guesses at variables

The text of a variable is taken for a truth value, an integer or a number where it reads as one. No
text with a comma does (`guess?_of_comma`). Where a text is needed after all, the guess is written
again in its own way, which need not be how the variable was written: `Retold` says what becomes of
a text.
-/

namespace FleetScaling

open Text Decimal

namespace Text

theorem toList_lower (s : String) : (lower s).toList = s.toList.flatMap lowerChar :=
  String.toList_ofList

theorem lowerChar_of_isDigit {c : Char} (h : c.isDigit) : lowerChar c = [c] := by
  have hc := toNat_of_isDigit h
  unfold lowerChar
  have same : c.toLower = c := dif_neg fun ⟨upper, _⟩ => by
    have : 65 ≤ c.toNat := upper
    omega
  rw [if_pos (by omega), same]

/-- A number has no letters. -/
theorem lower_of_allDigits {s : String} (h : AllDigits s.toList) : lower s = s := by
  apply String.toList_inj.1
  rw [toList_lower]
  generalize s.toList = cs at h
  induction cs with
  | nil => rfl
  | cons c cs ih =>
    obtain ⟨hc, h⟩ := List.forall_mem_cons.1 h
    rw [List.flatMap_cons, lowerChar_of_isDigit hc, ih h, List.singleton_append]

theorem mem_lower {s : String} {c : Char} (h : c ∈ s.toList) (hc : lowerChar c = [c]) :
    c ∈ (lower s).toList := by
  rw [toList_lower]
  exact List.mem_flatMap.2 ⟨c, h, hc ▸ List.mem_singleton_self c⟩

end Text

namespace Decimal

variable {cs : List Char} {n : Int}

theorem WritesInteger.writesFloat (h : WritesInteger cs n) : WritesFloat cs := by
  obtain ⟨negative, sign, digits, _, hsign, hdigits, rfl, -⟩ := h
  refine ⟨negative, sign, digits, hsign, rfl, Or.inr ?_⟩
  have whole := WritesDecimal.whole hdigits.ne_nil hdigits.all .none
  rwa [List.append_nil] at whole

theorem comma_not_mem_digits {digits : List Char} (h : AllDigits digits) : ',' ∉ digits :=
  fun hc => absurd (h ',' hc) (by decide)

theorem IsSign.comma_not_mem {negative : Bool} {sign : List Char} (h : IsSign negative sign) :
    ',' ∉ sign := by
  cases h <;> decide

theorem Exponent.comma_not_mem (h : Exponent cs) : ',' ∉ cs := by
  cases h with
  | none => decide
  | integer e hsign _ hdigits =>
    rw [List.mem_cons, List.mem_append]
    rintro (rfl | hc | hc)
    · exact absurd e (by decide)
    · exact hsign.comma_not_mem hc
    · exact comma_not_mem_digits hdigits hc

theorem WritesDecimal.comma_not_mem (h : WritesDecimal cs) : ',' ∉ cs := by
  cases h with
  | whole _ hdigits hexponent =>
    rw [List.mem_append]
    exact not_or.2 ⟨comma_not_mem_digits hdigits, hexponent.comma_not_mem⟩
  | point _ hwhole hfraction hexponent =>
    rw [List.mem_append, List.mem_cons, List.mem_append]
    rintro (hc | hc | hc | hc)
    · exact comma_not_mem_digits hwhole hc
    · cases hc
    · exact comma_not_mem_digits hfraction hc
    · exact hexponent.comma_not_mem hc

theorem NamesSpecial.comma_not_mem (h : NamesSpecial cs) : ',' ∉ cs := by
  intro hc
  have hc : ',' ∈ cs.map Char.toLower := List.mem_map_of_mem hc
  have none : ∀ name ∈ ["nan".toList, "inf".toList, "infinity".toList], ',' ∉ name := by decide
  exact none _ h hc

/-- No number has a comma. -/
theorem WritesFloat.comma_not_mem (h : WritesFloat cs) : ',' ∉ cs := by
  obtain ⟨_, sign, body, hsign, rfl, hbody⟩ := h
  rw [List.mem_append]
  exact not_or.2 ⟨hsign.comma_not_mem,
    hbody.elim NamesSpecial.comma_not_mem WritesDecimal.comma_not_mem⟩

/-- A decimal begins with a digit or with its point. -/
theorem WritesDecimal.head (h : WritesDecimal cs) : ∀ c ∈ cs.head?, c.isDigit ∨ c = '.' := by
  cases h with
  | @whole digits exponent some_ hdigits =>
    cases digits with
    | nil => exact absurd rfl some_
    | cons d digits =>
      rintro _ ⟨⟩
      exact Or.inl (hdigits d List.mem_cons_self)
  | @point whole fraction exponent _ hwhole =>
    cases whole with
    | nil =>
      rintro _ ⟨⟩
      exact Or.inr rfl
    | cons d whole =>
      rintro _ ⟨⟩
      exact Or.inl (hwhole d List.mem_cons_self)

/-- A text that begins with neither a digit nor a sign nor a point is no number, unless it is the
name of a special value. -/
theorem not_writesFloat_of_head {c : Char} {cs : List Char} (digit : ¬c.isDigit)
    (other : c ∉ ['-', '+', '.']) (special : ¬NamesSpecial (c :: cs)) : ¬WritesFloat (c :: cs) := by
  rintro ⟨_, sign, body, hsign, h, hbody⟩
  cases hsign with
  | minus =>
    cases h
    exact other (by decide)
  | plus =>
    cases h
    exact other (by decide)
  | none =>
    obtain rfl : c :: cs = body := h
    rcases hbody.resolve_left special |>.head c rfl with hc | rfl
    · exact digit hc
    · exact other (by decide)

end Decimal

namespace Setting

/-! ## Guesses -/

variable {v : String}

theorem guess?_of_truth {b : Bool} (h : lower v = boolText b) : guess? v = some (.bool b) := by
  unfold guess?
  rw [h]
  cases b <;> rfl

theorem guess?_of_no_truth (truth : ∀ b, lower v ≠ boolText b) :
    guess? v = match readInt64? v.toList with
      | some n => some (.integer n.toInt)
      | none => (readFloat? v.toList).map .float :=
  (if_neg (truth true)).trans (if_neg (truth false))

theorem guess?_of_integer (truth : ∀ b, lower v ≠ boolText b) {n : Int64}
    (h : WritesInteger v.toList n.toInt) : guess? v = some (.integer n.toInt) := by
  rw [guess?_of_no_truth truth, readInt64?_eq_some_iff.2 h]

theorem guess?_of_no_integer (truth : ∀ b, lower v ≠ boolText b)
    (h : ∀ n : Int64, ¬WritesInteger v.toList n.toInt) :
    guess? v = (readFloat? v.toList).map .float := by
  have unread : readInt64? v.toList = none :=
    Option.eq_none_iff_forall_not_mem.2 fun n hn => h n (readInt64?_eq_some_iff.1 hn)
  rw [guess?_of_no_truth truth, unread]

/-- What is neither a word for a truth value nor a number is not taken for one. -/
theorem guess?_eq_none_iff :
    guess? v = none ↔ (∀ b, lower v ≠ boolText b) ∧ ¬WritesFloat v.toList := by
  by_cases truth : ∀ b, lower v ≠ boolText b
  · rw [and_iff_right truth, ← isSome_readFloat?_iff, Option.not_isSome_iff_eq_none]
    by_cases integer : ∃ n : Int64, WritesInteger v.toList n.toInt
    · obtain ⟨n, hn⟩ := integer
      rw [guess?_of_integer truth hn]
      refine iff_of_false nofun fun h => ?_
      have number := isSome_readFloat?_iff.2 hn.writesFloat
      rw [h] at number
      cases number
    · rw [guess?_of_no_integer truth (not_exists.1 integer), Option.map_eq_none_iff]
  · obtain ⟨b, hb⟩ := not_forall_not.1 truth
    rw [guess?_of_truth hb]
    exact iff_of_false nofun fun h => truth h.1

/-- No digits are a word for a truth value. -/
theorem truth_of_allDigits (h : AllDigits v.toList) (b : Bool) : lower v ≠ boolText b := by
  rw [lower_of_allDigits h]
  intro hv
  have letters : (boolText b).toList.all Char.isDigit = false := by
    cases b <;> decide
  rw [← hv] at letters
  exact Bool.noConfusion (letters.symm.trans (List.all_eq_true.2 h))

/-- A number in decimal is taken for this number. -/
theorem guess?_toString {n : Nat} (small : n < 2 ^ 63) :
    guess? (toString n) = some (.integer n) := by
  have value : (Int64.ofNat n).toInt = n := Int64.toInt_ofNat_of_lt small
  have digits : AllDigits (toString n).toList := by
    rw [toList_toString]
    exact allDigits_toDigits n
  have integer : WritesInteger (toString n).toList (Int64.ofNat n).toInt := by
    rw [toList_toString]
    exact ⟨false, [], _, n, .none, writes_toDigits n, rfl, value⟩
  rw [guess?_of_integer (truth_of_allDigits digits) integer, value]

/-- A text with a comma is taken for nothing else. -/
theorem guess?_of_comma (h : ',' ∈ v.toList) : guess? v = none := by
  refine guess?_eq_none_iff.2 ⟨fun b hb => ?_, fun number => number.comma_not_mem h⟩
  have comma : ',' ∈ (lower v).toList := mem_lower h (by decide)
  rw [hb] at comma
  exact absurd comma (by cases b <;> decide)

/-! ## Texts that are told again -/

/-- A text has become another one when a variable is read as a text: a truth value or a number that
it was taken for is written in its own way, and any other text stays as it is. -/
inductive Retold (v : String) : String → Prop
  | truth {b : Bool} : lower v = boolText b → Retold v (boolText b)
  | integer {n : Int64} : (∀ b, lower v ≠ boolText b) → WritesInteger v.toList n.toInt →
      Retold v (toString n.toInt)
  | number {x : Float} : (∀ b, lower v ≠ boolText b) →
      (∀ n : Int64, ¬WritesInteger v.toList n.toInt) → readFloat? v.toList = some x →
      Retold v (Layout.plain.write x)
  | text : (∀ b, lower v ≠ boolText b) → ¬WritesFloat v.toList → Retold v v

theorem exists_retold (v : String) : ∃ w, Retold v w := by
  by_cases truth : ∀ b, lower v ≠ boolText b
  · by_cases integer : ∃ n : Int64, WritesInteger v.toList n.toInt
    · obtain ⟨n, hn⟩ := integer
      exact ⟨_, .integer truth hn⟩
    · cases number : readFloat? v.toList with
      | some x => exact ⟨_, .number truth (not_exists.1 integer) number⟩
      | none =>
        refine ⟨_, .text truth fun h => ?_⟩
        have read := isSome_readFloat?_iff.2 h
        rw [number] at read
        cases read
  · obtain ⟨b, hb⟩ := not_forall_not.1 truth
    exact ⟨_, .truth hb⟩

variable {listName place w : String}

/-- A variable that is not read as a list is read as its text told again. -/
theorem toText_ofVariable (hplace : place ≠ listName) (h : Retold v w) :
    (ofVariable listName place v).toText = .ok w := by
  unfold ofVariable
  cases h with
  | truth hb =>
    rw [guess?_of_truth hb]
    rfl
  | integer truth hn =>
    rw [guess?_of_integer truth hn]
    rfl
  | number truth none hx =>
    rw [guess?_of_no_integer truth none, hx]
    rfl
  | text truth none =>
    rw [guess?_eq_none_iff.2 ⟨truth, none⟩]
    dsimp only
    rw [if_neg hplace]
    rfl

/-- A text is told again in one way. -/
theorem Retold.unique {w' : String} (h : Retold v w) (h' : Retold v w') : w = w' := by
  have hplace : "a" ≠ "" := by decide
  exact Except.ok.inj ((toText_ofVariable hplace h).symm.trans (toText_ofVariable hplace h'))

end Setting

end FleetScaling

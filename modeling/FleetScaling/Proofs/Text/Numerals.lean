import FleetScaling.Decimal.Reading
import FleetScaling.Proofs.Text.Digits
import Mathlib.Algebra.Group.Int.Defs
import Mathlib.Data.List.TakeWhile
import Mathlib.Data.Option.Basic

/-!
# Numerals

Which texts the readers of numbers take, and for which number. A natural number is digits, perhaps
after a plus sign (`natural?_eq_some_iff`); an integer is digits after any sign
(`readInt64?_eq_some_iff`); a floating-point number is a decimal or the name of a special value,
after any sign (`isSome_readFloat?_iff`).
-/

namespace FleetScaling.Decimal

open Text

/-! ## Signs -/

/-- How a number begins that is negative, or is not. -/
inductive IsSign : (negative : Bool) → List Char → Prop
  | minus : IsSign true ['-']
  | none : IsSign false []
  | plus : IsSign false ['+']

/-- What follows is no sign. -/
def NoSign (cs : List Char) : Prop := ∀ c ∈ cs.head?, c ≠ '-' ∧ c ≠ '+'

theorem spanSign_of_noSign {cs : List Char} (h : NoSign cs) : spanSign cs = (false, cs) := by
  unfold spanSign
  split
  · exact absurd rfl (h _ rfl).1
  · exact absurd rfl (h _ rfl).2
  · rfl

theorem spanSign_append {negative : Bool} {sign cs : List Char} (hs : IsSign negative sign)
    (h : NoSign cs) : spanSign (sign ++ cs) = (negative, cs) := by
  cases hs with
  | minus => rfl
  | none => exact spanSign_of_noSign h
  | plus => rfl

theorem exists_sign (cs : List Char) :
    ∃ sign, IsSign (spanSign cs).1 sign ∧ cs = sign ++ (spanSign cs).2 := by
  unfold spanSign
  split
  · exact ⟨['-'], .minus, rfl⟩
  · exact ⟨['+'], .plus, rfl⟩
  · exact ⟨[], .none, rfl⟩

theorem noSign_of_digits {digits : List Char} (h : AllDigits digits) (rest : List Char)
    (hr : NoSign rest) : NoSign (digits ++ rest) := by
  cases digits with
  | nil => exact hr
  | cons d digits =>
    rintro _ ⟨⟩
    have hd := h d List.mem_cons_self
    constructor
    · rintro rfl
      cases hd
    · rintro rfl
      cases hd

/-! ## Integers -/

/-- Digits, at least one, write a number. -/
structure Writes (digits : List Char) (n : Nat) : Prop where
  ne_nil : digits ≠ []
  all : AllDigits digits
  value : digitsValue 0 digits = n

theorem Writes.noSign {digits : List Char} {n : Nat} (h : Writes digits n) : NoSign digits := by
  have := noSign_of_digits h.all [] nofun
  rwa [List.append_nil] at this

theorem digits?_eq_some_iff {cs : List Char} {n : Nat} : digits? cs = some n ↔ Writes cs n := by
  unfold digits?
  rw [Option.ite_none_right_eq_some, List.all_eq_true]
  exact ⟨fun ⟨⟨hne, hall⟩, hn⟩ => ⟨hne, hall, Option.some.inj hn⟩,
    fun h => ⟨⟨h.ne_nil, h.all⟩, congrArg some h.value⟩⟩

/-- A text writes a natural number: digits, perhaps after a plus sign. -/
def WritesNatural (cs : List Char) (n : Nat) : Prop :=
  ∃ digits, Writes digits n ∧ (cs = digits ∨ cs = '+' :: digits)

theorem natural?_eq_some_iff {limit n : Nat} {cs : List Char} :
    natural? limit cs = some n ↔ WritesNatural cs n ∧ n < limit := by
  unfold natural?
  rw [Option.filter_eq_some_iff, decide_eq_true_iff, digits?_eq_some_iff]
  refine and_congr_left fun _ => ⟨fun h => ?_, ?_⟩
  · split at h
    · exact ⟨_, h, Or.inr rfl⟩
    · exact ⟨_, h, Or.inl rfl⟩
  · rintro ⟨digits, hd, rfl | rfl⟩
    · split
      · exact absurd rfl (hd.noSign _ rfl).2
      · exact hd
    · exact hd

/-- A text writes an integer: digits, perhaps after a sign. -/
def WritesInteger (cs : List Char) (n : Int) : Prop :=
  ∃ (negative : Bool) (sign digits : List Char) (m : Nat), IsSign negative sign ∧
    Writes digits m ∧ cs = sign ++ digits ∧ n = if negative then -(m : Int) else m

theorem fitsSigned_iff {n : Int} : fitsSigned 63 n = true ↔ -2 ^ 63 ≤ n ∧ n < 2 ^ 63 := by
  unfold fitsSigned
  rw [Bool.and_eq_true, decide_eq_true_iff, decide_eq_true_iff,
    show ((twoPow 63 : Nat) : Int) = 2 ^ 63 from rfl]

theorem readInt64?_eq_some_iff {cs : List Char} {n : Int64} :
    readInt64? cs = some n ↔ WritesInteger cs n.toInt := by
  have hlow := n.le_toInt
  have hhigh := n.toInt_lt
  unfold readInt64?
  constructor
  · intro h
    obtain ⟨m, hm, h⟩ := Option.bind_eq_some_iff.1 h
    obtain ⟨hfits, h⟩ := Option.ite_none_right_eq_some.1 h
    obtain ⟨sign, hsign, hcs⟩ := exists_sign cs
    refine ⟨_, sign, _, m, hsign, digits?_eq_some_iff.1 hm, hcs, ?_⟩
    cases h
    obtain ⟨hl, hh⟩ := fitsSigned_iff.1 hfits
    exact Int64.toInt_ofInt_of_le hl hh
  · rintro ⟨negative, sign, digits, m, hsign, hd, rfl, hn⟩
    rw [spanSign_append hsign hd.noSign]
    refine Option.bind_eq_some_iff.2 ⟨m, digits?_eq_some_iff.2 hd, ?_⟩
    dsimp only
    rw [← hn, if_pos (fitsSigned_iff.2 ⟨hlow, hhigh⟩), Int64.ofInt_toInt]

theorem writes_toDigits (n : Nat) : Writes (Nat.toDigits 10 n) n :=
  ⟨Nat.toDigits_ne_nil, allDigits_toDigits n, digitsValue_toDigits n⟩

/-- An integer that was written is read back if it has no more than 64 bits. -/
theorem readInt64?_toString (n : Int) : readInt64? (toString n).toList =
    if fitsSigned 63 n then some (Int64.ofInt n) else none := by
  have hdigits := writes_toDigits n.natAbs
  have hsign : IsSign (decide (n < 0)) (if n < 0 then ['-'] else []) := by
    split <;> rename_i hn
    · rw [decide_eq_true hn]
      exact .minus
    · rw [decide_eq_false hn]
      exact .none
  have back : (if decide (n < 0) then -(n.natAbs : Int) else n.natAbs) = n := by
    by_cases hn : n < 0
    · rw [decide_eq_true hn, if_pos rfl]
      omega
    · rw [decide_eq_false hn, if_neg Bool.false_ne_true]
      omega
  unfold readInt64?
  rw [toList_toString_int, spanSign_append hsign hdigits.noSign]
  dsimp only
  rw [digits?_eq_some_iff.2 hdigits]
  dsimp only [Option.bind_eq_bind, Option.bind_some]
  rw [back]

/-! ## Floating-point numbers -/

/-- What may follow the digits of a decimal: nothing, or `e` with an integer. -/
inductive Exponent : List Char → Prop
  | none : Exponent []
  | integer {e : Char} {negative : Bool} {sign digits : List Char} : e = 'e' ∨ e = 'E' →
      IsSign negative sign → digits ≠ [] → AllDigits digits → Exponent (e :: (sign ++ digits))

/-- What is true of nothing and of an `e` is true of how an exponent begins. -/
theorem Exponent.head {p : Char → Prop} {cs : List Char} (h : Exponent cs) (he : p 'e')
    (hE : p 'E') : ∀ c ∈ cs.head?, p c := by
  cases h with
  | none => exact nofun
  | integer e =>
    rintro _ ⟨⟩
    rcases e with rfl | rfl
    · exact he
    · exact hE

theorem Exponent.noDigit {cs : List Char} (h : Exponent cs) : NoDigit cs :=
  h.head (by decide) (by decide)

theorem Exponent.noSign {cs : List Char} (h : Exponent cs) : NoSign cs :=
  h.head (by decide) (by decide)

theorem Exponent.noPoint {cs : List Char} (h : Exponent cs) : cs.head? ≠ some '.' :=
  fun hpoint => h.head (p := (· ≠ '.')) (by decide) (by decide) '.' hpoint rfl

theorem isSome_exponent?_iff {cs : List Char} : (exponent? cs).isSome ↔ Exponent cs := by
  cases cs with
  | nil => exact iff_of_true rfl .none
  | cons e cs =>
    unfold exponent?
    dsimp only
    rw [Option.isSome_ite, List.all_eq_true]
    constructor
    · rintro ⟨he, hne, hall⟩
      obtain ⟨sign, hsign, hcs⟩ := exists_sign cs
      rw [hcs]
      exact .integer he hsign hne hall
    · intro h
      cases h with
      | integer he hsign hne hall =>
        have hd : Writes _ _ := ⟨hne, hall, rfl⟩
        rw [spanSign_append hsign hd.noSign]
        exact ⟨he, hne, hall⟩

/-- A decimal without a sign: digits, at least one, with a point among or around them, then an
exponent. -/
inductive WritesDecimal : List Char → Prop
  | whole {digits exponent : List Char} : digits ≠ [] → AllDigits digits → Exponent exponent →
      WritesDecimal (digits ++ exponent)
  | point {whole fraction exponent : List Char} : whole ++ fraction ≠ [] → AllDigits whole →
      AllDigits fraction → Exponent exponent →
      WritesDecimal (whole ++ '.' :: (fraction ++ exponent))

section Decimals

variable {negative : Bool} {cs : List Char}

/-- What stands behind the whole digits is split into a fraction and the rest. -/
def Splits (cs fraction rest : List Char) : Prop :=
  cs = '.' :: (fraction ++ rest) ∨ (fraction = [] ∧ cs = rest ∧ rest.head? ≠ some '.')

theorem isSome_decimal?_append {whole fraction rest : List Char} (hw : AllDigits whole)
    (hcs : NoDigit cs) (hf : AllDigits fraction) (hr : NoDigit rest)
    (hsplit : Splits cs fraction rest) :
    (decimal? negative (whole ++ cs)).isSome ↔
      whole ++ fraction ≠ [] ∧ (exponent? rest).isSome := by
  have guarded (x : Option Float) : (do guard (whole ++ fraction ≠ []); x).isSome ↔
      whole ++ fraction ≠ [] ∧ x.isSome := by
    by_cases hne : whole ++ fraction ≠ []
    · rw [show (guard (whole ++ fraction ≠ []) : Option Unit) = some () from if_pos hne]
      exact (and_iff_right hne).symm
    · rw [show (guard (whole ++ fraction ≠ []) : Option Unit) = none from if_neg hne]
      exact iff_of_false Bool.false_ne_true fun h => hne h.1
  unfold decimal?
  rw [spanDigits_append hw hcs]
  dsimp only
  split
  · rename_i more
    rcases hsplit with h | ⟨_, rfl, h⟩
    · cases h
      rw [spanDigits_append hf hr, guarded]
      cases exponent? rest <;> rfl
    · exact absurd rfl h
  · rename_i hpoint
    rcases hsplit with rfl | ⟨rfl, rfl, _⟩
    · exact absurd rfl (hpoint _)
    · rw [guarded]
      cases exponent? cs <;> rfl

theorem exists_digits (cs : List Char) :
    ∃ digits rest, AllDigits digits ∧ NoDigit rest ∧ cs = digits ++ rest :=
  ⟨cs.takeWhile Char.isDigit, cs.dropWhile Char.isDigit, fun _ hc => List.mem_takeWhile_imp hc,
    fun c hc => by
      have := List.head?_dropWhile_not Char.isDigit cs
      rw [Option.mem_def.1 hc] at this
      simpa using this,
    List.takeWhile_append_dropWhile.symm⟩

theorem isSome_decimal?_iff : (decimal? negative cs).isSome ↔ WritesDecimal cs := by
  constructor
  · intro h
    obtain ⟨whole, rest, hw, hr, rfl⟩ := exists_digits cs
    by_cases hpoint : rest.head? = some '.'
    · obtain ⟨more, rfl⟩ := List.head?_eq_some_iff.1 hpoint
      obtain ⟨fraction, last, hf, hl, rfl⟩ := exists_digits more
      obtain ⟨hne, he⟩ := (isSome_decimal?_append hw hr hf hl (Or.inl rfl)).1 h
      exact .point hne hw hf (isSome_exponent?_iff.1 he)
    · obtain ⟨hne, he⟩ :=
        (isSome_decimal?_append hw hr allDigits_nil hr (Or.inr ⟨rfl, rfl, hpoint⟩)).1 h
      rw [List.append_nil] at hne
      exact .whole hne hw (isSome_exponent?_iff.1 he)
  · intro h
    cases h with
    | whole hne hd he =>
      refine (isSome_decimal?_append hd he.noDigit allDigits_nil he.noDigit
        (Or.inr ⟨rfl, rfl, he.noPoint⟩)).2 ⟨?_, isSome_exponent?_iff.2 he⟩
      rwa [List.append_nil]
    | point hne hw hf he =>
      have hpoint (cs : List Char) : NoDigit ('.' :: cs) := by
        rintro _ ⟨⟩
        decide
      exact (isSome_decimal?_append hw (hpoint _) hf he.noDigit (Or.inl rfl)).2
        ⟨hne, isSome_exponent?_iff.2 he⟩

theorem WritesDecimal.noSign (h : WritesDecimal cs) : NoSign cs := by
  cases h with
  | whole _ hd he => exact noSign_of_digits hd _ he.noSign
  | point _ hw => exact noSign_of_digits hw _ (by rintro _ ⟨⟩; decide)

/-- The name of a value that is no decimal, in any case. -/
def NamesSpecial (cs : List Char) : Prop :=
  cs.map Char.toLower ∈ ["nan".toList, "inf".toList, "infinity".toList]

theorem NamesSpecial.noSign (h : NamesSpecial cs) : NoSign cs := by
  cases cs with
  | nil => exact nofun
  | cons c cs =>
    have hc : some c.toLower ∈ ["nan".toList, "inf".toList, "infinity".toList].map List.head? :=
      List.mem_map_of_mem h
    rintro _ ⟨⟩
    constructor
    · rintro rfl
      exact absurd hc (by decide)
    · rintro rfl
      exact absurd hc (by decide)

/-- A text writes a floating-point number: a decimal or a special value, perhaps after a sign. -/
def WritesFloat (cs : List Char) : Prop :=
  ∃ negative sign body, IsSign negative sign ∧ cs = sign ++ body ∧
    (NamesSpecial body ∨ WritesDecimal body)

theorem isSome_readFloat?_iff : (readFloat? cs).isSome ↔ WritesFloat cs := by
  have read_body (negative : Bool) (body : List Char) :
      (if body.map Char.toLower = "nan".toList then some (Float.ofBits 0x7ff8000000000000)
        else if body.map Char.toLower = "inf".toList ∨ body.map Char.toLower = "infinity".toList then
          some (Float.ofBits (if negative then 0xfff0000000000000 else 0x7ff0000000000000))
        else decimal? negative body).isSome ↔ NamesSpecial body ∨ WritesDecimal body := by
    have hdecimal : (decimal? negative body).isSome ↔ WritesDecimal body := isSome_decimal?_iff
    rw [← hdecimal]
    unfold NamesSpecial
    rw [List.mem_cons, List.mem_cons, List.mem_singleton]
    split
    · rename_i h
      exact iff_of_true rfl (Or.inl (Or.inl h))
    · rename_i hnan
      split
      · rename_i h
        exact iff_of_true rfl (Or.inl (Or.inr h))
      · rename_i hinf
        exact (or_iff_right (not_or.2 ⟨hnan, hinf⟩)).symm
  unfold readFloat?
  dsimp only
  rw [read_body]
  constructor
  · intro h
    obtain ⟨sign, hsign, hcs⟩ := exists_sign cs
    exact ⟨_, sign, _, hsign, hcs, h⟩
  · rintro ⟨negative, sign, body, hsign, rfl, h⟩
    have hbody : NoSign body := h.elim NamesSpecial.noSign WritesDecimal.noSign
    rwa [spanSign_append hsign hbody]

end Decimals

end FleetScaling.Decimal

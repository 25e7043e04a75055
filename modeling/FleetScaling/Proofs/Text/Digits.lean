import FleetScaling.Text.Digit

/-!
# Digits that are written

A number is written as its decimal digits, without a zero in front unless it is zero
(`toDigits_ne_zero`), and padded with zeros where a width is asked for. Reading the digits back
gives the number (`digitsValue_toDigits`, `digitsValue_padded`), and a reader of digits stops where
they end (`takeWhile_digits`).
-/

namespace FleetScaling.Text

/-! ## Runs of digits -/

/-- Some digits, and nothing else. -/
def AllDigits (cs : List Char) : Prop := ∀ c ∈ cs, c.isDigit

/-- What follows is not one more digit. -/
def NoDigit (cs : List Char) : Prop := ∀ c ∈ cs.head?, ¬ c.isDigit

theorem allDigits_nil : AllDigits [] := fun _ h => absurd h List.not_mem_nil

theorem AllDigits.append {a b : List Char} (ha : AllDigits a) (hb : AllDigits b) :
    AllDigits (a ++ b) := by
  intro c hc
  rcases List.mem_append.1 hc with hc | hc
  · exact ha c hc
  · exact hb c hc

theorem allDigits_zeros (k : Nat) : AllDigits (List.replicate k '0') := by
  intro c hc
  rw [List.eq_of_mem_replicate hc]
  rfl

theorem toNat_of_isDigit {c : Char} (h : c.isDigit) : 48 ≤ c.toNat ∧ c.toNat ≤ 57 :=
  Char.isDigit_iff_toNat.1 h

theorem digitValue_le {c : Char} (h : c.isDigit) : digitValue c ≤ 9 := by
  have hc := toNat_of_isDigit h
  show c.toNat - 48 ≤ 9
  omega

theorem takeWhile_digits {digits rest : List Char} (hd : AllDigits digits) (hr : NoDigit rest) :
    (digits ++ rest).takeWhile Char.isDigit = digits := by
  rw [List.takeWhile_append_of_pos hd]
  cases rest with
  | nil => exact List.append_nil _
  | cons c rest =>
    rw [List.takeWhile_cons_of_neg (hr c rfl), List.append_nil]

theorem dropWhile_digits {digits rest : List Char} (hd : AllDigits digits) (hr : NoDigit rest) :
    (digits ++ rest).dropWhile Char.isDigit = rest := by
  rw [List.dropWhile_append_of_pos hd]
  cases rest with
  | nil => rfl
  | cons c rest => rw [List.dropWhile_cons_of_neg (hr c rfl)]

theorem spanDigits_append {digits rest : List Char} (hd : AllDigits digits) (hr : NoDigit rest) :
    spanDigits (digits ++ rest) = (digits, rest) := by
  unfold spanDigits
  rw [takeWhile_digits hd hr, dropWhile_digits hd hr]

/-! ## Blanks -/

theorem isBlank_of_isDigit {c : Char} (h : c.isDigit) : isBlank c = false := by
  have hc := toNat_of_isDigit h
  unfold isBlank inRanges blankRanges
  simp only [List.any_cons, List.any_nil, Bool.or_false]
  simp
  omega

theorem dropBlanks_cons {c : Char} (h : isBlank c = false) (cs : List Char) :
    dropBlanks (c :: cs) = c :: cs :=
  List.dropWhile_cons_of_neg (by rw [h]; exact Bool.false_ne_true)

/-- No blanks stand before a digit. -/
theorem dropBlanks_digits {ds : List Char} (hd : AllDigits ds) (hne : ds ≠ []) (rest : List Char) :
    dropBlanks (ds ++ rest) = ds ++ rest := by
  cases ds with
  | nil => exact absurd rfl hne
  | cons c ds => exact dropBlanks_cons (isBlank_of_isDigit (hd c List.mem_cons_self)) _

theorem dropBlanks_of_noBlank {cs : List Char} (h : ∀ c ∈ cs, isBlank c = false) :
    dropBlanks cs = cs := by
  cases cs with
  | nil => rfl
  | cons c cs => exact dropBlanks_cons (h c List.mem_cons_self) cs

theorem trimmed_of_noBlank {cs : List Char} (h : ∀ c ∈ cs, isBlank c = false) :
    trimmed cs = cs := by
  unfold trimmed
  rw [dropBlanks_of_noBlank h, dropBlanks_of_noBlank fun c hc => h c (List.mem_reverse.1 hc),
    List.reverse_reverse]

/-! ## Decimal numbers -/

theorem toList_toString (n : Nat) : (toString n).toList = Nat.toDigits 10 n := by
  rw [Nat.toString_eq_ofList_toDigits, String.toList_ofList]

theorem allDigits_toDigits (n : Nat) : AllDigits (Nat.toDigits 10 n) :=
  fun _ hc => Nat.isDigit_of_mem_toDigits (by decide) (by decide) hc

theorem digitsValue_toDigits (n : Nat) : digitsValue 0 (Nat.toDigits 10 n) = n := by
  unfold digitsValue digitValue
  rw [← Nat.ofDigitChars_eq_foldl]
  exact Nat.ofDigitChars_ten_toDigits

/-- The first digit of a number is not zero. -/
theorem toDigits_ne_zero {n : Nat} (hn : 0 < n) : (Nat.toDigits 10 n).head? ≠ some '0' := by
  induction n using Nat.strongRecOn with
  | _ n ih =>
    rw [Nat.toDigits_eq_if (by decide)]
    split
    · rename_i hlt
      intro h
      have hzero := congrArg (fun c => Char.toNat c - 48) (Option.some.inj h)
      rw [Nat.toNat_digitChar_of_lt_ten hlt] at hzero
      have : 48 + n - 48 = 0 := hzero
      omega
    · rename_i hge
      rw [List.head?_append, Option.or_of_isSome (List.isSome_head?.2 Nat.toDigits_ne_nil)]
      exact ih (n / 10) (by omega) (by omega)

/-- A number of several digits does not begin with zero. -/
theorem toDigits_ne_zero_cons (n : Nat) (c : Char) (cs : List Char) :
    Nat.toDigits 10 n ≠ '0' :: c :: cs := by
  intro h
  rcases Nat.eq_zero_or_pos n with rfl | hn
  · rw [Nat.toDigits_zero] at h
    cases h
  · exact toDigits_ne_zero hn (by rw [h]; rfl)

/-- An integer is written with a minus sign in front if it is negative. -/
theorem toList_toString_int (n : Int) : (toString n).toList =
    (if n < 0 then ['-'] else []) ++ Nat.toDigits 10 n.natAbs := by
  rw [Int.toString_eq_repr, Int.repr_eq_if]
  by_cases hn : n < 0
  · rw [if_neg (by omega), if_pos hn, String.toList_append, Nat.repr_eq_ofList_toDigits,
      show (-n).toNat = n.natAbs by omega]
    exact congrArg ('-' :: ·) String.toList_ofList
  · rw [if_pos (by omega), if_neg hn, Nat.repr_eq_ofList_toDigits, String.toList_ofList,
      show n.toNat = n.natAbs by omega]
    rfl

theorem trimmed_toString_int (n : Int) : trimmed (toString n).toList = (toString n).toList := by
  refine trimmed_of_noBlank fun c hc => ?_
  rw [toList_toString_int] at hc
  rcases List.mem_append.1 hc with hc | hc
  · split at hc
    · rw [List.mem_singleton.1 hc]
      decide
    · cases hc
  · exact isBlank_of_isDigit (allDigits_toDigits _ c hc)

/-! ## Padded numbers -/

theorem toList_pushn (c : Char) (k : Nat) : ("".pushn c k).toList = List.replicate k c := by
  rw [String.pushn_eq_repeat_push]
  induction k with
  | zero => rfl
  | succ k ih =>
    show ((Nat.repeat (fun s => s.push c) k "").push c).toList = _
    rw [String.toList_push, ih, List.replicate_succ']

theorem toList_padded (width n : Nat) : (padded width n).toList =
    List.replicate (width - (Nat.toDigits 10 n).length) '0' ++ Nat.toDigits 10 n := by
  unfold padded
  rw [String.toList_append, toList_pushn, toList_toString, ← String.length_toList, toList_toString]

theorem allDigits_padded (width n : Nat) : AllDigits (padded width n).toList := by
  rw [toList_padded]
  exact (allDigits_zeros _).append (allDigits_toDigits n)

theorem digitsValue_padded (width n : Nat) : digitsValue 0 (padded width n).toList = n := by
  have zeros (k : Nat) : digitsValue 0 (List.replicate k '0') = 0 := by
    induction k with
    | zero => rfl
    | succ k ih => exact ih
  have h := zeros (width - (Nat.toDigits 10 n).length)
  rw [toList_padded]
  unfold digitsValue at *
  rw [List.foldl_append, h]
  exact digitsValue_toDigits n

theorem length_padded {width n : Nat} (hw : 0 < width) (hn : n < Nat.pow 10 width) :
    (padded width n).toList.length = width := by
  have := (Nat.length_toDigits_le_iff (b := 10) (by decide) hw).2 hn
  rw [toList_padded, List.length_append, List.length_replicate]
  omega

end FleetScaling.Text

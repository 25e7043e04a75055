import FleetScaling.Proofs.Decimal.Binades
import FleetScaling.Proofs.Json.Accepted
import FleetScaling.Proofs.Json.Tokens

/-!
# Integers of more than 64 bits

An integer that is too long for 64 bits is read as a floating-point number: as many leading digits
as fit 64 bits, scaled by a power of ten for the digits left over (`exists_scaledNumber`). Rounding
does not take it back into 64 bits: an integer of at least `2 ^ 63` is read as a number of at least
`2 ^ 63` (`within_of_writtenNumber`). It is out of range if that would be infinite, which it is not
below `2 ^ 1020` and is from `2 ^ 1026` on (`inRange_of_lt`, `not_inRange_of_le`).
-/

namespace FleetScaling.Json

open Decimal Text Float.Model.UnpackedFloat

/-- The sign of an integer. -/
def signOf (n : Int) : Sign := if n < 0 then .negative else .positive

/-- The integer can be read where a number is written: it is not out of range. -/
def InRange (n : Int) : Prop := ∃ v, writtenNumber n = .ok v

variable {n : Int} {significand count : Nat}

/-! ## Digits left over -/

/-- The digits that fit are kept in 64 bits; if some are left over, nearly all the bits are used. -/
theorem accumulate_range {digits : List Char} (hdigits : AllDigits digits)
    (h : significand < 2 ^ 64) : (accumulate significand digits).1 < 2 ^ 64 ∧
      ((accumulate significand digits).2 ≠ [] → 2 ^ 60 ≤ (accumulate significand digits).1) := by
  have h64 : twoPow 64 = 2 ^ 64 := rfl
  induction digits generalizing significand with
  | nil => exact ⟨h, fun hleft => absurd rfl hleft⟩
  | cons c digits ih =>
    have hc := digitValue_le (hdigits c List.mem_cons_self)
    unfold accumulate fits
    split
    · rename_i hfits
      exact ih (fun c hc => hdigits c (List.mem_cons_of_mem _ hc)) (h64 ▸ of_decide_eq_true hfits)
    · rename_i hfits
      have := of_decide_eq_false (Bool.not_eq_true _ ▸ hfits)
      exact ⟨h, fun _ => by dsimp only; omega⟩

/-- Digits that are appended take a number to a place among its multiples by powers of ten. -/
theorem digitsValue_range {digits : List Char} (h : AllDigits digits) (start : Nat) :
    start * 10 ^ digits.length ≤ digitsValue start digits ∧
      digitsValue start digits < (start + 1) * 10 ^ digits.length := by
  induction digits generalizing start with
  | nil =>
    show start * 1 ≤ start ∧ start < (start + 1) * 1
    omega
  | cons c digits ih =>
    have hc := digitValue_le (h c List.mem_cons_self)
    obtain ⟨low, high⟩ := ih (fun d hd => h d (List.mem_cons_of_mem c hd))
      (10 * start + digitValue c)
    have value : digitsValue start (c :: digits) =
        digitsValue (10 * start + digitValue c) digits := rfl
    rw [value, List.length_cons, Nat.pow_succ', ← Nat.mul_assoc, ← Nat.mul_assoc]
    constructor
    · exact Nat.le_trans (Nat.mul_le_mul_right _ (by omega)) low
    · exact Nat.lt_of_lt_of_le high (Nat.mul_le_mul_right _ (by omega))

/-- The digits left over only tell the number among the multiples of a power of ten. -/
theorem accumulate_value {digits : List Char} (hdigits : AllDigits digits) (significand : Nat) :
    (accumulate significand digits).1 * 10 ^ (accumulate significand digits).2.length ≤
        digitsValue significand digits ∧
      digitsValue significand digits < ((accumulate significand digits).1 + 1) *
        10 ^ (accumulate significand digits).2.length := by
  induction digits generalizing significand with
  | nil =>
    show significand * 1 ≤ significand ∧ significand < (significand + 1) * 1
    omega
  | cons c digits ih =>
    unfold accumulate
    split
    · exact ih (fun c hc => hdigits c (List.mem_cons_of_mem _ hc)) _
    · exact digitsValue_range hdigits significand

/-- An integer whose digits do not all fit 64 bits is scaled. -/
theorem exists_scaledNumber (hn : 2 ^ 64 ≤ n.natAbs) : ∃ significand count : Nat,
    (2 ^ 60 ≤ significand ∧ significand < 2 ^ 64) ∧ 0 < count ∧
      (significand * 10 ^ count ≤ n.natAbs ∧ n.natAbs < (significand + 1) * 10 ^ count) ∧
      writtenNumber n = scaledNumber (decide (n < 0)) significand count := by
  have hdigits := allDigits_toDigits n.natAbs
  obtain ⟨hrange, hleft⟩ := accumulate_range hdigits (Nat.two_pow_pos 64)
  have hvalue := accumulate_value hdigits 0
  rw [digitsValue_toDigits] at hvalue
  unfold writtenNumber Number.ofParts
  generalize accumulate 0 (Nat.toDigits 10 n.natAbs) = read at hrange hleft hvalue ⊢
  obtain ⟨significand, excess⟩ := read
  dsimp only at hrange hleft hvalue ⊢
  have hexcess : excess ≠ [] := by
    rintro rfl
    rw [List.length_nil, Nat.pow_zero] at hvalue
    omega
  rw [if_neg fun h => hexcess h.2.2]
  exact ⟨significand, excess.length, ⟨hleft hexcess, hrange⟩, List.length_pos_of_ne_nil hexcess,
    hvalue, rfl⟩

/-! ## Scaling -/

section Scaling

variable (hlow : 2 ^ 60 ≤ significand) (hhigh : significand < 2 ^ 64)
include hlow hhigh

theorem within_significand :
    Within .positive significand.log2 (significand.log2 + 1) (Float.ofNat significand) ∧
      60 ≤ significand.log2 ∧ significand.log2 < 64 :=
  ⟨within_ofNat (by omega) hhigh, (Nat.le_log2 (by omega)).2 hlow, (Nat.log2_lt (by omega)).2 hhigh⟩

/-- Scaling by a power of ten is one product, and there is no power beyond `10 ^ 308`. -/
theorem scaled_eq : scaled (Float.ofNat significand) count =
    if 308 < count ∨ (Float.ofNat significand * powerOfTen count).isInf then
      .error .numberOutOfRange
    else .ok (Float.ofNat significand * powerOfTen count) := by
  obtain ⟨whole, -, hlog⟩ := within_significand hlow hhigh
  have nonzero := (whole.atLeast (by omega)).not_beq_zero
  unfold scaled
  rw [Int.natAbs_natCast]
  by_cases hcount : 308 < count
  · rw [if_pos hcount, if_pos (Or.inl hcount), nonzero, if_neg Bool.false_ne_true,
      dif_pos (Int.natCast_nonneg count)]
  · rw [if_neg hcount, if_pos (Int.natCast_nonneg count)]
    simp only [hcount, false_or]

/-- What is scaled up by at least ten reaches 64 bits, if it is in range. -/
theorem within_of_scaled {x : Float} (hcount : 0 < count)
    (h : scaled (Float.ofNat significand) count = .ok x) : Within .positive 63 1023 x := by
  obtain ⟨whole, hlog, hlog'⟩ := within_significand hlow hhigh
  have hpower : 3 ≤ (10 ^ count).log2 := by
    rw [Nat.le_log2 (Nat.pow_pos (by decide)).ne']
    calc 2 ^ 3 ≤ 10 ^ 1 := by decide
      _ ≤ 10 ^ count := Nat.pow_le_pow_right (by decide) hcount
  rw [scaled_eq hlow hhigh] at h
  split at h
  · cases h
  · rename_i hfinite
    obtain ⟨hcount', hfinite⟩ := not_or.1 hfinite
    cases h
    have power := atLeast_powerOfTen (n := count) (by omega)
    exact (((whole.atLeast (by omega)).mul power (by omega) (by omega)).within
      (Bool.eq_false_iff.2 hfinite)).mono (by omega) (Int.le_refl _)

/-- Nothing is out of range that stays below `2 ^ 1020`. -/
theorem exists_scaled (h : significand * 10 ^ count < 2 ^ 1020) :
    ∃ x, scaled (Float.ofNat significand) count = .ok x := by
  obtain ⟨whole, hlog, hlog'⟩ := within_significand hlow hhigh
  have hpower : 10 ^ count ≠ 0 := (Nat.pow_pos (by decide)).ne'
  have hcount : ¬308 < count := fun hcount => by
    have large : 2 ^ 1020 ≤ 10 ^ count := calc
      2 ^ 1020 ≤ 10 ^ 309 := by decide +kernel
      _ ≤ 10 ^ count := Nat.pow_le_pow_right (by decide) hcount
    exact absurd h (Nat.not_lt.2 (Nat.le_trans large (Nat.le_mul_of_pos_left _ (by omega))))
  have hsum := (log2_mul_range (m := significand) (by omega) hpower).1
  have htotal := (Nat.log2_lt (Nat.mul_ne_zero (by omega) hpower)).2 h
  have power := within_powerOfTen (n := count) (by omega) (by omega)
  have finite := (whole.mul power (by omega) (by omega) (by omega)).isInf_eq_false
  exact ⟨_, (scaled_eq hlow hhigh).trans (if_neg (not_or.2 ⟨hcount, Bool.eq_false_iff.1 finite⟩))⟩

/-- Everything is out of range from `2 ^ 1025` on. -/
theorem scaled_eq_error (h : 2 ^ 1025 ≤ significand * 10 ^ count) :
    scaled (Float.ofNat significand) count = .error .numberOutOfRange := by
  obtain ⟨whole, hlog, hlog'⟩ := within_significand hlow hhigh
  have hpower : 10 ^ count ≠ 0 := (Nat.pow_pos (by decide)).ne'
  have hsum := (log2_mul_range (m := significand) (by omega) hpower).2
  have htotal := (Nat.le_log2 (Nat.mul_ne_zero (by omega) hpower)).2 h
  rw [scaled_eq hlow hhigh]
  refine if_pos (or_iff_not_imp_left.2 fun hcount => ?_)
  have power := atLeast_powerOfTen (n := count) (by omega)
  exact ((whole.atLeast (by omega)).mul power (by omega) (by omega)).isInf (by omega)

end Scaling

/-! ## The range of integers -/

/-- No integer is out of range whose digits fit 64 bits. -/
theorem inRange_of_lt_two_pow_64 (hn : n.natAbs < 2 ^ 64) : InRange n := by
  have hvalue := digitsValue_toDigits n.natAbs
  unfold InRange writtenNumber Number.ofParts
  rw [accumulate_of_lt (by rwa [hvalue]), hvalue]
  dsimp only
  rw [if_pos ⟨rfl, rfl, rfl⟩]
  split
  · exact ⟨_, rfl⟩
  · split <;> exact ⟨_, rfl⟩

theorem inRange_of_lt (hn : n.natAbs < 2 ^ 1020) : InRange n := by
  rcases Nat.lt_or_ge n.natAbs (2 ^ 64) with hshort | hlong
  · exact inRange_of_lt_two_pow_64 hshort
  · obtain ⟨significand, count, ⟨hlow, hhigh⟩, -, ⟨hvalue, -⟩, hwritten⟩ :=
      exists_scaledNumber hlong
    obtain ⟨x, hx⟩ := exists_scaled hlow hhigh (Nat.lt_of_le_of_lt hvalue hn)
    unfold InRange
    rw [hwritten, scaledNumber, hx]
    exact ⟨_, rfl⟩

/-- The digits left over are worth less than one more in the significand, so less than half. -/
theorem le_leadingDigits {j k m : Nat} (hk : j = k + 1) (hsignificand : 0 < significand)
    (hlow : 2 ^ j ≤ m) (hhigh : m < (significand + 1) * 10 ^ count) :
    2 ^ k ≤ significand * 10 ^ count := by
  have double : (significand + 1) * 10 ^ count ≤ significand * 10 ^ count * 2 := by
    rw [Nat.mul_right_comm]
    exact Nat.mul_le_mul_right _ (by omega)
  rw [hk, Nat.pow_succ] at hlow
  exact Nat.le_of_mul_le_mul_right (Nat.le_trans hlow (Nat.le_trans hhigh.le double)) Nat.two_pos

theorem not_inRange_of_le (hn : 2 ^ 1026 ≤ n.natAbs) : ¬InRange n := by
  have hlong : 2 ^ 64 ≤ n.natAbs := Nat.le_trans (Nat.pow_le_pow_right (by decide) (by decide)) hn
  obtain ⟨significand, count, ⟨hlow, hhigh⟩, -, ⟨-, hvalue⟩, hwritten⟩ := exists_scaledNumber hlong
  have hscaled := le_leadingDigits (j := 1026) (k := 1025) rfl (by omega) hn hvalue
  rintro ⟨v, hv⟩
  rw [hwritten, scaledNumber, scaled_eq_error hlow hhigh hscaled] at hv
  cases hv

/-! ## Integers beyond 64 bits -/

theorem within_signOf {x : Float} (h : Within .positive 63 1023 x) :
    Within (signOf n) 63 1023 (if decide (n < 0) then -x else x) := by
  unfold signOf
  by_cases hn : n < 0
  · rw [if_pos hn, decide_eq_true hn, if_pos rfl]
    exact h.neg (by decide) (by decide)
  · rw [if_neg hn, decide_eq_false hn, if_neg Bool.false_ne_true]
    exact h

/-- A negative number whose digits fit 64 bits but which does not is not kept. -/
theorem writtenNumber_float (hn : n < -2 ^ 63) (hn' : n.natAbs < 2 ^ 64) :
    writtenNumber n = .ok (.float (-Float.ofNat n.natAbs)) := by
  have hvalue := digitsValue_toDigits n.natAbs
  have h63 : twoPow 63 = 2 ^ 63 := rfl
  unfold writtenNumber Number.ofParts
  rw [accumulate_of_lt (by rwa [hvalue]), hvalue, decide_eq_true (by omega)]
  dsimp only
  rw [if_pos ⟨rfl, rfl, rfl⟩, if_neg (by decide), if_neg (by omega)]

/-- An integer that is neither a natural number of 64 bits nor a negative one is read as a
floating-point number of at least `2 ^ 63` with its sign, or is out of range. -/
theorem within_of_writtenNumber (hn : n < -2 ^ 63 ∨ 2 ^ 64 ≤ n) {v : Number}
    (h : writtenNumber n = .ok v) : ∃ x, v = .float x ∧ Within (signOf n) 63 1023 x := by
  rcases Nat.lt_or_ge n.natAbs (2 ^ 64) with hshort | hlong
  · have hnegative : n < -2 ^ 63 := by omega
    have hlog : 63 ≤ n.natAbs.log2 ∧ n.natAbs.log2 < 64 :=
      ⟨(Nat.le_log2 (by omega)).2 (by omega), (Nat.log2_lt (by omega)).2 hshort⟩
    have whole := within_ofNat (n := n.natAbs) (by omega) hshort
    rw [writtenNumber_float hnegative hshort] at h
    cases h
    refine ⟨_, rfl, ?_⟩
    have signed := within_signOf (n := n) (whole.mono (by omega) (by omega))
    rwa [decide_eq_true (by omega), if_pos rfl] at signed
  · obtain ⟨significand, count, ⟨hlow, hhigh⟩, hcount, -, hwritten⟩ := exists_scaledNumber hlong
    rw [hwritten] at h
    obtain ⟨x, hx, rfl⟩ := map_eq_ok_iff.1 h
    exact ⟨_, rfl, within_signOf (within_of_scaled hlow hhigh hcount hx)⟩

end FleetScaling.Json

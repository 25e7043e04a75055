import FleetScaling.Decimal.Reading
import FleetScaling.Decimal.Word
import FleetScaling.Json.Fault

/-!
# Numbers in JSON text

A number without fraction and exponent that fits 64 bits is kept as an integer, every other
number as a floating-point number. Its significand takes digits as long as it fits 64 bits; it is
then scaled by powers of ten, so the result may differ from the nearest floating-point number in
its last bit.
-/

namespace FleetScaling.Json

open FleetScaling.Text FleetScaling.Decimal

/-- A number as it was written. -/
inductive Number
  | natural (n : Nat)
  | negative (n : Int)
  | float (x : Float)
  deriving DecidableEq

/-- The number as a floating-point number. -/
def Number.toFloat : Number → Float
  | natural n => Float.ofNat n
  | negative n => Float.ofInt n
  | float x => x

/-! ## Significand and scale -/

/-- Whether a digit still fits the significand. -/
def fits (significand : Nat) (digit : Char) : Bool :=
  10 * significand + digitValue digit < Decimal.twoPow 64

/-- The significand after the digits that fit, and the digits left over. -/
def accumulate (significand : Nat) : List Char → Nat × List Char
  | [] => (significand, [])
  | c :: cs =>
    if fits significand c then accumulate (10 * significand + digitValue c) cs
    else (significand, c :: cs)

/-- The power `10 ^ n`, rounded. -/
def powerOfTen (n : Nat) : Float := Float.ofScientific 1 false n

/-- The number `x · 10 ^ exponent` in floating-point arithmetic, in steps that stay in range. -/
def scaled (x : Float) (exponent : Int) : Except Fault Float :=
  if 308 < exponent.natAbs then
    if x == Float.ofNat 0 then .ok x
    else if h : 0 ≤ exponent then .error .numberOutOfRange
    else scaled (x / powerOfTen 308) (exponent + 308)
  else if 0 ≤ exponent then
    let y := x * powerOfTen exponent.natAbs
    if y.isInf then .error .numberOutOfRange else .ok y
  else .ok (x / powerOfTen exponent.natAbs)
termination_by (-exponent).toNat

/-- A number with a fraction or an exponent, or too long for an integer. -/
def scaledNumber (isNegative : Bool) (significand : Nat) (exponent : Int) : Except Fault Number :=
  (scaled (Float.ofNat significand) exponent).map fun x => .float (if isNegative then -x else x)

/-- The value of a number from its parts: the digits before the point, those after it, and the
exponent with its sign. -/
def Number.ofParts (isNegative : Bool) (whole fraction : List Char)
    (exponent : Option (Bool × List Char)) : Except Fault Number :=
  let (significand, excess) := accumulate 0 whole
  if fraction = [] ∧ exponent = none ∧ excess = [] then
    if !isNegative then .ok (.natural significand)
    else if 0 < significand ∧ significand ≤ Decimal.twoPow 63 then .ok (.negative (-significand))
    else .ok (.float (-Float.ofNat significand))
  else
    let (significand, dropped) := accumulate significand fraction
    let start : Int := excess.length - (fraction.length - dropped.length : Nat)
    match exponent with
    | none => scaledNumber isNegative significand start
    | some (isDown, digits) =>
      let size := digitsValue 0 digits
      if size < Decimal.twoPow 31 then
        scaledNumber isNegative significand (if isDown then start - size else start + size)
      else if significand ≠ 0 ∧ !isDown then .error .numberOutOfRange
      else scaledNumber isNegative 0 0

/-! ## The grammar -/

/-- A number at the front of a text and what follows it, or the faults of a malformed one. -/
inductive NumberScan
  | done (value : Except Fault Number) (rest : List Char)
  | broken (faults : Faults)

/-- Digits are missing: at the end of the text a reader misses the rest of the value. -/
def missingDigits (rest : List Char) : Faults :=
  .ofValue (if rest.isEmpty then .endInValue else .invalidNumber) .invalidNumber

/-- The exponent part of a number whose other digits are given. -/
def scanExponent (isNegative : Bool) (whole fraction cs : List Char) : NumberScan :=
  match cs with
  | c :: after =>
    if c = 'e' ∨ c = 'E' then
      let (isDown, after) := spanSign after
      let (digits, rest) := spanDigits after
      if digits = [] then .broken (missingDigits rest)
      else .done (Number.ofParts isNegative whole fraction (some (isDown, digits))) rest
    else .done (Number.ofParts isNegative whole fraction none) cs
  | [] => .done (Number.ofParts isNegative whole fraction none) cs

/-- The number at the front of a text, after its minus sign. -/
def scanMagnitude (isNegative : Bool) (cs : List Char) : NumberScan :=
  let (whole, rest) := spanDigits cs
  match whole with
  | [] => .broken (missingDigits rest)
  | '0' :: _ :: _ => .broken (.ofValue .invalidNumber .invalidNumber)
  | _ => match rest with
    | '.' :: after =>
      let (fraction, rest) := spanDigits after
      if fraction = [] then .broken (missingDigits rest)
      else scanExponent isNegative whole fraction rest
    | _ => scanExponent isNegative whole [] rest

/-- The number at the front of a text. -/
def scanNumber : List Char → NumberScan
  | '-' :: cs => scanMagnitude true cs
  | cs => scanMagnitude false cs

/-! ## Progress -/

theorem spanDigits_length (cs : List Char) :
    (spanDigits cs).1.length + (spanDigits cs).2.length = cs.length := by
  simp only [spanDigits, ← List.length_append, List.takeWhile_append_dropWhile]

theorem spanSign_length (cs : List Char) : (spanSign cs).2.length ≤ cs.length := by
  unfold spanSign
  split <;> simp

theorem scanExponent_length {isNegative : Bool} {whole fraction cs rest : List Char}
    {value : Except Fault Number} (h : scanExponent isNegative whole fraction cs = .done value rest) :
    rest.length ≤ cs.length := by
  unfold scanExponent at h
  split at h
  · rename_i c after
    split at h
    · have hsign := spanSign_length after
      have hdigits := spanDigits_length (spanSign after).2
      dsimp only at h
      split at h
      · cases h
      · cases h
        simp only [List.length_cons]
        omega
    · cases h; exact Nat.le_refl _
  · cases h; exact Nat.le_refl _

theorem scanMagnitude_length {isNegative : Bool} {cs rest : List Char}
    {value : Except Fault Number} (h : scanMagnitude isNegative cs = .done value rest) :
    rest.length < cs.length := by
  have hdigits := spanDigits_length cs
  unfold scanMagnitude at h
  dsimp only at h
  split at h
  · cases h
  · cases h
  · rename_i hne _
    have hpos : 0 < (spanDigits cs).1.length := List.length_pos_iff.2 hne
    split at h
    · rename_i after hrest
      have hfraction := spanDigits_length after
      rw [hrest, List.length_cons] at hdigits
      split at h
      · cases h
      · have := scanExponent_length h
        omega
    · have := scanExponent_length h
      omega

theorem scanNumber_length {c : Char} {cs rest : List Char} {value : Except Fault Number}
    (h : scanNumber (c :: cs) = .done value rest) : rest.length ≤ cs.length := by
  unfold scanNumber at h
  split at h
  · rename_i heq
    cases heq
    exact Nat.le_of_lt (scanMagnitude_length h)
  · exact Nat.le_of_lt_succ (scanMagnitude_length h)

end FleetScaling.Json

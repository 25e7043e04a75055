import FleetScaling.Decimal.Word

/-!
# Exact values of floating-point numbers

A finite floating-point number is a binary fraction `± significand · 2 ^ exponent`, read off its
bits. Rounding to whole numbers is done on this exact value, in integers.
-/

namespace FleetScaling.Decimal

/-- The number `± significand · 2 ^ exponent`. -/
structure BinaryFraction where
  negative : Bool
  significand : Nat
  exponent : Int
  deriving DecidableEq, Repr

namespace BinaryFraction

/-- The exact value of a floating-point number; infinities and not-a-number have none. -/
def ofFloat? (x : Float) : Option BinaryFraction :=
  let bits : Nat := x.toBits.toNat
  let biased : Nat := bits / twoPow 52 % twoPow 11
  let fraction : Nat := bits % twoPow 52
  if biased = 2047 then none
  else if biased = 0 then some ⟨bits / twoPow 63 = 1, fraction, -1074⟩
  else some ⟨bits / twoPow 63 = 1, twoPow 52 + fraction, biased - 1075⟩

/-- The significand with the number's sign. -/
def signed (x : BinaryFraction) : Int :=
  if x.negative then -(x.significand : Int) else x.significand

/-- The numerator of the number as a fraction of integers. -/
def numerator (x : BinaryFraction) : Int := x.signed * twoPow x.exponent.toNat

/-- The denominator of the number as a fraction of integers, a power of two. -/
def denominator (x : BinaryFraction) : Nat := twoPow (-x.exponent).toNat

/-- The greatest whole number that is not above the number. -/
def floor (x : BinaryFraction) : Int := x.numerator.fdiv x.denominator

/-- The number without its fractional part. -/
def truncate (x : BinaryFraction) : Int := x.numerator.tdiv x.denominator

/-- The nearest whole number to the absolute value; a half goes up. -/
def roundedMagnitude (x : BinaryFraction) : Nat :=
  (2 * x.numerator.natAbs + x.denominator) / (2 * x.denominator)

/-- The nearest whole number; a half goes away from zero. -/
def round (x : BinaryFraction) : Int :=
  if x.negative then -(x.roundedMagnitude : Int) else x.roundedMagnitude

end BinaryFraction

/-- The sign bit. It is set on the negative zero and on negative infinity too. -/
def isNegative (x : Float) : Bool := x.toBits.toNat / twoPow 63 = 1

end FleetScaling.Decimal

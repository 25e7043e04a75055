import FleetScaling.Decimal.Binary
import FleetScaling.Decimal.Word

/-!
# The shortest decimal that reads back

Every real number close enough to a floating-point number reads back as it; these numbers form an
interval. Among the decimals in the interval with the fewest digits, `shortest` gives the one
nearest to the number itself. The search tries one digit, two digits, up to seventeen, and looks
at the two neighbours of the number on that decimal grid, all in natural numbers.
-/

namespace FleetScaling.Decimal

/-- Which of two equally near neighbours a half is rounded to. -/
inductive Tie
  | toEven
  | up
  deriving DecidableEq, Repr

/-- The decimal `digits · 10 ^ exponent`. -/
structure DecimalFraction where
  digits : Nat
  exponent : Int
  deriving DecidableEq, Repr

/-- The interval of numbers that read back as `middle`, over a common denominator. -/
structure Rounding where
  low : Nat
  middle : Nat
  high : Nat
  denominator : Nat
  /-- Whether the two ends belong to the interval. -/
  closed : Bool
  deriving Repr

namespace Rounding

/-- The interval of a finite number. Below a power of two the gap is half as wide, except at the
bottom of the range. -/
def of (x : BinaryFraction) : Rounding :=
  let scale := twoPow x.exponent.toNat
  let below := if x.significand = twoPow 52 ∧ -1074 < x.exponent then 1 else 2
  { low := (4 * x.significand - below) * scale
    middle := 4 * x.significand * scale
    high := (4 * x.significand + 2) * scale
    denominator := 4 * x.denominator
    closed := x.significand % 2 = 0 }

/-- The interval in units of `10 ^ exponent`. -/
def inUnits (r : Rounding) (exponent : Int) : Rounding :=
  let up := tenPow (-exponent).toNat
  { r with
    low := r.low * up
    middle := r.middle * up
    high := r.high * up
    denominator := r.denominator * tenPow exponent.toNat }

/-- Whether the whole number `n` lies in the interval. -/
def holds (r : Rounding) (n : Nat) : Bool :=
  let value := n * r.denominator
  if r.closed then r.low ≤ value && value ≤ r.high else r.low < value && value < r.high

/-- The whole number in the interval that is nearest to the middle, among its two neighbours. -/
def nearest? (tie : Tie) (r : Rounding) : Option Nat :=
  let below := r.middle / r.denominator
  let rest := r.middle % r.denominator
  let upper : Bool :=
    2 * rest > r.denominator || 2 * rest = r.denominator && (tie = .up || below % 2 = 1)
  match r.holds below, r.holds (below + 1) with
  | true, true => some (if upper then below + 1 else below)
  | true, false => some below
  | false, true => some (below + 1)
  | false, false => none

/-- Whether the middle is below `10 ^ position`. -/
def isBelow (r : Rounding) (position : Int) : Bool :=
  r.middle * tenPow (-position).toNat < r.denominator * tenPow position.toNat

end Rounding

/-- How many digits the number has before its decimal point; not positive for numbers below one
tenth. The first guess comes from the number's binary logarithm and is at most two too low. -/
def BinaryFraction.position (x : BinaryFraction) : Int :=
  let r := Rounding.of x
  let guess := ((x.significand.log2 : Int) + x.exponent) * 30103 / 100000 - 1
  if r.isBelow guess then guess
  else if r.isBelow (guess + 1) then guess + 1
  else if r.isBelow (guess + 2) then guess + 2
  else guess + 3

/-- The shortest decimal that reads back as the positive number `x`. -/
def shortest (tie : Tie) (x : BinaryFraction) : DecimalFraction :=
  let r := Rounding.of x
  let position := x.position
  let candidate (count : Nat) : Option DecimalFraction :=
    let exponent := position - count
    ((r.inUnits exponent).nearest? tie).map fun digits => ⟨digits, exponent⟩
  ((List.range' 1 17).findSome? candidate).getD ⟨0, 0⟩

end FleetScaling.Decimal

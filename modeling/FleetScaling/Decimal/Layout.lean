import FleetScaling.Decimal.Shortest
import FleetScaling.Text.Digit

/-!
# Layouts of decimals

The shortest digits of a number are laid out either positionally or with an exponent. A `Layout`
says which; two layouts are in use, one for messages and one for numbers inside JSON messages.
-/

namespace FleetScaling.Decimal

open FleetScaling.Text

/-- How a floating-point number is written. -/
structure Layout where
  tie : Tie
  /-- Whether a number whose first digit counts `10 ^ exponent` is written positionally. -/
  positional : Int → Bool
  /-- What a whole number ends with. -/
  wholeEnd : String
  /-- How many digits an exponent has at least. -/
  exponentWidth : Nat

/-- Messages write every number positionally and whole numbers without a point. -/
def Layout.plain : Layout :=
  { tie := .up, positional := fun _ => true, wholeEnd := "", exponentWidth := 1 }

/-- Messages about JSON text keep a point in whole numbers and write very large and very small
numbers with an exponent. -/
def Layout.json : Layout :=
  { tie := .toEven, positional := fun e => -5 ≤ e && e ≤ 15, wholeEnd := ".0", exponentWidth := 2 }

/-- The digits of a number without trailing zeros, and the exponent that makes up for them. -/
def DecimalFraction.reduced (d : DecimalFraction) : List Char × Int :=
  let digits := (toString d.digits).toList
  let kept := (digits.reverse.dropWhile (· == '0')).reverse
  (kept, d.exponent + (digits.length - kept.length : Nat))

namespace Layout

/-- Digits written with the point after the first `whole` of them. -/
def placed (layout : Layout) (digits : List Char) (whole : Int) : String :=
  if whole ≤ 0 then
    "0." ++ "".pushn '0' (-whole).toNat ++ String.ofList digits
  else if (digits.length : Int) ≤ whole then
    String.ofList digits ++ "".pushn '0' (whole.toNat - digits.length) ++ layout.wholeEnd
  else
    String.ofList (digits.take whole.toNat) ++ "." ++ String.ofList (digits.drop whole.toNat)

/-- Digits written with a point after the first one and an exponent. -/
def scientific (layout : Layout) (digits : List Char) (exponent : Int) : String :=
  let fraction := digits.drop 1
  String.ofList (digits.take 1) ++
    (if fraction.isEmpty then "" else "." ++ String.ofList fraction) ++
    (if exponent < 0 then "e-" else "e+") ++ padded layout.exponentWidth exponent.natAbs

/-- A positive number. -/
def magnitude (layout : Layout) (x : BinaryFraction) : String :=
  let (digits, exponent) := (shortest layout.tie x).reduced
  let whole := exponent + digits.length
  if layout.positional (whole - 1) then layout.placed digits whole
  else layout.scientific digits (whole - 1)

/-- A floating-point number. -/
def write (layout : Layout) (x : Float) : String :=
  let sign := if isNegative x then "-" else ""
  match BinaryFraction.ofFloat? x with
  | some y => sign ++ (if y.significand = 0 then "0" ++ layout.wholeEnd else layout.magnitude y)
  | none => if x.isNaN then "NaN" else sign ++ "inf"

end Layout

end FleetScaling.Decimal

import FleetScaling.Decimal.Binary
import FleetScaling.Decimal.Word
import FleetScaling.Text.Digit

/-!
# Reading numbers

Readers for numbers in text. `readFloat?` takes decimals with an optional fraction and exponent
and the names of the special values, rounded to the nearest floating-point number; `readInt64?`
and the readers of natural numbers take ASCII digits with a sign in front.
-/

namespace FleetScaling.Decimal

open FleetScaling.Text

/-- The floating-point number nearest to `± digits · 10 ^ exponent`. Numbers outside the range are
told by how many digits they have before the point. -/
def nearestFloat (negative : Bool) (digits : Nat) (exponent : Int) : Float :=
  let position := (toString digits).length + exponent
  let magnitude :=
    if digits = 0 ∨ position < -400 then Float.ofNat 0
    else if 400 < position then Float.ofBits 0x7ff0000000000000
    else Float.ofScientific digits (exponent < 0) exponent.natAbs
  if negative then -magnitude else magnitude

/-- The sign in front of a number and what follows it. -/
def spanSign : List Char → Bool × List Char
  | '-' :: cs => (true, cs)
  | '+' :: cs => (false, cs)
  | cs => (false, cs)

/-- The exponent of a decimal; the whole text must be read. -/
def exponent? : List Char → Option Int
  | [] => some 0
  | e :: cs =>
    let (negative, cs) := spanSign cs
    if (e = 'e' ∨ e = 'E') ∧ cs ≠ [] ∧ cs.all Char.isDigit then
      let value : Int := digitsValue 0 cs
      some (if negative then -value else value)
    else none

/-- A decimal without a sign: digits with a point among or around them, then an exponent. -/
def decimal? (negative : Bool) (cs : List Char) : Option Float := do
  let (whole, cs) := spanDigits cs
  let (fraction, cs) := match cs with
    | '.' :: cs => spanDigits cs
    | cs => ([], cs)
  guard (whole ++ fraction ≠ [])
  let exponent ← exponent? cs
  some (nearestFloat negative (digitsValue 0 (whole ++ fraction)) (exponent - fraction.length))

/-- A floating-point number; the names of the special values are known in any case. -/
def readFloat? (cs : List Char) : Option Float :=
  let (negative, cs) := spanSign cs
  let name := cs.map Char.toLower
  if name = "nan".toList then some (Float.ofBits 0x7ff8000000000000)
  else if name = "inf".toList ∨ name = "infinity".toList then
    some (Float.ofBits (if negative then 0xfff0000000000000 else 0x7ff0000000000000))
  else decimal? negative cs

/-- A natural number in ASCII digits, at least one. -/
def digits? (cs : List Char) : Option Nat :=
  if cs ≠ [] ∧ cs.all Char.isDigit then some (digitsValue 0 cs) else none

/-- A natural number below `limit`, with an optional plus sign. -/
def natural? (limit : Nat) (cs : List Char) : Option Nat :=
  let cs := match cs with
    | '+' :: rest => rest
    | cs => cs
  (digits? cs).filter (· < limit)

/-- An integer of 64 bits, with an optional sign. -/
def readInt64? (cs : List Char) : Option Int64 := do
  let (negative, cs) := spanSign cs
  let magnitude ← digits? cs
  let value : Int := if negative then -magnitude else magnitude
  if fitsSigned 63 value then some (Int64.ofInt value) else none

end FleetScaling.Decimal

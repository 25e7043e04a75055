import FleetScaling.Decimal.Reading
import FleetScaling.Text.Digit
import FleetScaling.Text.Escaped

/-!
# YAML scalars

A scalar in quotes is a text. One without quotes is the first of these that it reads as: nothing, a
truth value, an integer, a floating-point number, a text.
Infinity and what is no number have names that are refused.
-/

namespace FleetScaling.Yaml

open FleetScaling.Text FleetScaling.Decimal

/-- A value without parts. -/
inductive Scalar
  | null
  | bool (b : Bool)
  | integer (n : Int)
  | float (x : Float)
  | text (s : String)

/-! ## Without quotes -/

/-- An integer of 64 bits in a base, with an optional sign. -/
def integerIn? (base : Nat) (cs : List Char) : Option Int := do
  let (negative, digits) := spanSign cs
  let magnitude ← if digits.isEmpty then none else digitsIn? base digits
  let n : Int := if negative then -magnitude else magnitude
  if fitsSigned 63 n then some n else none

/-- An integer: hexadecimal after `0x`, octal after `0o`, and else decimal. A plus sign may stand
before any decimal integer. -/
def integer? : List Char → Option Int
  | '0' :: 'x' :: digits => integerIn? 16 digits
  | '0' :: 'o' :: digits => integerIn? 8 digits
  | '+' :: digits => integerIn? 10 digits
  | digits => integerIn? 10 digits

/-- The names of numbers that are neither numbers nor texts here. -/
def refusedNumbers : List String :=
  [".inf", ".Inf", ".INF", "+.inf", "+.Inf", "+.INF", "-.inf", "-.Inf", "-.INF",
   ".nan", ".NaN", ".NAN"]

/-- What a scalar without quotes says. -/
def Scalar.ofPlain? (s : String) : Option Scalar :=
  if refusedNumbers.contains s then none
  else if s = "~" ∨ s = "null" then some .null
  else if s = "true" then some (.bool true)
  else if s = "false" then some (.bool false)
  else some <| match integer? s.toList, readFloat? s.toList with
    | some n, _ => .integer n
    | none, some x => .float x
    | none, none => .text s

/-! ## In quotes -/

/-- The character that an escape stands for, after the backslash. -/
def escape : List Char → Option (Char × List Char)
  | '0' :: rest => some ('\x00', rest)
  | 'a' :: rest => some ('\x07', rest)
  | 'b' :: rest => some ('\x08', rest)
  | 't' :: rest => some ('\t', rest)
  | '\t' :: rest => some ('\t', rest)
  | 'n' :: rest => some ('\n', rest)
  | 'v' :: rest => some ('\x0b', rest)
  | 'f' :: rest => some ('\x0c', rest)
  | 'r' :: rest => some ('\r', rest)
  | 'e' :: rest => some ('\x1b', rest)
  | ' ' :: rest => some (' ', rest)
  | '"' :: rest => some ('"', rest)
  | '/' :: rest => some ('/', rest)
  | '\\' :: rest => some ('\\', rest)
  | 'N' :: rest => some ('\u0085', rest)
  | '_' :: rest => some ('\u00a0', rest)
  | 'L' :: rest => some ('\u2028', rest)
  | 'P' :: rest => some ('\u2029', rest)
  | 'x' :: rest => codePoint? 2 rest
  | 'u' :: rest => codePoint? 4 rest
  | 'U' :: rest => codePoint? 8 rest
  | _ => none

/-- The inside of a text in single quotes, up to its end. Two of them stand for one. -/
def singleInside : List Char → Option (List Char × List Char)
  | '\'' :: '\'' :: rest => consChar '\'' (singleInside rest)
  | '\'' :: rest => some ([], rest)
  | c :: rest => consChar c (singleInside rest)
  | [] => none

end FleetScaling.Yaml

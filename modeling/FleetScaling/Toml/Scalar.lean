import FleetScaling.Decimal.Reading
import FleetScaling.Decimal.Word
import FleetScaling.Text.Digit
import FleetScaling.Text.Escaped

/-!
# TOML scalars

Strings, numbers, truth values and dates as TOML writes them. A reader takes a scalar from the
front of a text and gives what follows it; there is none if the text does not start with one. Dates
and times are kept as texts in their shortest form.
-/

namespace FleetScaling.Toml

open FleetScaling.Text FleetScaling.Decimal

/-- A value without parts. -/
inductive Scalar
  | text (s : String)
  | integer (n : Int)
  | float (x : Float)
  | bool (b : Bool)
  /-- A date, a time or both. -/
  | moment (s : String)

/-- Takes a value from the front of a text. -/
abbrev Reader (α : Type) := List Char → Option (α × List Char)

/-! ## Characters -/

/-- The text after a line break, if it starts with one. -/
def afterBreak? : List Char → Option (List Char)
  | '\n' :: rest => some rest
  | '\r' :: '\n' :: rest => some rest
  | _ => none

/-- The text without the blanks and line breaks in front. -/
def dropSpacesAndBreaks : List Char → List Char
  | ' ' :: rest => dropSpacesAndBreaks rest
  | '\t' :: rest => dropSpacesAndBreaks rest
  | '\n' :: rest => dropSpacesAndBreaks rest
  | '\r' :: '\n' :: rest => dropSpacesAndBreaks rest
  | rest => rest

/-- Whether a character may stand in a comment or, unless it has a meaning there, in a string. -/
def isPlain (c : Char) : Bool := c = '\t' || (0x20 ≤ c.toNat && c.toNat ≠ 0x7F)

/-! ## Strings -/

/-- The character that an escape stands for, after the backslash. -/
def escape : Reader Char
  | 'b' :: rest => some ('\x08', rest)
  | 't' :: rest => some ('\t', rest)
  | 'n' :: rest => some ('\n', rest)
  | 'f' :: rest => some ('\x0c', rest)
  | 'r' :: rest => some ('\r', rest)
  | '"' :: rest => some ('"', rest)
  | '\\' :: rest => some ('\\', rest)
  | 'u' :: rest => codePoint? 4 rest
  | 'U' :: rest => codePoint? 8 rest
  | _ => none

/-- The inside of a string in single quotes, up to its end. -/
def literalInside : Reader (List Char)
  | '\'' :: rest => some ([], rest)
  | c :: rest => if isPlain c then consChar c (literalInside rest) else none
  | [] => none

/-- The inside of a string of several lines. It ends with three quotes, of which two more may
belong to the string. In a string with escapes, a backslash at the end of a line takes away the
line break and all blanks after it. -/
def multiInside (quote : Char) (escapes : Bool) : (fuel : Nat) → Reader (List Char)
  | 0, _ => none
  | _ + 1, [] => none
  | fuel + 1, c :: rest =>
    if c = quote then
      let quotes := (c :: rest).takeWhile (· = quote)
      if 3 ≤ quotes.length then
        let own := min 2 (quotes.length - 3)
        some (List.replicate own quote, (c :: rest).drop (own + 3))
      else consChar c (multiInside quote escapes fuel rest)
    else if c = '\\' && escapes then
      match afterBreak? (dropSpaces rest) with
      | some after => multiInside quote escapes fuel (dropSpacesAndBreaks after)
      | none => do
        let (e, rest) ← escape rest
        consChar e (multiInside quote escapes fuel rest)
    else match afterBreak? (c :: rest) with
      | some after => consChar '\n' (multiInside quote escapes fuel after)
      | none => if isPlain c then consChar c (multiInside quote escapes fuel rest) else none

/-- A string of several lines, after its opening quotes. A line break right there does not count. -/
def multiText (quote : Char) (escapes : Bool) : Reader String := fun cs =>
  let cs := (afterBreak? cs).getD cs
  (multiInside quote escapes (cs.length + 1) cs).map fun (inside, rest) =>
    (String.ofList inside, rest)

/-- A string of one line. -/
def lineText : Reader String
  | '"' :: rest => (escapedInside escape isPlain (rest.length + 1) rest).map fun (inside, rest) =>
    (String.ofList inside, rest)
  | '\'' :: rest => (literalInside rest).map fun (inside, rest) => (String.ofList inside, rest)
  | _ => none

/-- A string. -/
def text : Reader String
  | '"' :: '"' :: '"' :: rest => multiText '"' true rest
  | '\'' :: '\'' :: '\'' :: rest => multiText '\'' false rest
  | cs => lineText cs

/-! ## Numbers -/

/-- The digits that follow a first one; an underscore may stand between two of them. -/
def moreDigits (p : Char → Bool) : Reader (List Char)
  | '_' :: c :: rest => if p c then consChar c (moreDigits p rest) else none
  | ['_'] => none
  | c :: rest => if p c then consChar c (moreDigits p rest) else some ([], c :: rest)
  | [] => some ([], [])

/-- At least one digit. -/
def someDigits (p : Char → Bool) : Reader (List Char)
  | c :: rest => if p c then consChar c (moreDigits p rest) else none
  | [] => none

/-- A decimal number without sign; a zero in front stands alone. -/
def wholeDigits : Reader (List Char)
  | '0' :: rest => some (['0'], rest)
  | cs => someDigits Char.isDigit cs

/-- An integer within 64 bits. -/
def bounded (n : Int) : Option Scalar :=
  if Decimal.fitsSigned 63 n then some (.integer n) else none

/-- An integer in another base than ten, after its mark. -/
def basedInteger (base : Nat) : Reader Scalar := fun cs => do
  let isDigitOf (c : Char) : Bool := (hexValue? c).any fun value => decide (value < base)
  let (digits, rest) ← someDigits isDigitOf cs
  let value ← digitsIn? base digits
  let n ← bounded value
  some (n, rest)

/-- A fraction, if there is one. -/
def fraction : Reader (List Char)
  | '.' :: rest => someDigits Char.isDigit rest
  | cs => some ([], cs)

/-- An exponent, if there is one. -/
def exponent : Reader (Option Int)
  | c :: rest =>
    if c = 'e' || c = 'E' then do
      let (negative, rest) := spanSign rest
      let (digits, rest) ← someDigits Char.isDigit rest
      let n := digitsValue 0 digits
      some (some (if negative then -n else n), rest)
    else some (none, c :: rest)
  | [] => some (none, [])

/-- A number whose sign was read. A number beyond the range of floats is none if it is positive. -/
def unsignedNumber (negative : Bool) : Reader Scalar
  | 'i' :: 'n' :: 'f' :: rest =>
    let infinity := Float.ofNat 1 / Float.ofNat 0
    some (.float (if negative then -infinity else infinity), rest)
  | 'n' :: 'a' :: 'n' :: rest => some (.float (Float.ofNat 0 / Float.ofNat 0), rest)
  | cs => do
    let (whole, afterWhole) ← wholeDigits cs
    let (places, afterPlaces) ← fraction afterWhole
    let (power, rest) ← exponent afterPlaces
    if places.isEmpty && power.isNone then
      let n : Int := digitsValue 0 whole
      let n ← bounded (if negative then -n else n)
      some (n, rest)
    else
      let x := nearestFloat negative (digitsValue (digitsValue 0 whole) places)
        (power.getD 0 - places.length)
      if x.isInf && !negative then none else some (.float x, rest)

/-- A number. -/
def number : Reader Scalar
  | '0' :: 'x' :: rest => basedInteger 16 rest
  | '0' :: 'o' :: rest => basedInteger 8 rest
  | '0' :: 'b' :: rest => basedInteger 2 rest
  | cs =>
    let (negative, rest) := spanSign cs
    unsignedNumber negative rest

/-! ## Dates and times -/

/-- A number of exactly `count` digits within bounds. -/
def fixedDigits (count low high : Nat) : Reader Nat := fun cs =>
  let digits := cs.take count
  let n := digitsValue 0 digits
  if digits.length = count ∧ digits.all Char.isDigit ∧ low ≤ n ∧ n ≤ high then
    some (n, cs.drop count)
  else none

/-- A character that must come next. -/
def expect (c : Char) : Reader Unit
  | d :: rest => if d = c then some ((), rest) else none
  | [] => none

/-- The days of a month. -/
def daysIn (year month : Nat) : Nat :=
  if month = 2 then (if year % 4 = 0 ∧ (year % 100 ≠ 0 ∨ year % 400 = 0) then 29 else 28)
  else if month = 4 ∨ month = 6 ∨ month = 9 ∨ month = 11 then 30
  else 31

/-- A date. -/
def date : Reader String := fun cs => do
  let (year, cs) ← fixedDigits 4 0 9999 cs
  let (_, cs) ← expect '-' cs
  let (month, cs) ← fixedDigits 2 1 12 cs
  let (_, cs) ← expect '-' cs
  let (day, cs) ← fixedDigits 2 1 (daysIn year month) cs
  some (padded 4 year ++ "-" ++ padded 2 month ++ "-" ++ padded 2 day, cs)

/-- A fraction of a second, cut off after nine digits and without zeros at its end. -/
def fractionText (digits : List Char) : String :=
  let kept := ((digits.take 9).reverse.dropWhile (· = '0')).reverse
  if kept.isEmpty then "" else "." ++ String.ofList kept

/-- A fraction of a second, if there is one. -/
def secondFraction : Reader String
  | '.' :: rest =>
    let (digits, rest) := spanDigits rest
    if digits.isEmpty then none else some (fractionText digits, rest)
  | cs => some ("", cs)

/-- A time of day. -/
def time : Reader String := fun cs => do
  let (hour, cs) ← fixedDigits 2 0 23 cs
  let (_, cs) ← expect ':' cs
  let (minute, cs) ← fixedDigits 2 0 59 cs
  let (_, cs) ← expect ':' cs
  let (second, cs) ← fixedDigits 2 0 60 cs
  let (fraction, cs) ← secondFraction cs
  some (padded 2 hour ++ ":" ++ padded 2 minute ++ ":" ++ padded 2 second ++ fraction, cs)

/-- A difference from universal time, if there is one. -/
def offset : Reader String
  | 'Z' :: rest => some ("Z", rest)
  | 'z' :: rest => some ("Z", rest)
  | c :: rest =>
    if c = '+' || c = '-' then do
      let (hours, cs) ← fixedDigits 2 0 23 rest
      let (_, cs) ← expect ':' cs
      let (minutes, cs) ← fixedDigits 2 0 59 cs
      let sign := if c = '-' ∧ 0 < hours + minutes then "-" else "+"
      some (sign ++ padded 2 hours ++ ":" ++ padded 2 minutes, cs)
    else some ("", c :: rest)
  | [] => some ("", [])

/-- A time after a date: `T` or a blank, the time, and an offset. -/
def timeOfDate : Reader String
  | c :: rest =>
    if c = 'T' || c = 't' || c = ' ' then do
      let (time, rest) ← time rest
      let (offset, rest) ← offset rest
      some ("T" ++ time ++ offset, rest)
    else none
  | [] => none

/-- A date, a time or both. -/
def moment : Reader Scalar := fun cs =>
  match date cs with
  | some (date, rest) =>
    match timeOfDate rest with
    | some (time, rest) => some (.moment (date ++ time), rest)
    | none => some (.moment date, rest)
  | none => (time cs).map fun (time, rest) => (.moment time, rest)

/-! ## Scalars -/

/-- A word that must come next. -/
def word (w : String) (value : Scalar) : Reader Scalar := fun cs =>
  if w.toList.isPrefixOf cs then some (value, cs.drop w.length) else none

/-- A scalar of any kind. -/
def scalar : Reader Scalar
  | [] => none
  | c :: rest =>
    let cs := c :: rest
    if c = '"' || c = '\'' then (text cs).map fun (s, rest) => (.text s, rest)
    else if c = 't' then word "true" (.bool true) cs
    else if c = 'f' then word "false" (.bool false) cs
    else (moment cs).orElse fun _ => number cs

end FleetScaling.Toml

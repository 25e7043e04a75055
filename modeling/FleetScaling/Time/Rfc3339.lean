import FleetScaling.Text.Blank
import FleetScaling.Time.Instant

/-!
# Reading instants

Instants are read in the form of RFC 3339, with some freedom: blanks may stand around the fields,
the date and the time may be separated by a `T` or a blank, and the year may have a sign and any
number of digits. The second 60 stands for a leap second of any minute.
-/

namespace FleetScaling.Time

open FleetScaling.Text

/-- Why a text is no instant. -/
inductive InstantError
  | invalid
  | tooShort
  | tooLong
  | outOfRange
  | impossible
  deriving DecidableEq, Repr

/-- The wording of a reading error. -/
def InstantError.message : InstantError → String
  | invalid => "input contains invalid characters"
  | tooShort => "premature end of input"
  | tooLong => "trailing input"
  | outOfRange => "input is out of range"
  | impossible => "no possible date and time matching input"

/-! Each reader below takes a part from the front of a text and gives it with what follows. -/

namespace Rfc3339

/-- At least one and at most `most` digits. -/
def digits (most : Option Nat) (cs : List Char) : Except InstantError (Nat × List Char) :=
  let run := match most with
    | some n => (cs.take n).takeWhile Char.isDigit
    | none => cs.takeWhile Char.isDigit
  match cs with
  | [] => .error .tooShort
  | _ =>
    if run.isEmpty then .error .invalid
    else if digitsValue 0 run ≤ Decimal.largest 63 then .ok (digitsValue 0 run, cs.drop run.length)
    else .error .outOfRange

/-- A field of one or two digits after blanks, within bounds. -/
def field (low high : Nat) (cs : List Char) : Except InstantError (Nat × List Char) := do
  let (value, rest) ← digits (some 2) (dropBlanks cs)
  if low ≤ value ∧ value ≤ high then .ok (value, rest) else .error .outOfRange

/-- The year, after blanks. -/
def year (cs : List Char) : Except InstantError (Int × List Char) := do
  let (value, rest) ← match dropBlanks cs with
    | '-' :: cs => (digits none cs).map fun (n, rest) => (-(n : Int), rest)
    | '+' :: cs => (digits none cs).map fun (n, rest) => ((n : Int), rest)
    | cs => (digits (some 4) cs).map fun (n, rest) => ((n : Int), rest)
  if Decimal.fitsSigned 31 value then .ok (value, rest) else .error .outOfRange

/-- A separator after blanks. -/
def separator (c : Char) (cs : List Char) : Except InstantError (List Char) :=
  match dropBlanks cs with
  | [] => .error .tooShort
  | first :: rest => if first = c then .ok rest else .error .invalid

/-- The nanoseconds of a fraction; digits after the ninth have no weight. -/
def fraction (cs : List Char) : Except InstantError (Nat × List Char) :=
  match cs with
  | '.' :: cs => do
    let (value, rest) ← digits (some 9) cs
    .ok (value * Decimal.tenPow (9 - (cs.length - rest.length)), rest.dropWhile Char.isDigit)
  | cs => .ok (0, cs)

/-- Two digits of an offset; `tooShort` when fewer than two bytes are left. -/
def offsetDigits (cs : List Char) : Except InstantError (Char × Char) :=
  if byteSize (cs.take 2) < 2 then .error .tooShort
  else match cs with
    | a :: b :: _ => .ok (a, b)
    | _ => .error .invalid

/-- The seconds by which local time is ahead of universal time. -/
def offset (cs : List Char) : Except InstantError (Int × List Char) :=
  let number (a b : Char) : Int := 10 * digitValue a + digitValue b
  let signed (negative : Bool) (cs : List Char) : Except InstantError (Int × List Char) := do
    let (h₁, h₂) ← offsetDigits cs
    if !h₁.isDigit || !h₂.isDigit then .error .invalid
    else
      let cs := (cs.drop 2).dropWhile fun c => c == ':' || isBlank c
      let (m₁, m₂) ← offsetDigits cs
      if !m₁.isDigit || !m₂.isDigit then .error .invalid
      else if '6' ≤ m₁ then .error .outOfRange
      else
        let seconds := 3600 * number h₁ h₂ + 60 * number m₁ m₂
        .ok (if negative then -seconds else seconds, cs.drop 2)
  match cs with
  | u :: t :: c :: rest =>
    if [u, t, c].map Char.toLower = ['u', 't', 'c'] then .ok (0, rest)
    else if u = 'Z' ∨ u = 'z' then .ok (0, t :: c :: rest)
    else if u = '+' then signed false (t :: c :: rest)
    else if u = '-' ∨ u = '−' then signed true (t :: c :: rest)
    else .error .invalid
  | 'Z' :: rest => .ok (0, rest)
  | 'z' :: rest => .ok (0, rest)
  | '+' :: rest => signed false rest
  | '-' :: rest => signed true rest
  | '−' :: rest => signed true rest
  | _ :: _ => .error .invalid
  | [] => .error .tooShort

/-- The instant of local fields: the date and the time must exist, and so must the offset. -/
def assembled (date : Date) (hour minute second nanos : Nat) (offset : Int) :
    Except InstantError Instant :=
  if ¬ (date.Exists ∧ -262143 ≤ date.year ∧ date.year ≤ 262142) then .error .outOfRange
  else if 86400 ≤ offset.natAbs then .error .outOfRange
  else
    let isLeap := second = 60
    let seconds : Int := 86400 * date.toDays + 3600 * hour + 60 * minute +
      (if isLeap then 59 else second : Nat)
    match Instant.of? (seconds - offset) (nanos + if isLeap then billion else 0) with
    | some t => .ok t
    | none => .error .impossible

end Rfc3339

open Rfc3339 in
/-- The instant that a text stands for. -/
def Instant.read (text : String) : Except InstantError Instant := do
  let (year, cs) ← Rfc3339.year text.toList
  let cs ← separator '-' cs
  let (month, cs) ← field 1 12 cs
  let cs ← separator '-' cs
  let (day, cs) ← field 1 31 cs
  let cs ← match cs with
    | [] => .error .tooShort
    | c :: rest => if c = 't' ∨ c = 'T' ∨ c = ' ' then .ok rest else .error .invalid
  let (hour, cs) ← field 0 23 cs
  let cs ← separator ':' cs
  let (minute, cs) ← field 0 59 cs
  let cs ← separator ':' cs
  let (second, cs) ← field 0 60 cs
  let (nanos, cs) ← fraction cs
  let (offset, cs) ← offset (dropBlanks cs)
  if (dropBlanks cs).isEmpty then assembled ⟨year, month, day⟩ hour minute second nanos offset
  else .error .tooLong

end FleetScaling.Time

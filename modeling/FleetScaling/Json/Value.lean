import FleetScaling.Text.Digit

/-!
# Written JSON

The values that are written as JSON: their numbers are all integers. A value has a compact form
without blanks and a form on several lines, indented by two spaces for each open container.
-/

namespace FleetScaling.Json

open FleetScaling.Text

/-- A value to be written. -/
inductive Value
  | null
  | bool (b : Bool)
  | integer (n : Int)
  | text (s : String)
  | list (items : List Value)
  | object (members : List (String × Value))

/-- One character inside a string: quotes, backslashes and controls are escaped. -/
def escapedChar (c : Char) : String :=
  match c with
  | '"' => "\\\""
  | '\\' => "\\\\"
  | '\x08' => "\\b"
  | '\x0c' => "\\f"
  | '\n' => "\\n"
  | '\r' => "\\r"
  | '\t' => "\\t"
  | c =>
    if c.toNat < 0x20 then
      let digits := hexDigits c.toNat
      "\\u" ++ "".pushn '0' (4 - digits.length) ++ digits
    else c.toString

/-- A string between double quotes. -/
def writtenText (s : String) : String :=
  "\"" ++ String.join (s.toList.map escapedChar) ++ "\""

namespace Value

mutual

/-- The value without blanks. -/
def compact : Value → String
  | .list items => "[" ++ compactItems items ++ "]"
  | .object members => "\x7b" ++ compactMembers members ++ "\x7d"
  | .null => "null"
  | .bool b => if b then "true" else "false"
  | .integer n => toString n
  | .text s => writtenText s

/-- Items with commas between them. -/
def compactItems : List Value → String
  | [] => ""
  | [item] => item.compact
  | item :: items => item.compact ++ "," ++ compactItems items

/-- Members with commas between them. -/
def compactMembers : List (String × Value) → String
  | [] => ""
  | [(key, value)] => writtenText key ++ ":" ++ value.compact
  | (key, value) :: members =>
    writtenText key ++ ":" ++ value.compact ++ "," ++ compactMembers members

end

/-- A line feed and the blanks in front of what follows. -/
def newLine (indent : Nat) : String := "\n" ++ "".pushn ' ' (2 * indent)

mutual

/-- The value on several lines, inside `indent` containers; empty containers stay on one line. -/
def pretty (indent : Nat) : Value → String
  | .list [] => "[]"
  | .list (item :: items) =>
    "[" ++ newLine (indent + 1) ++ item.pretty (indent + 1) ++ prettyItems (indent + 1) items ++
      newLine indent ++ "]"
  | .object [] => "\x7b\x7d"
  | .object ((key, value) :: members) =>
    "\x7b" ++ newLine (indent + 1) ++ writtenText key ++ ": " ++ value.pretty (indent + 1) ++
      prettyMembers (indent + 1) members ++ newLine indent ++ "\x7d"
  | .null => "null"
  | .bool b => if b then "true" else "false"
  | .integer n => toString n
  | .text s => writtenText s

/-- The items after the first, each after a comma and on a line of its own. -/
def prettyItems (indent : Nat) : List Value → String
  | [] => ""
  | item :: items => "," ++ newLine indent ++ item.pretty indent ++ prettyItems indent items

/-- The members after the first, each after a comma and on a line of its own. -/
def prettyMembers (indent : Nat) : List (String × Value) → String
  | [] => ""
  | (key, value) :: members =>
    "," ++ newLine indent ++ writtenText key ++ ": " ++ value.pretty indent ++
      prettyMembers indent members

end

/-- A member that is left out when there is no value. -/
def optionalMember (key : String) (value : Option α) (write : α → Value) :
    List (String × Value) :=
  match value with
  | none => []
  | some v => [(key, write v)]

end Value

end FleetScaling.Json

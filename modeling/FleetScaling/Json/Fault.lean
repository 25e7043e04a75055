/-!
# Faults in JSON text

A `Fault` is a place where a text stops being JSON, or stops being readable although it is JSON:
a number beyond the range, an escape without a character, containers nested too deeply. A value
that is read, a value that is only passed over and a name may meet different faults at the same
place, so a place is described by `Faults`, one for each.
-/

namespace FleetScaling.Json

/-- Why reading stops. -/
inductive Fault
  | endInValue
  | endInList
  | endInObject
  | endInText
  | expectedValue
  | expectedWord
  | expectedColon
  | expectedListSeparator
  | expectedObjectSeparator
  | keyNotText
  | trailingComma
  | trailingCharacters
  | invalidEscape
  | loneSurrogate
  | unfinishedSurrogate
  | undecodable
  | controlCharacter
  | invalidNumber
  | numberOutOfRange
  | tooDeep
  deriving DecidableEq, Repr

/-- The wording of a fault. -/
def Fault.message : Fault → String
  | endInValue => "EOF while parsing a value"
  | endInList => "EOF while parsing a list"
  | endInObject => "EOF while parsing an object"
  | endInText => "EOF while parsing a string"
  | expectedValue => "expected value"
  | expectedWord => "expected ident"
  | expectedColon => "expected `:`"
  | expectedListSeparator => "expected `,` or `]`"
  | expectedObjectSeparator => "expected `,` or `\x7d`"
  | keyNotText => "key must be a string"
  | trailingComma => "trailing comma"
  | trailingCharacters => "trailing characters"
  | invalidEscape => "invalid escape"
  | loneSurrogate => "lone leading surrogate in hex escape"
  | unfinishedSurrogate => "unexpected end of hex escape"
  | undecodable => "invalid unicode code point"
  | controlCharacter => "control character (\\u0000-\\u001F) found while parsing a string"
  | invalidNumber => "invalid number"
  | numberOutOfRange => "number out of range"
  | tooDeep => "recursion limit exceeded"

/-- What stops a reader at a place, one that only passes over it, and one that expects a name. -/
structure Faults where
  read : Fault
  skip : Fault
  name : Fault
  deriving DecidableEq, Repr

/-- A fault that stops everyone. -/
def Faults.all (fault : Fault) : Faults := ⟨fault, fault, fault⟩

/-- The faults of a place that cannot be the start of a name. -/
def Faults.ofValue (read skip : Fault) : Faults := ⟨read, skip, .expectedValue⟩

end FleetScaling.Json

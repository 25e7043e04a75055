import FleetScaling.Decimal.Layout
import FleetScaling.Json.Document
import FleetScaling.Text.Quoted

/-!
# Decoders

A decoder turns a document into a value of a type, or says why it cannot. It meets the parts of
the document in the order of the text and stops at the first fault or mismatch. Containers may be
nested only so deep; passing over an unknown member has no such limit.
-/

namespace FleetScaling.Json

open FleetScaling.Text FleetScaling.Decimal

/-- Why a document is no value of the expected type. -/
inductive DecodeError
  | fault (fault : Fault)
  | wrongType (found : Found) (expected : String)
  | wrongValue (found : Found) (expected : String)
  | wrongLength (length : Nat) (expected : String)
  | missingField (name : String)
  | duplicateField (name : String)
  | unknownVariant (name : String) (known : List String)
  | noVariant (name : String)
  | rejected (message : String)

/-- What was met, as messages name it. -/
def Found.message : Found → String
  | null => "null"
  | bool b => "boolean `" ++ (if b then "true" else "false") ++ "`"
  | number (.natural n) => "integer `" ++ toString n ++ "`"
  | number (.negative n) => "integer `" ++ toString n ++ "`"
  | number (.float x) => "floating point `" ++ Layout.json.write x ++ "`"
  | text s => "string " ++ quoted s
  | list => "sequence"
  | object => "map"

/-- A list of names as alternatives. -/
def alternatives : List String → String
  | [] => "there are no variants"
  | [a] => "expected `" ++ a ++ "`"
  | [a, b] => "expected `" ++ a ++ "` or `" ++ b ++ "`"
  | names => "expected one of " ++ joined ", " (names.map fun name => "`" ++ name ++ "`")

/-- The wording of a decoding error. -/
def DecodeError.message : DecodeError → String
  | fault f => f.message
  | wrongType found expected => "invalid type: " ++ found.message ++ ", expected " ++ expected
  | wrongValue found expected => "invalid value: " ++ found.message ++ ", expected " ++ expected
  | wrongLength n expected => "invalid length " ++ toString n ++ ", expected " ++ expected
  | missingField name => "missing field `" ++ name ++ "`"
  | duplicateField name => "duplicate field `" ++ name ++ "`"
  | unknownVariant name known => "unknown variant `" ++ name ++ "`, " ++ alternatives known
  | noVariant name => "data did not match any variant of untagged enum " ++ name
  | rejected message => message

/-- Decodes a document that may nest `depth` containers less one. -/
abbrev Decoder (α : Type) := (depth : Nat) → Document → Except DecodeError α

/-- How deep containers may nest at the top of a text, plus one. -/
def depthLimit : Nat := 128

/-- The value that a whole text stands for. -/
def decodeTokens (decoder : Decoder α) (read : Document × List Token) : Except DecodeError α := do
  let value ← decoder depthLimit read.1
  if read.2.isEmpty then .ok value else .error (.fault .trailingCharacters)

/-- The value that a whole text stands for. -/
def decode (decoder : Decoder α) (text : String) : Except DecodeError α :=
  decodeTokens decoder (Document.ofText text)

namespace Document

/-- What a document is at its top, unless it cannot be read. -/
def found : Document → Except Fault Found
  | null => .ok .null
  | bool b => .ok (.bool b)
  | number value => value.map .number
  | text value => value.map .text
  | list _ _ => .ok .list
  | object _ _ => .ok .object
  | broken faults => .error faults.read

/-- The error of a document that is not what was expected. -/
def mismatch (document : Document) (expected : String) : DecodeError :=
  match document.found with
  | .ok found => .wrongType found expected
  | .error fault => .fault fault

end Document

/-- Decodes the inside of a container, one level deeper. -/
def nested (depth : Nat) (inside : Nat → Except DecodeError α) : Except DecodeError α :=
  if depth ≤ 1 then .error (.fault .tooDeep) else inside (depth - 1)

/-- Stops at a fault if there is one. -/
def unlessFault : Option Fault → Except DecodeError Unit
  | none => .ok ()
  | some fault => .error (.fault fault)

/-- The value of a string or number, which may be without one. -/
def valueOf (value : Except Fault α) : Except DecodeError α :=
  value.mapError .fault

namespace Decoder

/-! ## Scalars -/

/-- A string; `expected` is what messages call it. -/
def text (expected : String) : Decoder String := fun _ document =>
  match document with
  | .text value => valueOf value
  | _ => .error (document.mismatch expected)

/-- A truth value. -/
def bool : Decoder Bool := fun _ document =>
  match document with
  | .bool b => .ok b
  | _ => .error (document.mismatch "a boolean")

/-- An integer within bounds; `expected` is what messages call it. -/
def integer (low high : Int) (expected : String) : Decoder Int := fun _ document =>
  let bounded (n : Int) (number : Number) : Except DecodeError Int :=
    if low ≤ n ∧ n ≤ high then .ok n else .error (.wrongValue (.number number) expected)
  match document with
  | .number (.ok (.natural n)) => bounded n (.natural n)
  | .number (.ok (.negative n)) => bounded n (.negative n)
  | _ => .error (document.mismatch expected)

/-- A count of 32 bits. -/
def count : Decoder UInt32 := fun depth document =>
  (integer 0 (Decimal.largest 32) "u32" depth document).map fun n => UInt32.ofNat n.toNat

/-- A whole number of seconds or of anything else, with a sign, of 64 bits. -/
def int64 : Decoder Int64 := fun depth document =>
  (integer (-(Decimal.twoPow 63 : Int)) (Decimal.largest 63) "i64" depth document).map Int64.ofInt

/-- A length of 64 bits. -/
def size : Decoder UInt64 := fun depth document =>
  (integer 0 (Decimal.largest 64) "usize" depth document).map fun n => UInt64.ofNat n.toNat

/-- The outcome of a check on a decoded value. -/
def andThen (decoder : Decoder α) (check : α → Except DecodeError β) : Decoder β :=
  fun depth document => do check (← decoder depth document)

/-! ## Containers -/

/-- A value that may be null. -/
def optional (decoder : Decoder α) : Decoder (Option α) := fun depth document =>
  match document with
  | .null => .ok none
  | _ => (decoder depth document).map some

/-- A list of any length. -/
def list (decoder : Decoder α) : Decoder (List α) := fun depth document =>
  match document with
  | .list items ending => nested depth fun depth => do
    let values ← items.mapM (decoder depth)
    unlessFault ending.listFault
    .ok values
  | _ => .error (document.mismatch "a sequence")

/-- The members of an object, with any keys, in order. -/
def members (decoder : Decoder α) : Decoder (List (String × α)) := fun depth document =>
  match document with
  | .object members ending => nested depth fun depth => do
    let values ← members.mapM fun (key, value) => do
      let key ← valueOf key
      let value ← decoder depth value
      .ok (key, value)
    unlessFault ending.objectFault
    .ok values
  | _ => .error (document.mismatch "a map")

/-! ## Names -/

/-- One of several names; `expected` is what messages call it when it is none. A name may also be
the only key of an object whose value is null. -/
def variant (known : List (String × α)) : Decoder α := fun depth document =>
  let named (name : String) : Except DecodeError α :=
    match known.lookup name with
    | some value => .ok value
    | none => .error (.unknownVariant name (known.map (·.1)))
  match document with
  | .text value => do named (← valueOf value)
  | .object members ending => nested depth fun _ =>
    match members with
    | (key, value) :: rest => do
      let variant ← named (← valueOf key)
      match value with
      | .null => match rest, ending with
        | [], .closed => .ok variant
        | [], .endOfText => .error (.fault .endInObject)
        | _, _ => .error (.fault .expectedValue)
      | _ => .error (value.mismatch "unit")
    | [] => match ending with
      | .endOfText => .error (.fault .endInValue)
      | .strayKey (.ok found) => .error (.wrongType found "variant identifier")
      | .strayKey (.error fault) => .error (.fault fault)
      | .brokenKey faults => .error (.fault faults.read)
      | _ => .error (.fault .expectedValue)
  | .broken faults => .error (.fault faults.name)
  | _ => .error (.fault .expectedValue)

end Decoder

/-! ## Values that are read before they are judged -/

mutual

/-- The fault that stops whoever reads a document whatever it holds. -/
def Document.readFault (depth : Nat) : Document → Option Fault
  | .list items ending =>
    if depth ≤ 1 then some .tooDeep else readItems (depth - 1) items ending.listFault
  | .object members ending =>
    if depth ≤ 1 then some .tooDeep else readMembers (depth - 1) members ending.objectFault
  | .broken faults => some faults.read
  | .number (.error fault) => some fault
  | .text (.error fault) => some fault
  | .null | .bool _ | .number (.ok _) | .text (.ok _) => none

/-- The first fault among items, or the one after them. -/
def readItems (depth : Nat) : List Document → Option Fault → Option Fault
  | [], last => last
  | item :: items, last => match item.readFault depth with
    | some fault => some fault
    | none => readItems depth items last

/-- The first fault among members, or the one after them. -/
def readMembers (depth : Nat) :
    List (Except Fault String × Document) → Option Fault → Option Fault
  | [], last => last
  | (.error fault, _) :: _, _ => some fault
  | (.ok _, value) :: members, last => match value.readFault depth with
    | some fault => some fault
    | none => readMembers depth members last

end

/-- A value that is read in full and then judged by what it is. -/
def Decoder.untagged (name : String) (judge : Document → Option α) : Decoder α :=
  fun depth document => do
    unlessFault (document.readFault depth)
    match judge document with
    | some value => .ok value
    | none => .error (.noVariant name)

end FleetScaling.Json

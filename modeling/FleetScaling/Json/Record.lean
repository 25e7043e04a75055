import FleetScaling.Json.Decoder

/-!
# Records

A record is decoded from an object, by the names of its fields, or from a list, by their order.
Unknown members are passed over. A `Record α` knows the fields it needs and how to build a value
from them; records are put together field by field with `<$>` and `<*>`.
-/

namespace FleetScaling.Json

/-- How values of a type are built from fields. -/
structure Record (α : Type) where
  /-- The names of the fields with decoders that only check. -/
  fields : List (String × Decoder Unit)
  /-- The value, given the documents of the fields that an object has. -/
  ofMembers : (depth : Nat) → (String → Option Document) → Except DecodeError α
  /-- The value, given the items of a list from the `index`-th on, and the items left. -/
  ofItems : (depth : Nat) → (expected : String) → (index : Nat) → Ending → List Document →
    Except DecodeError (α × List Document)

namespace Record

/-- The record without fields. -/
protected def pure (value : α) : Record α where
  fields := []
  ofMembers _ _ := .ok value
  ofItems _ _ _ _ items := .ok (value, items)

/-- The fields of one record and then those of another. -/
protected def seq (f : Record (α → β)) (x : Unit → Record α) : Record β where
  fields := f.fields ++ (x ()).fields
  ofMembers depth find := do
    let g ← f.ofMembers depth find
    let a ← (x ()).ofMembers depth find
    .ok (g a)
  ofItems depth expected index ending items := do
    let (g, items) ← f.ofItems depth expected index ending items
    let (a, items) ← (x ()).ofItems depth expected (index + f.fields.length) ending items
    .ok (g a, items)

instance : Applicative Record where
  pure := Record.pure
  seq := Record.seq

/-- One field. `absent` stands for it in an object without it, `omitted` in a shorter list. -/
def fieldOr (name : String) (decoder : Decoder α) (absent omitted : Option α) : Record α where
  fields := [(name, fun depth document => (decoder depth document).map fun _ => ())]
  ofMembers depth find := match find name with
    | some document => decoder depth document
    | none => match absent with
      | some value => .ok value
      | none => .error (.missingField name)
  ofItems depth expected index ending items := match items with
    | item :: items => do
      let value ← decoder depth item
      .ok (value, items)
    | [] => do
      unlessFault ending.listFault
      match omitted with
      | some value => .ok (value, [])
      | none => .error (.wrongLength index expected)

/-- A field that must be there. -/
def field (name : String) (decoder : Decoder α) : Record α := fieldOr name decoder none none

/-- A field that an object may lack or have as null. -/
def optionalField (name : String) (decoder : Decoder α) : Record (Option α) :=
  fieldOr name decoder.optional (some none) none

/-- Checks the members of an object in order: known fields at most once and well formed. -/
def checkMembers (fields : List (String × Decoder Unit)) (depth : Nat) (last : Option Fault) :
    (seen : List String) → Members → Except DecodeError Unit
  | _, [] => unlessFault last
  | seen, (key, value) :: rest => do
    let name ← valueOf key
    match fields.lookup name with
    | none =>
      unlessFault value.skipFault
      checkMembers fields depth last seen rest
    | some check =>
      if seen.contains name then .error (.duplicateField name)
      else
        check depth value
        checkMembers fields depth last (name :: seen) rest

/-- The document of a member. -/
def member? (members : Members) (name : String) : Option Document :=
  match members with
  | [] => none
  | (.ok key, value) :: rest => if key = name then some value else member? rest name
  | (.error _, _) :: rest => member? rest name

/-- Decodes a record that messages call `struct name`. -/
def decoder (name : String) (record : Record α) : Decoder α := fun depth document =>
  match document with
  | .object members ending => nested depth fun depth => do
    checkMembers record.fields depth ending.objectFault [] members
    record.ofMembers depth (member? members)
  | .list items ending => nested depth fun depth => do
    let size := record.fields.length
    let expected := "struct " ++ name ++ " with " ++ toString size ++
      (if size = 1 then " element" else " elements")
    let (value, rest) ← record.ofItems depth expected 0 ending items
    if rest.isEmpty then unlessFault ending.fixedListFault
    else .error (.fault .trailingCharacters)
    .ok value
  | _ => .error (document.mismatch ("struct " ++ name))

end Record

end FleetScaling.Json

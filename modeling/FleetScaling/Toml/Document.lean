import FleetScaling.Toml.Tree

/-!
# TOML documents

A document is a list of statements, each on lines of its own: a key with a value, or a header that
opens a table. `Document.read?` gives the root table, if the whole text is a document.
-/

namespace FleetScaling.Toml

open FleetScaling.Text

/-! ## Ends of lines -/

/-- The text after a comment, if it starts with one. -/
def dropComment : List Char → List Char
  | '#' :: rest => rest.dropWhile isPlain
  | cs => cs

/-- The text after the rest of a line: blanks, a comment and the line break, or the end. -/
def afterLine? (cs : List Char) : Option (List Char) :=
  match dropComment (dropSpaces cs) with
  | [] => some []
  | rest => afterBreak? rest

/-- The text without blanks, comments and line breaks in front; `fuel` bounds the lines. -/
def dropFiller : (fuel : Nat) → List Char → List Char
  | 0, cs => cs
  | fuel + 1, cs =>
    let rest := dropComment (dropSpaces cs)
    match afterBreak? rest with
    | some after => dropFiller fuel after
    | none => rest

/-- The text without blanks, comments and line breaks in front. -/
def afterFiller (cs : List Char) : List Char := dropFiller cs.length cs

/-! ## Keys -/

/-- Whether a character may stand in a key without quotes. -/
def isKeyChar (c : Char) : Bool := c.isAlphanum || c = '_' || c = '-'

/-- One part of a key. -/
def keyPart : Reader String := fun cs =>
  match cs.head? with
  | some '"' => lineText cs
  | some '\'' => lineText cs
  | _ =>
    let part := cs.takeWhile isKeyChar
    if part.isEmpty then none else some (String.ofList part, cs.dropWhile isKeyChar)

/-- The parts of a dotted key, with blanks around them; `fuel` bounds their number. -/
def keyParts : (fuel : Nat) → Reader (List String)
  | 0, _ => none
  | fuel + 1, cs => do
    let (part, rest) ← keyPart (dropSpaces cs)
    match dropSpaces rest with
    | '.' :: rest => do
      let (parts, rest) ← keyParts fuel rest
      some (part :: parts, rest)
    | rest => some ([part], rest)

/-- How many parts a key may have, and how deep values may nest. -/
def depthLimit : Nat := 80

/-- A dotted key: the parts before the last, and the last. -/
def dottedKey : Reader (List String × String) := fun cs => do
  let (parts, rest) ← keyParts (depthLimit - 1) cs
  let key ← parts.getLast?
  some ((parts.dropLast, key), rest)

/-! ## Values -/

mutual

/-- A value in `depth` containers at most; `fuel` bounds the length of its text. -/
def value : (fuel depth : Nat) → Reader Node
  | 0, _, _ => none
  | _ + 1, 0, '[' :: _ => none
  | _ + 1, 0, '\x7b' :: _ => none
  | fuel + 1, depth + 1, '[' :: rest => do
    let (items, rest) ← items fuel depth rest
    some (.array items, rest)
  | fuel + 1, depth + 1, '\x7b' :: rest =>
    match dropSpaces rest with
    | '\x7d' :: rest => some (.table .inline [], rest)
    | rest => do
      let (members, rest) ← members fuel depth [] rest
      some (.table .inline members, rest)
  | _ + 1, _, cs => (scalar cs).map fun (s, rest) => (.scalar s, rest)

/-- The items of an array up to its end. -/
def items : (fuel depth : Nat) → Reader (List Node)
  | 0, _, _ => none
  | fuel + 1, depth, cs =>
    match afterFiller cs with
    | ']' :: rest => some ([], rest)
    | cs => do
      let (item, rest) ← value fuel depth cs
      match afterFiller rest with
      | ',' :: rest => do
        let (more, rest) ← items fuel depth rest
        some (item :: more, rest)
      | ']' :: rest => some ([item], rest)
      | _ => none

/-- The members of an inline table up to its end, after those that were read. -/
def members : (fuel depth : Nat) → Members → Reader Members
  | 0, _, _, _ => none
  | fuel + 1, depth, before, cs => do
    let ((path, key), rest) ← dottedKey cs
    match rest with
    | '=' :: rest => do
      let (node, rest) ← value fuel depth (dropSpaces rest)
      let after ← before.add path key node
      match dropSpaces rest with
      | ',' :: rest => members fuel depth after rest
      | '\x7d' :: rest => some (after, rest)
      | _ => none
    | _ => none

end

/-! ## Statements -/

/-- What was read so far: the root table, and the header of the table that is being filled. -/
structure Draft where
  root : Members
  header : List String

/-- A key with its value, in the table that is being filled. -/
def assignment (draft : Draft) (cs : List Char) : Option (Draft × List Char) := do
  let ((path, key), rest) ← dottedKey cs
  let (_, rest) ← expect '=' rest
  let (node, rest) ← value (cs.length + 1) depthLimit (dropSpaces rest)
  let root ← draft.root.addWithin draft.header path key node
  some ({ draft with root }, rest)

/-- One statement without the end of its line. -/
def statement (draft : Draft) : List Char → Option (Draft × List Char)
  | '[' :: '[' :: cs => do
    let ((above, key), rest) ← dottedKey cs
    let (_, rest) ← expect ']' rest
    let (_, rest) ← expect ']' rest
    let root ← draft.root.openElement above key
    some (⟨root, above ++ [key]⟩, rest)
  | '[' :: cs => do
    let ((above, key), rest) ← dottedKey cs
    let (_, rest) ← expect ']' rest
    let root ← draft.root.openTable above key
    some (⟨root, above ++ [key]⟩, rest)
  | cs => assignment draft cs

/-- All statements; `fuel` bounds their number. -/
def statements : (fuel : Nat) → Draft → List Char → Option Draft
  | 0, _, _ => none
  | fuel + 1, draft, cs =>
    match afterFiller cs with
    | [] => some draft
    | cs => do
      let (draft, rest) ← statement draft cs
      let rest ← afterLine? rest
      statements fuel draft rest

/-- The text without a byte order mark. -/
def withoutMark : List Char → List Char
  | '\uFEFF' :: rest => rest
  | cs => cs

/-- The root table of a document, if the text is one. -/
def read? (text : String) : Option Members :=
  let cs := withoutMark text.toList
  (statements (cs.length + 1) ⟨[], []⟩ cs).map Draft.root

end FleetScaling.Toml

import FleetScaling.Json.Token

/-!
# Documents

A document is what a JSON text holds as far as it can be read: the first place that is no JSON
becomes a `broken` leaf, and the containers around it end there. Whoever decodes a document meets
its faults in the order of the text, together with the values of a wrong type, so a text with two
faults is refused for the first one.

`Document.ofText` builds the document with the open containers on a stack, by recursion on the
tokens.
-/

namespace FleetScaling.Json

/-- What was met where something else was expected. -/
inductive Found
  | null
  | bool (b : Bool)
  | number (n : Number)
  | text (s : String)
  | list
  | object
  deriving DecidableEq

/-- How the last item of a container is followed. -/
inductive Ending
  | closed
  /-- The text ends where an item or a separator may stand. -/
  | endOfText
  /-- Something else stands where a separator must. -/
  | noSeparator
  | commaThenClose
  | commaThenEnd
  /-- Something else than a string stands where a key must. -/
  | strayKey (found : Except Fault Found)
  /-- A key is a malformed string. -/
  | brokenKey (faults : Faults)

/-- A JSON text as far as it can be read. -/
inductive Document
  | null
  | bool (b : Bool)
  | number (value : Except Fault Number)
  | text (value : Except Fault String)
  | list (items : List Document) (ending : Ending)
  | object (members : List (Except Fault String × Document)) (ending : Ending)
  | broken (faults : Faults)

/-- The members of an object, in order; a key may be a string without a value. -/
abbrev Members := List (Except Fault String × Document)

/-! ## Building -/

/-- A container that is still open, its items latest first. -/
inductive Open
  | list (items : List Document)
  /-- An object whose next value belongs to `key`. -/
  | member (members : Members) (key : Except Fault String)

/-- The open container, ended, with one more document in it. -/
def Open.ended (document : Document) (ending : Ending) : Open → Document
  | list items => .list (document :: items).reverse ending
  | member members key => .object ((key, document) :: members).reverse ending

/-- The document when its text is given up inside the open containers. -/
def cutShort (stack : List Open) (document : Document) : Document :=
  stack.foldl (fun inner container => container.ended inner .endOfText) document

/-- What a token is when a value was expected and it is not the start of a container. -/
def Token.found : Token → Except Fault Found
  | .null => .ok .null
  | .bool b => .ok (.bool b)
  | .number value => value.map .number
  | .text value => value.map .text
  | .openList => .ok .list
  | .openObject => .ok .object
  | .brokenText faults => .error faults.read
  | .broken faults => .error faults.read
  | _ => .error .expectedValue

mutual

/-- Reads a value and everything after it. -/
def readValue (stack : List Open) : List Token → Document × List Token
  | [] => (cutShort stack (.broken (.all .endInValue)), [])
  | token :: tokens => match token with
    | .null => readAfter stack .null tokens
    | .bool b => readAfter stack (.bool b) tokens
    | .number value => readAfter stack (.number value) tokens
    | .text value => readAfter stack (.text value) tokens
    | .openList => match tokens with
      | [] => (cutShort stack (.list [] .endOfText), [])
      | .closeList :: tokens => readAfter stack (.list [] .closed) tokens
      | first :: tokens => readValue (.list [] :: stack) (first :: tokens)
    | .openObject => match tokens with
      | [] => (cutShort stack (.object [] .endOfText), [])
      | .closeObject :: tokens => readAfter stack (.object [] .closed) tokens
      | .text key :: tokens => readMember stack [] key tokens
      | .brokenText faults :: _ => (cutShort stack (.object [] (.brokenKey faults)), [])
      | stray :: _ => (cutShort stack (.object [] (.strayKey stray.found)), [])
    | .brokenText faults => (cutShort stack (.broken faults), [])
    | .broken faults => (cutShort stack (.broken faults), [])
    | _ => (cutShort stack (.broken (.all .expectedValue)), [])

/-- Reads on after a key. -/
def readMember (stack : List Open) (members : Members) (key : Except Fault String) :
    List Token → Document × List Token
  | [] => (cutShort (.member members key :: stack) (.broken (.all .endInObject)), [])
  | .colon :: tokens => readValue (.member members key :: stack) tokens
  | _ => (cutShort (.member members key :: stack) (.broken (.all .expectedColon)), [])

/-- Reads on after a value: a separator, the end of a container, or nothing more. -/
def readAfter (stack : List Open) (document : Document) : List Token → Document × List Token
  | [] => match stack with
    | [] => (document, [])
    | container :: outer => (cutShort outer (container.ended document .endOfText), [])
  | token :: tokens => match stack with
    | [] => (document, token :: tokens)
    | .list items :: outer =>
      let container := Open.list items
      match token with
      | .comma => match tokens with
        | [] => (cutShort outer (container.ended document .commaThenEnd), [])
        | .closeList :: _ => (cutShort outer (container.ended document .commaThenClose), [])
        | next :: tokens => readValue (.list (document :: items) :: outer) (next :: tokens)
      | .closeList => readAfter outer (container.ended document .closed) tokens
      | _ => (cutShort outer (container.ended document .noSeparator), [])
    | .member members key :: outer =>
      let container := Open.member members key
      match token with
      | .comma => match tokens with
        | [] => (cutShort outer (container.ended document .commaThenEnd), [])
        | .closeObject :: _ => (cutShort outer (container.ended document .commaThenClose), [])
        | .text next :: tokens => readMember outer ((key, document) :: members) next tokens
        | .brokenText faults :: _ =>
          (cutShort outer (container.ended document (.brokenKey faults)), [])
        | stray :: _ => (cutShort outer (container.ended document (.strayKey stray.found)), [])
      | .closeObject => readAfter outer (container.ended document .closed) tokens
      | _ => (cutShort outer (container.ended document .noSeparator), [])

end

/-- The document at the front of a text and the tokens after it. -/
def Document.ofText (text : String) : Document × List Token := readValue [] (tokens text.toList)

/-! ## Passing over a document -/

namespace Ending

/-- The fault that stops a reader of a list after its last item. -/
def listFault : Ending → Option Fault
  | closed => none
  | endOfText => some .endInList
  | commaThenClose => some .trailingComma
  | commaThenEnd => some .endInValue
  | noSeparator | strayKey _ | brokenKey _ => some .expectedListSeparator

/-- The fault that stops a reader of an object after its last member. -/
def objectFault : Ending → Option Fault
  | closed => none
  | endOfText => some .endInObject
  | noSeparator => some .expectedObjectSeparator
  | commaThenClose => some .trailingComma
  | commaThenEnd => some .endInValue
  | strayKey _ => some .keyNotText
  | brokenKey faults => some faults.read

/-- The fault that stops whoever passes over a list. -/
def skippedListFault : Ending → Option Fault
  | commaThenClose => some .expectedValue
  | ending => ending.listFault

/-- The fault that stops whoever passes over an object. -/
def skippedObjectFault : Ending → Option Fault
  | commaThenClose => some .keyNotText
  | commaThenEnd => some .endInObject
  | brokenKey faults => some faults.skip
  | ending => ending.objectFault

/-- The fault of a list of fixed length that does not end after its last item. -/
def fixedListFault : Ending → Option Fault
  | closed => none
  | endOfText => some .endInList
  | commaThenClose => some .trailingComma
  | _ => some .trailingCharacters

end Ending

mutual

/-- The fault that stops whoever passes over a document without using it. -/
def Document.skipFault : Document → Option Fault
  | .list items ending => skipItems items ending.skippedListFault
  | .object members ending => skipMembers members ending.skippedObjectFault
  | .broken faults => some faults.skip
  | .null | .bool _ | .number _ | .text _ => none

/-- The first fault among items, or the one after them. -/
def skipItems : List Document → Option Fault → Option Fault
  | [], last => last
  | item :: items, last => match item.skipFault with
    | some fault => some fault
    | none => skipItems items last

/-- The first fault among members, or the one after them. -/
def skipMembers : List (Except Fault String × Document) → Option Fault → Option Fault
  | [], last => last
  | (_, value) :: members, last => match value.skipFault with
    | some fault => some fault
    | none => skipMembers members last

end

end FleetScaling.Json

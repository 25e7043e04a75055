import FleetScaling.Yaml.Scalar

/-!
# YAML tokens

A document is cut line by line into scalars and marks. A token knows its column and whether it is
the first of its line, because columns of first tokens say where collections begin and end. Inside
brackets more characters are marks than outside, so the number of open brackets goes with the text.

A scalar ends on the line where it begins.
-/

namespace FleetScaling.Yaml

open FleetScaling.Text

/-- What a token is. -/
inductive Sign
  /-- Before an item of a list. -/
  | dash
  /-- Between a key and its value. -/
  | colon
  | comma
  | openList
  | closeList
  | openTable
  | closeTable
  | scalar (value : Scalar)

/-- A part of a line. -/
structure Token where
  /-- Whether no other token comes before it on its line. -/
  opensLine : Bool
  column : Nat
  sign : Sign

/-! ## Scalars without quotes -/

/-- Whether a character has a meaning inside brackets. -/
def isFlowMark (c : Char) : Bool := [',', '[', ']', '\x7b', '\x7d'].contains c

/-- Whether a character may not begin a scalar without quotes. -/
def isReserved (c : Char) : Bool :=
  ['#', '&', '*', '!', '|', '>', '%', '@', '\x60'].contains c

/-- Whether nothing follows within the word. -/
def atGap (rest : List Char) : Bool := rest.head?.all isSpace

/-- Whether a scalar without quotes ends before a character that `rest` follows. -/
def endsPlain (inFlow : Bool) (c : Char) (rest : List Char) : Bool :=
  (c = ':' && (atGap rest || (inFlow && rest.head?.any isFlowMark)))
    || (inFlow && isFlowMark c)
    || (isSpace c && rest.head? = some '#')

/-- A scalar without quotes and what follows it. -/
def spanPlain (inFlow : Bool) : List Char → List Char × List Char
  | [] => ([], [])
  | c :: rest =>
    if endsPlain inFlow c rest then ([], c :: rest)
    else
      let (taken, left) := spanPlain inFlow rest
      (c :: taken, left)

/-- A text without the blanks at its end. -/
def dropEndSpaces (cs : List Char) : List Char := (dropSpaces cs.reverse).reverse

/-! ## Lines -/

/-- The token at the front of a text, which is inside of `depth` brackets, and what follows it. A
colon right after another token parts key and value inside brackets. -/
def readSign? (depth : Nat) (afterToken : Bool) : List Char → Option (Sign × List Char)
  | [] => none
  | '[' :: rest => some (.openList, rest)
  | ']' :: rest => some (.closeList, rest)
  | '\x7b' :: rest => some (.openTable, rest)
  | '\x7d' :: rest => some (.closeTable, rest)
  | ',' :: rest => some (.comma, rest)
  | '"' :: rest => do
    let (inside, rest) ← escapedInside escape (fun _ => true) (rest.length + 1) rest
    some (.scalar (.text (String.ofList inside)), rest)
  | '\'' :: rest => do
    let (inside, rest) ← singleInside rest
    some (.scalar (.text (String.ofList inside)), rest)
  | c :: rest =>
    let inFlow := 0 < depth
    if c = '-' && atGap rest then some (.dash, rest)
    else if c = ':' && (atGap rest || (inFlow && (afterToken || rest.head?.any isFlowMark))) then
      some (.colon, rest)
    else if isReserved c || (c = '?' && atGap rest) then none
    else do
      let (taken, left) := spanPlain inFlow (c :: rest)
      let value ← Scalar.ofPlain? (String.ofList (dropEndSpaces taken))
      some (.scalar value, left)

/-- How many brackets are open after a token. -/
def depthAfter (depth : Nat) : Sign → Nat
  | .openList => depth + 1
  | .openTable => depth + 1
  | .closeList => depth - 1
  | .closeTable => depth - 1
  | _ => depth

/-- The tokens of the rest of a line of the given width, and how many brackets are open after it;
`fuel` bounds the number of tokens. -/
def lineTokens? (width : Nat) :
    (fuel depth : Nat) → (opensLine : Bool) → List Char → Option (List Token × Nat)
  | 0, _, _, _ => none
  | fuel + 1, depth, opensLine, cs =>
    match dropSpaces cs with
    | [] => some ([], depth)
    | c :: rest =>
      if c = '#' then
        if opensLine || cs.head?.any isSpace then some ([], depth) else none
      else do
        let (sign, left) ← readSign? depth (!opensLine) (c :: rest)
        let (tokens, after) ← lineTokens? width fuel (depthAfter depth sign) false left
        some (⟨opensLine, width - (c :: rest).length, sign⟩ :: tokens, after)

/-- The tokens of some lines, the first of which is inside of `depth` brackets. Outside of brackets,
tabs do not indent. -/
def tokens? : (depth : Nat) → List (List Char) → Option (List Token)
  | _, [] => some []
  | depth, line :: lines => do
    let (here, after) ← lineTokens? line.length (line.length + 1) depth true line
    let indented := (line.takeWhile isSpace).contains '\t'
    let more ← if indented && depth = 0 && !here.isEmpty then none else tokens? after lines
    some (here ++ more)

end FleetScaling.Yaml

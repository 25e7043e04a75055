import FleetScaling.Yaml.Token

/-!
# YAML documents

Scalars, lists and tables, written in brackets or by their columns: the items of a list and the
members of a table begin in one column, and what belongs to one of them begins further to the right.
`read?` gives the members of the table that a text is. Texts with several documents, anchors, tags,
keys with parts or scalars of several lines are not read.
-/

namespace FleetScaling.Yaml

open FleetScaling.Text

/-- A value. Of members with equal keys the last one counts. -/
inductive Node
  | scalar (value : Scalar)
  | list (items : List Node)
  | table (members : List (String × Node))

/-- Takes a value from the front of some tokens. -/
abbrev TokenReader (α : Type) := List Token → Option (α × List Token)

/-- The key that a scalar is. -/
def keyOf? : Scalar → Option String
  | .text s => some s
  | .integer n => some (toString n)
  | _ => none

/-! ## In brackets -/

mutual

/-- A scalar, or a list or table in brackets; `fuel` bounds the number of tokens. -/
def flow : (fuel : Nat) → TokenReader Node
  | _ + 1, ⟨_, _, .scalar value⟩ :: rest => some (.scalar value, rest)
  | fuel + 1, ⟨_, _, .openList⟩ :: rest => do
    let (items, rest) ← flowItems fuel rest
    some (.list items, rest)
  | fuel + 1, ⟨_, _, .openTable⟩ :: rest => do
    let (members, rest) ← flowMembers fuel rest
    some (.table members, rest)
  | _, _ => none

/-- The items of a list up to its closing bracket. -/
def flowItems : (fuel : Nat) → TokenReader (List Node)
  | 0, _ => none
  | _ + 1, ⟨_, _, .closeList⟩ :: rest => some ([], rest)
  | fuel + 1, tokens => do
    let (item, rest) ← flow fuel tokens
    match rest with
    | ⟨_, _, .comma⟩ :: rest =>
      let (items, rest) ← flowItems fuel rest
      some (item :: items, rest)
    | ⟨_, _, .closeList⟩ :: rest => some ([item], rest)
    | _ => none

/-- The members of a table up to its closing bracket. -/
def flowMembers : (fuel : Nat) → TokenReader (List (String × Node))
  | _ + 1, ⟨_, _, .closeTable⟩ :: rest => some ([], rest)
  | fuel + 1, ⟨_, _, .scalar key⟩ :: rest => do
    let key ← keyOf? key
    let (value, rest) ← flowValue fuel rest
    match rest with
    | ⟨_, _, .comma⟩ :: rest =>
      let (members, rest) ← flowMembers fuel rest
      some ((key, value) :: members, rest)
    | ⟨_, _, .closeTable⟩ :: rest => some ([(key, value)], rest)
    | _ => none
  | _, _ => none

/-- What follows a key in brackets: a colon and a value, either of which may be left out. -/
def flowValue : (fuel : Nat) → TokenReader Node
  | _ + 1, ⟨_, _, .colon⟩ :: ⟨opens, column, .comma⟩ :: rest =>
    some (.scalar .null, ⟨opens, column, .comma⟩ :: rest)
  | _ + 1, ⟨_, _, .colon⟩ :: ⟨opens, column, .closeTable⟩ :: rest =>
    some (.scalar .null, ⟨opens, column, .closeTable⟩ :: rest)
  | fuel + 1, ⟨_, _, .colon⟩ :: rest => flow fuel rest
  | _, rest => some (.scalar .null, rest)

end

/-! ## By columns -/

/-- Whether a line begins here, in a column. -/
def lineBeginsAt (column : Nat) : List Token → Bool
  | token :: _ => token.opensLine && token.column = column
  | [] => false

/-- Whether a line begins here, in a column and with a dash. -/
def dashBeginsAt (column : Nat) : List Token → Bool
  | ⟨opensLine, c, .dash⟩ :: _ => opensLine && c = column
  | _ => false

/-- Whether an item or a member at a column says nothing: what follows begins a line and belongs to
something else. A list may stand in the column of the member that it belongs to. -/
def isBlankAt (column : Nat) (ofMember : Bool) : List Token → Bool
  | [] => true
  | token :: rest =>
    token.opensLine && token.column ≤ column
      && !(ofMember && dashBeginsAt column (token :: rest))

mutual

/-- A value that begins with the first token; `fuel` bounds the number of tokens. -/
def block : (fuel : Nat) → TokenReader Node
  | 0, _ => none
  | fuel + 1, tokens@(⟨_, column, .dash⟩ :: _) => do
    let (items, rest) ← blockItems fuel column tokens
    some (.list items, rest)
  | fuel + 1, tokens@(⟨_, column, .scalar _⟩ :: ⟨false, _, .colon⟩ :: _) => do
    let (members, rest) ← blockMembers fuel column tokens
    some (.table members, rest)
  | fuel + 1, tokens => flow fuel tokens

/-- The items of a list whose dashes are in a column. -/
def blockItems : (fuel column : Nat) → TokenReader (List Node)
  | fuel + 1, column, ⟨_, _, .dash⟩ :: rest => do
    let (item, rest) ← blockValue fuel column false rest
    let (items, rest) ← if dashBeginsAt column rest then blockItems fuel column rest
      else some ([], rest)
    some (item :: items, rest)
  | _, _, _ => none

/-- The members of a table whose keys are in a column. -/
def blockMembers : (fuel column : Nat) → TokenReader (List (String × Node))
  | fuel + 1, column, ⟨_, _, .scalar key⟩ :: ⟨false, _, .colon⟩ :: rest => do
    let key ← keyOf? key
    let (value, rest) ← blockValue fuel column true rest
    let (members, rest) ← if lineBeginsAt column rest then blockMembers fuel column rest
      else some ([], rest)
    some ((key, value) :: members, rest)
  | _, _, _ => none

/-- What a dash or a key at a column stands before. After a key, a list or table by columns does
not begin on the line of the key. -/
def blockValue : (fuel column : Nat) → (ofMember : Bool) → TokenReader Node
  | 0, _, _, _ => none
  | fuel + 1, column, ofMember, tokens =>
    if isBlankAt column ofMember tokens then some (.scalar .null, tokens)
    else if ofMember && !(tokens.head?.any Token.opensLine) then flow fuel tokens
    else block fuel tokens

end

/-! ## Documents -/

/-- Whether a line holds no token. -/
def isEmptyLine (line : List Char) : Bool :=
  (dropSpaces line).head?.all (· = '#')

/-- The lines of a document, without the three dashes before it; whether they were there. -/
def documentLines (text : String) : Bool × List (List Char) :=
  let all := lines text.toList
  match all.dropWhile isEmptyLine with
  | ('-' :: '-' :: '-' :: mark) :: rest =>
    if isEmptyLine mark && atGap mark then (true, rest) else (false, all)
  | _ => (false, all)

/-- The members of the table that a text is. A text without any token is a table without members,
unless it says that a document begins. -/
def read? (text : String) : Option (List (String × Node)) := do
  let (begins, lines) := documentLines text
  let tokens ← tokens? 0 lines
  if tokens.isEmpty then
    if begins then none else some []
  else match block (4 * tokens.length + 4) tokens with
    | some (.table members, []) => some members
    | _ => none

end FleetScaling.Yaml

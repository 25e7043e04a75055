import FleetScaling.Toml.Scalar

/-!
# TOML trees

The tables of a document are filled statement by statement. Every table remembers how it came
about, because that decides what may still be added to it: a table with a header is not opened
again, a table that dotted keys made takes only dotted keys, and an inline table is closed.
-/

namespace FleetScaling.Toml

/-- How a table came about. -/
inductive Origin
  /-- By a header of its own, or as the root. -/
  | header
  /-- By the header of a table inside it. -/
  | implied
  /-- By dotted keys. -/
  | dotted
  /-- As a value. -/
  | inline
  deriving DecidableEq, Repr

/-- A node of a document. -/
inductive Node
  | scalar (value : Scalar)
  | array (items : List Node)
  | table (origin : Origin) (members : List (String × Node))
  /-- Tables under one name, each with a header, in order; the last one may still be filled. -/
  | tables (elements : List (List (String × Node)))

/-- The members of a table. -/
abbrev Members := List (String × Node)

namespace Members

/-- The members with the node under a key replaced. -/
def replace (members : Members) (key : String) (node : Node) : Members :=
  members.map fun member => if member.1 = key then (key, node) else member

/-- Follows a path of keys and changes the table at its end. Tables that are missing are made; of
tables with headers the last one is followed. On the way of dotted keys, a table must not have a
header. -/
def change (dotted : Bool) (f : Origin → Members → Option Members) :
    (path : List String) → Origin → Members → Option Members
  | [], origin, members => f origin members
  | key :: path, _, members =>
    match members.lookup key with
    | none => do
      let origin := if dotted then .dotted else .implied
      let inner ← change dotted f path origin []
      some (members ++ [(key, .table origin inner)])
    | some (.table origin inner) =>
      if origin = .inline ∨ (dotted ∧ origin = .header) then none
      else do
        let inner ← change dotted f path origin inner
        some (members.replace key (.table origin inner))
    | some (.tables elements) => do
      let last ← elements.getLast?
      let inner ← change dotted f path .header last
      some (members.replace key (.tables (elements.dropLast ++ [inner])))
    | some _ => none

/-- Adds a node under a dotted key, which must be new. -/
def add (path : List String) (key : String) (node : Node) (members : Members) : Option Members :=
  members.change true (fun origin members =>
    if (origin = .dotted) = path.isEmpty ∨ (members.lookup key).isSome then none
    else some (members ++ [(key, node)])) path .header

/-- Opens the table of a header, which must not have had one. -/
def openTable (above : List String) (key : String) (root : Members) : Option Members :=
  root.change false (fun _ members =>
    match members.lookup key with
    | none => some (members ++ [(key, .table .header [])])
    | some (.table .implied inner) => some (members.replace key (.table .header inner))
    | some _ => none) above .header

/-- Opens one more table under a name. -/
def openElement (above : List String) (key : String) (root : Members) : Option Members :=
  root.change false (fun _ members =>
    match members.lookup key with
    | none => some (members ++ [(key, .tables [[]])])
    | some (.tables elements) => some (members.replace key (.tables (elements ++ [[]])))
    | some _ => none) above .header

/-- Adds a node under a dotted key in the table that was opened last. -/
def addWithin (header path : List String) (key : String) (node : Node) (root : Members) :
    Option Members :=
  root.change false (fun _ members => members.add path key node) header .header

end Members

end FleetScaling.Toml

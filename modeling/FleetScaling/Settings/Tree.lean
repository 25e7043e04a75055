import FleetScaling.Decimal.Layout
import FleetScaling.Json.Decoder
import FleetScaling.Text.Lower
import FleetScaling.Toml.Document
import FleetScaling.Yaml.Document

/-!
# Settings before they are read

Settings come from files and from environment variables. Both give trees of scalars, lists and
tables that remember where they came from. Trees are merged one into another: a table goes into the
table that is there, member by member, and anything else takes the place of what was there. The
names of settings have no case.
-/

namespace FleetScaling

open Text Json Decimal

/-- A setting without parts. -/
inductive SettingScalar
  | null
  | bool (b : Bool)
  | integer (n : Int)
  | float (x : Float)
  | text (s : String)

/-- Settings; what they come from is told in messages. -/
inductive Setting
  | scalar (source : Option String) (value : SettingScalar)
  | list (source : Option String) (items : List Setting)
  | table (source : Option String) (members : List (String × Setting))

namespace Setting

/-- A setting that says nothing. -/
def nothing : Setting := .scalar none .null

/-- The members of a table; anything else has none. -/
def members : Setting → List (String × Setting)
  | table _ members => members
  | _ => []

/-- The items of a list; anything else has none. -/
def items : Setting → List Setting
  | list _ items => items
  | _ => []

/-- The members with a setting under a name. -/
def put (name : String) (s : Setting) : List (String × Setting) → List (String × Setting)
  | [] => [(name, s)]
  | member :: rest => if member.1 = name then (name, s) :: rest else member :: put name s rest

/-! ## Merging -/

mutual

/-- What is left under a name after a new setting was merged into the old one. -/
def merge (old : Option Setting) : Setting → Setting
  | .table _ [] => old.getD (.table none [])
  | .table _ (member :: rest) =>
    .table none (mergeMembers ((old.map Setting.members).getD []) (member :: rest))
  | s => s

/-- The members of a table after others were merged into them. -/
def mergeMembers (old : List (String × Setting)) :
    List (String × Setting) → List (String × Setting)
  | [] => old
  | (name, s) :: rest =>
    let name := lower name
    mergeMembers (put name (merge (old.lookup name) s) old) rest

end

/-! ## Paths -/

/-- One step from a setting to one inside it. -/
inductive Step
  | member (name : String)
  /-- An item of a list; a negative index counts from its end. -/
  | item (index : Int)
  deriving DecidableEq, Repr

/-- The list with a setting at an index; items that are missing before it say nothing. -/
def putItem (index : Int) (s : Setting) (items : List Setting) : List Setting :=
  let index := if index < 0 then index + items.length else index
  if index < 0 then items
  else
    let i := index.toNat
    (items ++ List.replicate (i + 1 - items.length) nothing).set i s

/-- The item at an index, if there is one. -/
def item? (index : Int) (items : List Setting) : Option Setting :=
  let index := if index < 0 then index + items.length else index
  if index < 0 then none else items[index.toNat]?

/-- What is left of a setting after another was put where some steps lead. Tables and lists on the
way are made where there are none. -/
def assign (s : Setting) (old : Setting) : (steps : List Step) → Setting
  | [] => merge (some old) s
  | [.member name] =>
    let name := lower name
    let members := old.members
    .table none (put name (merge (members.lookup name) s) members)
  | .member name :: steps =>
    let name := lower name
    let members := old.members
    .table none (put name (assign s ((members.lookup name).getD nothing) steps) members)
  | [.item index] => .list none (putItem index s old.items)
  | .item index :: steps =>
    .list none (putItem index (assign s ((item? index old.items).getD nothing) steps) old.items)

/-- Whether a character may stand in a name of a path. -/
def isNameChar (c : Char) : Bool := c.isAlphanum || c = '_' || c = '-' || c = ' '

/-- An index between brackets, after the opening one. -/
def readIndex? (cs : List Char) : Option (Int × List Char) :=
  let cs := dropSpaces cs
  let (negative, cs) := match cs with
    | '-' :: rest => (true, rest)
    | cs => (false, cs)
  let (digits, rest) := spanDigits cs
  let n : Int := digitsValue 0 digits
  match dropSpaces rest with
  | ']' :: rest =>
    if digits.isEmpty || n > largest 63 then none else some (if negative then -n else n, rest)
  | _ => none

/-- The steps after the first name of a path; `fuel` bounds their number. -/
def readSteps? : (fuel : Nat) → List Char → Option (List Step)
  | _, [] => some []
  | fuel + 1, '.' :: cs => do
    let name := cs.takeWhile isNameChar
    if name.isEmpty then none
    let steps ← readSteps? fuel (cs.dropWhile isNameChar)
    some (.member (String.ofList name) :: steps)
  | fuel + 1, '[' :: cs => do
    let (index, rest) ← readIndex? cs
    let steps ← readSteps? fuel rest
    some (.item index :: steps)
  | _, _ => none

/-- The steps of a path: names with dots between them, and indices in brackets. A text that is no
path is a name. -/
def stepsOf (path : String) : List Step :=
  let cs := path.toList
  let name := cs.takeWhile isNameChar
  let steps := if name.isEmpty then none
    else (readSteps? cs.length (cs.dropWhile isNameChar)).map (.member (String.ofList name) :: ·)
  steps.getD [.member path]

/-- The tree after a setting was put at a path. -/
def assignPath (tree : Setting) (entry : String × Setting) : Setting :=
  assign entry.2 tree (stepsOf entry.1)

/-- The tree of some settings by their paths, each put over those before it. -/
def ofEntries (entries : List (String × Setting)) : Setting :=
  entries.foldl assignPath (.table none [])

/-! ## Files -/

mutual

/-- A node of a TOML document as settings. -/
def ofToml (source : String) : Toml.Node → Setting
  | .scalar (.text s) => .scalar (some source) (.text s)
  | .scalar (.integer n) => .scalar (some source) (.integer n)
  | .scalar (.float x) => .scalar (some source) (.float x)
  | .scalar (.bool b) => .scalar (some source) (.bool b)
  | .scalar (.moment s) => .scalar (some source) (.text s)
  | .array items => .list (some source) (ofTomlItems source items)
  | .table _ members => .table (some source) (ofTomlMembers source members)
  | .tables elements => .list (some source) (ofTomlElements source elements)

/-- Items of a TOML array as settings. -/
def ofTomlItems (source : String) : List Toml.Node → List Setting
  | [] => []
  | item :: items => ofToml source item :: ofTomlItems source items

/-- Members of a TOML table as settings. -/
def ofTomlMembers (source : String) : List (String × Toml.Node) → List (String × Setting)
  | [] => []
  | (name, node) :: members => (name, ofToml source node) :: ofTomlMembers source members

/-- TOML tables under one name as settings. -/
def ofTomlElements (source : String) : List (List (String × Toml.Node)) → List Setting
  | [] => []
  | members :: elements =>
    .table (some source) (ofTomlMembers source members) :: ofTomlElements source elements

end

mutual

/-- A JSON document as settings; it must not be broken. An integer beyond 64 bits with a sign is a
floating-point number. -/
def ofJson (source : String) : Document → Setting
  | .null => .scalar (some source) .null
  | .bool b => .scalar (some source) (.bool b)
  | .number (.ok (.natural n)) =>
    .scalar (some source) (if n ≤ Decimal.largest 63 then .integer n else .float (Float.ofNat n))
  | .number (.ok (.negative n)) => .scalar (some source) (.integer n)
  | .number (.ok (.float x)) => .scalar (some source) (.float x)
  | .text (.ok s) => .scalar (some source) (.text s)
  | .list items _ => .list (some source) (ofJsonItems source items)
  | .object members _ => .table (some source) (ofJsonMembers source [] members)
  | _ => .scalar (some source) .null

/-- Items of a JSON list as settings. -/
def ofJsonItems (source : String) : List Document → List Setting
  | [] => []
  | item :: items => ofJson source item :: ofJsonItems source items

/-- Members of a JSON object as settings; of equal keys the last one counts. -/
def ofJsonMembers (source : String) (before : List (String × Setting)) :
    List (Except Fault String × Document) → List (String × Setting)
  | [] => before
  | (.ok key, value) :: members =>
    ofJsonMembers source (put key (ofJson source value) before) members
  | (.error _, _) :: members => ofJsonMembers source before members

end

mutual

/-- A node of a YAML document as settings. -/
def ofYaml (source : String) : Yaml.Node → Setting
  | .scalar .null => .scalar (some source) .null
  | .scalar (.bool b) => .scalar (some source) (.bool b)
  | .scalar (.integer n) => .scalar (some source) (.integer n)
  | .scalar (.float x) => .scalar (some source) (.float x)
  | .scalar (.text s) => .scalar (some source) (.text s)
  | .list items => .list (some source) (ofYamlItems source items)
  | .table members => .table (some source) (ofYamlMembers source [] members)

/-- Items of a YAML list as settings. -/
def ofYamlItems (source : String) : List Yaml.Node → List Setting
  | [] => []
  | item :: items => ofYaml source item :: ofYamlItems source items

/-- Members of a YAML table as settings; of equal keys the last one counts. -/
def ofYamlMembers (source : String) (before : List (String × Setting)) :
    List (String × Yaml.Node) → List (String × Setting)
  | [] => before
  | (key, value) :: members => ofYamlMembers source (put key (ofYaml source value) before) members

end

/-- The entries of a JSON text, if it is an object. -/
def jsonEntries? (source text : String) : Option (List (String × Setting)) :=
  let decoder : Decoder Document := fun depth document => do
    unlessFault (document.readFault depth)
    .ok document
  match decode decoder text with
  | .ok (.object members _) => some (ofJsonMembers source [] members)
  | _ => none

/-- The entries of a TOML text. -/
def tomlEntries? (source text : String) : Option (List (String × Setting)) :=
  (Toml.read? text).map (ofTomlMembers source)

/-- The entries of a YAML text, if it is a table. -/
def yamlEntries? (source text : String) : Option (List (String × Setting)) :=
  (Yaml.read? text).map (ofYamlMembers source [])

/-! ## Environment -/

/-- What messages call the environment. -/
def environmentName : String := "the environment"

/-- The scalar that the value of a variable reads as: a truth value, an integer or a number if it
is one. -/
def guess? (value : String) : Option SettingScalar :=
  let name := lower value
  if name = "true" then some (.bool true)
  else if name = "false" then some (.bool false)
  else match readInt64? value.toList with
    | some n => some (.integer n.toInt)
    | none => (readFloat? value.toList).map .float

/-- The parts of a list between its separators, as settings. -/
def listed (value : String) : List Setting :=
  (pieces (· == ',') value.toList).map fun part =>
    .scalar (some environmentName) (.text (String.ofList part))

/-- The setting of a variable. The value of the one that holds a list is cut at its commas, unless
it reads as a scalar. -/
def ofVariable (listName name value : String) : Setting :=
  match guess? value with
  | some guessed => .scalar (some environmentName) guessed
  | none =>
    if name = listName then .list (some environmentName) (listed value)
    else .scalar (some environmentName) (.text value)

/-- A name with every pair of underscores replaced by a dot. -/
def dotted : List Char → List Char
  | '_' :: '_' :: rest => '.' :: dotted rest
  | c :: rest => c :: dotted rest
  | [] => []

/-- The path that a variable names after the given start, which has no case. -/
def variablePath? (start name : String) : Option String :=
  let cs := (lower name).toList
  if start.toList.isPrefixOf cs then some (String.ofList (dotted (cs.drop start.length)))
  else none

/-- The entries of the variables whose names begin with `start`. -/
def environmentEntries (start listName : String) (environment : List (String × String)) :
    List (String × Setting) :=
  environment.filterMap fun (name, value) =>
    (variablePath? start name).map fun path => (path, ofVariable listName path value)

end Setting

end FleetScaling

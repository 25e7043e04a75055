import FleetScaling.Text.Blank

/-!
# Files

The files that a program reads and writes: a tree of directories below the one it was started in.
A path is resolved name by name, and every name but the last must be a directory. Operations that
fail say why as the operating system does.
-/

namespace FleetScaling

/-- Why a file operation fails. -/
inductive FileError
  | notFound
  | alreadyExists
  | notDirectory
  | isDirectory
  /-- The bytes of a file are no text. -/
  | notText
  deriving DecidableEq, Repr

/-- The wording of a file error. -/
def FileError.message : FileError → String
  | notFound => "No such file or directory (os error 2)"
  | alreadyExists => "File exists (os error 17)"
  | notDirectory => "Not a directory (os error 20)"
  | isDirectory => "Is a directory (os error 21)"
  | notText => "stream did not contain valid UTF-8"

/-- The names on the way to a file, from the starting directory. -/
abbrev Place := List String

/-- What is at a place. -/
inductive Entry
  | directory
  /-- A file with its text, or with bytes that are no text. -/
  | file (text : Option String)
  deriving DecidableEq, Repr

/-- Everything below the starting directory, in the order of creation. -/
structure Files where
  entries : List (Place × Entry)

namespace Files

/-- An empty starting directory. -/
def empty : Files := ⟨[]⟩

/-- What is at a place, if anything. -/
def entry? (files : Files) (place : Place) : Option Entry :=
  if place = [] then some .directory else files.entries.lookup place

/-- The files with an entry at a place. -/
def set (files : Files) (place : Place) (entry : Entry) : Files :=
  if files.entries.any (·.1 == place) then
    ⟨files.entries.map fun e => if e.1 = place then (place, entry) else e⟩
  else ⟨files.entries ++ [(place, entry)]⟩

/-! ## Paths -/

/-- The names of a path. A slash at the end asks for a directory, like a dot. -/
def namesOf (path : String) : List String :=
  let parts := (Text.pieces (· == '/') path.toList).map String.ofList
  let named := parts.filter (· ≠ "")
  let absolute := if parts.length > 1 && parts.head? = some "" then ["/"] else []
  let slash := if parts.length > 1 && parts.getLast? = some "" then ["."] else []
  absolute ++ named ++ slash

/-- The place that a name leads to. -/
def step (place : Place) (name : String) : Place :=
  if name = "." then place else if name = ".." then place.dropLast else place ++ [name]

/-- The place of a path, whether or not something is there. -/
def resolve (files : Files) (place : Place) : List String → Except FileError Place
  | [] => .ok place
  | name :: names => match files.entry? place with
    | none => .error .notFound
    | some (.file _) => .error .notDirectory
    | some .directory => resolve files (step place name) names

/-- The place of a path and what is there. -/
def locate (files : Files) (path : String) : Except FileError (Place × Entry) := do
  if path.isEmpty then .error .notFound
  let place ← files.resolve [] (namesOf path)
  match files.entry? place with
  | none => .error .notFound
  | some entry => .ok (place, entry)

/-- A path with a name added to it. -/
def joinPath (directory name : String) : String :=
  if directory.isEmpty || directory.endsWith '/' then directory ++ name
  else directory ++ "/" ++ name

/-! ## Operations -/

/-- Whether something is at a path. -/
def holds (files : Files) (path : String) : Bool := (files.locate path).toBool

/-- The text of a file. -/
def read (files : Files) (path : String) : Except FileError String :=
  match files.locate path with
  | .error e => .error e
  | .ok (_, .directory) => .error .isDirectory
  | .ok (_, .file none) => .error .notText
  | .ok (_, .file (some text)) => .ok text

/-- The files after the text was written to a path. -/
def write (files : Files) (path text : String) : Except FileError Files := do
  if path.isEmpty then .error .notFound
  let place ← files.resolve [] (namesOf path)
  match files.entry? place with
  | some .directory => .error .isDirectory
  | _ => .ok (files.set place (.file (some text)))

/-- The files with directories at every place on the way along `names`. -/
def makeAlong (files : Files) (place : Place) : List String → Except FileError Files
  | [] => .ok files
  | name :: names =>
    let next := step place name
    match files.entry? next with
    | some .directory => makeAlong files next names
    | some (.file _) => .error (if names.isEmpty then .alreadyExists else .notDirectory)
    | none => makeAlong (files.set next .directory) next names

/-- The files after a directory and those above it were made where they were missing. -/
def makeDirectory (files : Files) (path : String) : Except FileError Files :=
  files.makeAlong [] (namesOf path)

/-- The names in a directory, in the order of creation. -/
def list (files : Files) (path : String) : Except FileError (List String) :=
  match files.locate path with
  | .error e => .error e
  | .ok (_, .file _) => .error .notDirectory
  | .ok (place, .directory) => .ok <| files.entries.filterMap fun entry =>
    if entry.1.dropLast = place then entry.1.getLast? else none

/-- The files with an entry at a place and directories above it. -/
def put (files : Files) (path : String) (entry : Entry) : Files :=
  let place := namesOf path
  let above := (files.makeAlong [] place.dropLast).toOption.getD files
  above.set place entry

end Files

end FleetScaling

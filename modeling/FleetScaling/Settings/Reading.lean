import FleetScaling.Scaling.Strategy
import FleetScaling.Settings.Tree
import FleetScaling.Text.Quoted

/-!
# Reading settings

A setting is read as the kind of value that is needed. Scalars are turned into each other where
that makes sense: a number can be a text, a text can hold a number, and a fraction is rounded. An
error names the setting and where it came from, as far as that is known.
-/

namespace FleetScaling

open Text Decimal

/-- A setting of the wrong kind. -/
structure WrongSetting where
  found : String
  expected : String
  /-- The path of the setting. -/
  path : String
  source : Option String
  deriving DecidableEq

/-- Why settings cannot be read. -/
inductive SettingError
  | wrong (setting : WrongSetting)
  | missing (name : String)
  | other (message : String)
  deriving DecidableEq

namespace SettingError

/-- The wording of an error. -/
def message : SettingError → String
  | wrong s =>
    "invalid type: " ++ s.found ++ ", expected " ++ s.expected ++
      (if s.path.isEmpty then "" else " for key `" ++ s.path ++ "`") ++
      (match s.source with
        | none => ""
        | some source => " in " ++ source)
  | missing name => "missing field `" ++ name ++ "`"
  | other message => message

/-- The error of a setting inside the one under a name. -/
def under (name : String) : SettingError → SettingError
  | wrong s =>
    let dot := if s.path.isEmpty || s.path.startsWith "[" then "" else "."
    wrong { s with path := name ++ dot ++ s.path }
  | e => e

/-- The error of an item of a list. -/
def atIndex (index : Nat) : SettingError → SettingError
  | wrong s => wrong { s with path := "[" ++ toString index ++ "]" ++ s.path }
  | e => e

end SettingError

namespace Setting

/-- What comes of reading settings. -/
abbrev Reading (α : Type) := Except SettingError α

/-- What a setting comes from. -/
def source : Setting → Option String
  | scalar source _ => source
  | list source _ => source
  | table source _ => source

/-- The error of a setting that cannot be turned into what is expected. -/
def refuse (s : Setting) (found expected : String) : SettingError :=
  .wrong ⟨found, expected, "", s.source⟩

/-- What messages call a setting without a value of its own. -/
def shape : Setting → String
  | scalar _ _ => "unit value"
  | list _ _ => "sequence"
  | table _ _ => "map"

/-! ## Scalars -/

/-- A truth value in words. -/
def boolText (b : Bool) : String := if b then "true" else "false"

/-- A text. -/
def toText : Setting → Reading String
  | scalar _ (.text s) => .ok s
  | scalar _ (.bool b) => .ok (boolText b)
  | scalar _ (.integer n) => .ok (toString n)
  | scalar _ (.float x) => .ok (Layout.plain.write x)
  | s => .error (s.refuse s.shape "a string")

/-- A text, or none for a setting that says nothing. -/
def toText? : Setting → Reading (Option String)
  | scalar _ .null => .ok none
  | s => s.toText.map some

/-- Words for truth values, in any case. -/
def boolWords : List (String × Bool) :=
  [("true", true), ("on", true), ("yes", true), ("false", false), ("off", false), ("no", false)]

/-- A truth value; any number but zero is true. -/
def toBool : Setting → Reading Bool
  | scalar _ (.bool b) => .ok b
  | scalar _ (.integer n) => .ok (n ≠ 0)
  | scalar _ (.float x) => .ok !(x == Float.ofNat 0)
  | scalar source (.text s) =>
    match (boolWords ++ [("1", true), ("0", false)]).lookup (lower s) with
    | some b => .ok b
    | none => .error ((scalar source (.text s)).refuse ("string " ++ quoted (lower s)) "a boolean")
  | s => .error (s.refuse s.shape "a boolean")

/-- The nearest natural number of 64 bits. -/
def rounded (x : Float) : Nat :=
  match BinaryFraction.ofFloat? x with
  | some y => min y.round.toNat (largest 64)
  | none => if x.isInf && Float.ofNat 0 < x then largest 64 else 0

/-- A natural number of 64 bits. -/
def toNatural : Setting → Reading Nat
  | scalar _ (.bool b) => .ok b.toNat
  | scalar source (.integer n) =>
    if 0 ≤ n then .ok n.toNat
    else .error ((scalar source (.integer n)).refuse ("64-bit integer `" ++ toString n ++ "`")
      "an unsigned 64 bit or less integer")
  | scalar _ (.float x) => .ok (rounded x)
  | scalar source (.text s) =>
    match boolWords.lookup (lower s) with
    | some b => .ok b.toNat
    | none => match natural? (twoPow 64) s.toList with
      | some n => .ok n
      | none => .error ((scalar source (.text s)).refuse ("string " ++ quoted s) "an integer")
  | s => .error (s.refuse s.shape "an integer")

/-- A natural number of so many bits. -/
def toBits (bits : Nat) (s : Setting) : Reading Nat := do
  let n ← s.toNatural
  if n < twoPow bits then .ok n
  else .error (.wrong ⟨"64-bit unsigned integer `" ++ toString n ++ "`",
    "an unsigned " ++ toString bits ++ " bit integer", "", none⟩)

/-- A count of 32 bits. -/
def toCount (s : Setting) : Reading UInt32 := (s.toBits 32).map UInt32.ofNat

/-- A number of 64 bits. -/
def toWord (s : Setting) : Reading UInt64 := s.toNatural.map UInt64.ofNat

/-- A port. -/
def toPort (s : Setting) : Reading UInt16 := (s.toBits 16).map UInt16.ofNat

/-! ## Structures -/

/-- A number as messages show it, always with a point. -/
def pointed (x : Float) : String :=
  let text := Layout.plain.write x
  if text.contains '.' || (BinaryFraction.ofFloat? x).isNone then text else text ++ ".0"

/-- What messages call a setting that is not turned into anything else. -/
def described : Setting → String
  | scalar _ (.bool b) => "boolean `" ++ boolText b ++ "`"
  | scalar _ (.integer n) => "integer `" ++ toString n ++ "`"
  | scalar _ (.float x) => "floating point `" ++ pointed x ++ "`"
  | scalar _ (.text s) => "string " ++ quoted s
  | s => s.shape

/-- The error of a setting that has not the structure that is expected. -/
def misfit (s : Setting) (expected : String) : SettingError :=
  .other ("invalid type: " ++ s.described ++ ", expected " ++ expected)

/-- Reads the items of a list from the `index`-th on. -/
def readItems (read : Setting → Reading α) : (index : Nat) → List Setting → Reading (List α)
  | _, [] => .ok []
  | index, item :: items => do
    let a ← (read item).mapError (·.atIndex index)
    let rest ← readItems read (index + 1) items
    .ok (a :: rest)

/-- A list. -/
def toList (read : Setting → Reading α) : Setting → Reading (List α)
  | list _ items => readItems read 0 items
  | s => .error (s.misfit "a sequence")

/-- The member of a structure: by name in a table, by position in a list. -/
inductive Members
  | named (members : List (String × Setting))
  | listed (items : List Setting)

/-- The members of a structure. -/
def structureOf (name : String) : Setting → Reading Members
  | table _ members => .ok (.named members)
  | list _ items => .ok (.listed items)
  | s => .error (s.misfit ("struct " ++ name))

/-- Reads the member with a name and position, if it is there. -/
def Members.read? (members : Members) (name : String) (position : Nat)
    (read : Setting → Reading α) : Reading (Option α) :=
  match members with
  | .named members => match members.lookup name with
    | none => .ok none
    | some s => ((read s).mapError (·.under name)).map some
  | .listed items => match items[position]? with
    | none => .ok none
    | some s => ((read s).mapError (·.atIndex position)).map some

/-- A member that must be there. A list that is too short for it is told apart. -/
def Members.require (members : Members) (name expected : String) (position : Nat) :
    Option α → Reading α
  | some a => .ok a
  | none => match members with
    | .named _ => .error (.missing name)
    | .listed _ => .error (.other ("invalid length " ++ toString position ++ ", expected " ++
        expected))

/-- A strategy by its name, which may also be the only name in a table. -/
def toStrategy (s : Setting) : Reading Strategy :=
  let named (name : String) : Reading Strategy := match Strategy.ofName? name with
    | some strategy => .ok strategy
    | none => .error (.other ("enum ScalingStrategy does not have variant constructor " ++ name))
  match s with
  | scalar _ (.text name) => named name
  | table _ [(name, _)] => named name
  | _ => .error (.other ("value of enum ScalingStrategy should be represented by either string " ++
      "or table with exactly one key"))

end Setting

end FleetScaling

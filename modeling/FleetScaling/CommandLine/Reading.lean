import FleetScaling.Decimal.Reading

/-!
# Command lines

The words of a command line are flags, values of flags and at most one command, which takes all
words after it. A flag is given by its name after two hyphens or by its letter after one; a value
is the next word, or follows an equals sign, or follows the letter. Letters of flags without a
value can be given together. A word of two hyphens ends the flags.
-/

namespace FleetScaling.CommandLine

/-- A flag. -/
structure Flag where
  name : String
  letter : Option Char
  /-- Which values the flag takes; none if it has no value. -/
  accepts : Option (String → Bool)

/-- What a program or command takes. -/
structure Grammar where
  flags : List Flag
  commands : List String
  /-- Whether the version can be asked for. -/
  versioned : Bool

/-- Why the words of a command line are not carried out. -/
inductive Halt
  | usage
  | version
  | help
  deriving DecidableEq, Repr

/-- What the words of a command line say. -/
structure Words where
  /-- The flags that were given, with their values. -/
  given : List (String × String)
  /-- The command, with the words after it. -/
  command : Option (String × List String)
  deriving DecidableEq

namespace Words

/-- The value of a flag, if it was given. -/
def value? (w : Words) (name : String) : Option String := w.given.lookup name

/-- Whether a flag was given. -/
def has (w : Words) (name : String) : Bool := (w.value? name).isSome

end Words

/-- The flags that were given after one more; none may be given twice. -/
def give (flag : Flag) (value : String) (given : List (String × String)) :
    Except Halt (List (String × String)) :=
  let accepted := match flag.accepts with
    | none => true
    | some accepts => accepts value
  if accepted && (given.lookup flag.name).isNone then .ok (given ++ [(flag.name, value)])
  else .error .usage

/-- Whether a word cannot be the value of the flag before it. -/
def looksLikeFlag (word : String) : Bool := word.startsWith "-" && word ≠ "-"

/-- What letters after a hyphen say: the flags given, and the flag whose value is the next word. -/
def readLetters (g : Grammar) (given : List (String × String)) :
    List Char → Except Halt (List (String × String) × Option Flag)
  | [] => .ok (given, none)
  | letter :: rest =>
    match g.flags.find? fun flag => flag.letter = some letter with
    | none =>
      .error (if letter = 'V' && g.versioned then .version else if letter = 'h' then .help
        else .usage)
    | some flag =>
      if flag.accepts.isSome then
        match rest with
        | [] => .ok (given, some flag)
        | '=' :: value => (give flag (String.ofList value) given).map fun given => (given, none)
        | value => (give flag (String.ofList value) given).map fun given => (given, none)
      else
        match give flag "" given with
        | .error halt => .error halt
        | .ok given => readLetters g given rest

/-- What a name after two hyphens says, with the value after an equals sign. -/
def readName (g : Grammar) (given : List (String × String)) (name : String)
    (value : Option String) : Except Halt (List (String × String) × Option Flag) :=
  match g.flags.find? fun flag => flag.name = name with
  | none =>
    .error (if value.isSome then .usage else if name = "version" && g.versioned then .version
      else if name = "help" then .help else .usage)
  | some flag =>
    match flag.accepts, value with
    | some _, some value => (give flag value given).map fun given => (given, none)
    | some _, none => .ok (given, some flag)
    | none, some _ => .error .usage
    | none, none => (give flag "" given).map fun given => (given, none)

/-- What a word that looks like a flag says. -/
def readFlag (g : Grammar) (given : List (String × String)) (word : String) :
    Except Halt (List (String × String) × Option Flag) :=
  match word.toList with
  | '-' :: '-' :: rest =>
    readName g given (String.ofList (rest.takeWhile (· != '=')))
      (if rest.contains '=' then some (String.ofList ((rest.dropWhile (· != '=')).drop 1))
        else none)
  | '-' :: letters => readLetters g given letters
  | _ => .error .usage

/-- What words say after some flags were given; `waiting` is the flag that needs a value. -/
def readFrom (g : Grammar) (given : List (String × String)) (waiting : Option Flag) :
    List String → Except Halt Words
  | [] => if waiting.isSome then .error .usage else .ok ⟨given, none⟩
  | word :: rest =>
    match waiting with
    | some flag =>
      if looksLikeFlag word then .error .usage
      else match give flag word given with
        | .error halt => .error halt
        | .ok given => readFrom g given none rest
    | none =>
      if word = "--" then if rest.isEmpty then .ok ⟨given, none⟩ else .error .usage
      else if looksLikeFlag word then
        match readFlag g given word with
        | .error halt => .error halt
        | .ok (given, waiting) => readFrom g given waiting rest
      else if g.commands.contains word then .ok ⟨given, some (word, rest)⟩
      else .error (if word = "help" && !g.commands.isEmpty then .help else .usage)

/-- What the words of a command line say. -/
def read (g : Grammar) (words : List String) : Except Halt Words := readFrom g [] none words

/-! ## Values -/

/-- Any text. -/
def anyText (_ : String) : Bool := true

/-- A path, which cannot be empty. -/
def anyPath (path : String) : Bool := !path.isEmpty

/-- A number of 32 bits. -/
def count? (s : String) : Option UInt32 :=
  match Decimal.readInt64? s.toList with
  | some n => if 0 ≤ n ∧ n.toInt ≤ Decimal.largest 32 then some (UInt32.ofNat n.toInt.toNat) else none
  | none => none

/-- Any number of 32 bits. -/
def anyCount (s : String) : Bool := (count? s).isSome

/-! ## Ends -/

/-- How a program ends. -/
structure Exit where
  code : Nat
  /-- The lines on the standard output. -/
  output : List String
  /-- The lines on the standard error output. -/
  errors : List String
  deriving DecidableEq

/-- How a program ends that does not carry out its command line. -/
def Halt.exit (program version usage : String) : Halt → Exit
  | .usage => ⟨2, [], ["Usage: " ++ usage]⟩
  | .version => ⟨0, [program ++ " " ++ version], []⟩
  | .help => ⟨0, ["Usage: " ++ usage], []⟩

end FleetScaling.CommandLine

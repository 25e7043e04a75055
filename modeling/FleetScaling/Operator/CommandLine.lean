import FleetScaling.CommandLine.Reading

/-!
# The operator's command line

An operator asks a running bench for its status or its results, shows a baseline, or checks
results against one. The format of the output is a table unless it is to be JSON.
-/

namespace FleetScaling

open CommandLine

/-- How answers are shown. -/
inductive OutputFormat
  | table
  | json
  deriving DecidableEq, Repr

/-- What an operator asks for. -/
inductive OperatorCommand
  | status
  /-- The results, of one target or all. -/
  | results (target : Option UInt32)
  /-- The entries of a baseline file, of one instance type or all. -/
  | showBaseline (file instanceType : Option String)
  /-- Compares results with a baseline file; the results are in a directory of reports, if one is
  given. -/
  | checkBaseline (file reports : Option String)
  deriving DecidableEq

/-- What the command line of an operator says. -/
structure OperatorRequest where
  apiUrl : Option String
  format : OutputFormat
  command : OperatorCommand
  deriving DecidableEq

namespace OutputFormat

/-- The format with a name. -/
def ofName? (name : String) : Option OutputFormat :=
  [("table", table), ("json", json)].lookup name

end OutputFormat

namespace OperatorRequest

/-! ## Grammar -/

/-- The name of the program. -/
def program : String := "scalectl"

/-- The version of the program. -/
def version : String := "0.1.0"

/-- How the program is used. -/
def usage : String :=
  "scalectl [--api-url URL] [--format table|json] status | results [--target N] | " ++
    "baseline show [--file FILE] [--instance TYPE] | " ++
    "baseline check [--file FILE] [--reports DIRECTORY]"

/-- The words before the command. -/
def grammar : Grammar where
  flags := [⟨"api-url", none, some anyText⟩,
    ⟨"format", some 'f', some fun name => (OutputFormat.ofName? name).isSome⟩]
  commands := ["status", "results", "baseline"]
  versioned := true

/-- The words of a command without commands of its own. -/
def leaf (flags : List Flag) : Grammar := ⟨flags, [], false⟩

/-- The words of `results`. -/
def resultsGrammar : Grammar := leaf [⟨"target", some 't', some anyCount⟩]

/-- The words of `baseline`. -/
def baselineGrammar : Grammar := ⟨[], ["show", "check"], false⟩

/-- The words of `baseline show`. -/
def showGrammar : Grammar :=
  leaf [⟨"file", none, some anyPath⟩, ⟨"instance", some 'i', some anyText⟩]

/-- The words of `baseline check`. -/
def checkGrammar : Grammar := leaf [⟨"file", none, some anyPath⟩, ⟨"reports", none, some anyPath⟩]

/-! ## Reading -/

/-- The command among the words, which cannot be left out. -/
def requireCommand (w : Words) : Except Halt (String × List String) :=
  w.command.elim (.error .usage) .ok

/-- The command about baselines that some words give. -/
def readBaseline (words : List String) : Except Halt OperatorCommand := do
  let (name, rest) ← requireCommand (← CommandLine.read baselineGrammar words)
  if name = "show" then
    let w ← CommandLine.read showGrammar rest
    .ok (.showBaseline (w.value? "file") (w.value? "instance"))
  else
    let w ← CommandLine.read checkGrammar rest
    .ok (.checkBaseline (w.value? "file") (w.value? "reports"))

/-- The command with a name and the words after it. -/
def readCommand (name : String) (words : List String) : Except Halt OperatorCommand := do
  if name = "status" then
    let _ ← CommandLine.read (leaf []) words
    .ok .status
  else if name = "results" then
    let w ← CommandLine.read resultsGrammar words
    .ok (.results ((w.value? "target").bind count?))
  else readBaseline words

/-- What the words of a command line say, where `apiUrl` stands in for a URL that is not given. -/
def read (apiUrl : Option String) (words : List String) : Except Halt OperatorRequest := do
  let w ← CommandLine.read grammar words
  let (name, rest) ← requireCommand w
  let command ← readCommand name rest
  .ok ⟨(w.value? "api-url").orElse fun _ => apiUrl,
    ((w.value? "format").bind OutputFormat.ofName?).getD .table, command⟩

end OperatorRequest

end FleetScaling

import FleetScaling.CommandLine.Reading

/-!
# The command line of the bench

The bench runs the stress test or the smoke test. Its settings are in a file that the command line
or a variable names.
-/

namespace FleetScaling

open CommandLine

/-- What the bench is to run. -/
inductive BenchMode
  | stress
  /-- The smoke test, with another number of nodes than is set. -/
  | smoke (nodes : Option UInt32)
  deriving DecidableEq

/-- The name of a mode in the log. -/
def BenchMode.name : BenchMode → String
  | stress => "stress"
  | smoke _ => "smoke"

/-- What the command line of the bench says. -/
structure BenchRequest where
  /-- The file of settings. -/
  settings : Option String
  /-- Whether results are served after the run, until the program is interrupted. -/
  keepServing : Bool
  mode : BenchMode
  deriving DecidableEq

namespace BenchRequest

/-- The name of the program. -/
def program : String := "scaling-bench"

/-- The version of the program. -/
def version : String := "0.1.0"

/-- How the program is used. -/
def usage : String :=
  "scaling-bench [--config FILE] [--wait-for-shutdown] stress | smoke [--max-nodes N]"

/-- The words before the mode. -/
def grammar : Grammar where
  flags := [⟨"config", some 'c', some anyPath⟩, ⟨"wait-for-shutdown", none, none⟩]
  commands := ["stress", "smoke"]
  versioned := true

/-- The words of `stress`. -/
def stressGrammar : Grammar := ⟨[], [], false⟩

/-- The words of `smoke`. -/
def smokeGrammar : Grammar := ⟨[⟨"max-nodes", none, some anyCount⟩], [], false⟩

/-- The mode with a name and the words after it. -/
def readMode (name : String) (words : List String) : Except Halt BenchMode := do
  if name = "stress" then
    let _ ← CommandLine.read stressGrammar words
    .ok .stress
  else
    let w ← CommandLine.read smokeGrammar words
    .ok (.smoke ((w.value? "max-nodes").bind count?))

/-- The file of settings that the words name, or else the usual one. -/
def readSettings (w : Words) (usual : Option String) : Except Halt (Option String) :=
  match w.value? "config", usual with
  | some path, _ => .ok (some path)
  | none, some path => if anyPath path then .ok (some path) else .error .usage
  | none, none => .ok none

/-- What the words of a command line say, where `usual` is the file of settings that is taken when
they name none. -/
def read (usual : Option String) (words : List String) : Except Halt BenchRequest := do
  let w ← CommandLine.read grammar words
  let (name, rest) ← w.command.elim (.error .usage) .ok
  let mode ← readMode name rest
  let settings ← readSettings w usual
  .ok ⟨settings, w.has "wait-for-shutdown", mode⟩

end BenchRequest

end FleetScaling

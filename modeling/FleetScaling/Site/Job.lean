import FleetScaling.Text.Digit

/-!
# Jobs

What is asked of the batch scheduler: a command, and how many nodes and tasks it needs.
`Job.commandLine` is the line that submits it; `submittedId?` and `JobState.ofText?` read what the
scheduler's tools print.
-/

namespace FleetScaling

open Text

/-- A job for the batch scheduler. -/
structure Job where
  command : String
  partition : Option String
  nodes : Option UInt32
  /-- The number of tasks. -/
  tasks : Option UInt32
  deriving DecidableEq

namespace Job

/-- An option with its value, if it has one. -/
def optionText (flag : String) (value : Option String) : String :=
  match value with
  | none => ""
  | some v => " " ++ flag ++ " " ++ v

/-- A character of the command: a double quote gets a backslash in front. -/
def wrappedChar (c : Char) : List Char := if c = '"' then ['\\', '"'] else [c]

/-- The command as it stands between double quotes. -/
def wrapped (command : String) : String := String.ofList (command.toList.flatMap wrappedChar)

/-- The line that submits the job: the command between double quotes, then the options. -/
def commandLine (job : Job) : String :=
  "sbatch --wrap \"" ++ wrapped job.command ++ "\"" ++
    optionText "-p" job.partition ++ optionText "-N" (job.nodes.map toString) ++
    optionText "-n" (job.tasks.map toString)

end Job

/-! ## Answers of the scheduler -/

/-- The first run of characters satisfying `p` that directly follows a marker. -/
def runAfter (marker : List Char) (p : Char → Bool) : List Char → Option (List Char)
  | [] => none
  | c :: cs =>
    let run := ((c :: cs).drop marker.length).takeWhile p
    if marker.isPrefixOf (c :: cs) && !run.isEmpty then some run else runAfter marker p cs

/-- The id in the scheduler's answer to a submission. -/
def submittedId? (output : String) : Option String :=
  (runAfter "Submitted batch job ".toList isDecimalDigit output.toList).map String.ofList

/-- The state of a job. -/
inductive JobState
  | running
  /-- The job is over. -/
  | ended (state : String)
  /-- The job is not running yet. -/
  | waiting (state : String)
  deriving DecidableEq, Repr

namespace JobState

/-- The states of a job that is over. -/
def endStates : List String :=
  ["FAILED", "CANCELLED", "TIMEOUT", "NODE_FAIL", "COMPLETED", "OUT_OF_MEMORY", "BOOT_FAIL",
   "DEADLINE", "PREEMPTED"]

/-- The state of a name. -/
def ofName (name : String) : JobState :=
  if name = "RUNNING" then running else if name ∈ endStates then ended name else waiting name

/-- The state in the scheduler's description of a job. -/
def ofText? (output : String) : Option JobState :=
  (runAfter "JobState=".toList (fun c => !isBlank c) output.toList).map fun name =>
    ofName (String.ofList name)

end JobState

end FleetScaling

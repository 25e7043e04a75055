import FleetScaling.Report.Directory
import FleetScaling.Run.Note

/-!
# Rehearsals

A rehearsal is a run without a cluster: every party does what a script says and keeps a record of
what it was asked for. The script holds the answers that are left, so that each is given once.
-/

namespace FleetScaling.Rehearsal

open Text Time

/-- The requests that can be made to fail. -/
inductive Request
  | run
  | reset
  | submit
  | wait
  | cancel
  | start
  | stop
  | collect
  | report
  deriving DecidableEq, Repr

/-- The answer to the next command that begins with a text. -/
structure Response where
  beginning : String
  /-- The result of the command, or why it cannot be run. -/
  answer : Except String CommandResult

/-- A request that is to fail when it is made for the `nth` time. -/
structure PlannedFailure where
  request : Request
  nth : Nat
  message : String

/-- A program that can be started. -/
structure ScriptedProgram where
  name : String
  /-- How the next starts end. -/
  completions : List Completion
  /-- How all later starts end. -/
  rest : Completion

/-- What a probe answers for one sample. -/
inductive ProbeAnswer
  | counts (instances nodes : UInt32)
  | noInstances (message : String)
  | noNodes (instances : UInt32) (message : String)

/-- What the parties are to do. -/
structure Script where
  responses : List Response
  /-- What a command without a response prints. -/
  defaultOutput : String
  failures : List PlannedFailure
  /-- The requests made so far. -/
  requests : List Request
  /-- The number of the next job. -/
  nextJob : Nat
  /-- The time at the next looks at the clock; the last stays. -/
  clock : List Instant
  /-- The series of the next windows. -/
  series : List Series
  /-- What the probe answers to the next samples. -/
  probe : List ProbeAnswer
  /-- What the probe answers to all later samples. -/
  probeRest : ProbeAnswer
  /-- What the probe answers to the sample that is being taken. -/
  probeCurrent : ProbeAnswer
  programs : List ScriptedProgram
  files : Files
  /-- The reports received so far. -/
  reports : List Report

namespace Script

/-- What a probe says without a script. -/
def exhausted : ProbeAnswer := .noInstances "probe script exhausted"

/-- A script in which everything goes well and nothing is printed. -/
def empty : Script where
  responses := []
  defaultOutput := ""
  failures := []
  requests := []
  nextJob := 100
  clock := []
  series := []
  probe := []
  probeRest := exhausted
  probeCurrent := exhausted
  programs := []
  files := .empty
  reports := []

/-- The files as a part of the script. -/
def filesPart : Part Script Files := ⟨Script.files, fun script files => { script with files }⟩

/-- The message of the failure planned for the next such request, if there is one. -/
def planned? (script : Script) (request : Request) : Option String :=
  let nth := script.requests.count request + 1
  (script.failures.find? fun f => f.request = request ∧ f.nth = nth).map (·.message)

end Script

/-- What a rehearsing party does. -/
abbrev Step (α : Type) := SiteOperation Script α

/-- The script as it is. -/
def current : Step Script := Operation.change fun script => (script, script)

/-- Records a request and fails if that is planned. -/
def request (r : Request) (text : String) : Step Unit := do
  Operation.note (.asked text)
  let script ← current
  Operation.change fun script => ((), { script with requests := script.requests ++ [r] })
  match script.planned? r with
  | some message => .fail (.other message)
  | none => pure ()

/-- Takes the first element with a property out of a list. -/
def takeFirst (p : α → Bool) : List α → Option (α × List α)
  | [] => none
  | a :: as =>
    if p a then some (a, as) else (takeFirst p as).map fun (found, rest) => (found, a :: rest)

/-! ## Parties -/

/-- The head node. -/
def headNode : HeadNode Script where
  run command := do
    request .run ("run " ++ command)
    let script ← current
    match takeFirst (fun r => command.startsWith r.beginning) script.responses with
    | none => pure ⟨0, script.defaultOutput, ""⟩
    | some (response, responses) =>
      Operation.change fun script => ((), { script with responses })
      match response.answer with
      | .ok result => pure result
      | .error message => .fail (.other message)
  reset := request .reset "reset_connection"

/-- The scheduler; it numbers its jobs. -/
def scheduler : Scheduler Script where
  submit job := do
    let script ← current
    let id := toString script.nextJob
    request .submit ("submit " ++ id ++ ": " ++ job.commandLine)
    Operation.change fun script => ((), { script with nextJob := script.nextJob + 1 })
    pure id
  waitRunning id := request .wait ("wait_running " ++ id)
  cancel id := request .cancel ("cancel " ++ id)

/-- A truth value in a record. -/
def shown (b : Bool) : String := if b then "true" else "false"

/-- The fleet of a cluster. -/
def fleet (name : String) : Fleet Script where
  name
  start waitRunning := request .start ("start wait_running=" ++ shown waitRunning)
  stop := request .stop "stop"

/-- What is recorded about a window. -/
def windowText (w : Window) : String :=
  "collect target=" ++ toString w.target ++ " budget=" ++ toString w.budget.seconds ++
    "s region=" ++ w.region ++ " cluster=" ++ w.cluster ++ " publish=" ++ shown w.publish

/-- The collector. -/
def collector : Collector Script where
  collect window := do
    request .collect (windowText window)
    let script ← current
    match script.series with
    | [] => .fail (.other "no scripted series left")
    | next :: series =>
      Operation.change fun script => ((), { script with series })
      pure next

/-- Receives a report and, if there is a directory for them, writes it there. -/
def report (directory : Option String) (r : Report) : Step Unit := do
  request .report ("report " ++ r.fileName)
  Operation.change fun script => ((), { script with reports := script.reports ++ [r] })
  match directory with
  | none => pure ()
  | some directory => (r.store directory).onPart Script.filesPart

/-- Looks at the clock. -/
def clock : Step Instant := Operation.change fun script =>
  match script.clock with
  | [] => (.epoch, script)
  | [last] => (last, script)
  | next :: clock => (next, { script with clock })

/-- Reads a file. -/
def readFile (path : String) : Step (Except FileError String) :=
  Operation.change fun script => (script.files.read path, script)

/-- The probe. Each question about instances begins a sample. -/
def probe : Probe Script where
  instances region cluster := do
    Operation.note (.asked (region ++ "/" ++ cluster))
    let answer ← Operation.change fun script =>
      match script.probe with
      | [] => (script.probeRest, { script with probeCurrent := script.probeRest })
      | next :: probe => (next, { script with probe, probeCurrent := next })
    match answer with
    | .counts instances _ => pure instances
    | .noInstances message => .fail (.other message)
    | .noNodes instances _ => pure instances
  nodes := do
    let script ← current
    match script.probeCurrent with
    | .counts _ nodes => pure nodes
    | .noInstances message => .fail (.other message)
    | .noNodes _ message => .fail (.other message)

/-- The programs of the script; no others exist. -/
def programs : Programs Script where
  start program arguments := do
    let script ← current
    match script.programs.find? fun p => p.name = program with
    | none => pure (.error .notFound)
    | some found =>
      Operation.note (.started program arguments)
      let completion := found.completions.headD found.rest
      let next := { found with completions := found.completions.drop 1 }
      Operation.change fun script => ((), { script with
        programs := script.programs.map fun p => if p.name = program then next else p })
      pure (.ok completion)

/-- A site of rehearsing parties. -/
def site (cluster : String) (directory : Option String) : Site Script where
  headNode
  scheduler
  fleet := fleet cluster
  collector
  report := report directory
  clock
  readFile

end FleetScaling.Rehearsal

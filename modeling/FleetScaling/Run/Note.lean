import FleetScaling.Progress.Tracker
import FleetScaling.Report.Basic
import FleetScaling.Site.Collector
import FleetScaling.Site.Fleet
import FleetScaling.Site.Scheduler

/-!
# Notes of a run

A run works on a site: a head node, a scheduler, a fleet and the other parties. What it asks of
them is a `Call`. The notes of a run are its calls, the progress it publishes, what it does itself
and what the parties note while they are called; a party can add notes of the last kind only.
-/

namespace FleetScaling

open Time

/-- The parties that a run works with. -/
structure Site (ω : Type) where
  headNode : HeadNode ω
  scheduler : Scheduler ω
  fleet : Fleet ω
  collector : Collector ω
  /-- Receives the report on a cycle. -/
  report (r : Report) : SiteOperation ω Unit
  clock : SiteOperation ω Instant
  /-- Reads a file of the machine that the bench runs on. -/
  readFile (path : String) : SiteOperation ω (Except FileError String)

/-- What a run asks of a party. -/
inductive Call
  | disableProtectedMode
  | resetConnection
  | startFleet (waitRunning : Bool)
  | submit (job : Job)
  | waitRunning (id : String)
  | readClock
  | collect (window : Window)
  | cancel (id : String)
  | stopFleet
  | report (r : Report)
  | readLogs (files : List String)
  deriving DecidableEq

/-- Something that happened in a run. -/
inductive RunNote
  | called (call : Call)
  /-- The head node has answered, so that the run can begin. -/
  | ready
  | progress (update : ProgressUpdate)
  /-- The run did something itself. -/
  | own (note : SiteNote)
  /-- A party did something. -/
  | party (note : SiteNote)

namespace RunNote

/-- The note of whoever did something, if it is one. -/
def siteNote? : RunNote → Option SiteNote
  | own note => some note
  | party note => some note
  | _ => none

/-- The call, if it is one. -/
def call? : RunNote → Option Call
  | called call => some call
  | _ => none

/-- The progress that was published, if any. -/
def update? : RunNote → Option ProgressUpdate
  | progress update => some update
  | _ => none

end RunNote

/-- The world of a run: that of the parties, and the soft checks so far. -/
structure RunWorld (ω : Type) where
  site : ω
  soft : SoftChecks

/-- What a run does on a site. -/
abbrev RunOperation (ω α : Type) := Operation RunNote (RunWorld ω) α

/-- The site as a part of a run's world. -/
def sitePart : Part (RunWorld ω) ω := ⟨RunWorld.site, fun world site => { world with site }⟩

/-- Calls a party. -/
def ask (call : Call) (x : SiteOperation ω α) : RunOperation ω α := do
  Operation.note (.called call)
  (x.renote RunNote.party).onPart sitePart

/-- Does something without calling a party. -/
def own (note : SiteNote) : RunOperation ω Unit := Operation.note (.own note)

/-- Writes to the log. -/
def tell (entry : LogEntry) : RunOperation ω Unit := own (.logged entry)

/-- Goes on with a result that the run itself needs, unless the program panics. -/
def ownOrPanic (result : Except Panic α) : RunOperation ω α :=
  ((orPanic result).renote RunNote.own).onPart sitePart

/-- Publishes progress. -/
def publish (update : ProgressUpdate) : RunOperation ω Unit := Operation.note (.progress update)

/-- Records soft failures. -/
def recordFailures (failures : List SoftFailure) : RunOperation ω Unit :=
  Operation.change fun world => ((), { world with soft := world.soft.addAll failures })

/-- The soft failures so far. -/
def failuresSoFar : RunOperation ω (List SoftFailure) :=
  Operation.change fun world => (world.soft.failures, world)

end FleetScaling

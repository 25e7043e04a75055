import FleetScaling.Bench.CommandLine
import FleetScaling.Bench.Machine
import FleetScaling.Run.Smoke
import FleetScaling.Run.Stress

/-!
# The program of the bench

The bench reads its settings, makes sure that the head node answers and runs a test. Whatever comes
of the test, the end of the run is logged, and after it the failure if there is one. What the
program shows to the outside meanwhile can be read off its notes.
-/

namespace FleetScaling

open CommandLine Json Text

/-- Judges a component by the outcome of an operation that used it. -/
def judgeBy (component : Component) (outcome : Except Failure α) : RunOperation ω Unit :=
  let (health, detail) := HealthRegistry.verdict outcome
  own (.judged component health detail)

/-- Does something and judges a component by its outcome. -/
def judged (component : Component) (x : RunOperation ω α) : RunOperation ω α := do
  let outcome ← x.attempt
  judgeBy component outcome
  .ofExcept outcome

/-- Makes sure that the head node answers. -/
def preflight (headNode : HeadNode ω) : RunOperation ω Unit := do
  let _ ← judged .headNode (((headNode.runChecked "hostname").renote RunNote.party).onPart sitePart)
  Operation.note .ready

/-- Runs the smoke test; its end is published. -/
def publishedSmokeTest (s : BenchSettings) (m : Machine ω) (nodes : UInt32) :
    RunOperation ω Unit := do
  publish (.phase .smokeTest (some nodes))
  let outcome ←
    (judged .scheduler (smokeTest (s.headNodeOn m) (s.schedulerOn m) s.cluster nodes)).attempt
  match outcome with
  | .ok _ => publish .completed
  | .error failure => publish (.failed failure.message)
  .ofExcept outcome

/-- Runs the stress test. -/
def judgedStressTest (s : BenchSettings) (m : Machine ω) : RunOperation ω Unit := do
  let sampler ← .ofExcept (s.samplerOn m)
  let context ← ownOrPanic s.context
  let results ← judged .computeFleet (stressTest context (s.siteOn m sampler))
  tell (.info "Stress test finished" [("targets", .integer results.length)])

/-- Runs the test of a mode. -/
def BenchMode.test (mode : BenchMode) (s : BenchSettings) (m : Machine ω) :
    RunOperation ω Unit :=
  match mode with
  | .stress => judgedStressTest s m
  | .smoke nodes => publishedSmokeTest s m (nodes.getD s.smokeNodes)

/-- What is logged about the settings. -/
def BenchSettings.entry (s : BenchSettings) : LogEntry :=
  .info "Bench configured"
    [("cluster", .text s.cluster), ("region", .text s.region),
     ("targets", .text ("[" ++ joined ", " (s.targets.map toString) ++ "]"))]

/-- Logs the end of a run. When results are still served, that goes on until an interrupt. -/
def conclude (s : BenchSettings) (keepServing : Bool) : RunOperation ω Unit := do
  if keepServing then
    tell (.info "Run finished, serving results until interrupted"
      [("port", .integer s.apiPort.toNat)])
  tell (Journal.shutdown s.cluster (if keepServing then "SIGINT received" else "run finished"))

/-- Runs a test with the given settings. -/
def benchRun (request : BenchRequest) (s : BenchSettings) (m : Machine ω) :
    RunOperation ω Unit := do
  tell s.entry
  own (.measured (.run s.region s.computeNode s.strategy.name))
  tell (Journal.started s.cluster BenchRequest.version request.mode.name)
  preflight (s.headNodeOn m)
  let outcome ← (request.mode.test s m).attempt
  conclude s request.keepServing
  .ofExcept outcome

/-- Reads the settings and runs a test. -/
def BenchRequest.attemptRun (request : BenchRequest) (environment : List (String × String))
    (m : Machine ω) : RunOperation ω Unit := do
  let files ← Operation.change fun world => (m.files.get world.site, world)
  let s ← .ofExcept (BenchSettings.load files request.settings environment)
  benchRun request s m

/-- What is logged about the failure of the program. -/
def failureEntry (failure : Failure) : LogEntry :=
  ⟨.error, "Scaling bench failed", none, [("error", .text failure.message)]⟩

/-- Does what a command line says; a failure is logged in the end. -/
def BenchRequest.carryOut (request : BenchRequest) (environment : List (String × String))
    (m : Machine ω) : RunOperation ω Unit := do
  let outcome ← (request.attemptRun environment m).attempt
  match outcome with
  | .ok _ => pure ()
  | .error failure =>
    tell (failureEntry failure)
    .fail failure

/-! ## The end of the program -/

/-- Whether the program panics at a note. -/
def RunNote.panics (n : RunNote) : Bool :=
  match n.siteNote? with
  | some (.panicked _) => true
  | _ => false

/-- The notes of a program, which ends when it panics. -/
def untilPanic (notes : List RunNote) : List RunNote := notes.takeWhile fun n => !n.panics

/-- The exit code of a program that panics. -/
def panicCode : Nat := 101

/-- The exit code of a program with some notes and an outcome. -/
def exitCode (notes : List RunNote) (outcome : Except Failure Unit) : Nat :=
  if notes.any RunNote.panics then panicCode else if outcome.isOk then 0 else 1

/-- How the program of the bench ends. -/
structure BenchEnd (ω : Type) where
  code : Nat
  /-- What is said about the command line, if nothing was run. -/
  exit : Option Exit
  notes : List RunNote
  world : ω

/-- Runs the program of the bench with some words and variables. A panic is a failure for the parts of
the program, which only note and pass it on; here what they have noted after it is left out. -/
def Machine.runBench (m : Machine ω) (environment : List (String × String)) (words : List String)
    (world : ω) : BenchEnd ω :=
  match BenchRequest.read (environment.lookup "SCALING_CONFIG") words with
  | .error halt =>
    let exit := halt.exit BenchRequest.program BenchRequest.version BenchRequest.usage
    ⟨exit.code, some exit, [], world⟩
  | .ok request =>
    let trace := request.carryOut environment m ⟨world, .empty⟩
    ⟨exitCode trace.notes trace.outcome, none, untilPanic trace.notes, trace.world.site⟩

end FleetScaling

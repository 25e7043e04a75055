import FleetScaling.Checks.Soft
import FleetScaling.Progress.Status
import FleetScaling.Scaling.Result

/-!
# Progress of a run

What can be seen of a run while it goes on: its status, and the results and failures so far. Each
change is a `ProgressUpdate`.
-/

namespace FleetScaling

open Json

/-- The results and failures so far. -/
structure RunResults where
  results : List CycleResult
  failures : List SoftFailure
  deriving DecidableEq

namespace RunResults

/-- The results as a document. -/
def toValue (r : RunResults) : Value :=
  .object [("results", .list (r.results.map CycleResult.toValue)),
    ("assertion_failures", .list (r.failures.map SoftFailure.toValue))]

/-- The fields of the results. -/
def record : Record RunResults :=
  RunResults.mk <$> .field "results" (.list CycleResult.decoder) <*>
    .field "assertion_failures" (.list SoftFailure.decoder)

/-- Decodes results. -/
def decoder : Decoder RunResults := record.decoder "RunResults"

end RunResults

/-- A change in the progress of a run. -/
inductive ProgressUpdate
  /-- A phase begins, for a target or for none. -/
  | phase (phase : Phase) (target : Option UInt32)
  /-- A cycle is finished. -/
  | result (result : CycleResult)
  /-- These are the failures so far. -/
  | failures (failures : List SoftFailure)
  | completed
  | failed (message : String)

/-- The progress of a run. -/
structure RunProgress where
  status : Status
  results : RunResults
  deriving DecidableEq

namespace RunProgress

/-- The progress of a run that has not begun. -/
def initial (now : Int64) : RunProgress := ⟨⟨.idle, none, [], 0, none, now⟩, ⟨[], []⟩⟩

/-- The progress after the end of the run. -/
def finish (p : RunProgress) (now : Int64) (phase : Phase) (message : Option String) :
    RunProgress :=
  { p with status := { p.status with phase, target := none, message, updatedAt := now } }

/-- The progress after a change at the given time. -/
def apply (now : Int64) (p : RunProgress) : ProgressUpdate → RunProgress
  | .phase phase target => { p with status := { p.status with phase, target, updatedAt := now } }
  | .result result =>
    { status := { p.status with
        completed := p.status.completed ++ [result.target], updatedAt := now }
      results := { p.results with results := p.results.results ++ [result] } }
  | .failures failures =>
    { status := { p.status with failureCount := UInt64.ofNat failures.length }
      results := { p.results with failures } }
  | .completed => p.finish now .completed none
  | .failed message => p.finish now .failed (some message)

end RunProgress

end FleetScaling

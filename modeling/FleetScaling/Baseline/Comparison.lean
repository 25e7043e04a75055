import FleetScaling.Baseline.Basic
import FleetScaling.Checks.Soft
import FleetScaling.Scaling.Result

/-!
# Comparing results with a baseline

A result is compared with the baseline of its combination, metric by metric; a metric passes when
it took no longer than expected. A result whose combination has no complete baseline is missing
one. The same comparison serves the run, as soft checks, and the offline check, as rows.
-/

namespace FleetScaling

open Json

/-- An observed duration beside the expected one, in seconds. -/
structure MetricCheck where
  metric : Metric
  observed : Int64
  expected : Int64
  deriving DecidableEq

/-- Whether the duration was no longer than expected. -/
def MetricCheck.passed (check : MetricCheck) : Bool := check.observed ≤ check.expected

/-- The failure of a check in a run with the given target, unless it passed. -/
def MetricCheck.softFailure? (target : UInt32) (check : MetricCheck) : Option SoftFailure :=
  SoftFailure.unlessAtMost toString target check.metric.name check.observed check.expected

namespace Baseline

/-- The checks of a result, or nothing if the baseline is missing. -/
def checks? (b : Baseline) (r : CycleResult) : Option (List MetricCheck) :=
  (b.lookup r.computeNode r.target r.strategy).map fun times =>
    [⟨.instancesUp, r.instancesUp, times.instancesUp⟩,
     ⟨.nodesUp, r.nodesUp, times.nodesUp⟩,
     ⟨.down, r.down, times.down⟩]

end Baseline

/-- What is said about a combination that has no baseline in the file at `path`. -/
def missingBaselineMessage (computeNode target strategy path : String) : String :=
  "Baseline for ComputeNode (" ++ computeNode ++ "), ScalingTarget (" ++ target ++
    "), ScalingStrategy (" ++ strategy ++ ") not found. You need to build it in " ++ path

/-- One compared metric as the offline check shows it. -/
structure CheckRow where
  target : UInt32
  strategy : String
  metric : String
  observed : String
  baseline : String
  passed : Bool
  deriving DecidableEq

namespace CheckRow

/-- The verdict in words. -/
def verdict (row : CheckRow) : String := if row.passed then "pass" else "fail"

/-- The row of a check of a result. -/
def ofCheck (r : CycleResult) (check : MetricCheck) : CheckRow :=
  ⟨r.target, r.strategy.name, check.metric.name, toString check.observed ++ "s",
    toString check.expected ++ "s", check.passed⟩

/-- The row as a document. -/
def toValue (row : CheckRow) : Value :=
  .object [("target", .integer row.target.toNat), ("strategy", .text row.strategy),
    ("metric", .text row.metric), ("observed", .text row.observed),
    ("baseline", .text row.baseline), ("result", .text row.verdict)]

end CheckRow

namespace Baseline

/-- The rows of all results that have a baseline, in order. -/
def checkRows (b : Baseline) (results : List CycleResult) : List CheckRow :=
  results.flatMap fun r => ((b.checks? r).getD []).map (CheckRow.ofCheck r)

/-- The results that have no baseline, in order. -/
def missing (b : Baseline) (results : List CycleResult) : List CycleResult :=
  results.filter fun r => (b.checks? r).isNone

end Baseline

end FleetScaling

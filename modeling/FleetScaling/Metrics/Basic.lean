import FleetScaling.Json.Value
import FleetScaling.Scaling.Strategy

/-!
# Metrics

What a run publishes as numbers. `Metrics` is the state of all of them, and every change is a
`MetricUpdate`.
-/

namespace FleetScaling

/-- One change of the metrics. -/
inductive MetricUpdate
  /-- A sample was taken while waiting for a target. -/
  | sample (cluster : String) (instances nodes target : UInt32)
  /-- A phase took so many seconds. -/
  | duration (phase : String) (seconds : Int64)
  /-- A sample could not be taken. -/
  | probeError
  /-- So many soft checks have failed so far. -/
  | softFailures (count : Nat)
  /-- What is being run. -/
  | run (region computeNode strategy : String)
  deriving DecidableEq

/-- The last sample of a cluster. -/
structure ClusterGauges where
  instances : UInt32
  nodes : UInt32
  target : UInt32
  deriving DecidableEq

/-- What is being run. -/
structure RunLabels where
  region : String
  computeNode : String
  strategy : String
  deriving DecidableEq

/-- All metrics of a process. -/
structure Metrics where
  /-- The last sample of every cluster that was sampled. -/
  clusters : List (String × ClusterGauges)
  /-- The seconds observed for every phase, in the order of observation. -/
  durations : List (String × List Int64)
  probeErrors : Nat
  softFailures : Nat
  run : Option RunLabels

namespace Metrics

/-- The metrics of a process that has done nothing. -/
def empty : Metrics := ⟨[], [], 0, 0, none⟩

/-- The values by key, with the one under `key` changed or, where it is missing, made. -/
def adjust (key : String) (f : Option α → α) : List (String × α) → List (String × α)
  | [] => [(key, f none)]
  | entry :: rest =>
    if entry.1 = key then (key, f (some entry.2)) :: rest else entry :: adjust key f rest

/-- The metrics after a change. -/
def apply (m : Metrics) : MetricUpdate → Metrics
  | .sample cluster instances nodes target =>
    { m with clusters := adjust cluster (fun _ => ⟨instances, nodes, target⟩) m.clusters }
  | .duration phase seconds =>
    { m with durations := adjust phase (fun before => before.getD [] ++ [seconds]) m.durations }
  | .probeError => { m with probeErrors := m.probeErrors + 1 }
  | .softFailures count => { m with softFailures := count }
  | .run region computeNode strategy => { m with run := some ⟨region, computeNode, strategy⟩ }

end Metrics

end FleetScaling

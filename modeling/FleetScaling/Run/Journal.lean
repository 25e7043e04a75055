import FleetScaling.Baseline.Comparison
import FleetScaling.Site.Log
import FleetScaling.Time.Duration

/-!
# The journal of a run

The log entries about the course of a run, each about one event on one cluster.
-/

namespace FleetScaling.Journal

open Json

/-- An entry about an event on a cluster. -/
def entry (severity : Severity) (cluster event message : String)
    (fields : List (String × Value)) : LogEntry :=
  ⟨severity, message, some event, ("cluster", .text cluster) :: fields⟩

/-- The bench has started. -/
def started (cluster version mode : String) : LogEntry :=
  entry .info cluster "bench_started" "Scaling bench started"
    [("bench_version", .text version), ("mode", .text mode)]

/-- The bench is about to end. -/
def shutdown (cluster reason : String) : LogEntry :=
  entry .info cluster "bench_shutdown" "Scaling bench shutting down" [("reason", .text reason)]

/-- A job was taken by the scheduler. -/
def jobSubmitted (cluster id : String) (nodes : UInt32) : LogEntry :=
  entry .info cluster "job_submitted" "Submitted job"
    [("job_id", .text id), ("nodes", .integer nodes.toNat)]

/-- A job is running. -/
def jobRunning (cluster id : String) : LogEntry :=
  entry .info cluster "job_running" "Job is running" [("job_id", .text id)]

/-- A job was cancelled. -/
def jobCancelled (cluster id : String) : LogEntry :=
  entry .info cluster "job_cancelled" "Job cancelled" [("job_id", .text id)]

/-- The cluster has reached a target. -/
def scaledUp (cluster : String) (target : UInt32) (instancesUp nodesUp : Int64) : LogEntry :=
  entry .info cluster "scale_up_complete" "Scale up complete"
    [("scaling_target", .integer target.toNat), ("scale_up_time_ec2", .integer instancesUp.toInt),
     ("scale_up_time_scheduler", .integer nodesUp.toInt)]

/-- The cluster has shrunk to nothing. -/
def scaledDown (cluster : String) (target : UInt32) (down : Int64) : LogEntry :=
  entry .info cluster "scale_down_complete" "Scale down complete"
    [("scaling_target", .integer target.toNat), ("scale_down_time", .integer down.toInt)]

/-- The run waits before the next target. -/
def refilling (cluster : String) (seconds : Nat) : LogEntry :=
  entry .info cluster "waiting_for_refill"
    "Waiting for the RunInstances Resource Token Bucket to refill"
    [("delay_secs", .integer seconds)]

/-- A combination has no baseline. -/
def baselineMissing (cluster computeNode : String) (target : UInt32) (strategy path : String) :
    LogEntry :=
  entry .warning cluster "baseline_missing"
    (missingBaselineMessage computeNode (toString target) strategy path)
    [("compute_node", .text computeNode), ("scaling_target", .integer target.toNat),
     ("scaling_strategy", .text strategy), ("baseline_path", .text path)]

/-- A soft check has failed. -/
def softFailure (cluster : String) (f : SoftFailure) : LogEntry :=
  entry .warning cluster "assertion_failed" "Soft assertion failed"
    [("scaling_target", .integer f.target.toNat), ("check", .text f.check),
     ("expected", .text f.expected), ("actual", .text f.actual)]

end FleetScaling.Journal

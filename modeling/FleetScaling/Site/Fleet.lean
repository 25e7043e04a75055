import FleetScaling.Json.Record
import FleetScaling.Site.Command

/-!
# The compute fleet

The compute fleet of a cluster is started and stopped as a whole. `ParallelCluster.fleet` does so
with the command-line tool of AWS ParallelCluster. Stopping does not wait for the nodes to go.
-/

namespace FleetScaling

open Text Json Time

/-- The compute fleet of a cluster. -/
structure Fleet (ω : Type) where
  /-- The name of the cluster. -/
  name : String
  /-- Starts the fleet and, if asked to, waits until it is running. -/
  start (waitRunning : Bool) : SiteOperation ω Unit
  stop : SiteOperation ω Unit

/-- What is reported about a fleet. -/
structure FleetStatus where
  status : String
  /-- When the status last changed. -/
  updated : Option String
  deriving DecidableEq

namespace FleetStatus

/-- The fields of the report. -/
def record : Record FleetStatus :=
  FleetStatus.mk <$> .field "status" (.text "a string") <*>
    .fieldOr "lastStatusUpdatedTime" (Decoder.text "a string").optional (some none) (some none)

/-- The status in the output of the tool. -/
def ofText (output : String) : Except Failure FleetStatus :=
  decodeWithin "Failed to parse describe-compute-fleet output"
    (record.decoder "ComputeFleetStatus") output

end FleetStatus

/-- A cluster of AWS ParallelCluster. -/
structure ParallelCluster (ω : Type) where
  name : String
  region : String
  programs : Programs ω
  /-- The time between two looks at the fleet. -/
  pollInterval : Interval
  /-- How long the fleet may take to run. -/
  startLimit : Duration

namespace ParallelCluster

/-- A cluster with the usual patience. -/
def ofPrograms (name region : String) (programs : Programs ω) : ParallelCluster ω :=
  ⟨name, region, programs, usualLook, .ofSeconds 900⟩

/-- The arguments that all commands have. -/
def common (c : ParallelCluster ω) : List String := ["--cluster-name", c.name, "--region", c.region]

/-- Asks for another status. -/
def request (c : ParallelCluster ω) (status : String) : SiteOperation ω Unit := do
  let _ ← (c.programs.runChecked "pcluster"
      (["update-compute-fleet"] ++ c.common ++ ["--status", status])).within
    ("Failed to set compute fleet of " ++ c.name ++ " to " ++ status)

/-- The status of the fleet. -/
def status (c : ParallelCluster ω) : SiteOperation ω FleetStatus := do
  let result ← c.programs.runChecked "pcluster" (["describe-compute-fleet"] ++ c.common)
  .ofExcept (FleetStatus.ofText result.output)

/-- Whether the fleet is running, or else what it is. -/
def isRunning (c : ParallelCluster ω) : SiteOperation ω (Except String Unit) := do
  let fleet ← c.status
  pure (if fleet.status = "RUNNING" then .ok () else .error fleet.status)

/-- What is said about a fleet that is not running in time. -/
def late (c : ParallelCluster ω) (waited : Duration) (status : String) : SiteOperation ω Unit :=
  .fail (.other ("Compute fleet of " ++ c.name ++ " still " ++ status ++ " after " ++ waited.text))

/-- What is logged about the fleet. -/
def entry (c : ParallelCluster ω) (message : String) : LogEntry :=
  .info message [("cluster", .text c.name)]

/-- Starts the fleet. -/
def start (c : ParallelCluster ω) (waitRunning : Bool) : SiteOperation ω Unit := do
  c.request "START_REQUESTED"
  log (c.entry "Compute fleet start requested")
  if waitRunning then
    lookUntil c.pollInterval c.startLimit c.isRunning c.late .zero
    log (c.entry "Compute fleet running")

/-- Stops the fleet. -/
def stop (c : ParallelCluster ω) : SiteOperation ω Unit := do
  c.request "STOP_REQUESTED"
  log (c.entry "Compute fleet stop requested")

/-- The cluster's compute fleet. -/
def fleet (c : ParallelCluster ω) : Fleet ω := ⟨c.name, c.start, c.stop⟩

end ParallelCluster

/-! ## Protected mode -/

/-- The configuration of the daemon that manages the fleet, on the head node. -/
def managerConfig : String :=
  "/etc/parallelcluster/slurm_plugin/parallelcluster_clustermgtd.conf"

/-- The command that keeps the manager from stopping to scale after repeated failures. -/
def unprotectCommand : String :=
  "sudo sed -i -E 's/^protected_failure_count *=.*/protected_failure_count = -1/' " ++
    managerConfig ++ " && (grep -q '^protected_failure_count' " ++ managerConfig ++
    " || echo 'protected_failure_count = -1' | sudo tee -a " ++ managerConfig ++ " > /dev/null)"

/-- Keeps the manager from stopping to scale after repeated failures. -/
def disableProtectedMode (headNode : HeadNode ω) : SiteOperation ω Unit := do
  let _ ← (headNode.runChecked unprotectCommand).within "Failed to disable protected mode"
  log (.info "Protected mode disabled" [])

end FleetScaling

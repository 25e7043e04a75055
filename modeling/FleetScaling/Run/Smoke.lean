import FleetScaling.Run.Journal
import FleetScaling.Run.Note
import FleetScaling.Site.LogFile

/-!
# The smoke test

One large job is run and cancelled once it runs, and the manager of the fleet must not have logged
that nodes failed to start.
-/

namespace FleetScaling

/-- The log of the daemon that manages the fleet, on the head node. -/
def managerLog : String := "/var/log/parallelcluster/clustermgtd"

/-- What the manager logs when nodes fail to start. -/
def bootstrapFailureMarker : String := "Found the following bootstrap failure nodes"

/-- The partition that the job runs in. -/
def smokePartition : String := "queue-0"

/-- The size of the job unless another is asked for. -/
def usualSmokeNodes : UInt32 := 1000

/-- The job of the smoke test. -/
def smokeJob (nodes : UInt32) : Job :=
  ⟨"srun sleep 10", some smokePartition, some nodes, some nodes⟩

/-- Runs the smoke test on a cluster with so many nodes. -/
def smokeTest (headNode : HeadNode ω) (scheduler : Scheduler ω) (cluster : String)
    (nodes : UInt32) : RunOperation ω Unit := do
  let job := smokeJob nodes
  let id ← ask (.submit job) ((scheduler.submit job).within "Smoke test job was not accepted")
  tell (Journal.jobSubmitted cluster id nodes)
  ask (.waitRunning id) (scheduler.waitRunning id)
  tell (Journal.jobRunning cluster id)
  ask (.cancel id) (scheduler.cancel id)
  tell (Journal.jobCancelled cluster id)
  ask (.readLogs [managerLog]) (expectNotLogged headNode [bootstrapFailureMarker] [managerLog])

end FleetScaling

import FleetScaling.Site.Command
import FleetScaling.Site.Job
import FleetScaling.Text.Quoted

/-!
# The batch scheduler

A scheduler takes jobs, waits for them to run and cancels them. `Slurm.scheduler` does so with the
tools of Slurm on the head node.
-/

namespace FleetScaling

open Text Json Time

/-- A batch scheduler. -/
structure Scheduler (ω : Type) where
  /-- Submits a job and gives its id. -/
  submit (job : Job) : SiteOperation ω String
  /-- Waits until a job is running. -/
  waitRunning (id : String) : SiteOperation ω Unit
  cancel (id : String) : SiteOperation ω Unit

/-- A choice as the log shows it. -/
def shownChoice (write : α → String) : Option α → String
  | none => "None"
  | some a => "Some(" ++ write a ++ ")"

/-- Slurm on a head node. -/
structure Slurm (ω : Type) where
  headNode : HeadNode ω
  /-- The time between two looks at a job. -/
  pollInterval : Interval
  /-- How long a job may take to run. -/
  runningLimit : Duration

namespace Slurm

/-- Slurm with the usual patience. -/
def ofHeadNode (headNode : HeadNode ω) : Slurm ω := ⟨headNode, usualLook, .ofSeconds 1800⟩

/-- The id of a job that was taken, or why it was not. -/
def accepted (result : CommandResult) : Except Failure String :=
  match result.success, submittedId? result.output with
  | true, some id => .ok id
  | _, _ => .error (.of (.jobNotAccepted (trim result.output ++ trim result.errors)))

/-- Submits a job. -/
def submit (s : Slurm ω) (job : Job) : SiteOperation ω String := do
  let id ← .ofExcept (accepted (← s.headNode.run job.commandLine))
  log <| .info "Job submitted"
    [("job_id", .text id), ("nodes", .text (shownChoice toString job.nodes)),
     ("partition", .text (shownChoice quoted job.partition))]
  pure id

/-- The state of a job. -/
def jobState (s : Slurm ω) (id : String) : SiteOperation ω JobState := do
  let result ← s.headNode.runChecked ("scontrol show jobs -o " ++ id)
  match JobState.ofText? result.output with
  | some state => pure state
  | none => .fail (.other ("No JobState in scontrol output for job " ++ id))

/-- Whether a job is running; it fails when the job is over. -/
def isRunning (s : Slurm ω) (id : String) : SiteOperation ω (Except Unit Unit) := do
  match ← s.jobState id with
  | .running => pure (.ok ())
  | .ended state => .fail (.of (.jobEnded id state))
  | .waiting _ => pure (.error ())

/-- Waits until a job is running. -/
def waitRunning (s : Slurm ω) (id : String) : SiteOperation ω Unit :=
  lookUntil s.pollInterval s.runningLimit (s.isRunning id)
    (fun waited _ => .fail (.of (.jobNotRunning id waited))) .zero

/-- Cancels a job. -/
def cancel (s : Slurm ω) (id : String) : SiteOperation ω Unit := do
  let _ ← (s.headNode.runChecked ("scancel " ++ id)).within ("Failed to cancel job " ++ id)
  log (.info "Job cancelled" [("job_id", .text id)])

/-- Slurm as a scheduler. -/
def scheduler (s : Slurm ω) : Scheduler ω := ⟨s.submit, s.waitRunning, s.cancel⟩

end Slurm

end FleetScaling

import FleetScaling.Baseline.Comparison
import FleetScaling.Baseline.File
import FleetScaling.Run.Journal
import FleetScaling.Run.Note

/-!
# Cycles

One cycle scales a cluster to a target and back: the fleet is started, a placeholder job makes it
grow, and once the target was observed the job is cancelled and the fleet stopped. The durations
are read off the series of the two monitoring windows. A target that is never observed fails the
cycle; sizes and durations that are not as expected are recorded as soft failures.
-/

namespace FleetScaling

open Json Text Time

/-- What does not change during a run. -/
structure RunContext where
  region : String
  os : String
  computeNode : String
  headNode : String
  strategy : Strategy
  /-- The budget of each monitoring window. -/
  budget : Duration
  baselinePath : String
  /-- The pause between two targets. -/
  refillDelay : Duration
  targets : List UInt32
  /-- Whether samples become metrics. -/
  publish : Bool
  deriving DecidableEq

namespace RunContext

/-- The job that makes a cluster grow to a target. -/
def placeholder (c : RunContext) (target : UInt32) : Job :=
  ⟨"srun sleep " ++ toString c.budget.seconds, none, some target, none⟩

/-- The window that waits for a target. -/
def window (c : RunContext) (cluster : String) (target : UInt32) : Window :=
  ⟨c.budget, c.region, cluster, c.publish, target⟩

end RunContext

/-! ## Milestones -/

/-- What is logged about a milestone that lies before its reference. -/
def clampedEntry (target : UInt32) (reference : Instant) (m : Milestone) : LogEntry :=
  .warning "Scaling target reached before the reference instant, clamping to zero"
    [("scaling_target", .integer target.toNat), ("reached_at", .text m.reachedAt.text),
     ("reference", .text reference.text),
     ("elapsed_secs", .integer (m.reachedAt.secondsSince reference))]

/-- The milestone of a column; `failing` is said if there is none. -/
def findMilestone (failing : String) (column : List UInt32) (times : List Float)
    (target : UInt32) (reference : Instant) : RunOperation ω Milestone := do
  let m ← .ofExcept <| withContext failing <|
    (Milestone.locate column times target reference).mapError fun e => .of (.milestone e)
  if m.reachedAt.secondsSince reference < 0 then tell (clampedEntry target reference m)
  pure m

/-- The milestone at which the launched instances reached a target. -/
def instancesMilestone (series : Series) (target : UInt32) (reference : Instant) :
    RunOperation ω Milestone :=
  findMilestone "EC2 capacity never reached the scaling target" series.instances series.times
    target reference

/-- The milestone at which the joined nodes reached a target. -/
def nodesMilestone (series : Series) (target : UInt32) (reference : Instant) :
    RunOperation ω Milestone :=
  findMilestone "Joined compute nodes never reached the scaling target" series.nodes series.times
    target reference

/-- The milestone at which no node was left. -/
def downMilestone (series : Series) (reference : Instant) : RunOperation ω Milestone :=
  findMilestone "Joined compute nodes never scaled down to zero" series.nodes series.times 0
    reference

/-! ## Two halves -/

/-- What was observed while the cluster grew. -/
structure GrowthPhase where
  startTime : Instant
  series : Series
  instances : Milestone
  nodes : Milestone

/-- What was observed while the cluster shrank. -/
structure ShrinkPhase where
  series : Series
  nodes : Milestone

/-- The start of the current minute. -/
def currentMinute (site : Site ω) : RunOperation ω Instant := do
  let now ← ask .readClock site.clock
  pure now.startOfMinute

/-- Scales up; gives the id of the placeholder job too, which still runs. -/
def scaleUp (context : RunContext) (site : Site ω) (target : UInt32) :
    RunOperation ω (String × GrowthPhase) := do
  let cluster := site.fleet.name
  ask .resetConnection site.headNode.reset
  ask (.startFleet true) ((site.fleet.start true).within "Failed to start the compute fleet")
  let job := context.placeholder target
  let id ← ask (.submit job) (site.scheduler.submit job)
  tell (Journal.jobSubmitted cluster id target)
  let startTime ← currentMinute site
  publish (.phase .scalingUp (some target))
  let window := context.window cluster target
  let series ← ask (.collect window) (site.collector.collect window)
  let instances ← instancesMilestone series target startTime
  let nodes ← nodesMilestone series target startTime
  tell (Journal.scaledUp cluster target instances.elapsed nodes.elapsed)
  pure (id, ⟨startTime, series, instances, nodes⟩)

/-- Cancels the placeholder job and scales down. -/
def scaleDown (context : RunContext) (site : Site ω) (target : UInt32) (id : String) :
    RunOperation ω ShrinkPhase := do
  let cluster := site.fleet.name
  ask (.cancel id) (site.scheduler.cancel id)
  tell (Journal.jobCancelled cluster id)
  ask .stopFleet (site.fleet.stop.within "Failed to stop the compute fleet")
  let startTime ← currentMinute site
  publish (.phase .scalingDown (some target))
  let window := context.window cluster 0
  let series ← ask (.collect window) (site.collector.collect window)
  let nodes ← downMilestone series startTime
  tell (Journal.scaledDown cluster target nodes.elapsed)
  pure ⟨series, nodes⟩

/-! ## Result and checks -/

/-- The result of both halves. -/
def RunContext.result (c : RunContext) (target : UInt32) (up : GrowthPhase) (down : ShrinkPhase) :
    CycleResult :=
  ⟨c.region, c.os, c.computeNode, c.headNode, target, c.strategy, up.instances.elapsed,
    up.nodes.elapsed, down.nodes.elapsed⟩

/-- The report on both halves. -/
def RunContext.report (c : RunContext) (cluster : String) (up : GrowthPhase) (down : ShrinkPhase)
    (result : CycleResult) : Report :=
  ⟨result.title, c.region, cluster, up.startTime, down.series.endTime, result.target,
    up.nodes.reachedAt.startOfMinute, result⟩

/-- The metrics of a result. -/
def durationUpdates (r : CycleResult) : List MetricUpdate :=
  [.duration "scale_up_ec2" r.instancesUp, .duration "scale_up_scheduler" r.nodesUp,
    .duration "scale_down" r.down]

/-- The soft failures about sizes: neither count may have been higher than the target, and no
node may be left at the end. -/
def sizeFailures (target : UInt32) (up down : Series) : List SoftFailure :=
  [SoftFailure.unlessEqual toString target "max_ec2_capacity" (up.peakInstances.getD 0) target,
    SoftFailure.unlessEqual toString target "max_compute_nodes" (up.peakNodes.getD 0) target,
    SoftFailure.unlessEqual toString target "final_compute_nodes" (down.lastNodes.getD 0) 0]
  |>.filterMap id

/-- The soft failures about durations that were longer than the baseline. -/
def durationFailures (result : CycleResult) (checks : List MetricCheck) : List SoftFailure :=
  checks.filterMap (MetricCheck.softFailure? result.target)

/-- Compares a result with the baseline and records the failures. -/
def checkBaseline (context : RunContext) (site : Site ω) (result : CycleResult) :
    RunOperation ω Unit := do
  let path := context.baselinePath
  let content ← ((site.readFile path).renote RunNote.party).onPart sitePart
  let baseline ← .ofExcept (Baseline.ofFile path content)
  match baseline.checks? result with
  | none =>
    tell (Journal.baselineMissing site.fleet.name result.computeNode result.target
      result.strategy.name path)
  | some checks => recordFailures (durationFailures result checks)

/-- Scales a cluster to a target and back. -/
def cycle (context : RunContext) (site : Site ω) (target : UInt32) :
    RunOperation ω CycleResult := do
  let (id, up) ← scaleUp context site target
  let down ← scaleDown context site target id
  let result := context.result target up down
  tell (.info "Scaling result" [("result", .text result.shown)])
  (durationUpdates result).forM fun update => own (.measured update)
  let report := context.report site.fleet.name up down result
  ask (.report report) (site.report report)
  let before ← failuresSoFar
  recordFailures (sizeFailures target up.series down.series)
  checkBaseline context site result
  let after ← failuresSoFar
  (after.drop before.length).forM fun f => tell (Journal.softFailure site.fleet.name f)
  pure result

end FleetScaling

import FleetScaling.Proofs.Traces
import FleetScaling.Run.Stress

/-!
# Steps of a cycle

Here a cycle is taken apart. Each of its halves first asks the parties for one thing after another
until it has the series of a monitoring window, and then reads the milestones off that series; after
both comes the report (`reportedCycle`), and after that the checks (`recordChecks`). What a cycle does
by itself has traces that are written out: it looks for milestones, compares its result with the
baseline and writes to the log. None of this asks the parties for anything, and only the comparison
changes the soft checks.
-/

namespace FleetScaling

open Time

variable {ω : Type}

/-! ## Milestones -/

/-- The notes of a run that finds a milestone: a warning, if it lies before its reference. -/
def clampedNotes (target : UInt32) (reference : Instant) (m : Milestone) : List RunNote :=
  if m.reachedAt.secondsSince reference < 0 then [.own (.logged (clampedEntry target reference m))]
  else []

theorem callNotes_clampedNotes {target : UInt32} {reference : Instant} {m : Milestone} :
    callNotes (clampedNotes target reference m) = [] := by
  unfold clampedNotes
  split <;> rfl

section Milestones

variable {failing : String} {column : List UInt32} {times : List Float} {target : UInt32}
  {reference : Instant}

theorem findMilestone_of_ok {m : Milestone}
    (h : Milestone.locate column times target reference = .ok m) (world : RunWorld ω) :
    findMilestone failing column times target reference world =
      ⟨.ok m, world, clampedNotes target reference m⟩ := by
  unfold findMilestone
  rw [h, Operation.bind_of_ok (a := m) rfl]
  by_cases hm : m.reachedAt.secondsSince reference < 0
  · simp only [clampedNotes, if_pos hm]
    rfl
  · simp only [clampedNotes, if_neg hm]
    rfl

theorem findMilestone_of_error {e : MilestoneError}
    (h : Milestone.locate column times target reference = .error e) (world : RunWorld ω) :
    findMilestone failing column times target reference world =
      ⟨.error ((Failure.of (.milestone e)).within failing), world, []⟩ := by
  unfold findMilestone
  rw [h]
  rfl

theorem locate_of_findMilestone {m : Milestone} {world : RunWorld ω}
    (h : (findMilestone failing column times target reference world).outcome = .ok m) :
    Milestone.locate column times target reference = .ok m := by
  rcases hl : Milestone.locate column times target reference with error | m'
  · rw [findMilestone_of_error hl] at h
    cases h
  · rw [findMilestone_of_ok hl] at h
    cases h
    rfl

theorem locate_of_findMilestone_error {failure : Failure} {world : RunWorld ω}
    (h : (findMilestone failing column times target reference world).outcome = .error failure) :
    ∃ error, failure.cause = .milestone error ∧
      Milestone.locate column times target reference = .error error := by
  rcases hl : Milestone.locate column times target reference with error | m
  · rw [findMilestone_of_error hl] at h
    cases h
    exact ⟨error, rfl, rfl⟩
  · rw [findMilestone_of_ok hl] at h
    cases h

end Milestones

/-! ## The baseline -/

/-- The soft failures of a result that took longer than a baseline. -/
def Baseline.regressions (b : Baseline) (result : CycleResult) : List SoftFailure :=
  durationFailures result ((b.checks? result).getD [])

/-- What a run does with the content of its baseline file. -/
def useBaseline (context : RunContext) (site : Site ω) (result : CycleResult)
    (content : Except FileError String) : RunOperation ω Unit := do
  let baseline ← .ofExcept (Baseline.ofFile context.baselinePath content)
  match baseline.checks? result with
  | none =>
    tell (Journal.baselineMissing site.fleet.name result.computeNode result.target
      result.strategy.name context.baselinePath)
  | some checks => recordFailures (durationFailures result checks)

section Baseline

variable {context : RunContext} {site : Site ω} {result : CycleResult}
  {content : Except FileError String}

theorem checkBaseline_eq : checkBaseline context site result =
    ((site.readFile context.baselinePath).renote RunNote.party).onPart sitePart >>=
      useBaseline context site result := rfl

/-- The notes of a run that has loaded a baseline: a warning, if it lacks the combination. -/
def missingNotes (context : RunContext) (site : Site ω) (result : CycleResult) (b : Baseline) :
    List RunNote :=
  if (b.checks? result).isNone then
    [.own (.logged (Journal.baselineMissing site.fleet.name result.computeNode result.target
      result.strategy.name context.baselinePath))]
  else []

theorem callNotes_missingNotes {b : Baseline} :
    callNotes (missingNotes context site result b) = [] := by
  unfold missingNotes
  split <;> rfl

theorem useBaseline_of_ok {b : Baseline}
    (h : Baseline.ofFile context.baselinePath content = .ok b) (world : RunWorld ω) :
    useBaseline context site result content world =
      ⟨.ok (), { world with soft := world.soft.addAll (b.regressions result) },
        missingNotes context site result b⟩ := by
  unfold useBaseline
  rw [h, Operation.bind_of_ok (a := b) rfl]
  unfold Baseline.regressions missingNotes
  rcases hc : b.checks? result with _ | checks
  · have : world.soft.addAll [] = world.soft := by
      unfold SoftChecks.addAll
      rw [List.append_nil]
    show (_ : Trace RunNote (RunWorld ω) Unit) = ⟨.ok (), { world with
      soft := world.soft.addAll [] }, _⟩
    rw [this]
    rfl
  · rfl

theorem useBaseline_of_error {failure : Failure}
    (h : Baseline.ofFile context.baselinePath content = .error failure) (world : RunWorld ω) :
    useBaseline context site result content world = ⟨.error failure, world, []⟩ := by
  unfold useBaseline
  rw [h]
  rfl

theorem checkBaseline_of_ok {world : RunWorld ω} {b : Baseline}
    (read : (site.readFile context.baselinePath world.site).outcome = .ok content)
    (loaded : Baseline.ofFile context.baselinePath content = .ok b) :
    checkBaseline context site result world =
      let file := site.readFile context.baselinePath world.site
      ⟨.ok (), ⟨file.world, world.soft.addAll (b.regressions result)⟩,
        file.notes.map .party ++ missingNotes context site result b⟩ := by
  let party := ((site.readFile context.baselinePath).renote RunNote.party).onPart sitePart
  have hread : (party world).outcome = .ok content := read
  rw [checkBaseline_eq, Operation.bind_of_ok hread, useBaseline_of_ok loaded]
  rfl

end Baseline

/-! ## The parts of a cycle -/

section Parts

variable (context : RunContext) (site : Site ω) (target : UInt32)

/-- Lets the cluster grow and watches it; gives the id of the placeholder job, the minute in which
the window began, and its series. -/
def watchGrowth : RunOperation ω (String × Instant × Series) := do
  let cluster := site.fleet.name
  ask .resetConnection site.headNode.reset
  ask (.startFleet true) ((site.fleet.start true).within "Failed to start the compute fleet")
  let job := context.placeholder target
  let id ← ask (.submit job) (site.scheduler.submit job)
  tell (Journal.jobSubmitted cluster id target)
  let startTime ← currentMinute site
  publish (.phase .scalingUp (some target))
  let window := context.window cluster target
  let series ← ask (.collect window) (site.collector.collect window)
  pure (id, startTime, series)

/-- Reads both milestones off a series in which the cluster grew. -/
def timeGrowth (cluster id : String) (startTime : Instant) (series : Series) :
    RunOperation ω (String × GrowthPhase) := do
  let instances ← instancesMilestone series target startTime
  let nodes ← nodesMilestone series target startTime
  tell (Journal.scaledUp cluster target instances.elapsed nodes.elapsed)
  pure (id, ⟨startTime, series, instances, nodes⟩)

/-- Lets the cluster shrink and watches it; gives the minute in which the window began, and its
series. -/
def watchShrinkage (id : String) : RunOperation ω (Instant × Series) := do
  let cluster := site.fleet.name
  ask (.cancel id) (site.scheduler.cancel id)
  tell (Journal.jobCancelled cluster id)
  ask .stopFleet (site.fleet.stop.within "Failed to stop the compute fleet")
  let startTime ← currentMinute site
  publish (.phase .scalingDown (some target))
  let window := context.window cluster 0
  let series ← ask (.collect window) (site.collector.collect window)
  pure (startTime, series)

/-- Reads the milestone off a series in which the cluster shrank. -/
def timeShrinkage (cluster : String) (startTime : Instant) (series : Series) :
    RunOperation ω ShrinkPhase := do
  let nodes ← downMilestone series startTime
  tell (Journal.scaledDown cluster target nodes.elapsed)
  pure ⟨series, nodes⟩

/-- Tells the result of both halves and sends the report on them. -/
def reportResult (up : GrowthPhase) (down : ShrinkPhase) : RunOperation ω Unit := do
  let result := context.result target up down
  tell (.info "Scaling result" [("result", .text result.shown)])
  (durationUpdates result).forM fun update => own (.measured update)
  let report := context.report site.fleet.name up down result
  ask (.report report) (site.report report)

/-- Both halves of a cycle and the report on them. -/
def reportedCycle : RunOperation ω (GrowthPhase × ShrinkPhase) := do
  let (id, up) ← scaleUp context site target
  let down ← scaleDown context site target id
  reportResult context site target up down
  pure (up, down)

/-- Checks sizes and durations; what was recorded is then logged. -/
def recordChecks (up : GrowthPhase) (down : ShrinkPhase) : RunOperation ω CycleResult := do
  let result := context.result target up down
  let before ← failuresSoFar
  recordFailures (sizeFailures target up.series down.series)
  checkBaseline context site result
  let after ← failuresSoFar
  (after.drop before.length).forM fun f => tell (Journal.softFailure site.fleet.name f)
  pure result

theorem scaleUp_eq : scaleUp context site target = watchGrowth context site target >>=
    fun (id, startTime, series) => timeGrowth target site.fleet.name id startTime series := by
  unfold watchGrowth
  simp only [Operation.bind_assoc]
  rfl

theorem scaleDown_eq (id : String) : scaleDown context site target id =
    watchShrinkage context site target id >>=
      fun (startTime, series) => timeShrinkage target site.fleet.name startTime series := by
  unfold watchShrinkage
  simp only [Operation.bind_assoc]
  rfl

theorem cycle_eq : cycle context site target = reportedCycle context site target >>=
    fun (up, down) => recordChecks context site target up down := by
  unfold reportedCycle reportResult
  simp only [Operation.bind_assoc]
  rfl

end Parts

section Timing

variable {target : UInt32} {cluster id : String} {startTime : Instant} {series : Series}
  {world : RunWorld ω}

theorem locate_of_timeGrowth {g : String × GrowthPhase}
    (h : (timeGrowth target cluster id startTime series world).outcome = .ok g) :
    ∃ instances nodes, g = (id, ⟨startTime, series, instances, nodes⟩) ∧
      Milestone.locate series.instances series.times target startTime = .ok instances ∧
      Milestone.locate series.nodes series.times target startTime = .ok nodes := by
  obtain ⟨instances, hi, h⟩ := Operation.ok_of_bind h
  obtain ⟨nodes, hn, h⟩ := Operation.ok_of_bind h
  cases h
  exact ⟨instances, nodes, rfl, locate_of_findMilestone hi, locate_of_findMilestone hn⟩

theorem locate_of_timeShrinkage {s : ShrinkPhase}
    (h : (timeShrinkage target cluster startTime series world).outcome = .ok s) :
    ∃ nodes, s = ⟨series, nodes⟩ ∧
      Milestone.locate series.nodes series.times 0 startTime = .ok nodes := by
  obtain ⟨nodes, hn, h⟩ := Operation.ok_of_bind h
  cases h
  exact ⟨nodes, rfl, locate_of_findMilestone hn⟩

theorem locate_of_timeGrowth_error {failure : Failure}
    (h : (timeGrowth target cluster id startTime series world).outcome = .error failure) :
    ∃ error, failure.cause = .milestone error ∧
      (Milestone.locate series.instances series.times target startTime = .error error ∨
        Milestone.locate series.nodes series.times target startTime = .error error) := by
  rcases Operation.error_of_bind h with h | ⟨instances, _, h⟩
  · obtain ⟨error, hcause, hl⟩ := locate_of_findMilestone_error h
    exact ⟨error, hcause, Or.inl hl⟩
  rcases Operation.error_of_bind h with h | ⟨nodes, _, h⟩
  · obtain ⟨error, hcause, hl⟩ := locate_of_findMilestone_error h
    exact ⟨error, hcause, Or.inr hl⟩
  · cases h

theorem locate_of_timeShrinkage_error {failure : Failure}
    (h : (timeShrinkage target cluster startTime series world).outcome = .error failure) :
    ∃ error, failure.cause = .milestone error ∧
      Milestone.locate series.nodes series.times 0 startTime = .error error := by
  rcases Operation.error_of_bind h with h | ⟨nodes, _, h⟩
  · exact locate_of_findMilestone_error h
  · cases h

end Timing

/-! ## Cycles -/

/-- The pause before further targets, if there are any. -/
def refillBefore (context : RunContext) (site : Site ω) (rest : List UInt32) :
    RunOperation ω Unit :=
  if rest.isEmpty then pure () else refill context site

theorem cycles_cons (context : RunContext) (site : Site ω) (target : UInt32)
    (rest : List UInt32) : cycles context site (target :: rest) =
      trackedCycle context site target >>= fun result =>
      refillBefore context site rest >>= fun _ =>
      cycles context site rest >>= fun results => pure (result :: results) := by
  cases rest with
  | nil => rfl
  | cons next rest => rfl

/-- The notes of a run at the end of a cycle with this result, after which there are these soft
failures. -/
def endNotes (result : CycleResult) (failures : List SoftFailure) : List RunNote :=
  [.progress (.result result), .progress (.failures failures),
    .own (.measured (.softFailures failures.length))]

/-- The notes of the pause before further targets, if there are any. -/
def refillNotes (context : RunContext) (site : Site ω) (rest : List UInt32) : List RunNote :=
  if rest.isEmpty then []
  else [.progress (.phase .waitingForRefill none),
    .own (.logged (Journal.refilling site.fleet.name context.refillDelay.seconds)),
    .own (.waited context.refillDelay)]

theorem callNotes_refillNotes {context : RunContext} {site : Site ω} {rest : List UInt32} :
    callNotes (refillNotes context site rest) = [] := by
  cases rest <;> rfl

theorem refillBefore_apply (context : RunContext) (site : Site ω) (rest : List UInt32)
    (world : RunWorld ω) : refillBefore context site rest world =
      ⟨.ok (), world, refillNotes context site rest⟩ := by
  cases rest with
  | nil => rfl
  | cons next rest => rfl

section Cycles

variable {context : RunContext} {site : Site ω} {target : UInt32} {world : RunWorld ω}

theorem trackedCycle_of_ok {result : CycleResult}
    (h : (cycle context site target world).outcome = .ok result) :
    let done := cycle context site target world
    trackedCycle context site target world =
      ⟨.ok result, done.world, done.notes ++ endNotes result done.world.soft.failures⟩ := by
  unfold trackedCycle
  rw [Operation.bind_of_ok h]
  rfl

theorem trackedCycle_of_error {failure : Failure}
    (h : (cycle context site target world).outcome = .error failure) :
    let done := cycle context site target world
    trackedCycle context site target world = ⟨.error failure, done.world, done.notes⟩ := by
  unfold trackedCycle
  rw [Operation.bind_of_error h]

/-- After a cycle that succeeds come a pause, if there are further targets, and their cycles. -/
theorem cycles_of_ok {result : CycleResult} (rest : List UInt32)
    (h : (cycle context site target world).outcome = .ok result) :
    let done := cycle context site target world
    let later := cycles context site rest done.world
    cycles context site (target :: rest) world =
      ⟨later.outcome.map (result :: ·), later.world,
        done.notes ++ endNotes result done.world.soft.failures ++
          refillNotes context site rest ++ later.notes⟩ := by
  intro done later
  rw [cycles_cons, Operation.bind_of_ok (a := result) (by rw [trackedCycle_of_ok h]),
    trackedCycle_of_ok h, Operation.bind_of_ok (a := ()) (by rw [refillBefore_apply]),
    refillBefore_apply]
  rcases hl : later.outcome with failure | results
  · rw [Operation.bind_of_error hl, ← List.append_assoc]
    rfl
  · rw [Operation.bind_of_ok hl, Operation.pure_apply, List.append_nil, ← List.append_assoc]
    rfl

/-- Nothing comes after a cycle that fails. -/
theorem cycles_of_error {failure : Failure} (rest : List UInt32)
    (h : (cycle context site target world).outcome = .error failure) :
    let done := cycle context site target world
    cycles context site (target :: rest) world = ⟨.error failure, done.world, done.notes⟩ := by
  have tracked : (trackedCycle context site target world).outcome = .error failure := by
    rw [trackedCycle_of_error h]
  rw [cycles_cons, Operation.bind_of_error tracked, trackedCycle_of_error h]

end Cycles

/-- A run up to the end of its last cycle. -/
def allCycles (context : RunContext) (site : Site ω) : RunOperation ω (List CycleResult) := do
  ask .disableProtectedMode (disableProtectedMode site.headNode)
  own (.measured (.run context.region context.computeNode context.strategy.name))
  cycles context site context.targets

/-- Raises the failures of all cycles, if there are any. -/
def raiseFailures (results : List CycleResult) : RunOperation ω (List CycleResult) := do
  let failures ← failuresSoFar
  .ofExcept (SoftChecks.finish ⟨failures⟩)
  pure results

theorem stressLoop_eq (context : RunContext) (site : Site ω) :
    stressLoop context site = allCycles context site >>= raiseFailures := by
  unfold allCycles
  simp only [Operation.bind_assoc]
  rfl

theorem raiseFailures_apply (results : List CycleResult) (world : RunWorld ω) :
    raiseFailures results world =
      ⟨if world.soft.failures = [] then .ok results
        else .error (.of (.softFailures world.soft.failures)), world, []⟩ := by
  obtain ⟨site, failures⟩ := world
  rcases failures with ⟨_ | ⟨f, fs⟩⟩ <;> rfl

/-- The progress that is published at the end of a run. -/
def ending : Except Failure (List CycleResult) → ProgressUpdate
  | .ok _ => .completed
  | .error failure => .failed failure.message

/-- The whole test is its loop, with one more note about the end. -/
theorem stressTest_apply (context : RunContext) (site : Site ω) (world : RunWorld ω) :
    let loop := stressLoop context site world
    stressTest context site world =
      ⟨loop.outcome, loop.world, loop.notes ++ [.progress (ending loop.outcome)]⟩ := by
  unfold stressTest
  rw [Operation.bind_of_ok (a := (stressLoop context site world).outcome) rfl]
  rcases h : (stressLoop context site world).outcome with failure | results
  · simp only [h]
    rfl
  · simp only [h]
    rfl

/-! ## Notes of its own -/

theorem forM_own_apply {ι : Type} (f : ι → SiteNote) (l : List ι) (world : RunWorld ω) :
    (l.forM fun i => (own (f i) : RunOperation ω Unit)) world =
      ⟨.ok (), world, l.map fun i => .own (f i)⟩ := by
  induction l with
  | nil => rfl
  | cons i l ih =>
    show ((own (f i) : RunOperation ω Unit) >>= fun _ => l.forM fun i => own (f i)) world = _
    rw [Operation.bind_of_ok (a := ()) rfl, own_apply, ih]
    rfl

end FleetScaling

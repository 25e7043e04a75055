import FleetScaling.Proofs.Run.Plan
import FleetScaling.Proofs.Run.Steps

/-!
# The protocol of a stress test

A stress test has one plan: protected mode is disabled, and each target is then cycled by the same
exchanges, in the order of the targets. Whatever the parties do, a run follows the plan to its end
or is interrupted in the middle of it, and it never holds more than the fleet and the job of the
cycle that it is in (`stressTest_follows_protocol`).
-/

namespace FleetScaling

open Time

variable {ω : Type}

/-! ## The plan -/

/-- What a cycle learns on its way. -/
structure CycleCourse where
  /-- The id of the placeholder job. -/
  id : String
  upTime : Instant
  up : Series
  instances : Milestone
  nodes : Milestone
  downTime : Instant
  down : Series
  emptied : Milestone
  /-- What reading the baseline file gave. -/
  content : Except FileError String

namespace CycleCourse

/-- What was observed while the cluster grew. -/
def growth (d : CycleCourse) : GrowthPhase :=
  ⟨d.upTime.startOfMinute, d.up, d.instances, d.nodes⟩

/-- What was observed while the cluster shrank. -/
def shrinkage (d : CycleCourse) : ShrinkPhase := ⟨d.down, d.emptied⟩

end CycleCourse

/-- The exchanges of scaling down that come before its window. -/
def shrinkOpening (id : String) (now : Instant) : List Exchange :=
  [.cancelled id (.ok ()), .stopped (.ok ()), .clockRead (.ok now)]

namespace RunContext

variable (c : RunContext) (cluster : String) (target : UInt32)

/-- The exchanges of scaling up that come before its window. -/
def growthOpening (id : String) (now : Instant) : List Exchange :=
  [.reset (.ok ()), .started (.ok ()), .submitted (c.placeholder target) (.ok id),
    .clockRead (.ok now)]

/-- The exchanges of scaling up. -/
def growthExchanges (id : String) (now : Instant) (series : Series) : List Exchange :=
  [.reset (.ok ()), .started (.ok ()), .submitted (c.placeholder target) (.ok id),
    .clockRead (.ok now), .collected (c.window cluster target) (.ok series)]

/-- The exchanges of scaling down. -/
def shrinkExchanges (id : String) (now : Instant) (series : Series) : List Exchange :=
  [.cancelled id (.ok ()), .stopped (.ok ()), .clockRead (.ok now),
    .collected (c.window cluster 0) (.ok series)]

/-- The result of a cycle with this course. -/
def resultOf (d : CycleCourse) : CycleResult := c.result target d.growth d.shrinkage

/-- The report on a cycle with this course. -/
def reportOf (d : CycleCourse) : Report :=
  c.report cluster d.growth d.shrinkage (c.resultOf target d)

/-- The exchanges of one cycle up to its report. -/
def reportedExchanges (d : CycleCourse) : List Exchange :=
  c.growthExchanges cluster target d.id d.upTime d.up ++
    (c.shrinkExchanges cluster d.id d.downTime d.down ++
      [.reported (c.reportOf cluster target d) (.ok ())])

/-- The exchanges of one cycle. -/
def cycleExchanges (d : CycleCourse) : List Exchange :=
  c.growthExchanges cluster target d.id d.upTime d.up ++
    c.shrinkExchanges cluster d.id d.downTime d.down ++
    [.reported (c.reportOf cluster target d) (.ok ()), .fileRead c.baselinePath (.ok d.content)]

/-- The exchanges of some cycles, one after another. -/
def cyclesExchanges (cycles : List (UInt32 × CycleCourse)) : List Exchange :=
  cycles.flatMap fun cycle => c.cycleExchanges cluster cycle.1 cycle.2

/-- The exchanges of a run with these cycles. -/
def exchanges (cycles : List (UInt32 × CycleCourse)) : List Exchange :=
  .unprotected (.ok ()) :: c.cyclesExchanges cluster cycles

/-- The calls of one cycle. -/
def cycleCalls (d : CycleCourse) : List Call :=
  let job : Job := ⟨"srun sleep " ++ toString c.budget.seconds, none, some target, none⟩
  let up : Window := ⟨c.budget, c.region, cluster, c.publish, target⟩
  [.resetConnection, .startFleet true, .submit job, .readClock, .collect up, .cancel d.id,
    .stopFleet, .readClock, .collect { up with target := 0 },
    .report (c.reportOf cluster target d)]

/-- The calls of a run with these cycles. -/
def calls (cycles : List (UInt32 × CycleCourse)) : List Call :=
  .disableProtectedMode :: cycles.flatMap fun cycle => c.cycleCalls cluster cycle.1 cycle.2

theorem callsOf_exchanges (cycles : List (UInt32 × CycleCourse)) :
    callsOf (c.exchanges cluster cycles) = c.calls cluster cycles := by
  suffices h : callsOf (c.cyclesExchanges cluster cycles) =
      cycles.flatMap fun cycle => c.cycleCalls cluster cycle.1 cycle.2 from
    congrArg (Call.disableProtectedMode :: ·) h
  unfold cyclesExchanges
  induction cycles with
  | nil => rfl
  | cons cycle cycles ih =>
    rw [List.flatMap_cons, List.flatMap_cons, callsOf_append, ih]
    rfl

end RunContext

/-! ## A cycle follows its plan -/

section Cycle

variable (context : RunContext) (site : Site ω) (target : UInt32)

/-- Looking for a milestone in a series asks for nothing, and fails only for want of one. -/
theorem findMilestone_comes (window : Window) (series : Series) {failing : String}
    {column : List UInt32} {reference : Instant}
    (h : column = series.instances ∨ column = series.nodes) :
    Comes site (findMilestone failing column series.times window.target reference)
      (Uses (.collected window (.ok series)) fun _ => True) := by
  intro world
  rcases hl : Milestone.locate column series.times window.target reference with error | m
  · rw [findMilestone_of_error hl]
    exact ⟨[], rfl, rfl, rfl, .unreached failing h hl⟩
  · rw [findMilestone_of_ok hl]
    exact ⟨[], rfl, callNotes_clampedNotes, rfl, trivial⟩

theorem currentMinute_planned : Planned site (currentMinute site) fun t es =>
    ∃ now, t = now.startOfMinute ∧ es = [.clockRead (.ok now)] := by
  have : Nonempty Instant := ⟨.epoch⟩
  refine (Planned.call .clockRead).bind_exchange fun now => ?_
  refine (Planned.pure _).mono fun t es ⟨ht, hes⟩ => ?_
  rw [hes]
  exact ⟨now, ht, rfl⟩

theorem watchGrowth_planned : Planned site (watchGrowth context site target) fun g es => ∃ now,
    g.2.1 = now.startOfMinute ∧
    es = context.growthExchanges site.fleet.name target g.1 now g.2.2 := by
  have : Nonempty Series := ⟨.empty .epoch⟩
  refine (Planned.call .reset).bind_exchange fun _ => ?_
  refine (Planned.ask .started).bind_exchange fun _ => ?_
  refine (Planned.call (.submitted (context.placeholder target))).bind_exchange fun id => ?_
  refine (Planned.note rfl).bind_silent fun _ => ?_
  refine (currentMinute_planned site).bind fun startTime es ⟨now, htime, hes⟩ => ?_
  subst htime hes
  refine (Planned.note rfl).bind_silent fun _ => ?_
  refine (Planned.call (.collected (context.window site.fleet.name target))).bind_exchange
    fun series => ?_
  refine (Planned.pure _).mono fun g es ⟨hg, hes⟩ => ?_
  subst hg hes
  exact ⟨now, rfl, rfl⟩

theorem watchShrinkage_planned (id : String) :
    Planned site (watchShrinkage context site target id) fun g es => ∃ now,
      g.1 = now.startOfMinute ∧ es = context.shrinkExchanges site.fleet.name id now g.2 := by
  have : Nonempty Series := ⟨.empty .epoch⟩
  refine (Planned.call (.cancelled id)).bind_exchange fun _ => ?_
  refine (Planned.note rfl).bind_silent fun _ => ?_
  refine (Planned.ask .stopped).bind_exchange fun _ => ?_
  refine (currentMinute_planned site).bind fun startTime es ⟨now, htime, hes⟩ => ?_
  subst htime hes
  refine (Planned.note rfl).bind_silent fun _ => ?_
  refine (Planned.call (.collected (context.window site.fleet.name 0))).bind_exchange
    fun series => ?_
  refine (Planned.pure _).mono fun g es ⟨hg, hes⟩ => ?_
  subst hg hes
  exact ⟨now, rfl, rfl⟩

theorem scaleUp_planned : Planned site (scaleUp context site target) fun p es => ∃ now,
    p.2.startTime = now.startOfMinute ∧
    es = context.growthExchanges site.fleet.name target p.1 now p.2.series := by
  let window := context.window site.fleet.name target
  rw [scaleUp_eq]
  -- the series is all that the rest works on, so a failure there is one of the last exchange
  refine (watchGrowth_planned context site target).bind_use
    (e := fun g => .collected window (.ok g.2.2)) ?_ ?_ ?_
  · rintro ⟨id, _, series⟩ es ⟨now, _, rfl⟩
    exact ⟨context.growthOpening target id now, rfl⟩
  · rintro ⟨id, _, series⟩ es ⟨now, _, rfl⟩
    let m : Milestone := ⟨0, .epoch, 0⟩
    exact ⟨(id, ⟨now.startOfMinute, series, m, m⟩), now, rfl, rfl⟩
  · rintro ⟨id, startTime, series⟩ es ⟨now, htime, rfl⟩
    refine (findMilestone_comes site window series (Or.inl rfl)).bind_uses fun instances _ => ?_
    refine (findMilestone_comes site window series (Or.inr rfl)).bind_uses fun nodes _ => ?_
    exact fun world => ⟨[], rfl, rfl, rfl, now, htime, rfl⟩

theorem scaleDown_planned (id : String) : Planned site (scaleDown context site target id)
    fun down es => ∃ now, es = context.shrinkExchanges site.fleet.name id now down.series := by
  let window := context.window site.fleet.name 0
  rw [scaleDown_eq]
  refine (watchShrinkage_planned context site target id).bind_use
    (e := fun g => .collected window (.ok g.2)) ?_ ?_ ?_
  · rintro ⟨_, series⟩ es ⟨now, _, rfl⟩
    exact ⟨shrinkOpening id now, rfl⟩
  · rintro ⟨_, series⟩ es ⟨now, _, rfl⟩
    exact ⟨⟨series, ⟨0, .epoch, 0⟩⟩, now, rfl⟩
  · rintro ⟨_, series⟩ es ⟨now, _, rfl⟩
    refine (findMilestone_comes site window series (Or.inr rfl)).bind_uses fun nodes _ => ?_
    exact fun world => ⟨[], rfl, rfl, rfl, now, rfl⟩

theorem checkBaseline_planned (result : CycleResult) :
    Planned site (checkBaseline context site result) fun _ es => ∃ content,
      es = [.fileRead context.baselinePath (.ok content)] := by
  rw [checkBaseline_eq]
  refine (Planned.readFile _).bind_use (fun content es hes => ⟨[], hes⟩)
    (fun content es hes => ⟨(), content, hes⟩) ?_
  rintro content es rfl world
  rcases h : Baseline.ofFile context.baselinePath content with failure | b
  · rw [useBaseline_of_error h]
    exact ⟨[], rfl, rfl, rfl, .unloadable h⟩
  · rw [useBaseline_of_ok h]
    exact ⟨[], rfl, callNotes_missingNotes, rfl, content, rfl⟩

/-- Notes that a run makes itself, one after another. -/
theorem forM_own_planned {ι : Type} (f : ι → SiteNote) (l : List ι) :
    Planned site (l.forM fun i => own (f i)) fun _ es => es = [] := by
  refine Planned.of_silent fun world => ?_
  rw [forM_own_apply]
  exact ⟨rfl, callNotes_own f l, (), rfl⟩

theorem failuresSoFar_planned : Planned site failuresSoFar fun _ es => es = [] :=
  Planned.of_silent fun _ => ⟨rfl, rfl, _, rfl⟩

theorem reportResult_planned (up : GrowthPhase) (down : ShrinkPhase) :
    Planned site (reportResult context site target up down) fun _ es =>
      es = [.reported (context.report site.fleet.name up down (context.result target up down))
        (.ok ())] := by
  refine (Planned.note rfl).bind_silent fun _ => ?_
  refine (forM_own_planned site _ _).bind_silent fun _ => ?_
  exact Planned.call (.reported _)

theorem reportedCycle_planned : Planned site (reportedCycle context site target) fun g es => ∃ d,
    g = (d.growth, d.shrinkage) ∧
    es = context.reportedExchanges site.fleet.name target d := by
  refine (scaleUp_planned context site target).bind fun (id, up) es ⟨upTime, hup, hes⟩ => ?_
  subst hes
  refine (scaleDown_planned context site target id).bind fun down es ⟨downTime, hes⟩ => ?_
  subst hes
  refine (reportResult_planned context site target up down).bind_exchange fun _ => ?_
  refine (Planned.pure _).mono fun g es ⟨hg, hes⟩ => ?_
  subst hg hes
  obtain ⟨startTime, series, instances, nodes⟩ := up
  have hup : startTime = upTime.startOfMinute := hup
  subst hup
  exact ⟨⟨id, upTime, series, instances, nodes, downTime, down.series, down.nodes, .ok ""⟩, rfl, rfl⟩

theorem recordChecks_planned (up : GrowthPhase) (down : ShrinkPhase) :
    Planned site (recordChecks context site target up down) fun result es =>
      result = context.result target up down ∧
      ∃ content, es = [.fileRead context.baselinePath (.ok content)] := by
  refine (failuresSoFar_planned site).bind_silent fun before => ?_
  refine (Planned.of_silent fun world => ⟨rfl, rfl, (), rfl⟩).bind_silent fun _ => ?_
  refine (checkBaseline_planned context site _).bind fun _ es ⟨content, hes⟩ => ?_
  subst hes
  refine (failuresSoFar_planned site).bind_silent fun after => ?_
  refine (forM_own_planned site _ _).bind_silent fun _ => ?_
  refine (Planned.pure _).mono fun result es ⟨hresult, hes⟩ => ?_
  subst hes
  exact ⟨hresult, content, rfl⟩

theorem cycle_planned : Planned site (cycle context site target) fun result es => ∃ d,
    result = context.resultOf target d ∧
    es = context.cycleExchanges site.fleet.name target d := by
  rw [cycle_eq]
  refine (reportedCycle_planned context site target).bind fun g es ⟨d, hg, hes⟩ => ?_
  subst hg hes
  refine (recordChecks_planned context site target _ _).mono fun result es ⟨hresult, hes⟩ => ?_
  obtain ⟨content, rfl⟩ := hes
  exact ⟨{ d with content }, hresult, rfl⟩

theorem trackedCycle_planned : Planned site (trackedCycle context site target) fun result es =>
    ∃ d, result = context.resultOf target d ∧
      es = context.cycleExchanges site.fleet.name target d := by
  refine (cycle_planned context site target).bind fun result es ⟨d, hresult, hes⟩ => ?_
  subst hresult hes
  refine (Planned.note rfl).bind_silent fun _ => ?_
  refine (failuresSoFar_planned site).bind_silent fun failures => ?_
  refine (Planned.note rfl).bind_silent fun _ => ?_
  refine (Planned.note rfl).bind_silent fun _ => ?_
  refine (Planned.pure _).mono fun result es ⟨hresult, hes⟩ => ?_
  subst hresult hes
  exact ⟨d, rfl, rfl⟩

theorem refillBefore_planned (rest : List UInt32) :
    Planned site (refillBefore context site rest) fun _ es => es = [] := by
  refine Planned.of_silent fun world => ?_
  rw [refillBefore_apply]
  exact ⟨rfl, callNotes_refillNotes, (), rfl⟩

end Cycle

/-! ## The run follows its plan -/

section Run

variable (context : RunContext) (site : Site ω)

/-- The cycles of a plan, one for each target. -/
def CyclesFor (targets : List UInt32) (cycles : List (UInt32 × CycleCourse)) : Prop :=
  cycles.map Prod.fst = targets

/-- By induction on the targets: the cycle of the first comes before those of the others, and the
pause between them asks for nothing. -/
theorem cycles_planned (targets : List UInt32) : Planned site (cycles context site targets)
    fun _ es => ∃ cycles, CyclesFor targets cycles ∧
      es = context.cyclesExchanges site.fleet.name cycles := by
  induction targets with
  | nil => exact (Planned.pure _).mono fun _ es ⟨_, hes⟩ => ⟨[], rfl, hes⟩
  | cons target rest ih =>
    rw [cycles_cons]
    refine (trackedCycle_planned context site target).bind fun _ es ⟨d, _, hes⟩ => ?_
    subst hes
    refine (refillBefore_planned context site rest).bind_silent fun _ => ?_
    refine ih.bind fun results es ⟨cycles, hcycles, hes⟩ => ?_
    subst hes
    refine (Planned.pure _).mono fun _ es ⟨_, hes⟩ => ?_
    subst hes
    refine ⟨(target, d) :: cycles, congrArg (target :: ·) hcycles, ?_⟩
    rw [List.append_nil]
    rfl

/-- A run has followed its plan to the end, where only soft failures can be raised, or was
interrupted. -/
def RunEnds (plan es : List Exchange) (outcome : Except Failure (List CycleResult)) : Prop :=
  (es = plan ∧ ((∃ results, outcome = .ok results) ∨ ∃ failures, failures ≠ [] ∧
    outcome = .error (.of (.softFailures failures)))) ∨
  ∃ failure, outcome = .error failure ∧ Interrupted plan es failure

theorem allCycles_planned : Planned site (allCycles context site) fun _ es => ∃ cycles,
    CyclesFor context.targets cycles ∧ es = context.exchanges site.fleet.name cycles := by
  refine (Planned.call .unprotected).bind_exchange fun _ => ?_
  refine (Planned.note rfl).bind_silent fun _ => ?_
  refine (cycles_planned context site context.targets).mono fun _ es ⟨cycles, hcycles, hes⟩ => ?_
  subst hes
  exact ⟨cycles, hcycles, rfl⟩

/-- The course of a whole run: all its cycles, with the plan that it follows. -/
theorem stressLoop_comes : Comes site (stressLoop context site) fun es o => ∃ cycles,
    CyclesFor context.targets cycles ∧
    RunEnds (context.exchanges site.fleet.name cycles) es o := by
  rw [stressLoop_eq]
  refine (allCycles_planned context site).comes.bind ?_ ?_
  · intro es results ⟨cycles, hcycles, hes⟩ world
    subst hes
    rw [raiseFailures_apply]
    refine ⟨[], rfl, rfl, cycles, hcycles, Or.inl ⟨List.append_nil _, ?_⟩⟩
    by_cases h : world.soft.failures = []
    · exact Or.inl ⟨results, if_pos h⟩
    · exact Or.inr ⟨world.soft.failures, h, if_neg h⟩
  · intro es failure ⟨_, _, ⟨cycles, hcycles, hplan⟩, hi⟩
    exact ⟨cycles, hcycles, Or.inr ⟨failure, rfl, hplan ▸ hi⟩⟩

/-- Publishing the end of a run asks for nothing and leaves its outcome. -/
theorem stressTest_comes : Comes site (stressTest context site) fun es o => ∃ cycles,
    CyclesFor context.targets cycles ∧
    RunEnds (context.exchanges site.fleet.name cycles) es o := by
  intro world
  obtain ⟨es, hc, hn, hcycles⟩ := stressLoop_comes context site world
  rw [stressTest_apply]
  refine ⟨es, hc, ?_, hcycles⟩
  rw [callNotes_append, hn]
  exact List.append_nil _

/-- A run calls nothing but what stands in a plan. -/
theorem stressTest_calls_subset (world : RunWorld ω) : ∃ cycles,
    callNotes (stressTest context site world).notes ⊆ context.calls site.fleet.name cycles := by
  obtain ⟨es, -, hn, cycles, -, hends⟩ := stressTest_comes context site world
  refine ⟨cycles, ?_⟩
  rw [hn, ← context.callsOf_exchanges]
  rcases hends with ⟨rfl, -⟩ | ⟨failure, -, hi⟩
  · exact List.Subset.refl _
  · exact hi.calls_isPrefix.subset

/-- A call of a plan is one of a cycle, or the one before all of them. -/
theorem RunContext.mem_calls_iff {cluster : String} {cycles : List (UInt32 × CycleCourse)}
    {call : Call} : call ∈ context.calls cluster cycles ↔ call = .disableProtectedMode ∨
      ∃ cycle ∈ cycles, call ∈ context.cycleCalls cluster cycle.1 cycle.2 := by
  unfold calls
  rw [List.mem_cons, List.mem_flatMap]

end Run

end FleetScaling

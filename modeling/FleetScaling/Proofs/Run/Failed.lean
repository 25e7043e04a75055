import FleetScaling.Proofs.Run.Closed
import FleetScaling.Proofs.Run.Measures

/-!
# Soft checks of a cycle that fails

Up to its report a cycle leaves the soft checks as they are (`KeepsChecks`), so a cycle that fails by
then leaves no trace in them. After the report the sizes are checked before the baseline is loaded.
A cycle that fails for want of a baseline therefore leaves behind what the sizes showed, although
it ends before any of that is logged. `failed_cycle_keeps_checks_iff` says that this is the only way
in which a failed cycle changes the soft checks.
-/

namespace FleetScaling

open Time

variable {ω α β : Type}

/-! ## Operations that record nothing -/

/-- Whatever the world, the operation leaves the soft checks as they are. -/
def KeepsChecks (x : RunOperation ω α) : Prop := ∀ world, (x world).world.soft = world.soft

namespace KeepsChecks

theorem bind {x : RunOperation ω α} {f : α → RunOperation ω β} (hx : KeepsChecks x)
    (hf : ∀ a, KeepsChecks (f a)) : KeepsChecks (x >>= f) := by
  intro world
  rcases h : (x world).outcome with failure | a
  · rw [Operation.bind_of_error h]
    exact hx world
  · rw [Operation.bind_of_ok h]
    exact (hf a _).trans (hx world)

theorem pure (a : α) : KeepsChecks (pure a : RunOperation ω α) := fun _ => rfl

theorem note (n : RunNote) : KeepsChecks (Operation.note n : RunOperation ω Unit) := fun _ => rfl

theorem ask (call : Call) (x : SiteOperation ω α) : KeepsChecks (FleetScaling.ask call x) :=
  fun _ => rfl

theorem closed : RunClosed fun α (x : RunOperation ω α) => KeepsChecks x where
  result _ _ := rfl
  bind := bind
  tell _ := note _
  phase _ _ := note _

theorem asked (site : Site ω) : site.Asked fun _ x => KeepsChecks x :=
  ⟨ask _ _, ask _ _, fun _ => ask _ _, ask _ _, fun _ => ask _ _, fun _ => ask _ _, ask _ _⟩

theorem reportedCycle (context : RunContext) (site : Site ω) (target : UInt32) :
    KeepsChecks (reportedCycle context site target) := by
  refine (closed.scaleUp context target (asked site)).bind fun (id, up) => ?_
  refine (closed.scaleDown context target (asked site) id).bind fun down => ?_
  refine KeepsChecks.bind ?_ fun _ => pure _
  exact closed.reportResult context target up down (fun _ _ => note _) fun _ => ask _ _

end KeepsChecks

/-! ## Up to the report -/

section Reported

variable {context : RunContext} {site : Site ω} {target : UInt32} {world : RunWorld ω}

/-- A growth that succeeds was granted everything, and both its milestones are there. -/
theorem scaleUp_of_ok {id : String} {up : GrowthPhase}
    (h : (scaleUp context site target world).outcome = .ok (id, up)) :
    ∃ now, Conversation site world.site
        (context.growthExchanges site.fleet.name target id now up.series)
        (scaleUp context site target world).world.site ∧
      up.startTime = now.startOfMinute ∧
      Milestone.locate up.series.instances up.series.times target up.startTime = .ok up.instances ∧
      Milestone.locate up.series.nodes up.series.times target up.startTime = .ok up.nodes := by
  rw [scaleUp_eq] at h ⊢
  obtain ⟨⟨id', startTime, series⟩, hw, ht⟩ := Operation.ok_of_bind h
  obtain ⟨es, talk, _, follows⟩ := (watchGrowth_planned context site target).comes world
  rw [hw] at follows
  obtain ⟨now, htime, rfl⟩ := follows
  obtain ⟨instances, nodes, hg, hi, hn⟩ := locate_of_timeGrowth ht
  cases hg
  refine ⟨now, ?_, htime, hi, hn⟩
  rw [Operation.bind_of_ok hw]
  show Conversation site world.site _ (timeGrowth target _ _ _ _ _).world.site
  rw [(timeGrowth_yields hi hn).world_eq]
  exact talk

/-- A shrinkage that succeeds was granted everything, and its milestone is there. -/
theorem scaleDown_of_ok {id : String} {down : ShrinkPhase}
    (h : (scaleDown context site target id world).outcome = .ok down) :
    ∃ now, Conversation site world.site
        (context.shrinkExchanges site.fleet.name id now down.series)
        (scaleDown context site target id world).world.site ∧
      Milestone.locate down.series.nodes down.series.times 0 now.startOfMinute =
        .ok down.nodes := by
  rw [scaleDown_eq] at h ⊢
  obtain ⟨⟨startTime, series⟩, hw, ht⟩ := Operation.ok_of_bind h
  obtain ⟨es, talk, _, follows⟩ := (watchShrinkage_planned context site target id).comes world
  rw [hw] at follows
  obtain ⟨now, htime, rfl⟩ := follows
  obtain ⟨nodes, rfl, hn⟩ := locate_of_timeShrinkage ht
  have htime : startTime = now.startOfMinute := htime
  refine ⟨now, ?_, htime ▸ hn⟩
  rw [Operation.bind_of_ok hw]
  show Conversation site world.site _ (timeShrinkage target _ _ _ _).world.site
  rw [(timeShrinkage_yields hn).world_eq]
  exact talk

/-- Two halves that succeed have a course, with its milestones. -/
theorem exists_course {id : String} {up : GrowthPhase} {down : ShrinkPhase}
    (hu : (scaleUp context site target world).outcome = .ok (id, up))
    (hd : (scaleDown context site target id (scaleUp context site target world).world).outcome =
      .ok down) :
    ∃ d : CycleCourse, d.growth = up ∧ d.shrinkage = down ∧ d.Located target ∧
      Conversation site world.site
        (context.growthExchanges site.fleet.name target d.id d.upTime d.up ++
          context.shrinkExchanges site.fleet.name d.id d.downTime d.down)
        (scaleDown context site target id (scaleUp context site target world).world).world.site := by
  obtain ⟨upTime, growth, hstart, hi, hn⟩ := scaleUp_of_ok hu
  obtain ⟨downTime, shrinkage, he⟩ := scaleDown_of_ok hd
  obtain ⟨startTime, series, instances, nodes⟩ := up
  have hstart : startTime = upTime.startOfMinute := hstart
  subst hstart
  exact ⟨⟨id, upTime, series, instances, nodes, downTime, down.series, down.nodes, .ok ""⟩, rfl, rfl,
    ⟨hi, hn, he⟩, growth.append shrinkage⟩

/-- A report is accepted exactly if all goes well up to there: this is what was asked for. -/
theorem reportedCycle_of_ok {up : GrowthPhase} {down : ShrinkPhase}
    (h : (reportedCycle context site target world).outcome = .ok (up, down)) :
    ∃ (d : CycleCourse) (later : ω), d.growth = up ∧ d.shrinkage = down ∧ d.Located target ∧
      Conversation site world.site (context.reportedExchanges site.fleet.name target d) later := by
  obtain ⟨⟨id, up'⟩, hu, h⟩ := Operation.ok_of_bind h
  obtain ⟨down', hd, h⟩ := Operation.ok_of_bind h
  obtain ⟨_, hr, h⟩ := Operation.ok_of_bind h
  cases h
  obtain ⟨d, rfl, rfl, located, talk⟩ := exists_course hu hd
  obtain ⟨es, report, _, follows⟩ := (reportResult_planned context site target _ _).comes
    (scaleDown context site target id (scaleUp context site target world).world).world
  rw [hr] at follows
  obtain rfl : es = _ := follows
  have whole := talk.append report
  rw [List.append_assoc] at whole
  exact ⟨d, _, rfl, rfl, located, whole⟩

end Reported

/-! ## Checks -/

/-- A baseline that cannot be loaded makes the comparison fail, and nothing is recorded. -/
theorem checkBaseline_cases (context : RunContext) (site : Site ω) (result : CycleResult)
    (world : RunWorld ω) :
    let done := checkBaseline context site result world
    (∃ content b, (site.readFile context.baselinePath world.site).outcome = .ok content ∧
      Baseline.ofFile context.baselinePath content = .ok b) ∨
    ∃ failure, done.outcome = .error failure ∧ done.world.soft = world.soft := by
  intro done
  let party := ((site.readFile context.baselinePath).renote RunNote.party).onPart sitePart
  have hdone : done = (party >>= useBaseline context site result) world := rfl
  rcases read : (party world).outcome with failure | content
  · rw [hdone, Operation.bind_of_error read]
    exact Or.inr ⟨failure, rfl, rfl⟩
  rcases loaded : Baseline.ofFile context.baselinePath content with failure | b
  · rw [hdone, Operation.bind_of_ok read, useBaseline_of_error loaded]
    exact Or.inr ⟨failure, rfl, rfl⟩
  · exact Or.inl ⟨content, b, read, loaded⟩

/-- The checks record the sizes in any case, and the durations if there is a baseline; without one
they fail. -/
theorem recordChecks_cases (context : RunContext) (site : Site ω) (target : UInt32)
    (up : GrowthPhase) (down : ShrinkPhase) (world : RunWorld ω) :
    let done := recordChecks context site target up down world
    let sized := world.soft.addAll (sizeFailures target up.series down.series)
    let result := context.result target up down
    (∃ b : Baseline, done.outcome = .ok result ∧
      done.world.soft = sized.addAll (b.regressions result)) ∨
    ∃ failure, done.outcome = .error failure ∧ done.world.soft = sized := by
  intro done sized result
  rcases checkBaseline_cases context site result { world with soft := sized } with
    ⟨content, b, read, loaded⟩ | ⟨failure, ho, hs⟩
  · have yields : Yields (recordChecks context site target up down) world result _ [] :=
      recordChecks_yields ⟨read, rfl⟩ loaded
    exact Or.inl ⟨b, yields.outcome_eq, congrArg RunWorld.soft yields.world_eq⟩
  -- the sizes have been recorded by then
  let sizes := sizeFailures target up.series down.series
  have recorded : Yields (failuresSoFar >>= fun before => recordFailures sizes >>= fun _ =>
      (pure before : RunOperation ω (List SoftFailure))) world world.soft.failures
        { world with soft := sized } [] :=
    Yields.failuresSoFar.silent_bind ((Yields.recordFailures sizes).silent_bind (Yields.pure _))
  have hdone := recorded.then_ends fun before =>
    checkBaseline context site result >>= fun _ => failuresSoFar >>= fun after =>
    (after.drop before.length).forM (fun f => tell (Journal.softFailure site.fleet.name f)) >>=
    fun _ => pure result
  simp only [Operation.bind_assoc, Operation.bind_of_error ho] at hdone
  exact Or.inr ⟨failure, hdone.1, (congrArg RunWorld.soft hdone.2).trans hs⟩

/-! ## Failed cycles -/

/-- The sizes of a course whose milestones are there are checked sample by sample. -/
theorem CycleCourse.Located.sizeFailures_eq {d : CycleCourse} {target : UInt32}
    (located : d.Located target) : sizeFailures target d.up d.down = sizesOf target d.up d.down :=
  FleetScaling.sizeFailures_eq d.down
    ((Milestone.locate_eq_ok_iff d.up.instances_eq _ _ _).1 located.instances).1.mem
    ((Milestone.locate_eq_ok_iff d.up.nodes_eq _ _ _).1 located.nodes).1.mem

section Failed

variable {context : RunContext} {site : Site ω} {target : UInt32} {world : RunWorld ω}

/-- All goes well up to the report, as this course says, and the report is accepted. -/
def Reported (context : RunContext) (site : Site ω) (target : UInt32) (world : RunWorld ω)
    (d : CycleCourse) : Prop :=
  d.Located target ∧ ∃ later,
    Conversation site world.site (context.reportedExchanges site.fleet.name target d) later

/-- A cycle that fails after its report has recorded the sizes. -/
theorem checks_of_reported {failure : Failure} {d : CycleCourse}
    (failed : (cycle context site target world).outcome = .error failure)
    (reported : Reported context site target world d) :
    (cycle context site target world).world.soft =
      world.soft.addAll (sizesOf target d.up d.down) := by
  obtain ⟨located, later, talk⟩ := reported
  have reported := reportedCycle_yields located talk
  rw [cycle_eq, (reported.then_ends _).1] at failed
  rw [cycle_eq, (reported.then_ends _).2, ← located.sizeFailures_eq]
  rcases recordChecks_cases context site target d.growth d.shrinkage { world with site := later } with
    ⟨b, ho, _⟩ | ⟨_, _, hs⟩
  · exact nomatch ho.symm.trans failed
  · exact hs

/-- **Soft checks of a failed cycle.** A cycle that fails leaves the soft checks as they were
exactly if, in case its report was accepted, all sizes in its series were as expected; otherwise it
leaves behind what the sizes showed. -/
theorem failed_cycle_keeps_checks_iff {failure : Failure}
    (failed : (cycle context site target world).outcome = .error failure) :
    let after := (cycle context site target world).world.soft
    (after = world.soft ↔
      ∀ d, Reported context site target world d → sizesOf target d.up d.down = []) ∧
    ∀ d, Reported context site target world d →
      after = world.soft.addAll (sizesOf target d.up d.down) := by
  intro after
  have left (d : CycleCourse) (reported : Reported context site target world d) :
      after = world.soft.addAll (sizesOf target d.up d.down) := checks_of_reported failed reported
  refine ⟨⟨fun kept d reported => ?_, fun right => ?_⟩, left⟩
  · have same := (left d reported).symm.trans kept
    exact List.append_right_eq_self.1 (congrArg SoftChecks.failures same)
  · rcases h : (reportedCycle context site target world).outcome with failure' | ⟨up, down⟩
    · show (cycle context site target world).world.soft = _
      rw [cycle_eq, Operation.bind_of_error h]
      exact KeepsChecks.reportedCycle context site target world
    · obtain ⟨d, later, _, _, located, talk⟩ := reportedCycle_of_ok h
      have reported : Reported context site target world d := ⟨located, later, talk⟩
      rw [left d reported, right d reported]
      exact congrArg SoftChecks.mk (List.append_nil _)

end Failed

/-! ## Cycles without a baseline file -/

/-- The script for a course, except that there is no file. -/
def unfiledScript (d : CycleCourse) : Rehearsal.Script :=
  { overshootScript with series := [d.up, d.down], files := .empty }

/-- As many instances are launched as are asked for. -/
def steady : CycleCourse :=
  { overshoot with up := .ofSamples [sampleAt 1 0 1700000010, sampleAt 2 1 1700000030,
      sampleAt 2 2 1700000050] .epoch }

theorem steady_located : steady.Located 2 where
  instances := eq_ok_of_toOption (by decide +kernel)
  nodes := eq_ok_of_toOption (by decide +kernel)
  emptied := eq_ok_of_toOption (by decide +kernel)

theorem steady_reported : Reported overshootContext (Rehearsal.site "bench" none) 2
    ⟨unfiledScript steady, .empty⟩ steady :=
  ⟨steady_located, _, ⟨_, ⟨rfl, rfl⟩, _, ⟨rfl, rfl⟩, _, ⟨rfl, rfl⟩, _, ⟨rfl, rfl⟩, _, ⟨rfl, rfl⟩,
    _, ⟨rfl, rfl⟩, _, ⟨rfl, rfl⟩, _, ⟨rfl, rfl⟩, _, ⟨rfl, rfl⟩, _, ⟨rfl, rfl⟩, rfl⟩⟩

theorem failed_cycle_keeps_checks_steady :
    let done := cycle overshootContext (Rehearsal.site "bench" none) 2
      ⟨unfiledScript steady, .empty⟩
    ∃ failure, done.outcome = .error failure ∧
      Reported overshootContext (Rehearsal.site "bench" none) 2 ⟨unfiledScript steady, .empty⟩
        steady ∧
      done.world.soft = .empty := by
  intro done
  obtain ⟨failure, failed⟩ : ∃ failure, done.outcome = .error failure :=
    exists_error_of_toOption (by decide +kernel)
  refine ⟨failure, failed, steady_reported, ?_⟩
  rw [(failed_cycle_keeps_checks_iff failed).2 steady steady_reported]
  decide +kernel

/-- One instance too many was launched, and the cycle that fails leaves this in the soft checks. -/
theorem not_keeps_checks_overshoot :
    let done := cycle overshootContext (Rehearsal.site "bench" none) 2
      ⟨unfiledScript overshoot, .empty⟩
    ¬∀ failure, done.outcome = .error failure → done.world.soft = .empty := by
  intro done kept
  obtain ⟨failure, failed⟩ : ∃ failure, done.outcome = .error failure :=
    exists_error_of_toOption (by decide +kernel)
  have left : done.world.soft = ⟨[⟨2, "max_ec2_capacity", "2", "3"⟩]⟩ := by decide +kernel
  rw [left] at kept
  exact absurd (kept failure failed) (by decide)

end FleetScaling

import FleetScaling.Proofs.Collector.Course
import FleetScaling.Proofs.Collector.Health
import FleetScaling.Proofs.Run.Failed

/-!
# Windows and milestones

The sampler ends a window at the first sample with both counts at the target; the cycle looks for
the first sample with each count at the target by itself, and when the cluster shrinks for that of
the nodes alone. `cycle_meets_windows` says how the two fit together: a window that ends early holds
all milestones that are looked for, and a cycle that fails for want of one has used the whole budget
without a sample that could have ended the window. All other failures are those of the parties
(`FailsItself`) or of the baseline.
-/

namespace FleetScaling

open Time

variable {ω : Type}

/-! ## Series of a window -/

namespace Sampler

variable {s : Sampler ω} {window : Window} {world : ω} {series : Series}

/-- Every good sample was taken at an instant. -/
def Dated (s : Sampler ω) : Prop := ∀ window world sample,
  (s.sample window world).outcome = .ok sample → (Instant.ofEpoch? sample.time).isSome

/-- The window ends before its budget is used up. -/
def EndsEarly (s : Sampler ω) (window : Window) (world : ω) : Prop :=
  totalWait (s.collect window world).notes < window.budget

theorem dated_of_collect (dated : s.Dated) (h : (s.collect window world).outcome = .ok series) :
    ∀ sample ∈ series.samples, (Instant.ofEpoch? sample.time).isSome := by
  intro sample hs
  obtain ⟨world', taken⟩ := (collect_ends h).1 sample hs
  exact dated window world' sample taken

/-- A window that ends early ends with a sample that has both counts at the target. -/
theorem last_of_early (h : (s.collect window world).outcome = .ok series)
    (early : s.EndsEarly window world) : ∃ front sample, series.samples = front ++ [sample] ∧
      sample.instances = window.target ∧ sample.nodes = window.target := by
  refine (collect_ends h).2.resolve_right fun full => ?_
  have early : (totalWait (s.collect window world).notes).nanos < window.budget.nanos := early
  omega

/-- A count that has no milestone in a window has never been at the target. -/
theorem locate_error_of_collect {count : Sample → UInt32} {column : List UInt32} {target : UInt32}
    {reference : Instant} {error : MilestoneError} (counted : column = series.samples.map count)
    (dated : s.Dated) (h : (s.collect window world).outcome = .ok series)
    (hl : Milestone.locate column series.times target reference = .error error) :
    error = .targetNotReached target series.size ∧
      ∀ sample ∈ series.samples, count sample ≠ target := by
  rcases Milestone.locate_of_dated counted (dated_of_collect dated h) target reference with
    ⟨m, hm⟩ | ⟨he, never⟩
  · exact nomatch hl.symm.trans hm
  · exact ⟨Except.error.inj (hl.symm.trans he), never⟩

/-- A window that ends early holds the milestone of each count that is at the target in the end. -/
theorem locate_ok_of_early {count : Sample → UInt32} {column : List UInt32}
    (counted : column = series.samples.map count) (dated : s.Dated)
    (h : (s.collect window world).outcome = .ok series) (early : s.EndsEarly window world)
    (hcount : ∀ sample, sample.instances = window.target → sample.nodes = window.target →
      count sample = window.target) (reference : Instant) :
    ∃ m, Milestone.locate column series.times window.target reference = .ok m := by
  refine (Milestone.locate_of_dated counted (dated_of_collect dated h) window.target reference)
    |>.resolve_right fun ⟨_, never⟩ => ?_
  obtain ⟨front, sample, hs, hi, hn⟩ := last_of_early h early
  refine never sample ?_ (hcount sample hi hn)
  rw [hs]
  exact List.mem_concat_self

end Sampler

/-! ## Windows of a cycle -/

/-- What is asked for before a window has been granted; the window begins in the world `opened` and
gives the series. -/
def Watched (site : Site ω) (opening : Instant → List Exchange) (window : Window) (start opened : ω)
    (series : Series) : Prop :=
  ∃ now, Conversation site start (opening now) opened ∧
    (site.collector.collect window opened).outcome = .ok series

/-- The window in which the cluster of a placeholder job grows. -/
def WatchedGrowth (context : RunContext) (site : Site ω) (target : UInt32) (start opened : ω)
    (id : String) (series : Series) : Prop :=
  Watched site (context.growthOpening target id) (context.window site.fleet.name target) start opened
    series

/-- The window in which it shrinks. -/
def WatchedShrinkage (context : RunContext) (site : Site ω) (start opened : ω) (id : String)
    (series : Series) : Prop :=
  Watched site (shrinkOpening id) (context.window site.fleet.name 0) start opened series

namespace Watched

variable {site : Site ω} {opening : Instant → List Exchange} {window : Window} {start opened : ω}
  {series : Series}

theorem talk (h : Watched site opening window start opened series) : ∃ now last,
    Conversation site start (opening now ++ [.collected window (.ok series)]) last := by
  obtain ⟨now, talk, collected⟩ := h
  exact ⟨now, _, talk.append ⟨_, ⟨collected, rfl⟩, rfl⟩⟩

theorem of_talk {now : Instant} {last : ω} (talk : Conversation site start
    (opening now ++ [.collected window (.ok series)]) last) :
    ∃ opened, Watched site opening window start opened series := by
  obtain ⟨opened, opening, _, ⟨collected, _⟩, _⟩ := talk.split
  exact ⟨opened, now, opening, collected⟩

theorem collected {s : Sampler ω} (h : Watched site opening window start opened series)
    (collects : site.collector = s.collector) :
    (s.collect window opened).outcome = .ok series := by
  obtain ⟨_, _, collected⟩ := h
  rwa [collects] at collected

end Watched

section Cycle

variable {context : RunContext} {site : Site ω} {target : UInt32} {world : RunWorld ω}
  {s : Sampler ω} {id : String} {opened : ω} {series : Series}

/-- Nothing is made of what is asked for before a window, so it cannot be of no use. -/
theorem usable_growthOpening {now : Instant} {failure : Failure} :
    ∀ e ∈ context.growthOpening target id now, ¬e.Unusable failure := by
  intro e he hu
  cases hu <;> simp [RunContext.growthOpening] at he

theorem usable_shrinkOpening {now : Instant} {failure : Failure} :
    ∀ e ∈ shrinkOpening id now, ¬e.Unusable failure := by
  intro e he hu
  cases hu <;> simp [shrinkOpening] at he

variable (collects : site.collector = s.collector) (dated : s.Dated)

include collects dated

/-- A growth whose window ends early succeeds. -/
theorem scaleUp_of_early
    (watched : WatchedGrowth context site target world.site opened id series)
    (early : s.EndsEarly (context.window site.fleet.name target) opened) :
    ∃ up, (scaleUp context site target world).outcome = .ok (id, up) ∧ up.series = series := by
  obtain ⟨now, last, talk⟩ := watched.talk
  have collected := watched.collected collects
  obtain ⟨instances, hi⟩ := Sampler.locate_ok_of_early series.instances_eq dated collected early
    (fun _ hi _ => hi) now.startOfMinute
  obtain ⟨nodes, hn⟩ := Sampler.locate_ok_of_early series.nodes_eq dated collected early
    (fun _ _ hn => hn) now.startOfMinute
  refine ⟨⟨now.startOfMinute, series, instances, nodes⟩, ?_, rfl⟩
  exact (scaleUp_yields hi hn talk).outcome_eq

/-- A shrinkage whose window ends early succeeds, and no node is left at the end. -/
theorem scaleDown_of_early (target : UInt32)
    (watched : WatchedShrinkage context site world.site opened id series)
    (early : s.EndsEarly (context.window site.fleet.name 0) opened) :
    (∃ down, (scaleDown context site target id world).outcome = .ok down ∧ down.series = series) ∧
      series.lastNodes = some 0 := by
  obtain ⟨now, last, talk⟩ := watched.talk
  have collected := watched.collected collects
  obtain ⟨nodes, hn⟩ := Sampler.locate_ok_of_early series.nodes_eq dated collected early
    (fun _ _ hn => hn) now.startOfMinute
  refine ⟨⟨⟨series, nodes⟩, (scaleDown_yields hn talk).outcome_eq, rfl⟩, ?_⟩
  · obtain ⟨front, sample, hs, _, hzero⟩ := Sampler.last_of_early collected early
    rw [Series.lastNodes, series.nodes_eq, hs, List.map_append, List.map_singleton, List.getLast?_concat, hzero]
    rfl

/-- A growth fails by itself only if its window has used the whole budget without a sample that has
both counts at the target. -/
theorem scaleUp_fails {failure : Failure}
    (h : (scaleUp context site target world).outcome = .error failure) :
    FailsItself site world (scaleUp context site target world) ∨
      ∃ opened id series, WatchedGrowth context site target world.site opened id series ∧
        ¬s.EndsEarly (context.window site.fleet.name target) opened ∧
        (∀ sample ∈ series.samples, ¬(sample.instances = target ∧ sample.nodes = target)) ∧
        failure.cause = .milestone (.targetNotReached target series.size) := by
  rcases (scaleUp_planned context site target).fails h with
    fails | ⟨⟨id, _, series, _, _⟩, done, e, rest, last, ⟨now, _, hplan⟩, talk, hu⟩
  · exact Or.inl fails
  -- only the series can have been of no use, so all before it was granted
  obtain ⟨rfl, rfl⟩ := hu.eq_last usable_growthOpening hplan.symm
  obtain ⟨opened, watched⟩ : ∃ opened, WatchedGrowth context site target world.site opened id series :=
    Watched.of_talk talk
  rw [scaleUp_eq, ((watchGrowth_yields talk).then_ends _).1] at h
  have collected := watched.collected collects
  obtain ⟨error, hcause, hl⟩ := locate_of_timeGrowth_error h
  have missed : error = .targetNotReached target series.size ∧
      ∀ sample ∈ series.samples, ¬(sample.instances = target ∧ sample.nodes = target) := by
    rcases hl with hl | hl
    · obtain ⟨he, never⟩ := Sampler.locate_error_of_collect series.instances_eq dated collected hl
      exact ⟨he, fun sample hs both => never sample hs both.1⟩
    · obtain ⟨he, never⟩ := Sampler.locate_error_of_collect series.nodes_eq dated collected hl
      exact ⟨he, fun sample hs both => never sample hs both.2⟩
  refine Or.inr ⟨opened, id, series, watched, fun early => ?_, missed.2, by rw [hcause, missed.1]⟩
  obtain ⟨front, sample, hs, both⟩ := Sampler.last_of_early collected early
  exact missed.2 sample (hs ▸ List.mem_concat_self) both

/-- A shrinkage fails by itself only if no sample of its window is without nodes. -/
theorem scaleDown_fails {failure : Failure}
    (h : (scaleDown context site target id world).outcome = .error failure) :
    FailsItself site world (scaleDown context site target id world) ∨
      ∃ opened series, WatchedShrinkage context site world.site opened id series ∧
        (∀ sample ∈ series.samples, sample.nodes ≠ 0) ∧
        failure.cause = .milestone (.targetNotReached 0 series.size) := by
  rcases (scaleDown_planned context site target id).fails h with
    fails | ⟨⟨series, _⟩, done, e, rest, last, ⟨now, hplan⟩, talk, hu⟩
  · exact Or.inl fails
  obtain ⟨rfl, rfl⟩ := hu.eq_last usable_shrinkOpening hplan.symm
  obtain ⟨opened, watched⟩ : ∃ opened, WatchedShrinkage context site world.site opened id series :=
    Watched.of_talk talk
  rw [scaleDown_eq, ((watchShrinkage_yields talk).then_ends _).1] at h
  obtain ⟨error, hcause, hl⟩ := locate_of_timeShrinkage_error h
  obtain ⟨he, never⟩ := Sampler.locate_error_of_collect series.nodes_eq dated
    (watched.collected collects) hl
  exact Or.inr ⟨opened, series, watched, never, by rw [hcause, he]⟩

omit collects dated

/-- A baseline that cannot be loaded is no missing milestone. -/
theorem baselineFailure_ne_milestone {path : String} {content : Except FileError String}
    {failure : Failure} (h : Baseline.ofFile path content = .error failure)
    (error : MilestoneError) : failure.cause ≠ .milestone error := by
  unfold Baseline.ofFile at h
  cases content with
  | error e =>
    cases h
    exact nofun
  | ok text =>
    simp only at h
    cases hd : Json.decode Baseline.decoder text with
    | ok b =>
      rw [hd] at h
      cases h
    | error e =>
      rw [hd] at h
      cases h
      exact nofun

theorem reportResult_fails {up : GrowthPhase} {down : ShrinkPhase} {failure : Failure}
    (h : (reportResult context site target up down world).outcome = .error failure) :
    FailsItself site world (reportResult context site target up down world) := by
  rcases (reportResult_planned context site target up down).fails h with
    fails | ⟨_, done, e, rest, _, hplan, _, hu⟩
  · exact fails
  have he : e ∈ done ++ e :: rest := List.mem_append_right done List.mem_cons_self
  rw [hplan, List.mem_singleton] at he
  subst he
  cases hu

theorem recordChecks_fails {up : GrowthPhase} {down : ShrinkPhase} {failure : Failure}
    (h : (recordChecks context site target up down world).outcome = .error failure) :
    FailsItself site world (recordChecks context site target up down world) ∨
      ∃ content, Baseline.ofFile context.baselinePath content = .error failure := by
  rcases (recordChecks_planned context site target up down).fails h with
    fails | ⟨_, done, e, rest, _, ⟨_, content, hplan⟩, _, hu⟩
  · exact Or.inl fails
  have he : e ∈ done ++ e :: rest := List.mem_append_right done List.mem_cons_self
  rw [hplan, List.mem_singleton] at he
  subst he
  cases hu with
  | unloadable loaded => exact Or.inr ⟨content, loaded⟩

/-- A cycle fails because a party does, because one of its halves finds no milestone, or for want of
a baseline. -/
theorem cycle_fails {failure : Failure}
    (h : (cycle context site target world).outcome = .error failure) :
    let grown := scaleUp context site target world
    (grown.outcome = .error failure ∧ (FailsItself site world grown →
      FailsItself site world (cycle context site target world))) ∨
    (∃ id up, grown.outcome = .ok (id, up) ∧
      (scaleDown context site target id grown.world).outcome = .error failure ∧
      (FailsItself site grown.world (scaleDown context site target id grown.world) →
        FailsItself site world (cycle context site target world))) ∨
    FailsItself site world (cycle context site target world) ∨
    ∃ content, Baseline.ofFile context.baselinePath content = .error failure := by
  -- what failed is lifted over the parts before it, which have succeeded
  have growing := (scaleUp_planned context site target).comes
  have reporting := (reportedCycle_planned context site target).comes
  rw [cycle_eq] at h ⊢
  rcases Operation.error_of_bind h with h | ⟨⟨up, down⟩, hr, h⟩
  · rcases Operation.error_of_bind h with h | ⟨⟨id, up⟩, hu, h⟩
    · exact Or.inl ⟨h, fun fails => fails.first.first⟩
    have shrinking := (scaleDown_planned context site target id).comes
    rcases Operation.error_of_bind h with h | ⟨down, hd, h⟩
    · exact Or.inr (Or.inl ⟨id, up, hu, h, fun fails => (fails.first.second growing hu).first⟩)
    rcases Operation.error_of_bind h with h | ⟨_, _, h⟩
    · have fails := reportResult_fails h
      exact Or.inr (Or.inr (Or.inl ((fails.first.second shrinking hd).second growing hu).first))
    · cases h
  · rcases recordChecks_fails h with fails | unloadable
    · exact Or.inr (Or.inr (Or.inl (fails.second reporting hr)))
    · exact Or.inr (Or.inr (Or.inr unloadable))

/-- A failure about a metric bears its name. -/
theorem check_of_regressions {b : Baseline} {result : CycleResult} {f : SoftFailure}
    (hf : f ∈ b.regressions result) : ∃ metric : Metric, f.check = metric.name := by
  obtain ⟨check, _, hc⟩ := List.mem_filterMap.1 hf
  refine ⟨check.metric, ?_⟩
  unfold MetricCheck.softFailure? SoftFailure.unlessAtMost at hc
  split at hc
  · cases hc
  · rw [← Option.some.inj hc]

/-- What a cycle records, whatever comes of it: what its sizes show, and then metrics that took
longer than the baseline expects. -/
theorem recorded_of_cycle {f : SoftFailure}
    (hf : f ∈ (cycle context site target world).world.soft.failures.drop
      world.soft.failures.length) :
    ∃ up down, (reportedCycle context site target world).outcome = .ok (up, down) ∧
      (f ∈ sizeFailures target up.series down.series ∨ ∃ metric : Metric, f.check = metric.name) := by
  have kept := KeepsChecks.reportedCycle context site target world
  rw [cycle_eq] at hf
  rcases h : (reportedCycle context site target world).outcome with failure | ⟨up, down⟩
  · rw [Operation.bind_of_error h, kept, List.drop_length] at hf
    cases hf
  refine ⟨up, down, rfl, ?_⟩
  rw [Operation.bind_of_ok h] at hf
  rcases recordChecks_cases context site target up down
    (reportedCycle context site target world).world with ⟨b, _, hs⟩ | ⟨_, _, hs⟩
  · rw [hs, kept] at hf
    change f ∈ (world.soft.failures ++ _ ++ _).drop _ at hf
    rw [List.append_assoc, List.drop_left, List.mem_append] at hf
    exact hf.imp id check_of_regressions
  · rw [hs, kept] at hf
    change f ∈ (world.soft.failures ++ _).drop _ at hf
    rw [List.drop_left] at hf
    exact Or.inl hf

/-- The failure of a check that two values are equal bears the name of the check. -/
theorem check_of_unlessEqual {check : String} {actual expected : UInt32} {f : SoftFailure}
    (hf : SoftFailure.unlessEqual toString target check actual expected = some f) :
    f.check = check := by
  unfold SoftFailure.unlessEqual at hf
  split at hf
  · cases hf
  · rw [← Option.some.inj hf]

/-- If no node is left at the end, the sizes do not say that there is one. -/
theorem check_of_sizeFailures {up down : Series} {f : SoftFailure} (hzero : down.lastNodes = some 0)
    (hf : f ∈ sizeFailures target up down) : f.check ≠ "final_compute_nodes" := by
  obtain ⟨o, ho, hof⟩ := List.mem_filterMap.1 hf
  have hof : o = some f := hof
  subst hof
  rcases List.mem_cons.1 ho with h | ho
  · rw [check_of_unlessEqual h.symm]
    decide
  rcases List.mem_cons.1 ho with h | ho
  · rw [check_of_unlessEqual h.symm]
    decide
  · rw [hzero] at ho
    exact nomatch List.mem_singleton.1 ho

/-- A cycle whose cluster shrank to nothing in the end does not record that nodes are left. -/
theorem recorded_of_emptied {up : GrowthPhase} {down : ShrinkPhase}
    (hu : (scaleUp context site target world).outcome = .ok (id, up))
    (hd : (scaleDown context site target id (scaleUp context site target world).world).outcome =
      .ok down) (hzero : down.series.lastNodes = some 0) :
    ∀ f ∈ (cycle context site target world).world.soft.failures.drop world.soft.failures.length,
      f.check ≠ "final_compute_nodes" := by
  intro f hf
  obtain ⟨up', down', hr, h⟩ := recorded_of_cycle hf
  have hdown : down' = down := by
    obtain ⟨⟨id', _⟩, hu', hr⟩ := Operation.ok_of_bind hr
    obtain ⟨_, hd', hr⟩ := Operation.ok_of_bind hr
    obtain ⟨_, _, hr⟩ := Operation.ok_of_bind hr
    cases hr
    cases hu.symm.trans hu'
    exact Except.ok.inj (hd'.symm.trans hd)
  rcases h with h | ⟨metric, h⟩
  · rw [hdown] at h
    exact check_of_sizeFailures hzero h
  · rw [h]
    cases metric <;> decide

/-- **Windows and milestones.** When a sampler collects the series of a cycle:
a growth whose window ends early finds both its milestones;
a shrinkage whose window ends early finds its own, and no nodes are recorded as left;
and a cycle fails for want of a milestone only if its growth used the whole budget without a sample
that has both counts at the target, or no sample of its shrinkage is without nodes. In both cases the
target was not reached; no cycle fails for another fault of a series, unless a party does. -/
theorem cycle_meets_windows (collects : site.collector = s.collector) (dated : s.Dated)
    (context : RunContext) (target : UInt32) (world : RunWorld ω) :
    let grown := scaleUp context site target world
    let done := cycle context site target world
    let growth := context.window site.fleet.name target
    let shrinkage := context.window site.fleet.name 0
    (∀ opened id series, WatchedGrowth context site target world.site opened id series →
      s.EndsEarly growth opened → ∃ up, grown.outcome = .ok (id, up) ∧ up.series = series) ∧
    (∀ id up opened series, grown.outcome = .ok (id, up) →
      WatchedShrinkage context site grown.world.site opened id series →
      s.EndsEarly shrinkage opened →
      (∃ down, (scaleDown context site target id grown.world).outcome = .ok down ∧
        down.series = series) ∧
      ∀ f ∈ done.world.soft.failures.drop world.soft.failures.length,
        f.check ≠ "final_compute_nodes") ∧
    ∀ failure error, done.outcome = .error failure → failure.cause = .milestone error →
      FailsItself site world done ∨
      (∃ opened id series, WatchedGrowth context site target world.site opened id series ∧
        ¬s.EndsEarly growth opened ∧
        (∀ sample ∈ series.samples, ¬(sample.instances = target ∧ sample.nodes = target)) ∧
        error = .targetNotReached target series.size) ∨
      ∃ id up opened series, grown.outcome = .ok (id, up) ∧
        WatchedShrinkage context site grown.world.site opened id series ∧
        (∀ sample ∈ series.samples, sample.nodes ≠ 0) ∧ error = .targetNotReached 0 series.size := by
  intro grown done growth shrinkage
  refine ⟨fun opened id series watched early => scaleUp_of_early collects dated watched early,
    fun id up opened series hu watched early => ?_, fun failure error failed hcause => ?_⟩
  · obtain ⟨⟨down, hd, hseries⟩, hzero⟩ :=
      scaleDown_of_early collects dated target watched early
    subst hseries
    exact ⟨⟨down, hd, rfl⟩, recorded_of_emptied hu hd hzero⟩
  have cause (e : MilestoneError) (h : failure.cause = .milestone e) : error = e :=
    Cause.milestone.inj (hcause.symm.trans h)
  rcases cycle_fails failed with ⟨h, lift⟩ | ⟨id, up, hu, h, lift⟩ | h | ⟨content, h⟩
  · refine (scaleUp_fails collects dated h).imp lift fun h => Or.inl ?_
    obtain ⟨opened, id, series, watched, full, never, h⟩ := h
    exact ⟨opened, id, series, watched, full, never, cause _ h⟩
  · refine (scaleDown_fails collects dated h).imp lift fun h => Or.inr ?_
    obtain ⟨opened, series, watched, never, h⟩ := h
    exact ⟨id, up, opened, series, hu, watched, never, cause _ h⟩
  · exact Or.inl h
  · exact absurd hcause (baselineFailure_ne_milestone h error)

end Cycle

/-! ## Two windows in rehearsal -/

/-- A sampler of a scripted cluster, with a clock that stands still. -/
def stillSampler : Sampler Rehearsal.Script :=
  { rehearsedSampler with clock := pure (secondOf 1700000010) }

/-- A site where it collects the series. -/
def sampledSite : Site Rehearsal.Script :=
  { Rehearsal.site "bench" none with collector := stillSampler.collector }

/-- Two nodes come, after a sample without any and one that fails, and go again. -/
def wavingScript : Rehearsal.Script :=
  { overshootScript with
    probe := [.counts 1 0, .noInstances "throttled", .counts 2 2, .counts 2 1, .counts 0 0] }

theorem stillSampler_dated : stillSampler.Dated := by
  intro window world sample h
  obtain ⟨instances, _, h⟩ := Operation.ok_of_bind h
  obtain ⟨nodes, _, h⟩ := Operation.ok_of_bind h
  obtain ⟨now, hc, h⟩ := Operation.ok_of_bind h
  cases hc
  cases h
  show (Instant.ofEpoch? (secondOf 1700000010).toEpoch).isSome
  decide +kernel

/-- Both windows end early, so both halves succeed and no nodes are recorded as left. -/
theorem cycle_meets_windows_waving :
    let world : RunWorld Rehearsal.Script := ⟨wavingScript, .empty⟩
    let grown := scaleUp overshootContext sampledSite 2 world
    sampledSite.collector = stillSampler.collector ∧ stillSampler.Dated ∧
    ∃ up down, grown.outcome = .ok ("100", up) ∧
      (scaleDown overshootContext sampledSite 2 "100" grown.world).outcome = .ok down ∧
      ∀ f ∈ (cycle overshootContext sampledSite 2 world).world.soft.failures,
        f.check ≠ "final_compute_nodes" := by
  intro world grown
  have collects : sampledSite.collector = stillSampler.collector := rfl
  obtain ⟨growing, shrinking, _⟩ :=
    cycle_meets_windows collects stillSampler_dated overshootContext 2 world
  obtain ⟨opened, series, watched, early⟩ : ∃ opened series,
      WatchedGrowth overshootContext sampledSite 2 wavingScript opened "100" series ∧
        stillSampler.EndsEarly (overshootContext.window "bench" 2) opened := by
    refine ⟨_, (exists_ok_of_toOption (by decide +kernel)).imp fun series collected =>
      ⟨⟨overshoot.upTime, ⟨_, ⟨rfl, rfl⟩, _, ⟨rfl, rfl⟩, _, ⟨rfl, rfl⟩, _, ⟨rfl, rfl⟩, rfl⟩,
        collected⟩, ?_⟩⟩
    show _ < _
    decide +kernel
  obtain ⟨up, hup, _⟩ := growing opened "100" series watched early
  obtain ⟨opened', series', watched', early'⟩ : ∃ opened series,
      WatchedShrinkage overshootContext sampledSite grown.world.site opened "100" series ∧
        stillSampler.EndsEarly (overshootContext.window "bench" 0) opened := by
    refine ⟨_, (exists_ok_of_toOption (by decide +kernel)).imp fun series collected =>
      ⟨⟨overshoot.downTime, ⟨_, ⟨eq_ok_of_toOption (by decide +kernel), rfl⟩, _,
        ⟨eq_ok_of_toOption (by decide +kernel), rfl⟩, _,
        ⟨eq_ok_of_toOption (by decide +kernel), rfl⟩, rfl⟩, collected⟩, ?_⟩⟩
    show _ < _
    decide +kernel
  obtain ⟨⟨down, hdown, _⟩, none_left⟩ := shrinking "100" up opened' series' hup watched' early'
  exact ⟨collects, stillSampler_dated, up, down, hup, hdown, none_left⟩

end FleetScaling

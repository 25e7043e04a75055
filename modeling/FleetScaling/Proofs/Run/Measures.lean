import FleetScaling.Proofs.Run.Protocol
import FleetScaling.Proofs.Scaling.Milestone
import FleetScaling.Rehearsal.Script

/-!
# What a cycle measures

A cycle in which nothing fails is followed step by step. `Yields` says that an operation succeeds
in a world, with which value, world and calls; the cycle yields the result of its course
(`cycle_yields`). `cycle_measures` says what that result, the report and the soft failures are in
terms of the samples, the two readings of the clock and the baseline.
-/

namespace FleetScaling

open Time

variable {ω α β : Type}

/-! ## Following a cycle -/

/-- The operation succeeds in a world with a value, leaves another world and makes some calls. -/
structure Yields (x : RunOperation ω α) (world : RunWorld ω) (a : α) (after : RunWorld ω)
    (calls : List Call) : Prop where
  outcome_eq : (x world).outcome = .ok a
  world_eq : (x world).world = after
  calls_eq : callNotes (x world).notes = calls

namespace Yields

variable {world between after : RunWorld ω} {a : α} {b : β}

theorem bind {x : RunOperation ω α} {f : α → RunOperation ω β} {calls calls' : List Call}
    (hx : Yields x world a between calls) (hf : Yields (f a) between b after calls') :
    Yields (x >>= f) world b after (calls ++ calls') := by
  have h := Operation.bind_of_ok (f := f) hx.outcome_eq
  rw [hx.world_eq] at h
  constructor
  · rw [h]
    exact hf.outcome_eq
  · rw [h]
    exact hf.world_eq
  · rw [h, callNotes_append, hx.calls_eq, hf.calls_eq]

/-- What follows ends as if it stood alone. -/
theorem then_ends {x : RunOperation ω α} {calls : List Call} (h : Yields x world a between calls)
    (f : α → RunOperation ω β) : ((x >>= f) world).outcome = (f a between).outcome ∧
      ((x >>= f) world).world = (f a between).world := by
  rw [Operation.bind_of_ok h.outcome_eq, h.world_eq]
  exact ⟨rfl, rfl⟩

/-- One call, and what follows. -/
theorem call_bind {x : RunOperation ω α} {f : α → RunOperation ω β} {call : Call}
    {calls : List Call} (hx : Yields x world a between [call])
    (hf : Yields (f a) between b after calls) : Yields (x >>= f) world b after (call :: calls) :=
  hx.bind hf

/-- No call, and what follows. -/
theorem silent_bind {x : RunOperation ω α} {f : α → RunOperation ω β} {calls : List Call}
    (hx : Yields x world a between []) (hf : Yields (f a) between b after calls) :
    Yields (x >>= f) world b after calls :=
  hx.bind hf

theorem pure (a : α) : Yields (pure a : RunOperation ω α) world a world [] := ⟨rfl, rfl, rfl⟩

theorem note {n : RunNote} (h : n.call? = none) : Yields (Operation.note n) world () world [] :=
  ⟨rfl, rfl, List.filterMap_cons_none h⟩

theorem failuresSoFar : Yields failuresSoFar world world.soft.failures world [] := ⟨rfl, rfl, rfl⟩

theorem recordFailures (failures : List SoftFailure) : Yields (recordFailures failures) world ()
    { world with soft := world.soft.addAll failures } [] := ⟨rfl, rfl, rfl⟩

theorem forM_own {ι : Type} (f : ι → SiteNote) (l : List ι) :
    Yields (l.forM fun i => own (f i)) world () world [] := by
  have h := forM_own_apply f l world
  constructor
  · rw [h]
  · rw [h]
  · rw [h]
    exact callNotes_own f l

/-- A party that answers. -/
theorem ask (call : Call) {y : SiteOperation ω α} {site : ω}
    (h : Exchange.Happens y (.ok a) world.site site) :
    Yields (FleetScaling.ask call y) world a { world with site } [call] := by
  obtain ⟨ho, hw⟩ := h
  constructor
  · rw [ask_apply]
    exact ho
  · rw [ask_apply, hw]
  · rw [ask_apply]
    exact congrArg (call :: ·) (callNotes_party _)

/-- A party that answers, with a context for the case that it does not. -/
theorem ask_within (call : Call) {y : SiteOperation ω α} {site : ω} {context : String}
    (h : Exchange.Happens y (.ok a) world.site site) :
    Yields (FleetScaling.ask call (y.within context)) world a { world with site } [call] := by
  obtain ⟨ho, hw⟩ := h
  refine ask call ⟨?_, hw⟩
  rw [Operation.within_apply, ho]
  rfl

theorem currentMinute {site : Site ω} {now : Instant} {later : ω}
    (h : Exchange.Happens site.clock (.ok now) world.site later) :
    Yields (currentMinute site) world now.startOfMinute { world with site := later }
      [.readClock] :=
  (ask .readClock h).bind (pure _)

theorem findMilestone {failing : String} {column : List UInt32} {times : List Float}
    {target : UInt32} {reference : Instant} {m : Milestone}
    (h : Milestone.locate column times target reference = .ok m) :
    Yields (findMilestone failing column times target reference) world m world [] := by
  have h : FleetScaling.findMilestone failing column times target reference world = _ :=
    findMilestone_of_ok h world
  constructor
  · rw [h]
  · rw [h]
  · rw [h]
    exact callNotes_clampedNotes

theorem checkBaseline {context : RunContext} {site : Site ω} {result : CycleResult}
    {content : Except FileError String} {b : Baseline} {later : ω}
    (hread : Exchange.Happens (site.readFile context.baselinePath) (.ok content) world.site later)
    (hload : Baseline.ofFile context.baselinePath content = .ok b) :
    Yields (checkBaseline context site result) world ()
      ⟨later, world.soft.addAll (b.regressions result)⟩ [] := by
  obtain ⟨ho, hw⟩ := hread
  subst hw
  have h : FleetScaling.checkBaseline context site result world = _ := checkBaseline_of_ok ho hload
  constructor
  · rw [h]
  · rw [h]
  · rw [h]
    show callNotes (_ ++ _) = []
    rw [callNotes_append, callNotes_party, callNotes_missingNotes, List.append_nil]

end Yields

/-- The milestones of a course are those that its series have. -/
structure CycleCourse.Located (d : CycleCourse) (target : UInt32) : Prop where
  instances : Milestone.locate d.up.instances d.up.times target d.upTime.startOfMinute =
    .ok d.instances
  nodes : Milestone.locate d.up.nodes d.up.times target d.upTime.startOfMinute = .ok d.nodes
  emptied : Milestone.locate d.down.nodes d.down.times 0 d.downTime.startOfMinute =
    .ok d.emptied

section Cycle

variable {context : RunContext} {site : Site ω} {target : UInt32} {world : RunWorld ω}
  {d : CycleCourse} {last : ω}

theorem watchGrowth_yields {id : String} {now : Instant} {series : Series}
    (talk : Conversation site world.site
      (context.growthExchanges site.fleet.name target id now series) last) :
    Yields (watchGrowth context site target) world (id, now.startOfMinute, series)
      { world with site := last }
      [.resetConnection, .startFleet true, .submit (context.placeholder target), .readClock,
        .collect (context.window site.fleet.name target)] := by
  obtain ⟨_, reset, _, started, _, submitted, _, clock, _, collected, hlast⟩ := talk
  subst hlast
  refine Yields.call_bind (Yields.ask _ reset) ?_
  refine Yields.call_bind (Yields.ask_within _ started) ?_
  refine Yields.call_bind (Yields.ask _ submitted) ?_
  refine Yields.silent_bind (Yields.note rfl) ?_
  refine Yields.call_bind (Yields.currentMinute clock) ?_
  refine Yields.silent_bind (Yields.note rfl) ?_
  exact Yields.call_bind (Yields.ask _ collected) (Yields.pure _)

theorem watchShrinkage_yields {id : String} {now : Instant} {series : Series}
    (talk : Conversation site world.site
      (context.shrinkExchanges site.fleet.name id now series) last) :
    Yields (watchShrinkage context site target id) world (now.startOfMinute, series)
      { world with site := last }
      [.cancel id, .stopFleet, .readClock, .collect (context.window site.fleet.name 0)] := by
  obtain ⟨_, cancelled, _, stopped, _, clock, _, collected, hlast⟩ := talk
  subst hlast
  refine Yields.call_bind (Yields.ask _ cancelled) ?_
  refine Yields.silent_bind (Yields.note rfl) ?_
  refine Yields.call_bind (Yields.ask_within _ stopped) ?_
  refine Yields.call_bind (Yields.currentMinute clock) ?_
  refine Yields.silent_bind (Yields.note rfl) ?_
  exact Yields.call_bind (Yields.ask _ collected) (Yields.pure _)

theorem timeGrowth_yields {cluster id : String} {startTime : Instant} {series : Series}
    {instances nodes : Milestone}
    (hi : Milestone.locate series.instances series.times target startTime = .ok instances)
    (hn : Milestone.locate series.nodes series.times target startTime = .ok nodes) :
    Yields (timeGrowth target cluster id startTime series) world
      (id, ⟨startTime, series, instances, nodes⟩) world [] := by
  refine Yields.silent_bind (Yields.findMilestone hi) ?_
  refine Yields.silent_bind (Yields.findMilestone hn) ?_
  exact Yields.silent_bind (Yields.note rfl) (Yields.pure _)

theorem timeShrinkage_yields {cluster : String} {startTime : Instant} {series : Series}
    {nodes : Milestone}
    (hn : Milestone.locate series.nodes series.times 0 startTime = .ok nodes) :
    Yields (timeShrinkage target cluster startTime series) world ⟨series, nodes⟩ world [] := by
  refine Yields.silent_bind (Yields.findMilestone hn) ?_
  exact Yields.silent_bind (Yields.note rfl) (Yields.pure _)

theorem scaleUp_yields {id : String} {now : Instant} {series : Series} {instances nodes : Milestone}
    (hi : Milestone.locate series.instances series.times target now.startOfMinute = .ok instances)
    (hn : Milestone.locate series.nodes series.times target now.startOfMinute = .ok nodes)
    (talk : Conversation site world.site
      (context.growthExchanges site.fleet.name target id now series) last) :
    Yields (scaleUp context site target) world
      (id, ⟨now.startOfMinute, series, instances, nodes⟩) { world with site := last }
      [.resetConnection, .startFleet true, .submit (context.placeholder target), .readClock,
        .collect (context.window site.fleet.name target)] := by
  rw [scaleUp_eq]
  exact (watchGrowth_yields talk).bind (timeGrowth_yields hi hn)

theorem scaleDown_yields {id : String} {now : Instant} {series : Series} {nodes : Milestone}
    (hn : Milestone.locate series.nodes series.times 0 now.startOfMinute = .ok nodes)
    (talk : Conversation site world.site
      (context.shrinkExchanges site.fleet.name id now series) last) :
    Yields (scaleDown context site target id) world ⟨series, nodes⟩ { world with site := last }
      [.cancel id, .stopFleet, .readClock, .collect (context.window site.fleet.name 0)] := by
  rw [scaleDown_eq]
  exact (watchShrinkage_yields talk).bind (timeShrinkage_yields hn)

theorem reportResult_yields {up : GrowthPhase} {down : ShrinkPhase}
    (reported : Exchange.Happens (site.report (context.report site.fleet.name up down
      (context.result target up down))) (.ok ()) world.site last) :
    Yields (reportResult context site target up down) world () { world with site := last }
      [.report (context.report site.fleet.name up down (context.result target up down))] := by
  refine Yields.silent_bind (Yields.note rfl) ?_
  refine Yields.silent_bind (Yields.forM_own _ _) ?_
  exact Yields.ask _ reported

/-- If all goes well up to there, the report is accepted. -/
theorem reportedCycle_yields (located : d.Located target) (talk : Conversation site world.site
    (context.reportedExchanges site.fleet.name target d) last) :
    Yields (reportedCycle context site target) world (d.growth, d.shrinkage)
      { world with site := last } (context.cycleCalls site.fleet.name target d) := by
  obtain ⟨_, up, talk⟩ := talk.split
  obtain ⟨_, down, _, reported, hlast⟩ := talk.split
  subst hlast
  refine Yields.bind (scaleUp_yields located.instances located.nodes up) ?_
  refine Yields.bind (scaleDown_yields located.emptied down) ?_
  exact Yields.call_bind (reportResult_yields reported) (Yields.pure _)

theorem recordChecks_yields {b : Baseline} {up : GrowthPhase} {down : ShrinkPhase}
    {content : Except FileError String}
    (read : Exchange.Happens (site.readFile context.baselinePath) (.ok content) world.site last)
    (loaded : Baseline.ofFile context.baselinePath content = .ok b) :
    Yields (recordChecks context site target up down) world (context.result target up down)
      ⟨last, (world.soft.addAll (sizeFailures target up.series down.series)).addAll
        (b.regressions (context.result target up down))⟩ [] := by
  refine Yields.silent_bind Yields.failuresSoFar ?_
  refine Yields.silent_bind (Yields.recordFailures _) ?_
  refine Yields.silent_bind (Yields.checkBaseline read loaded) ?_
  refine Yields.silent_bind Yields.failuresSoFar ?_
  exact Yields.silent_bind (Yields.forM_own _ _) (Yields.pure _)

/-- The soft failures of a cycle with this course, in the order in which they are recorded. -/
def RunContext.softFailuresOf (c : RunContext) (target : UInt32) (d : CycleCourse) (b : Baseline) :
    List SoftFailure :=
  sizeFailures target d.up d.down ++ b.regressions (c.resultOf target d)

/-- A cycle in which nothing fails yields what its course says. -/
theorem cycle_yields {b : Baseline} (located : d.Located target)
    (loaded : Baseline.ofFile context.baselinePath d.content = .ok b)
    (talk : Conversation site world.site
      (context.cycleExchanges site.fleet.name target d) last) :
    Yields (cycle context site target) world (context.resultOf target d)
      ⟨last, world.soft.addAll (context.softFailuresOf target d b)⟩
      (context.cycleCalls site.fleet.name target d) := by
  have talk : Conversation site world.site (context.reportedExchanges site.fleet.name target d ++
    [.fileRead context.baselinePath (.ok d.content)]) last := talk
  obtain ⟨_, talk, _, read, hlast⟩ := talk.split
  have soft : world.soft.addAll (context.softFailuresOf target d b) =
      (world.soft.addAll (sizeFailures target d.up d.down)).addAll
        (b.regressions (context.resultOf target d)) := by
    unfold SoftChecks.addAll RunContext.softFailuresOf
    rw [List.append_assoc]
  rw [cycle_eq, hlast, soft]
  exact (reportedCycle_yields located talk).bind (recordChecks_yields read loaded)

end Cycle

/-! ## Soft failures -/

/-- A soft failure, if something holds. -/
def failureIf (p : Prop) [Decidable p] (failure : SoftFailure) : List SoftFailure :=
  if p then [failure] else []

/-- The failures about sizes, once both columns have shown the target: a count was higher, or a
node was left at the last sample. -/
def sizesOf (target : UInt32) (up down : Series) : List SoftFailure :=
  failureIf (∃ sample ∈ up.samples, target < sample.instances)
      ⟨target, "max_ec2_capacity", toString target, toString (up.peakInstances.getD 0)⟩ ++
    failureIf (∃ sample ∈ up.samples, target < sample.nodes)
      ⟨target, "max_compute_nodes", toString target, toString (up.peakNodes.getD 0)⟩ ++
    failureIf (∃ sample ∈ down.samples.getLast?, sample.nodes ≠ 0)
      ⟨target, "final_compute_nodes", "0", toString (down.lastNodes.getD 0)⟩

/-- The failures about durations: a complete combination of the baseline expects less. -/
def delaysOf (b : Baseline) (r : CycleResult) : List SoftFailure :=
  match b.lookup r.computeNode r.target r.strategy with
  | none => []
  | some expected =>
    failureIf (expected.instancesUp < r.instancesUp) ⟨r.target, "scale_up_time_ec2",
        "<= " ++ toString expected.instancesUp, toString r.instancesUp⟩ ++
      failureIf (expected.nodesUp < r.nodesUp) ⟨r.target, "scale_up_time_scheduler",
        "<= " ++ toString expected.nodesUp, toString r.nodesUp⟩ ++
      failureIf (expected.down < r.down) ⟨r.target, "scale_down_time",
        "<= " ++ toString expected.down, toString r.down⟩

/-- A check that two numbers are equal fails if something holds, which says that they are not. -/
theorem unlessEqual_toList {p : Prop} [Decidable p] {target actual expected : UInt32}
    (check : String) (h : actual ≠ expected ↔ p) :
    (SoftFailure.unlessEqual toString target check actual expected).toList =
      failureIf p ⟨target, check, toString expected, toString actual⟩ := by
  unfold SoftFailure.unlessEqual failureIf
  by_cases he : actual = expected
  · rw [if_pos he, if_neg fun hp => h.2 hp he]
    rfl
  · rw [if_neg he, if_pos (h.1 he)]
    rfl

theorem unlessAtMost_toList {target : UInt32} {actual limit : Int64} (check : String) :
    (SoftFailure.unlessAtMost toString target check actual limit).toList =
      failureIf (limit < actual) ⟨target, check, "<= " ++ toString limit, toString actual⟩ := by
  unfold SoftFailure.unlessAtMost failureIf
  by_cases h : actual ≤ limit
  · rw [if_pos h, if_neg (Int64.not_lt.2 h)]
    rfl
  · rw [if_neg h, if_pos (Int64.not_le.1 h)]
    rfl

theorem filterMap_id_toList {ι : Type} (a b c : Option ι) :
    [a, b, c].filterMap id = a.toList ++ b.toList ++ c.toList := by
  cases a <;> cases b <;> cases c <;> rfl

theorem sizeFailures_eq {target : UInt32} {up : Series} (down : Series)
    (instances : target ∈ up.samples.map Sample.instances)
    (nodes : target ∈ up.samples.map Sample.nodes) :
    sizeFailures target up down = sizesOf target up down := by
  have hi : up.peakInstances.getD 0 ≠ target ↔
      ∃ sample ∈ up.samples, target < sample.instances := by
    rw [Series.peakInstances, up.instances_eq, peak_ne_iff instances]
  have hn : up.peakNodes.getD 0 ≠ target ↔ ∃ sample ∈ up.samples, target < sample.nodes := by
    rw [Series.peakNodes, up.nodes_eq, peak_ne_iff nodes]
  have hl : down.lastNodes.getD 0 ≠ 0 ↔ ∃ sample ∈ down.samples.getLast?, sample.nodes ≠ 0 := by
    rw [Series.lastNodes, down.nodes_eq, last_ne_iff]
  unfold sizeFailures sizesOf
  rw [filterMap_id_toList, unlessEqual_toList _ hi, unlessEqual_toList _ hn,
    unlessEqual_toList _ hl]
  rfl

theorem regressions_eq (b : Baseline) (r : CycleResult) : b.regressions r = delaysOf b r := by
  unfold Baseline.regressions Baseline.checks? delaysOf
  cases b.lookup r.computeNode r.target r.strategy with
  | none => rfl
  | some expected =>
    show List.filterMap id [MetricCheck.softFailure? _ _, MetricCheck.softFailure? _ _,
      MetricCheck.softFailure? _ _] = _
    unfold MetricCheck.softFailure?
    rw [filterMap_id_toList, unlessAtMost_toList, unlessAtMost_toList, unlessAtMost_toList]
    rfl

/-! ## The measures -/

/-- The reports that a run sends. -/
def reportsOf (notes : List RunNote) : List Report :=
  (callNotes notes).filterMap fun
    | .report r => some r
    | _ => none

/-- **What a cycle measures.** In a cycle in which nothing fails, the three durations are the
seconds from the minute of a reading of the clock to the first sample with the target, or without
nodes, and zero if that lies before; one report is sent, which carries them; and the soft checks
grow by the sizes that were not as expected and the durations that were longer than expected. -/
theorem cycle_measures {context : RunContext} {site : Site ω} {target : UInt32}
    (world : RunWorld ω) {d : CycleCourse} {last : ω} {b : Baseline} (located : d.Located target)
    (loaded : Baseline.ofFile context.baselinePath d.content = .ok b)
    (talk : Conversation site world.site
      (context.cycleExchanges site.fleet.name target d) last) :
    let done := cycle context site target world
    let result : CycleResult := ⟨context.region, context.os, context.computeNode,
      context.headNode, target, context.strategy, d.instances.elapsed, d.nodes.elapsed,
      d.emptied.elapsed⟩
    (FirstAt Sample.instances target d.up.samples d.instances.index d.instances.reachedAt ∧
      FirstAt Sample.nodes target d.up.samples d.nodes.index d.nodes.reachedAt ∧
      FirstAt Sample.nodes 0 d.down.samples d.emptied.index d.emptied.reachedAt) ∧
    (result.instancesUp.toInt =
        max 0 (d.instances.reachedAt.secondsSince d.upTime.startOfMinute) ∧
      result.nodesUp.toInt = max 0 (d.nodes.reachedAt.secondsSince d.upTime.startOfMinute) ∧
      result.down.toInt = max 0 (d.emptied.reachedAt.secondsSince d.downTime.startOfMinute)) ∧
    done.outcome = .ok result ∧
    reportsOf done.notes = [⟨result.title, context.region, site.fleet.name,
      d.upTime.startOfMinute, d.down.endTime, target, d.nodes.reachedAt.startOfMinute, result⟩] ∧
    done.world.soft.failures =
      world.soft.failures ++ (sizesOf target d.up d.down ++ delaysOf b result) := by
  intro done result
  have hdone := cycle_yields located loaded talk
  obtain ⟨hi, hie⟩ := (Milestone.locate_eq_ok_iff d.up.instances_eq _ _ _).1 located.instances
  obtain ⟨hn, hne⟩ := (Milestone.locate_eq_ok_iff d.up.nodes_eq _ _ _).1 located.nodes
  obtain ⟨he, hee⟩ := (Milestone.locate_eq_ok_iff d.down.nodes_eq _ _ _).1 located.emptied
  refine ⟨⟨hi, hn, he⟩, ⟨?_, ?_, ?_⟩, hdone.outcome_eq, ?_, ?_⟩
  · show d.instances.elapsed.toInt = _
    rw [hie, Milestone.toInt_elapsed]
  · show d.nodes.elapsed.toInt = _
    rw [hne, Milestone.toInt_elapsed]
  · show d.emptied.elapsed.toInt = _
    rw [hee, Milestone.toInt_elapsed]
  · show List.filterMap _ (callNotes done.notes) = _
    rw [hdone.calls_eq]
    rfl
  · rw [hdone.world_eq]
    show _ ++ (sizeFailures target d.up d.down ++ b.regressions result) = _
    rw [sizeFailures_eq d.down hi.mem hn.mem, regressions_eq]

/-! ## A cycle in rehearsal -/

/-- The beginning of a second after 1970. -/
def secondOf (n : Nat) : Instant := (Instant.of? n 0).getD .epoch

/-- A sample that was taken at a full second. -/
def sampleAt (instances nodes : UInt32) (second : Nat) : Sample :=
  ⟨instances, nodes, Float.ofNat second⟩

/-- Two nodes are asked for and three instances launched; two nodes join. -/
def overshoot : CycleCourse where
  id := "100"
  upTime := secondOf 1700000000
  up := .ofSamples [sampleAt 1 0 1700000010, sampleAt 2 1 1700000030, sampleAt 3 2 1700000050]
    .epoch
  instances := ⟨1, secondOf 1700000030, 50⟩
  nodes := ⟨2, secondOf 1700000050, 70⟩
  downTime := secondOf 1700000100
  down := .ofSamples [sampleAt 3 2 1700000110, sampleAt 0 0 1700000130] .epoch
  emptied := ⟨1, secondOf 1700000130, 30⟩
  content := .ok <| "\x7b\"c5.large\": \x7b\"2\": \x7b\"best-effort\": " ++
    "\x7b\"scale_up_time_ec2\": 40, \"scale_up_time_scheduler\": 90, \"scale_down_time\": 60\x7d" ++
    "\x7d\x7d\x7d"

/-- A run with one target. -/
def overshootContext : RunContext where
  region := "us-east-1"
  os := "alinux2"
  computeNode := "c5.large"
  headNode := "c5.xlarge"
  strategy := .bestEffort
  budget := .ofSeconds 600
  baselinePath := "baseline.json"
  refillDelay := .ofSeconds 60
  targets := [2]
  publish := false

/-- The script for that course. -/
def overshootScript : Rehearsal.Script :=
  { Rehearsal.Script.empty with
    clock := [overshoot.upTime, overshoot.downTime]
    series := [overshoot.up, overshoot.down]
    files := ⟨[(["baseline.json"], .file overshoot.content.toOption)]⟩ }

theorem overshoot_located : overshoot.Located 2 where
  instances := eq_ok_of_toOption (by decide +kernel)
  nodes := eq_ok_of_toOption (by decide +kernel)
  emptied := eq_ok_of_toOption (by decide +kernel)

/-- The baseline expects ten seconds less of the instances. -/
theorem overshoot_loaded : ∃ b, Baseline.ofFile overshootContext.baselinePath overshoot.content =
    .ok b ∧ b.lookup "c5.large" 2 .bestEffort = some ⟨40, 90, 60⟩ := by
  have h : ((Baseline.ofFile overshootContext.baselinePath overshoot.content).toOption.bind
      fun b => b.lookup "c5.large" 2 .bestEffort) = some ⟨40, 90, 60⟩ := by decide +kernel
  obtain ⟨b, hb, hl⟩ := Option.bind_eq_some_iff.1 h
  exact ⟨b, eq_ok_of_toOption hb, hl⟩

theorem overshoot_talk : ∃ last, Conversation (Rehearsal.site "bench" none) overshootScript
    (overshootContext.cycleExchanges "bench" 2 overshoot) last :=
  ⟨_, _, ⟨rfl, rfl⟩, _, ⟨rfl, rfl⟩, _, ⟨rfl, rfl⟩, _, ⟨rfl, rfl⟩, _, ⟨rfl, rfl⟩, _, ⟨rfl, rfl⟩,
    _, ⟨rfl, rfl⟩, _, ⟨rfl, rfl⟩, _, ⟨rfl, rfl⟩, _, ⟨rfl, rfl⟩, _, ⟨rfl, rfl⟩, rfl⟩

theorem cycle_measures_overshoot :
    let site := Rehearsal.site "bench" none
    let done := cycle overshootContext site 2 ⟨overshootScript, .empty⟩
    ∃ b last, overshoot.Located 2 ∧
      Baseline.ofFile overshootContext.baselinePath overshoot.content = .ok b ∧
      Conversation site overshootScript (overshootContext.cycleExchanges "bench" 2 overshoot)
        last ∧
      done.outcome = .ok ⟨"us-east-1", "alinux2", "c5.large", "c5.xlarge", 2, .bestEffort, 50, 70,
        30⟩ ∧
      done.world.soft.failures = [⟨2, "max_ec2_capacity", "2", "3"⟩,
        ⟨2, "scale_up_time_ec2", "<= 40", "50"⟩] := by
  intro site done
  obtain ⟨b, loaded, lookup⟩ := overshoot_loaded
  obtain ⟨last, talk⟩ := overshoot_talk
  obtain ⟨_, _, outcome, _, failures⟩ :=
    cycle_measures ⟨overshootScript, .empty⟩ overshoot_located loaded talk
  refine ⟨b, last, overshoot_located, loaded, talk, outcome, ?_⟩
  rw [failures]
  simp only [delaysOf, overshootContext, lookup]
  decide +kernel

end FleetScaling

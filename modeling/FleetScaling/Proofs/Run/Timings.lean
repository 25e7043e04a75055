import FleetScaling.Proofs.Run.Account
import FleetScaling.Proofs.Run.Failed
import FleetScaling.Proofs.Run.Samples

/-!
# Timings of a run

A cycle is timed once all of its three milestones are there (`Timed`); whatever comes of the report and
the checks after that, its durations have become metrics. A run measures nothing else by itself but, at
the end of each cycle that succeeds, the number of soft failures so far (`ownMetrics_stressTest`).
-/

namespace FleetScaling

open Time

variable {ω α β : Type}

/-! ## Cycles that are timed -/

/-- Both halves of a cycle. -/
def halves (context : RunContext) (site : Site ω) (target : UInt32) :
    RunOperation ω (GrowthPhase × ShrinkPhase) := do
  let (id, up) ← scaleUp context site target
  let down ← scaleDown context site target id
  pure (up, down)

theorem cycle_eq_halves (context : RunContext) (site : Site ω) (target : UInt32) :
    cycle context site target = halves context site target >>= fun (up, down) =>
      reportResult context site target up down >>= fun _ =>
      recordChecks context site target up down := by
  unfold halves reportResult
  simp only [Operation.bind_assoc]
  rfl

/-- Both halves of a cycle go well, as this course says, and its milestones are there. -/
def Timed (context : RunContext) (site : Site ω) (target : UInt32) (world : RunWorld ω)
    (d : CycleCourse) : Prop :=
  d.Located target ∧ ∃ later, Conversation site world.site
    (context.growthExchanges site.fleet.name target d.id d.upTime d.up ++
      context.shrinkExchanges site.fleet.name d.id d.downTime d.down) later

open Classical in
/-- How a cycle goes that begins in a world, if it is timed. -/
noncomputable def course? (context : RunContext) (site : Site ω) (target : UInt32)
    (world : RunWorld ω) : Option CycleCourse :=
  if h : ∃ d, Timed context site target world d then some h.choose else none

section Halves

variable {context : RunContext} {site : Site ω} {target : UInt32} {world : RunWorld ω}

theorem Timed.halves {d : CycleCourse} (h : Timed context site target world d) :
    (halves context site target world).outcome = .ok (d.growth, d.shrinkage) := by
  obtain ⟨located, later, talk⟩ := h
  obtain ⟨between, up, down⟩ := talk.split
  have grown := scaleUp_yields located.instances located.nodes up
  have shrunk : Yields (scaleDown context site target d.id) { world with site := between } d.shrinkage
      { world with site := later } _ := scaleDown_yields located.emptied down
  exact (Yields.bind grown (Yields.bind shrunk (Yields.pure (d.growth, d.shrinkage)))).outcome_eq

theorem timed_of_halves {up : GrowthPhase} {down : ShrinkPhase}
    (h : (halves context site target world).outcome = .ok (up, down)) :
    ∃ d, Timed context site target world d := by
  obtain ⟨⟨id, up'⟩, hu, h⟩ := Operation.ok_of_bind h
  obtain ⟨down', hd, h⟩ := Operation.ok_of_bind h
  cases h
  obtain ⟨d, -, -, located, talk⟩ := exists_course hu hd
  exact ⟨d, located, _, talk⟩

/-- A cycle is timed exactly if both of its halves succeed, and then its course says how. -/
theorem toOption_halves (context : RunContext) (site : Site ω) (target : UInt32)
    (world : RunWorld ω) : (halves context site target world).outcome.toOption =
    (course? context site target world).map fun d => (d.growth, d.shrinkage) := by
  unfold course?
  by_cases h : ∃ d, Timed context site target world d
  · rw [dif_pos h, h.choose_spec.halves]
    rfl
  · rw [dif_neg h]
    rcases ho : (FleetScaling.halves context site target world).outcome with failure | ⟨up, down⟩
    · rfl
    · exact absurd (timed_of_halves ho) h

end Halves

/-! ## What a cycle measures by itself -/

/-- Whatever the world, the run itself measures nothing. -/
def Unmeasured (x : RunOperation ω α) : Prop := ∀ world, ownMetrics (x world).notes = []

namespace Unmeasured

/-- Nothing is measured after `x`. -/
theorem after {x : RunOperation ω α} {f : α → RunOperation ω β} (hf : ∀ a, Unmeasured (f a))
    (world : RunWorld ω) : ownMetrics ((x >>= f) world).notes = ownMetrics (x world).notes := by
  rcases h : (x world).outcome with failure | a
  · rw [Operation.bind_of_error h]
  · rw [Operation.bind_of_ok h, ownMetrics_append, hf, List.append_nil]

theorem bind {x : RunOperation ω α} {f : α → RunOperation ω β} (hx : Unmeasured x)
    (hf : ∀ a, Unmeasured (f a)) : Unmeasured (x >>= f) :=
  fun world => (after hf world).trans (hx world)

theorem pure (a : α) : Unmeasured (pure a : RunOperation ω α) := fun _ => rfl

theorem tell (entry : LogEntry) : Unmeasured (tell entry : RunOperation ω Unit) := fun _ => rfl

theorem party (x : SiteOperation ω α) :
    Unmeasured ((x.renote RunNote.party).onPart sitePart) := fun _ => ownMetrics_party _

theorem ask (call : Call) (x : SiteOperation ω α) : Unmeasured (FleetScaling.ask call x) :=
  bind (fun _ => rfl) fun _ => party x

theorem closed : RunClosed fun α (x : RunOperation ω α) => Unmeasured x where
  result _ _ := rfl
  bind := bind
  tell := tell
  phase _ _ _ := rfl

variable (context : RunContext) (site : Site ω) (target : UInt32)

theorem halves : Unmeasured (halves context site target) := by
  have asked : site.Asked fun _ x => Unmeasured x :=
    ⟨ask _ _, ask _ _, fun _ => ask _ _, ask _ _, fun _ => ask _ _, fun _ => ask _ _, ask _ _⟩
  refine (closed.scaleUp context target asked).bind fun (id, up) => ?_
  exact (closed.scaleDown context target asked id).bind fun down => pure _

theorem recordChecks (up : GrowthPhase) (down : ShrinkPhase) :
    Unmeasured (recordChecks context site target up down) :=
  closed.recordChecks context target ⟨fun _ => rfl, fun _ _ => rfl, fun _ => party _⟩ up down

end Unmeasured

section Updates

variable (context : RunContext) (site : Site ω)

/-- The durations are measured before the report is sent. -/
theorem ownMetrics_reportResult (target : UInt32) (up : GrowthPhase) (down : ShrinkPhase)
    (world : RunWorld ω) : ownMetrics (reportResult context site target up down world).notes =
      durationUpdates (context.result target up down) := by
  let updates := durationUpdates (context.result target up down)
  let measured : RunOperation ω Unit := updates.forM fun update => own (.measured update)
  have hmeasured : ownMetrics (measured world).notes = updates := by
    have h : measured world = ⟨.ok (), world, updates.map fun update => .own (.measured update)⟩ :=
      forM_own_apply _ _ world
    rw [h, ownMetrics_own]
    exact List.filterMap_some
  show ownMetrics ((tell _ >>= fun _ => measured >>= fun _ => ask _ _) world).notes = updates
  rw [Operation.bind_of_ok (a := ()) rfl, ownMetrics_append, Unmeasured.tell _ world,
    Unmeasured.after fun _ => Unmeasured.ask _ _]
  exact hmeasured

/-- A cycle measures its durations as soon as it is timed, even if it fails later. -/
theorem ownMetrics_cycle (target : UInt32) (world : RunWorld ω) :
    ownMetrics (cycle context site target world).notes =
      (course? context site target world).toList.flatMap fun d =>
        durationUpdates (context.resultOf target d) := by
  have hhalves := toOption_halves context site target world
  rw [cycle_eq_halves]
  rcases h : (halves context site target world).outcome with failure | ⟨up, down⟩
  · rw [h] at hhalves
    rw [Operation.bind_of_error h, Unmeasured.halves, Option.map_eq_none_iff.mp hhalves.symm]
    rfl
  · rw [h] at hhalves
    obtain ⟨d, hd, hpair⟩ := Option.map_eq_some_iff.mp hhalves.symm
    cases hpair
    rw [Operation.bind_of_ok h, ownMetrics_append, Unmeasured.halves, hd]
    show ownMetrics ((reportResult context site target d.growth d.shrinkage >>= fun _ =>
      recordChecks context site target d.growth d.shrinkage) _).notes = _ ++ []
    rw [Unmeasured.after fun _ => Unmeasured.recordChecks context site target _ _,
      ownMetrics_reportResult, List.append_nil]
    rfl

/-! ## What a run measures by itself -/

/-- The cycles of some targets that are begun, each with the world in which it is. -/
def begun : List UInt32 → RunWorld ω → List (UInt32 × RunWorld ω)
  | [], _ => []
  | target :: rest, world =>
    (target, world) ::
      match (cycle context site target world).outcome with
      | .ok _ => begun rest (cycle context site target world).world
      | .error _ => []

/-- The cycles that a run begins, each with the world in which it does. -/
def begunBy (world : ω) : List (UInt32 × RunWorld ω) :=
  match (runOpening site world).outcome with
  | .ok _ => begun context site context.targets (runOpening site world).world
  | .error _ => []

/-- The courses of the cycles of a run that are timed. -/
noncomputable def timed (world : ω) : List CycleCourse :=
  (begunBy context site world).filterMap fun (target, before) => course? context site target before

/-- What a run measures by itself about one of its cycles: the durations, if it is timed, and how
many soft failures there are at its end. -/
noncomputable def cycleUpdates : UInt32 × RunWorld ω → List MetricUpdate
  | (target, world) =>
    ((course? context site target world).toList.flatMap fun d =>
      durationUpdates (context.resultOf target d)) ++
    (cycle context site target world).outcome.toOption.toList.map fun _ =>
      .softFailures (cycle context site target world).world.soft.failures.length

theorem ownMetrics_cycles (targets : List UInt32) (world : RunWorld ω) :
    ownMetrics (cycles context site targets world).notes =
      (begun context site targets world).flatMap (cycleUpdates context site) := by
  induction targets, world using cycles_induction context site with
  | nil world => rfl
  | failed target rest world failure h =>
    rw [cycles_of_error rest h, ownMetrics_cycle, begun]
    simp [h, cycleUpdates, Except.toOption]
  | succeeded target rest world result h ih =>
    have refilled : ownMetrics (refillNotes context site rest) = [] := by cases rest <;> rfl
    rw [cycles_of_ok rest h, ownMetrics_append, ownMetrics_append, ownMetrics_append, refilled,
      List.append_nil, ih, ownMetrics_cycle, begun, h, List.flatMap_cons, cycleUpdates, h]
    rfl

/-- **What a run measures by itself.** Once protected mode is disabled it says what is being run, and
then goes through its cycles. -/
theorem ownMetrics_stressTest (world : ω) :
    ownMetrics (stressTest context site ⟨world, .empty⟩).notes =
      ((runOpening site world).outcome.toOption.toList.map fun _ =>
        .run context.region context.computeNode context.strategy.name) ++
      (begunBy context site world).flatMap (cycleUpdates context site) := by
  have opening : ownMetrics (runOpening site world).notes = [] := Unmeasured.ask _ _ _
  rw [stressTest_apply, ownMetrics_append, begunBy]
  show ownMetrics (stressLoop context site ⟨world, .empty⟩).notes ++ [] = _
  rw [List.append_nil]
  rcases h : (runOpening site world).outcome with failure | _
  · rw [stressLoop_of_error context site world h, opening]
    rfl
  · rw [(stressLoop_of_ok context site world h).1, ownMetrics_append, ownMetrics_append, opening,
      ownMetrics_cycles]
    rfl

end Updates

end FleetScaling

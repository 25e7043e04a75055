import FleetScaling.Proofs.Run.Steps

/-!
# Properties of whole cycles

A property of what a run does that is `RunClosed` is walked through a cycle once and for all: the halves
have it if their calls do, and so do the report and the checks (`RunClosed.cycle`).
-/

namespace FleetScaling

open Time

variable {ω α β : Type}

/-- A property that an operation of a run has if its parts have it; what only settles an outcome, writes
to the log or begins a phase has it. -/
structure RunClosed (P : ∀ α : Type, RunOperation ω α → Prop) : Prop where
  result : ∀ {α : Type} (o : Except Failure α), P α (.ofExcept o)
  bind : ∀ {α β : Type} {x : RunOperation ω α} {f : α → RunOperation ω β},
    P α x → (∀ a, P β (f a)) → P β (x >>= f)
  tell : ∀ entry, P Unit (tell entry)
  phase : ∀ phase target, P Unit (publish (.phase phase target))

/-- Every call of a cycle before its report has a property. -/
structure Site.Asked (P : ∀ α : Type, RunOperation ω α → Prop) (site : Site ω) : Prop where
  reset : P Unit (ask .resetConnection site.headNode.reset)
  start : P Unit (ask (.startFleet true)
    ((site.fleet.start true).within "Failed to start the compute fleet"))
  submit : ∀ job, P String (ask (.submit job) (site.scheduler.submit job))
  clock : P Instant (ask .readClock site.clock)
  collect : ∀ window, P Series (ask (.collect window) (site.collector.collect window))
  cancel : ∀ id, P Unit (ask (.cancel id) (site.scheduler.cancel id))
  stop : P Unit (ask .stopFleet (site.fleet.stop.within "Failed to stop the compute fleet"))

/-- The checks of a cycle have a property: looking at the soft failures, recording some, and reading a
file. -/
structure Site.Checked (P : ∀ α : Type, RunOperation ω α → Prop) (site : Site ω) : Prop where
  look : P (List SoftFailure) failuresSoFar
  record : ∀ failures, P Unit (recordFailures failures)
  read : ∀ path, P _ (((site.readFile path).renote RunNote.party).onPart sitePart)

namespace RunClosed

variable {P : ∀ α : Type, RunOperation ω α → Prop} (closed : RunClosed P)

include closed

theorem pure (a : α) : P α (pure a) := closed.result (.ok a)

theorem forM {ι : Type} {f : ι → RunOperation ω Unit} {l : List ι} (h : ∀ i ∈ l, P Unit (f i)) :
    P Unit (l.forM f) := by
  induction l with
  | nil => exact closed.pure ()
  | cons i l ih =>
    show P Unit (f i >>= fun _ => l.forM f)
    exact closed.bind (h i List.mem_cons_self) fun _ => ih fun j hj => h j (List.mem_cons_of_mem i hj)

theorem findMilestone (failing : String) (column : List UInt32) (times : List Float)
    (target : UInt32) (reference : Instant) :
    P Milestone (findMilestone failing column times target reference) := by
  refine closed.bind (closed.result _) fun m => ?_
  split
  · exact closed.bind (closed.tell _) fun _ => closed.pure m
  · exact closed.pure m

variable (context : RunContext) {site : Site ω} (target : UInt32)

section Halves

variable (asked : site.Asked P)

include asked

theorem currentMinute : P Instant (currentMinute site) :=
  closed.bind asked.clock fun _ => closed.pure _

theorem scaleUp : P _ (scaleUp context site target) := by
  refine closed.bind asked.reset fun _ => closed.bind asked.start fun _ => ?_
  refine closed.bind (asked.submit _) fun id => closed.bind (closed.tell _) fun _ => ?_
  refine closed.bind (closed.currentMinute asked) fun startTime => ?_
  refine closed.bind (closed.phase _ _) fun _ => closed.bind (asked.collect _) fun series => ?_
  refine closed.bind (closed.findMilestone _ _ _ _ _) fun instances => ?_
  refine closed.bind (closed.findMilestone _ _ _ _ _) fun nodes => ?_
  exact closed.bind (closed.tell _) fun _ => closed.pure _

theorem scaleDown (id : String) : P _ (scaleDown context site target id) := by
  refine closed.bind (asked.cancel id) fun _ => closed.bind (closed.tell _) fun _ => ?_
  refine closed.bind asked.stop fun _ => ?_
  refine closed.bind (closed.currentMinute asked) fun startTime => ?_
  refine closed.bind (closed.phase _ _) fun _ => closed.bind (asked.collect _) fun series => ?_
  refine closed.bind (closed.findMilestone _ _ _ _ _) fun nodes => ?_
  exact closed.bind (closed.tell _) fun _ => closed.pure _

end Halves

theorem reportResult (up : GrowthPhase) (down : ShrinkPhase)
    (measured : ∀ phase seconds, P Unit (own (.measured (.duration phase seconds))))
    (report : ∀ r, P Unit (ask (.report r) (site.report r))) :
    P Unit (reportResult context site target up down) := by
  refine closed.bind (closed.tell _) fun _ => closed.bind (closed.forM ?_) fun _ => report _
  intro update h
  simp only [durationUpdates, List.mem_cons, List.not_mem_nil, or_false] at h
  rcases h with rfl | rfl | rfl <;> exact measured _ _

theorem checkBaseline (checked : site.Checked P) (result : CycleResult) :
    P Unit (checkBaseline context site result) := by
  rw [checkBaseline_eq]
  refine closed.bind (checked.read _) fun content => closed.bind (closed.result _) fun b => ?_
  split
  · exact closed.tell _
  · exact checked.record _

theorem recordChecks (checked : site.Checked P) (up : GrowthPhase) (down : ShrinkPhase) :
    P CycleResult (recordChecks context site target up down) := by
  refine closed.bind checked.look fun before => closed.bind (checked.record _) fun _ => ?_
  refine closed.bind (closed.checkBaseline context checked _) fun _ => ?_
  refine closed.bind checked.look fun after => ?_
  exact closed.bind (closed.forM fun f _ => closed.tell _) fun _ => closed.pure _

/-- **A whole cycle.** It has the property if its calls, its measures and its checks do. -/
theorem cycle (asked : site.Asked P) (checked : site.Checked P)
    (measured : ∀ phase seconds, P Unit (own (.measured (.duration phase seconds))))
    (report : ∀ r, P Unit (ask (.report r) (site.report r))) :
    P CycleResult (cycle context site target) := by
  rw [cycle_eq]
  refine closed.bind ?_ fun (up, down) => closed.recordChecks context target checked up down
  refine closed.bind (closed.scaleUp context target asked) fun (id, up) => ?_
  refine closed.bind (closed.scaleDown context target asked id) fun down => ?_
  exact closed.bind (closed.reportResult context target up down measured report) fun _ => closed.pure _

end RunClosed

end FleetScaling

import FleetScaling.Proofs.Run.Samples

/-!
# Runs that do not publish

A run may be told not to publish its samples. `x.Leaves keep? y` says that `y` does what `x` does and
notes what `keep?` keeps of its notes; it is followed through a run, up to `stressTest_unpublished`:
without publishing, good samples do not become metrics, and everything else is as before.
-/

namespace FleetScaling

open Time

variable {ν ω α β : Type}

/-! ## What is left without publishing -/

/-- The same window, of which no sample is published. -/
def Window.unpublished (window : Window) : Window := { window with publish := false }

/-- The same run, which does not publish. -/
def RunContext.unpublished (c : RunContext) : RunContext := { c with publish := false }

/-- The same call in a run that does not publish. -/
def Call.unpublished : Call → Call
  | collect window => collect window.unpublished
  | call => call

/-- The same exchange in a run that does not publish. -/
def Exchange.unpublished : Exchange → Exchange
  | collected window outcome => collected window.unpublished outcome
  | e => e

/-- What is left of a note: nothing, if it is that a good sample became a metric. -/
def SiteNote.unpublished? : SiteNote → Option SiteNote
  | measured (.sample ..) => none
  | n => some n

/-- What is left of a note in a run that does not publish. -/
def RunNote.unpublished? : RunNote → Option RunNote
  | called call => some (called call.unpublished)
  | own n => n.unpublished?.map own
  | party n => n.unpublished?.map party
  | n => some n

theorem SiteNote.unpublished?_of_unmetered {n : SiteNote} (h : n.metric? = none) :
    n.unpublished? = some n := by
  cases n with
  | measured update => cases h
  | _ => rfl

theorem filterMap_unpublished_party (notes : List SiteNote) :
    (notes.map RunNote.party).filterMap RunNote.unpublished? =
      (notes.filterMap SiteNote.unpublished?).map RunNote.party := by
  rw [List.filterMap_map, List.map_filterMap]
  rfl

/-- The calls that are left are the same calls. -/
theorem callNotes_unpublished (notes : List RunNote) :
    callNotes (notes.filterMap RunNote.unpublished?) = (callNotes notes).map Call.unpublished := by
  unfold callNotes
  rw [List.filterMap_filterMap, List.map_filterMap]
  congr 1
  funext n
  cases n with
  | own n => cases h : n.unpublished? <;> simp [RunNote.unpublished?, RunNote.call?, h]
  | party n => cases h : n.unpublished? <;> simp [RunNote.unpublished?, RunNote.call?, h]
  | _ => rfl

theorem callsOf_unpublished (es : List Exchange) :
    callsOf (es.map Exchange.unpublished) = (callsOf es).map Call.unpublished := by
  unfold callsOf
  rw [List.filterMap_map, List.map_filterMap]
  congr 1
  funext e
  cases e <;> rfl

/-! ## Doing the same and noting less -/

namespace Operation

/-- Whatever the world, `y` does what `x` does, and notes what is kept of its notes. -/
def Leaves (keep? : ν → Option ν) (x y : Operation ν ω α) : Prop :=
  ∀ world, y world = { x world with notes := (x world).notes.filterMap keep? }

namespace Leaves

variable {keep? : ν → Option ν}

theorem bind {x y : Operation ν ω α} {f g : α → Operation ν ω β} (hx : x.Leaves keep? y)
    (hf : ∀ a, (f a).Leaves keep? (g a)) : (x >>= f).Leaves keep? (y >>= g) := by
  intro world
  rcases h : (x world).outcome with failure | a
  · have hy : (y world).outcome = .error failure := by rw [hx, h]
    rw [bind_of_error h, bind_of_error hy, hx]
  · have hy : (y world).outcome = .ok a := by rw [hx, h]
    rw [bind_of_ok h, bind_of_ok hy, List.filterMap_append, hx, hf]

/-- An operation whose notes are all kept. -/
theorem of_kept {x : Operation ν ω α} (h : Notes (fun n => keep? n = some n) x) :
    x.Leaves keep? x := by
  intro world
  rw [List.filterMap_congr (h world), List.filterMap_some]

theorem of_nil {x : Operation ν ω α} (h : ∀ world, (x world).notes = []) : x.Leaves keep? x :=
  of_kept (.of_nil h)

theorem pure (a : α) : (pure a : Operation ν ω α).Leaves keep? (pure a) := of_nil fun _ => rfl

theorem note {n m : ν} (h : keep? n = some m) :
    (Operation.note n : Operation ν ω Unit).Leaves keep? (Operation.note m) := by
  intro world
  rw [note_apply, note_apply, List.filterMap_cons_some h]
  rfl

end Leaves

end Operation

open Operation (Leaves)

theorem Unmetered.leaves {x : SiteOperation ω α} (h : Unmetered x) :
    x.Leaves SiteNote.unpublished? x :=
  .of_kept fun world n hn => SiteNote.unpublished?_of_unmetered (h world n hn)

/-! ## Sampling -/

namespace Sampler

variable {s : Sampler ω}

theorem keepNotes_unpublished (window : Window) (streak : Nat) (sample : Sample) :
    s.keepNotes window.unpublished streak sample =
      (s.keepNotes window streak sample).filterMap SiteNote.unpublished? := by
  unfold keepNotes
  by_cases hj : s.degradedAfter ≤ streak ∧ s.reportsHealth <;>
    by_cases hp : window.publish = true <;>
    simp [hj, hp, Window.unpublished, SiteNote.unpublished?, List.filterMap_cons]

theorem missNotes_unpublished (window : Window) (streak : Nat) (failure : Failure) :
    s.missNotes window.unpublished streak failure =
      (s.missNotes window streak failure).filterMap SiteNote.unpublished? := by
  unfold missNotes
  by_cases hj : streak + 1 = s.degradedAfter ∧ s.reportsHealth <;>
    simp [hj, Window.unpublished, SiteNote.unpublished?]

theorem step_unpublished (hs : s.Unmetered) (window : Window) (p : Progress) :
    (s.step window p).Leaves SiteNote.unpublished? (s.step window.unpublished p) := by
  intro world
  have kept : (s.sample window world).notes.filterMap SiteNote.unpublished? =
      (s.sample window world).notes :=
    (congrArg Trace.notes ((hs.sample window).leaves world)).symm
  rcases h : (s.sample window world).outcome with failure | sample
  · have h' : (s.sample window.unpublished world).outcome = .error failure := h
    rw [step_of_error h, step_of_error h', List.filterMap_append, kept, missNotes_unpublished]
    rfl
  · have h' : (s.sample window.unpublished world).outcome = .ok sample := h
    rw [step_of_ok h, step_of_ok h', List.filterMap_append, kept, keepNotes_unpublished]
    rfl

/-- By induction on what is left of the budget, which is the same in both windows. -/
theorem sampleFrom_unpublished (hs : s.Unmetered) (window : Window) (p : Progress)
    (elapsed : Duration) : (s.sampleFrom window p elapsed).Leaves SiteNote.unpublished?
      (s.sampleFrom window.unpublished p elapsed) := by
  induction h : window.budget.nanos - elapsed.nanos using Nat.strongRecOn
    generalizing p elapsed with
  | ind left ih =>
    rw [sampleFrom, sampleFrom]
    refine (step_unpublished hs window p).bind fun stepped => ?_
    obtain ⟨next, reached⟩ := stepped
    by_cases hr : reached = true
    · simp only [hr]
      exact Leaves.bind (.note rfl) fun _ => .pure _
    by_cases hb : window.budget ≤ elapsed
    · have hb' : window.unpublished.budget ≤ elapsed := hb
      simp only [hr, if_pos hb, if_pos hb']
      exact Leaves.bind (.note rfl) fun _ => .pure _
    · have hb' : ¬window.unpublished.budget ≤ elapsed := hb
      simp only [hr, if_neg hb, if_neg hb']
      exact Leaves.bind (.note rfl) fun _ => ih _ (h ▸ remaining_lt hb) _ _ rfl

theorem orPanic_unpublished (result : Except Panic α) :
    (orPanic result : SiteOperation ω α).Leaves SiteNote.unpublished? (orPanic result) := by
  cases result with
  | ok a => exact .pure a
  | error panic => exact Leaves.bind (.note rfl) fun _ => .of_nil fun _ => rfl

theorem collect_unpublished (hs : s.Unmetered) (window : Window) :
    (s.collect window).Leaves SiteNote.unpublished? (s.collect window.unpublished) := by
  refine Leaves.bind (.note rfl) fun _ => Leaves.bind (.of_nil fun _ => rfl) fun uptime => ?_
  refine (orPanic_unpublished _).bind fun _ => (sampleFrom_unpublished hs window _ _).bind fun _ => ?_
  exact hs.clock.leaves.bind fun _ => .pure _

end Sampler

/-! ## The run -/

section Run

variable {s : Sampler ω} {site : Site ω}

theorem party_unpublished {x y : SiteOperation ω α} (h : x.Leaves SiteNote.unpublished? y) :
    ((x.renote RunNote.party).onPart sitePart).Leaves RunNote.unpublished?
      ((y.renote RunNote.party).onPart sitePart) := by
  intro world
  show (⟨(y world.site).outcome, { world with site := (y world.site).world },
      (y world.site).notes.map .party⟩ : Trace RunNote (RunWorld ω) α) =
    ⟨(x world.site).outcome, { world with site := (x world.site).world },
      ((x world.site).notes.map .party).filterMap RunNote.unpublished?⟩
  rw [filterMap_unpublished_party, h]

theorem ask_unpublished {call : Call} {x y : SiteOperation ω α}
    (h : x.Leaves SiteNote.unpublished? y) :
    (ask call x).Leaves RunNote.unpublished? (ask call.unpublished y) :=
  Leaves.bind (.note rfl) fun _ => party_unpublished h

theorem collected_unpublished (hs : s.Unmetered) (hc : site.collector = s.collector)
    (window : Window) :
    (ask (.collect window) (site.collector.collect window)).Leaves RunNote.unpublished?
      (ask (.collect window.unpublished) (site.collector.collect window.unpublished)) := by
  rw [hc]
  have left := Sampler.collect_unpublished hs window
  exact ask_unpublished left

/-- A call that has nothing to do with publishing. -/
theorem ask_same {call : Call} {x : SiteOperation ω α} (quiet : Unmetered x)
    (h : call.unpublished = call) :
    (ask call x).Leaves RunNote.unpublished? (ask call x) := by
  have left : (ask call x).Leaves RunNote.unpublished? (ask call.unpublished x) :=
    ask_unpublished quiet.leaves
  rwa [h] at left

theorem forM_own_unpublished {ι : Type} (f : ι → SiteNote) (l : List ι)
    (h : ∀ i ∈ l, (f i).unpublished? = some (f i)) :
    (l.forM fun i => (own (f i) : RunOperation ω Unit)).Leaves RunNote.unpublished?
      (l.forM fun i => own (f i)) := by
  refine .of_kept fun world n hn => ?_
  rw [forM_own_apply] at hn
  obtain ⟨i, hi, rfl⟩ := List.mem_map.mp hn
  simp [RunNote.unpublished?, h i hi]

theorem findMilestone_unpublished (failing : String) (column : List UInt32) (times : List Float)
    (target : UInt32) (reference : Instant) :
    (findMilestone failing column times target reference : RunOperation ω Milestone).Leaves
      RunNote.unpublished? (findMilestone failing column times target reference) := by
  refine .of_kept fun world n hn => ?_
  rcases h : Milestone.locate column times target reference with error | m
  · rw [findMilestone_of_error h] at hn
    cases hn
  · rw [findMilestone_of_ok h] at hn
    unfold clampedNotes at hn
    split at hn
    · rw [List.mem_singleton.mp hn]
      rfl
    · cases hn

variable (context : RunContext) (target : UInt32) (quiet : site.Unmetered) (hs : s.Unmetered)
  (hc : site.collector = s.collector)

include quiet

theorem currentMinute_unpublished :
    (currentMinute site).Leaves RunNote.unpublished? (currentMinute site) :=
  (ask_same quiet.clock rfl).bind fun _ => .pure _

theorem checkBaseline_unpublished (result : CycleResult) :
    (checkBaseline context site result).Leaves RunNote.unpublished?
      (checkBaseline context.unpublished site result) := by
  show (checkBaseline context site result).Leaves _ (checkBaseline context site result)
  rw [checkBaseline_eq]
  refine (party_unpublished (quiet.readFile _).leaves).bind fun content => ?_
  refine .of_kept fun world n hn => ?_
  rcases h : Baseline.ofFile context.baselinePath content with failure | b
  · rw [useBaseline_of_error h] at hn
    cases hn
  · rw [useBaseline_of_ok h] at hn
    unfold missingNotes at hn
    split at hn
    · rw [List.mem_singleton.mp hn]
      rfl
    · cases hn

include hs hc

theorem scaleUp_unpublished : (scaleUp context site target).Leaves RunNote.unpublished?
    (scaleUp context.unpublished site target) := by
  refine (ask_same quiet.parties.headNode.reset rfl).bind fun _ => ?_
  refine (ask_same (x := (site.fleet.start true).within _) quiet.parties.start rfl).bind fun _ => ?_
  refine (ask_same (quiet.parties.submit _) rfl).bind fun id => Leaves.bind (.note rfl) fun _ => ?_
  refine (currentMinute_unpublished quiet).bind fun _ => Leaves.bind (.note rfl) fun _ => ?_
  refine (collected_unpublished hs hc _).bind fun series => ?_
  refine (findMilestone_unpublished _ _ _ _ _).bind fun instances => ?_
  refine (findMilestone_unpublished _ _ _ _ _).bind fun nodes => ?_
  exact Leaves.bind (.note rfl) fun _ => .pure _

theorem scaleDown_unpublished (id : String) :
    (scaleDown context site target id).Leaves RunNote.unpublished?
      (scaleDown context.unpublished site target id) := by
  refine (ask_same (quiet.parties.cancel id) rfl).bind fun _ => Leaves.bind (.note rfl) fun _ => ?_
  refine (ask_same (x := site.fleet.stop.within _) quiet.parties.stop rfl).bind fun _ => ?_
  refine (currentMinute_unpublished quiet).bind fun _ => Leaves.bind (.note rfl) fun _ => ?_
  refine (collected_unpublished hs hc _).bind fun series => ?_
  refine (findMilestone_unpublished _ _ _ _ _).bind fun nodes => ?_
  exact Leaves.bind (.note rfl) fun _ => .pure _

theorem cycle_unpublished : (cycle context site target).Leaves RunNote.unpublished?
    (cycle context.unpublished site target) := by
  refine (scaleUp_unpublished context target quiet hs hc).bind fun (id, up) => ?_
  refine (scaleDown_unpublished context target quiet hs hc id).bind fun down => ?_
  refine Leaves.bind (.note rfl) fun _ => (forM_own_unpublished _ _ ?_).bind fun _ => ?_
  · intro update h
    simp only [durationUpdates, List.mem_cons, List.not_mem_nil, or_false] at h
    rcases h with rfl | rfl | rfl <;> rfl
  refine (ask_same (quiet.report _) rfl).bind fun _ => ?_
  refine Leaves.bind (.of_nil fun _ => rfl) fun before => ?_
  refine Leaves.bind (.of_nil fun _ => rfl) fun _ => ?_
  refine (checkBaseline_unpublished context quiet _).bind fun _ => ?_
  refine Leaves.bind (.of_nil fun _ => rfl) fun after => ?_
  exact (forM_own_unpublished _ _ fun _ _ => rfl).bind fun _ => .pure _

theorem trackedCycle_unpublished :
    (trackedCycle context site target).Leaves RunNote.unpublished?
      (trackedCycle context.unpublished site target) := by
  refine (cycle_unpublished context target quiet hs hc).bind fun result => ?_
  refine Leaves.bind (.note rfl) fun _ => Leaves.bind (.of_nil fun _ => rfl) fun failures => ?_
  exact Leaves.bind (.note rfl) fun _ => Leaves.bind (.note rfl) fun _ => .pure _

/-- By induction on the targets. -/
theorem cycles_unpublished (targets : List UInt32) :
    (cycles context site targets).Leaves RunNote.unpublished?
      (cycles context.unpublished site targets) := by
  induction targets with
  | nil => exact .pure []
  | cons target rest ih =>
    rw [cycles_cons, cycles_cons]
    refine (trackedCycle_unpublished context target quiet hs hc).bind fun result => ?_
    refine Leaves.bind (fun world => ?_) fun _ => ih.bind fun results => .pure _
    cases rest <;> rfl

/-- **What publishing adds.** A run that does not publish has the same outcome in the same world as the
run that does, and makes the same notes, without those that turn good samples into metrics. -/
theorem stressTest_unpublished : (stressTest context site).Leaves RunNote.unpublished?
    (stressTest context.unpublished site) := by
  have loop : (stressLoop context site).Leaves RunNote.unpublished?
      (stressLoop context.unpublished site) := by
    refine (ask_same (quiet.parties.headNode.disableProtectedMode unmetered_closed) rfl).bind
      fun _ => Leaves.bind (.note rfl) fun _ => ?_
    refine (cycles_unpublished context quiet hs hc _).bind fun results => ?_
    refine Leaves.bind (.of_nil fun _ => rfl) fun failures => ?_
    exact Leaves.bind (.of_nil fun _ => rfl) fun _ => .pure _
  intro world
  rw [stressTest_apply, stressTest_apply, loop, List.filterMap_append]
  rfl

end Run

/-- The parties answer as they do when the run publishes. -/
theorem Conversation.unpublished {s : Sampler ω} {site : Site ω} (hs : s.Unmetered)
    (hc : site.collector = s.collector) {es : List Exchange} {before after : ω}
    (talk : Conversation site before es after) :
    Conversation site before (es.map Exchange.unpublished) after := by
  induction es generalizing before with
  | nil => exact talk
  | cons e es ih =>
    obtain ⟨between, he, hes⟩ := talk
    refine ⟨between, ?_, ih hes⟩
    cases e with
    | collected window o =>
      obtain ⟨ho, hw⟩ := he
      rw [hc] at ho hw
      have same : s.collect window.unpublished before = _ :=
        Sampler.collect_unpublished hs window before
      show Exchange.Happens (site.collector.collect window.unpublished) o before between
      rw [hc]
      show (s.collect window.unpublished before).outcome = o ∧
        (s.collect window.unpublished before).world = between
      rw [same]
      exact ⟨ho, hw⟩
    | _ => exact he

end FleetScaling

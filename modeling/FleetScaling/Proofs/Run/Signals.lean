import FleetScaling.Proofs.Run.Account

/-!
# Signals of a run

Of all that a run notes, those who follow it hear two kinds of signals: a cycle begins, when the
connection is made anew, and progress is published. A cycle signals its beginning and its two
phases, or the first of these if it fails (`cycle_signals`); at its end the run publishes the result
and the failures so far, and a pause if further targets are left. The stations that the phases lead
through lie on the `itinerary` of the targets (`cycles_stations`).
-/

namespace FleetScaling

variable {ω α β : Type}

/-! ## Signals -/

/-- What a run lets others hear. -/
inductive Signal
  /-- A cycle begins. -/
  | begins
  | update (u : ProgressUpdate)

/-- The signal that a note is, if it is one. -/
def RunNote.signal? : RunNote → Option Signal
  | called .resetConnection => some .begins
  | progress u => some (.update u)
  | _ => none

/-- The signals among some notes. -/
def signalsOf (notes : List RunNote) : List Signal := notes.filterMap RunNote.signal?

theorem signalsOf_append (a b : List RunNote) :
    signalsOf (a ++ b) = signalsOf a ++ signalsOf b := by
  unfold signalsOf
  rw [List.filterMap_append]

theorem signalsOf_party (notes : List SiteNote) : signalsOf (notes.map RunNote.party) = [] := by
  unfold signalsOf
  rw [List.filterMap_map]
  exact List.filterMap_eq_nil_iff.2 fun _ _ => rfl

theorem signalsOf_own {ι : Type} (f : ι → SiteNote) (l : List ι) :
    signalsOf (l.map fun i => .own (f i)) = [] := by
  unfold signalsOf
  rw [List.filterMap_map]
  exact List.filterMap_eq_nil_iff.2 fun _ _ => rfl

/-! ## Signals of operations -/

/-- Whatever the world, the operation makes these signals, or the first of them if it fails. -/
def Signals (x : RunOperation ω α) (full : List Signal) : Prop := ∀ world,
  match (x world).outcome with
  | .ok _ => signalsOf (x world).notes = full
  | .error _ => signalsOf (x world).notes <+: full

namespace Signals

variable {x : RunOperation ω α} {first later : List Signal}

theorem of_ok (hx : Signals x first) {world : RunWorld ω} {a : α}
    (h : (x world).outcome = .ok a) : signalsOf (x world).notes = first := by
  have := hx world
  rwa [h] at this

theorem isPrefix (hx : Signals x first) (world : RunWorld ω) :
    signalsOf (x world).notes <+: first := by
  have := hx world
  split at this
  · exact this ▸ List.prefix_rfl
  · exact this

/-- Signals that do not depend on the outcome. -/
theorem of_always (h : ∀ world, signalsOf (x world).notes = first) : Signals x first := by
  intro world
  split
  · exact h world
  · exact h world ▸ List.prefix_rfl

theorem bind {f : α → RunOperation ω β} (hx : Signals x first) (hf : ∀ a, Signals (f a) later) :
    Signals (x >>= f) (first ++ later) := by
  intro world
  rcases h : (x world).outcome with failure | a
  · rw [Operation.bind_of_error h]
    exact (hx.isPrefix world).trans (List.prefix_append _ _)
  · rw [Operation.bind_of_ok h]
    have hfirst := hx.of_ok h
    have hlater := hf a (x world).world
    simp only [signalsOf_append, hfirst]
    split at hlater
    · rw [hlater]
    · exact (List.prefix_append_right_inj first).2 hlater

/-- An operation that makes no signal, and what follows. -/
theorem silent_bind {f : α → RunOperation ω β} (hx : Signals x [])
    (hf : ∀ a, Signals (f a) later) : Signals (x >>= f) later :=
  bind hx hf

theorem pure (a : α) : Signals (pure a : RunOperation ω α) [] := of_always fun _ => rfl

theorem tell (entry : LogEntry) : Signals (tell entry : RunOperation ω Unit) [] :=
  of_always fun _ => rfl

theorem publish (u : ProgressUpdate) :
    Signals (publish u : RunOperation ω Unit) [.update u] := of_always fun _ => rfl

theorem ask (call : Call) (x : SiteOperation ω α) :
    Signals (FleetScaling.ask call x) (signalsOf [.called call]) := by
  refine of_always fun world => ?_
  rw [ask_apply, ← List.singleton_append, signalsOf_append, signalsOf_party, List.append_nil]

theorem party (x : SiteOperation ω α) :
    Signals ((x.renote RunNote.party).onPart sitePart) [] :=
  of_always fun world => signalsOf_party (x world.site).notes

theorem forM_own {ι : Type} (f : ι → SiteNote) (l : List ι) :
    Signals (l.forM fun i => (own (f i) : RunOperation ω Unit)) [] := by
  refine of_always fun world => ?_
  rw [forM_own_apply]
  exact signalsOf_own f l

end Signals

/-! ## Signals of a cycle -/

/-- The signals of a cycle before its end. -/
def cycleSignals (target : UInt32) : List Signal :=
  [.begins, .update (.phase .scalingUp (some target)), .update (.phase .scalingDown (some target))]

section Cycle

variable (context : RunContext) (site : Site ω) (target : UInt32)

theorem findMilestone_signals (failing : String) (column : List UInt32) (times : List Float)
    (reference : Time.Instant) :
    Signals (findMilestone failing column times target reference : RunOperation ω Milestone) [] := by
  refine Signals.of_always fun world => ?_
  rcases h : Milestone.locate column times target reference with error | m
  · rw [findMilestone_of_error h]
    rfl
  · rw [findMilestone_of_ok h]
    unfold clampedNotes
    split <;> rfl

theorem currentMinute_signals : Signals (currentMinute site) [] :=
  (Signals.ask _ _).silent_bind fun _ => .pure _

theorem useBaseline_signals (result : CycleResult) (content : Except FileError String) :
    Signals (useBaseline context site result content) [] := by
  refine Signals.of_always fun world => ?_
  rcases h : Baseline.ofFile context.baselinePath content with failure | b
  · rw [useBaseline_of_error h]
    rfl
  · rw [useBaseline_of_ok h]
    unfold missingNotes
    split <;> rfl

theorem scaleUp_signals : Signals (scaleUp context site target)
    [.begins, .update (.phase .scalingUp (some target))] := by
  refine (Signals.ask .resetConnection _).bind fun _ => ?_
  refine (Signals.ask _ _).silent_bind fun _ => ?_
  refine (Signals.ask _ _).silent_bind fun id => ?_
  refine (Signals.tell _).silent_bind fun _ => ?_
  refine (currentMinute_signals site).silent_bind fun startTime => ?_
  refine (Signals.publish _).bind fun _ => ?_
  refine (Signals.ask _ _).silent_bind fun series => ?_
  refine (findMilestone_signals target _ _ _ _).silent_bind fun instances => ?_
  refine (findMilestone_signals target _ _ _ _).silent_bind fun nodes => ?_
  exact (Signals.tell _).silent_bind fun _ => .pure _

theorem scaleDown_signals (id : String) : Signals (scaleDown context site target id)
    [.update (.phase .scalingDown (some target))] := by
  refine (Signals.ask _ _).silent_bind fun _ => ?_
  refine (Signals.tell _).silent_bind fun _ => ?_
  refine (Signals.ask _ _).silent_bind fun _ => ?_
  refine (currentMinute_signals site).silent_bind fun startTime => ?_
  refine (Signals.publish _).bind fun _ => ?_
  refine (Signals.ask _ _).silent_bind fun series => ?_
  refine (findMilestone_signals 0 _ _ _ _).silent_bind fun nodes => ?_
  exact (Signals.tell _).silent_bind fun _ => .pure _

theorem recordChecks_signals (up : GrowthPhase) (down : ShrinkPhase) :
    Signals (recordChecks context site target up down) [] := by
  refine (Signals.of_always (x := failuresSoFar) fun _ => rfl).silent_bind fun before => ?_
  refine (Signals.of_always (x := recordFailures _) fun _ => rfl).silent_bind fun _ => ?_
  refine Signals.silent_bind ?_ fun _ => ?_
  · rw [checkBaseline_eq]
    exact (Signals.party _).silent_bind fun content => useBaseline_signals context site _ content
  refine (Signals.of_always (x := failuresSoFar) fun _ => rfl).silent_bind fun after => ?_
  refine (Signals.forM_own (fun f => .logged (Journal.softFailure site.fleet.name f)) _).silent_bind
    fun _ => ?_
  exact .pure _

theorem cycle_signals : Signals (cycle context site target) (cycleSignals target) := by
  rw [cycle_eq]
  rw [← List.append_nil (cycleSignals target)]
  refine Signals.bind ?_ fun (up, down) => recordChecks_signals context site target up down
  refine (scaleUp_signals context site target).bind fun (id, up) => ?_
  refine (scaleDown_signals context site target id).bind fun down => ?_
  refine Signals.silent_bind ?_ fun _ => .pure _
  refine (Signals.tell _).silent_bind fun _ => ?_
  refine (Signals.forM_own .measured _).silent_bind fun _ => ?_
  exact Signals.ask _ _

end Cycle

/-! ## Signals of a run -/

/-- The signals at the end of a cycle with this result, after which there are these failures. -/
def endSignals (result : CycleResult) (failures : List SoftFailure) : List Signal :=
  [.update (.result result), .update (.failures failures)]

/-- The signals of the pause before further targets, if there are any. -/
def refillSignals (rest : List UInt32) : List Signal :=
  if rest = [] then [] else [.update (.phase .waitingForRefill none)]

theorem signalsOf_refillNotes {context : RunContext} {site : Site ω} (rest : List UInt32) :
    signalsOf (refillNotes context site rest) = refillSignals rest := by
  cases rest <;> rfl

section Run

section Cycles

variable {context : RunContext} {site : Site ω}

theorem cycles_signals_of_ok {target : UInt32} {world : RunWorld ω} {result : CycleResult}
    (rest : List UInt32) (h : (cycle context site target world).outcome = .ok result) :
    let done := cycle context site target world
    signalsOf (cycles context site (target :: rest) world).notes =
      cycleSignals target ++ (endSignals result done.world.soft.failures ++
        (refillSignals rest ++ signalsOf (cycles context site rest done.world).notes)) := by
  intro done
  rw [cycles_of_ok rest h, signalsOf_append, signalsOf_append, signalsOf_append,
    signalsOf_refillNotes, (cycle_signals context site target).of_ok h, List.append_assoc,
    List.append_assoc]
  rfl

theorem cycles_signals_of_error {target : UInt32} {world : RunWorld ω} {failure : Failure}
    (rest : List UInt32) (h : (cycle context site target world).outcome = .error failure) :
    signalsOf (cycles context site (target :: rest) world).notes <+: cycleSignals target := by
  rw [cycles_of_error rest h]
  exact (cycle_signals context site target).isPrefix world

end Cycles

/-- A run signals nothing before its cycles. -/
theorem stressLoop_signals (context : RunContext) (site : Site ω) (world : ω) :
    let loop := stressLoop context site ⟨world, .empty⟩
    match (runOpening site world).outcome with
    | .error failure => loop.outcome = .error failure ∧ signalsOf loop.notes = []
    | .ok _ => signalsOf loop.notes = signalsOf
        (cycles context site context.targets (runOpening site world).world).notes := by
  intro loop
  have opening : signalsOf (runOpening site world).notes = [] :=
    (Signals.ask .disableProtectedMode (disableProtectedMode site.headNode)).isPrefix _
      |> List.prefix_nil.1
  rcases h : (runOpening site world).outcome with failure | _
  · rw [show loop = _ from stressLoop_of_error context site world h]
    exact ⟨rfl, opening⟩
  · show signalsOf loop.notes = _
    rw [(stressLoop_of_ok context site world h).1, signalsOf_append, signalsOf_append, opening]
    rfl

end Run

/-! ## Stations -/

/-- A phase with its target, as a run shows them. -/
abbrev Station := Phase × Option UInt32

/-- The station that a run enters with a signal, if it enters one. -/
def Signal.station? : Signal → Option Station
  | update (.phase phase target) => some (phase, target)
  | update .completed => some (.completed, none)
  | update (.failed _) => some (.failed, none)
  | _ => none

/-- The stations that a run enters with some signals. -/
def stationsOf (signals : List Signal) : List Station := signals.filterMap Signal.station?

theorem stationsOf_append (a b : List Signal) :
    stationsOf (a ++ b) = stationsOf a ++ stationsOf b := by
  unfold stationsOf
  rw [List.filterMap_append]

/-- The stations of a run all of whose cycles succeed, before its end. -/
def itinerary : List UInt32 → List Station
  | [] => []
  | target :: rest => (.scalingUp, some target) :: (.scalingDown, some target) ::
      ((if rest = [] then [] else [(.waitingForRefill, none)]) ++ itinerary rest)

theorem itinerary_cons (target : UInt32) (rest : List UInt32) : itinerary (target :: rest) =
    stationsOf (cycleSignals target) ++ (stationsOf (refillSignals rest) ++ itinerary rest) := by
  unfold refillSignals
  cases rest <;> rfl

/-- No cycle ends a run. -/
theorem not_mem_itinerary {station : Station} (h : station.1 = .completed ∨ station.1 = .failed)
    (targets : List UInt32) : station ∉ itinerary targets := by
  induction targets with
  | nil => exact List.not_mem_nil
  | cons target rest ih =>
    intro hm
    rcases List.mem_cons.1 hm with rfl | hm
    · rcases h with h | h <;> cases h
    rcases List.mem_cons.1 hm with rfl | hm
    · rcases h with h | h <;> cases h
    rcases List.mem_append.1 hm with hm | hm
    · split at hm
      · cases hm
      · rw [List.mem_singleton] at hm
        subst hm
        rcases h with h | h <;> cases h
    · exact ih hm

/-- The stations of the cycles are the first of the itinerary, and all of it if no cycle fails. -/
theorem cycles_stations (context : RunContext) (site : Site ω) (targets : List UInt32)
    (world : RunWorld ω) :
    let done := cycles context site targets world
    stationsOf (signalsOf done.notes) <+: itinerary targets ∧
      ∀ results, done.outcome = .ok results → stationsOf (signalsOf done.notes) = itinerary targets := by
  induction targets, world using cycles_induction context site with
  | nil world => exact ⟨List.prefix_rfl, fun _ _ => rfl⟩
  | failed target rest world failure h =>
    refine ⟨?_, fun results ho => ?_⟩
    · rw [itinerary_cons]
      exact ((cycles_signals_of_error rest h).filterMap _).trans (List.prefix_append _ _)
    · rw [cycles_of_error rest h] at ho
      cases ho
  | succeeded target rest world result h ih =>
    obtain ⟨hp, he⟩ := ih
    have hend : stationsOf (endSignals result (cycle context site target world).world.soft.failures)
        = [] := rfl
    simp only [cycles_signals_of_ok rest h, stationsOf_append, hend, List.nil_append,
      itinerary_cons]
    refine ⟨?_, fun results ho => ?_⟩
    · exact (List.prefix_append_right_inj _).2 ((List.prefix_append_right_inj _).2 hp)
    · rw [cycles_of_ok rest h] at ho
      rcases hl : (cycles context site rest (cycle context site target world).world).outcome with
        failure | later
      · rw [hl] at ho
        cases ho
      · rw [he later hl]

end FleetScaling

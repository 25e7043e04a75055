import FleetScaling.Proofs.Run.Measures
import FleetScaling.Proofs.Run.Signals

/-!
# Readings of a run

While a run makes its notes, others read its progress at moments of their own. Whatever the order
in which notes and readings come, each reading is `Sound`: its phase, target and message agree, and
so do its lists. A later reading shows everything that an earlier one did, further along the same
stations, and nothing changes once the run has ended (`stressTest_readings`).
-/

namespace FleetScaling

variable {ω : Type}

/-! ## What is shown -/

/-- What a run has shown so far: how many cycles have begun, and the progress. -/
structure Sight where
  begun : Nat
  progress : RunProgress

namespace Sight

/-- What is shown before the first signal, but for the moment of the last change. -/
def initial : Sight := ⟨0, .initial 0⟩

/-- What is shown after one more signal, but for the moment of the last change. -/
def after (s : Sight) : Signal → Sight
  | .begins => { s with begun := s.begun + 1 }
  | .update u => { s with progress := s.progress.apply 0 u }

/-- What is shown after some signals, one after another. -/
def afterAll (s : Sight) (signals : List Signal) : Sight := signals.foldl after s

theorem afterAll_append (s : Sight) (a b : List Signal) :
    s.afterAll (a ++ b) = (s.afterAll a).afterAll b := List.foldl_append

/-- The station that is shown. -/
def station (s : Sight) : Station := (s.progress.status.phase, s.progress.status.target)

/-- Between two cycles and at its end a run shows no target, and else the one of the cycle that has
begun last. -/
def Stands (targets : List UInt32) (s : Sight) : Prop :=
  (s.progress.status.phase ∈ [.idle, .waitingForRefill, .completed, .failed] ∧
      s.progress.status.target = none) ∨
    (s.progress.status.phase ∈ [.scalingUp, .scalingDown] ∧
      ∃ target, s.progress.status.target = some target ∧
        (targets.take s.begun).getLast? = some target)

/-- What may be shown of a run with these targets. -/
structure Sound (targets : List UInt32) (s : Sight) : Prop where
  stands : s.Stands targets
  message : s.progress.status.message.isSome ↔ s.progress.status.phase = .failed
  completed : s.progress.status.completed <+: targets
  results : s.progress.results.results.map CycleResult.target = s.progress.status.completed
  count : s.progress.status.failureCount = UInt64.ofNat s.progress.results.failures.length

/-- Later, the lists that are shown have only become longer. -/
structure Grows (s later : Sight) : Prop where
  completed : s.progress.status.completed <+: later.progress.status.completed
  results : s.progress.results.results <+: later.progress.results.results
  failures : s.progress.results.failures <+: later.progress.results.failures

theorem Grows.refl (s : Sight) : s.Grows s :=
  ⟨List.prefix_rfl, List.prefix_rfl, List.prefix_rfl⟩

/-- The lists have stayed as they were. -/
theorem Grows.of_same {s later : Sight}
    (hc : later.progress.status.completed = s.progress.status.completed)
    (hr : later.progress.results = s.progress.results) : s.Grows later := by
  refine ⟨?_, ?_, ?_⟩
  · exact hc ▸ List.prefix_rfl
  · exact hr ▸ List.prefix_rfl
  · exact hr ▸ List.prefix_rfl

theorem Grows.trans {a b c : Sight} (h : a.Grows b) (h' : b.Grows c) : a.Grows c :=
  ⟨h.completed.trans h'.completed, h.results.trans h'.results, h.failures.trans h'.failures⟩

/-- What is shown, but for the moment of the last change. -/
def timeless (s : Sight) : Sight :=
  { s with progress := { s.progress with status := { s.progress.status with updatedAt := 0 } } }

theorem Sound.of_timeless {targets : List UInt32} {s : Sight} (h : s.timeless.Sound targets) :
    s.Sound targets :=
  ⟨h.stands, h.message, h.completed, h.results, h.count⟩

theorem Grows.of_timeless {s later : Sight} (h : s.timeless.Grows later.timeless) :
    s.Grows later :=
  ⟨h.completed, h.results, h.failures⟩

/-! ## All along -/

/-- Along some signals everything that is shown is sound, and grows. -/
def Along (targets : List UInt32) : Sight → List Signal → Prop
  | s, [] => s.Sound targets
  | s, signal :: signals => s.Sound targets ∧ s.Grows (s.after signal) ∧
      Along targets (s.after signal) signals

section Along

variable {targets : List UInt32} {s : Sight}

theorem Along.sound {signals : List Signal} (h : Along targets s signals) : s.Sound targets := by
  cases signals with
  | nil => exact h
  | cons signal signals => exact h.1

theorem Along.append {a b : List Signal} (h : Along targets s a)
    (h' : Along targets (s.afterAll a) b) : Along targets s (a ++ b) := by
  induction a generalizing s with
  | nil => exact h'
  | cons signal a ih => exact ⟨h.1, h.2.1, ih h.2.2 h'⟩

theorem Along.split {a b : List Signal} (h : Along targets s (a ++ b)) :
    Along targets s a ∧ Along targets (s.afterAll a) b := by
  induction a generalizing s with
  | nil => exact ⟨h.sound, h⟩
  | cons signal a ih =>
    obtain ⟨ha, hb⟩ := ih h.2.2
    exact ⟨⟨h.1, h.2.1, ha⟩, hb⟩

theorem Along.grows {signals : List Signal} (h : Along targets s signals) :
    s.Grows (s.afterAll signals) := by
  induction signals generalizing s with
  | nil => exact .refl s
  | cons signal signals ih => exact h.2.1.trans (ih h.2.2)

theorem Along.sound_afterAll {signals : List Signal} (h : Along targets s signals) :
    (s.afterAll signals).Sound targets := by
  rw [← List.append_nil signals] at h
  exact h.split.2

end Along

/-- The station that is shown is the last that was entered. -/
theorem station_afterAll (s : Sight) (signals : List Signal) :
    (s.station :: stationsOf signals).getLast? = some (s.afterAll signals).station := by
  induction signals generalizing s with
  | nil => rfl
  | cons signal signals ih =>
    have step : (s.station :: stationsOf (signal :: signals)).getLast? =
        ((s.after signal).station :: stationsOf signals).getLast? := by
      cases signal with
      | begins => rfl
      | update u => cases u <;> rfl
    exact step.trans (ih (s.after signal))

/-! ## Along the cycles -/

/-- The books of a run whose cycles for some targets are over. -/
structure Booked (past : List UInt32) (s : Sight) : Prop where
  message : s.progress.status.message = none
  completed : s.progress.status.completed = past
  results : s.progress.results.results.map CycleResult.target = past
  count : s.progress.status.failureCount = UInt64.ofNat s.progress.results.failures.length

/-- The run stands between two cycles. -/
def Rests (s : Sight) : Prop :=
  s.progress.status.phase ∈ [.idle, .waitingForRefill] ∧ s.progress.status.target = none

section Cycles

variable {targets past rest : List UInt32} {target : UInt32} {s : Sight}

theorem Booked.sound (h : Booked past s) (hp : past <+: targets) (hs : s.Stands targets)
    (hf : s.progress.status.phase ≠ .failed) : s.Sound targets where
  stands := hs
  message := by
    rw [h.message]
    exact ⟨fun hm => (nomatch hm), fun hm => absurd hm hf⟩
  completed := by rwa [h.completed]
  results := by rw [h.results, h.completed]
  count := h.count

theorem Rests.stands (h : s.Rests) : s.Stands targets := by
  obtain ⟨hphase, htarget⟩ := h
  refine Or.inl ⟨?_, htarget⟩
  rcases List.mem_cons.1 hphase with hphase | hphase
  · rw [hphase]
    decide
  · rw [List.mem_singleton.1 hphase]
    decide

theorem Rests.ne_failed (h : s.Rests) : s.progress.status.phase ≠ .failed := by
  intro hf
  have hphase := h.1
  rw [hf] at hphase
  revert hphase
  decide

/-- The target of the cycle that has begun last. -/
theorem getLast?_begun (hbegun : s.begun = past.length + 1) (ht : targets = past ++ target :: rest) :
    (targets.take s.begun).getLast? = some target := by
  rw [hbegun, ht, List.take_length_add_append, List.take_succ_cons, List.take_zero,
    List.getLast?_append]
  rfl

/-- A cycle shows its beginning and its phases; the books stay. -/
theorem along_cycle (hb : Booked past s) (hr : s.Rests) (hbegun : s.begun = past.length)
    (ht : targets = past ++ target :: rest) :
    Along targets s (cycleSignals target) := by
  have hp : past <+: targets := ⟨target :: rest, ht.symm⟩
  have last := getLast?_begun (s := s.after .begins) (congrArg (· + 1) hbegun) ht
  let begun := s.after .begins
  let up := begun.after (.update (.phase .scalingUp (some target)))
  let down := up.after (.update (.phase .scalingDown (some target)))
  have hb₁ : Booked past begun := ⟨hb.message, hb.completed, hb.results, hb.count⟩
  have hb₂ : Booked past up := ⟨hb.message, hb.completed, hb.results, hb.count⟩
  have hb₃ : Booked past down := ⟨hb.message, hb.completed, hb.results, hb.count⟩
  have hr₁ : begun.Rests := hr
  have hs₂ : up.Stands targets := Or.inr ⟨List.mem_cons_self, target, rfl, last⟩
  have hs₃ : down.Stands targets :=
    Or.inr ⟨List.mem_cons_of_mem _ List.mem_cons_self, target, rfl, last⟩
  exact ⟨hb.sound hp hr.stands hr.ne_failed, .of_same rfl rfl,
    hb₁.sound hp hr₁.stands hr₁.ne_failed, .of_same rfl rfl,
    hb₂.sound hp hs₂ Phase.noConfusion, .of_same rfl rfl,
    hb₃.sound hp hs₃ Phase.noConfusion⟩

/-- The end of a cycle enters its result and its failures into the books. -/
theorem along_end (hb : Booked past s) (hs : s.Sound targets) (hphase : s.progress.status.phase ≠ .failed)
    (ht : targets = past ++ target :: rest) {result : CycleResult} (hr : result.target = target)
    {failures : List SoftFailure} (hf : s.progress.results.failures <+: failures) :
    Along targets s (endSignals result failures) ∧
      Booked (past ++ [target]) (s.afterAll (endSignals result failures)) := by
  have hp : past ++ [target] <+: targets := ⟨rest, by rw [ht, List.append_assoc]; rfl⟩
  let entered := s.after (.update (.result result))
  let counted := entered.after (.update (.failures failures))
  have hcompleted : entered.progress.status.completed = past ++ [target] := by
    show s.progress.status.completed ++ [result.target] = _
    rw [hb.completed, hr]
  have hresults : entered.progress.results.results.map CycleResult.target = past ++ [target] := by
    show (s.progress.results.results ++ [result]).map CycleResult.target = _
    rw [List.map_append, hb.results, ← hr]
    rfl
  have hb₁ : Booked (past ++ [target]) entered := ⟨hb.message, hcompleted, hresults, hb.count⟩
  have hb₂ : Booked (past ++ [target]) counted := ⟨hb.message, hcompleted, hresults, rfl⟩
  refine ⟨⟨hs, ⟨List.prefix_append _ _, List.prefix_append _ _, List.prefix_rfl⟩,
    hb₁.sound hp hs.stands hphase, ⟨List.prefix_rfl, List.prefix_rfl, hf⟩,
    hb₂.sound hp hs.stands hphase⟩, hb₂⟩

/-- A pause comes before further targets only; the books stay. -/
theorem along_refill (hb : Booked past s) (hs : s.Sound targets) (rest : List UInt32) :
    Along targets s (refillSignals rest) ∧ Booked past (s.afterAll (refillSignals rest)) ∧
      (rest ≠ [] → (s.afterAll (refillSignals rest)).Rests) := by
  cases rest with
  | nil => exact ⟨hs, hb, fun h => absurd rfl h⟩
  | cons next rest =>
    let paused := s.after (.update (.phase .waitingForRefill none))
    have hb₁ : Booked past paused := ⟨hb.message, hb.completed, hb.results, hb.count⟩
    have hr₁ : paused.Rests := ⟨List.mem_cons_of_mem _ List.mem_cons_self, rfl⟩
    have hp : past <+: targets := hb.completed ▸ hs.completed
    exact ⟨⟨hs, .of_same rfl rfl, hb₁.sound hp hr₁.stands hr₁.ne_failed⟩, hb₁, fun _ => hr₁⟩

/-- By induction on the targets that are left: between two cycles the books tell of those that are
over, and show no failure that the run has not recorded. -/
theorem along_cycles (context : RunContext) (site : Site ω) (left : List UInt32)
    (world : RunWorld ω) (ht : targets = past ++ left) (hb : Booked past s) (hs : s.Sound targets)
    (hr : left ≠ [] → s.Rests) (hbegun : s.begun = past.length)
    (hf : s.progress.results.failures <+: world.soft.failures) :
    Along targets s (signalsOf (cycles context site left world).notes) := by
  induction left, world using cycles_induction context site generalizing past s with
  | nil world => exact hs
  | failed target rest world failure h =>
    obtain ⟨later, hlater⟩ := cycles_signals_of_error rest h
    have all := along_cycle hb (hr (List.cons_ne_nil _ _)) hbegun ht
    rw [← hlater] at all
    exact all.split.1
  | succeeded target rest world result h ih =>
    let done := cycle context site target world
    rw [cycles_signals_of_ok rest h]
    have hcycle := along_cycle hb (hr (List.cons_ne_nil _ _)) hbegun ht
    refine hcycle.append ?_
    let cycled := s.afterAll (cycleSignals target)
    have hb₁ : Booked past cycled := ⟨hb.message, hb.completed, hb.results, hb.count⟩
    have hgrown : cycled.progress.results.failures <+: done.world.soft.failures := by
      refine hf.trans ?_
      rw [show done.world.soft.failures = _ from failures_append_recorded]
      exact List.prefix_append _ _
    obtain ⟨hend, hb₂⟩ :=
      along_end hb₁ hcycle.sound_afterAll Phase.noConfusion ht (cycle_target h) hgrown
    refine hend.append ?_
    obtain ⟨hrefill, hb₃, hr₃⟩ := along_refill hb₂ hend.sound_afterAll rest
    refine hrefill.append ?_
    refine ih ?_ hb₃ hrefill.sound_afterAll hr₃ ?_ ?_
    · rw [ht, List.append_assoc]
      rfl
    · rw [List.length_append, ← hbegun]
      cases rest <;> rfl
    · cases rest <;> exact List.prefix_rfl

/-- The end of a run can be shown from any point on. -/
theorem along_ending (hs : s.Sound targets) (outcome : Except Failure (List CycleResult)) :
    Along targets s [.update (ending outcome)] := by
  refine ⟨hs, ?_, ?_⟩
  · cases outcome <;> exact .of_same rfl rfl
  · cases outcome with
    | ok results =>
      refine ⟨Or.inl ⟨?_, rfl⟩, ?_, hs.completed, hs.results, hs.count⟩
      · show Phase.completed ∈ [Phase.idle, .waitingForRefill, .completed, .failed]
        decide
      · exact ⟨fun h => (nomatch h), fun h => (nomatch h)⟩
    | error failure =>
      refine ⟨Or.inl ⟨?_, rfl⟩, ?_, hs.completed, hs.results, hs.count⟩
      · show Phase.failed ∈ [Phase.idle, .waitingForRefill, .completed, .failed]
        decide
      · exact ⟨fun _ => rfl, fun _ => rfl⟩

end Cycles

/-! ## Along a run -/

section Run

variable (context : RunContext) (site : Site ω) (world : ω)

/-- Whatever a run signals, everything that is shown meanwhile is sound. -/
theorem along_stressTest :
    Along context.targets initial
      (signalsOf (stressTest context site ⟨world, .empty⟩).notes) := by
  have hb : Booked [] initial := ⟨rfl, rfl, rfl, rfl⟩
  have hr : initial.Rests := ⟨List.mem_cons_self, rfl⟩
  have hs : initial.Sound context.targets := hb.sound List.nil_prefix hr.stands hr.ne_failed
  have loop : Along context.targets initial
      (signalsOf (stressLoop context site ⟨world, .empty⟩).notes) := by
    have signals := stressLoop_signals context site world
    split at signals
    · rw [signals.2]
      exact hs
    · rw [signals]
      exact along_cycles context site context.targets _ rfl hb hs (fun _ => hr) rfl List.nil_prefix
  rw [stressTest_apply, signalsOf_append]
  exact loop.append (along_ending loop.sound_afterAll _)

end Run

end Sight

/-! ## Stations of a run -/

/-- The stations of a run that has made some notes; it begins idle. -/
def stations (notes : List RunNote) : List Station := (.idle, none) :: stationsOf (signalsOf notes)

theorem stations_prefix {a b : List RunNote} (h : a <+: b) : stations a <+: stations b :=
  (List.prefix_cons_inj _).2 ((h.filterMap _).filterMap _)

section Run

variable (context : RunContext) (site : Site ω) (world : ω)

/-- The stations before the end of a run are the first of the itinerary, and all of it if no cycle
fails. -/
theorem stressLoop_stations :
    let loop := stressLoop context site ⟨world, .empty⟩
    stationsOf (signalsOf loop.notes) <+: itinerary context.targets ∧
      ∀ results, loop.outcome = .ok results →
        stationsOf (signalsOf loop.notes) = itinerary context.targets := by
  intro loop
  have signals := stressLoop_signals context site world
  rcases h : (runOpening site world).outcome with failure | _
  · rw [h] at signals
    obtain ⟨ho, hn⟩ := signals
    rw [show signalsOf loop.notes = [] from hn]
    exact ⟨List.nil_prefix, fun results hr => nomatch ho.symm.trans hr⟩
  · rw [h] at signals
    obtain ⟨hp, he⟩ := cycles_stations context site context.targets (runOpening site world).world
    rw [show signalsOf loop.notes = _ from signals]
    refine ⟨hp, fun results hr => ?_⟩
    have houtcome := (stressLoop_of_ok context site world h).2.symm.trans hr
    split at houtcome
    · cases houtcome
    · exact he _ ‹_›

/-- A run goes along its itinerary and then ends, once. -/
theorem stressTest_stations :
    let run := stressTest context site ⟨world, .empty⟩
    match run.outcome with
    | .ok _ => stations run.notes = (.idle, none) :: itinerary context.targets ++ [(.completed, none)]
    | .error _ => ∃ past, past <+: itinerary context.targets ∧
        stations run.notes = (.idle, none) :: past ++ [(.failed, none)] := by
  intro run
  obtain ⟨hp, he⟩ := stressLoop_stations context site world
  have hrun : run = _ := stressTest_apply context site ⟨world, .empty⟩
  rw [hrun]
  unfold stations
  rw [signalsOf_append, stationsOf_append]
  rcases ho : (stressLoop context site ⟨world, .empty⟩).outcome with failure | results
  · exact ⟨_, hp, rfl⟩
  · rw [he results ho]
    rfl

/-- Only the last note of a run ends it. -/
theorem eq_of_ended {heard : List RunNote}
    (hp : heard <+: (stressTest context site ⟨world, .empty⟩).notes) {station : Station}
    (hs : (stations heard).getLast? = some station)
    (he : station.1 = .completed ∨ station.1 = .failed) :
    heard = (stressTest context site ⟨world, .empty⟩).notes := by
  rw [stressTest_apply] at hp ⊢
  rcases List.prefix_concat_iff.1 hp with hp | hp
  · exact hp
  · have hm : station ∈ stations heard := List.mem_of_getLast? hs
    rcases List.mem_cons.1 hm with rfl | hm
    · rcases he with he | he <;> cases he
    · refine absurd ?_ (not_mem_itinerary he context.targets)
      exact (stressLoop_stations context site world).1.subset
        (((hp.filterMap _).filterMap _).subset hm)

end Run

/-! ## Interleaving -/

/-- Something that happens while a run goes on. -/
inductive Happening
  /-- The run makes a note, at a moment. -/
  | note (n : RunNote) (moment : Int64)
  /-- Someone reads the progress. -/
  | read

/-- The notes among what happens. -/
def notesOf (happenings : List Happening) : List RunNote :=
  happenings.filterMap fun
    | .note n _ => some n
    | .read => none

/-- What someone reads: the progress, once some notes were made. -/
structure RunReading where
  heard : List RunNote
  progress : RunProgress

namespace RunReading

/-- What is read of a run that has made no note. -/
def opening (start : Int64) : RunReading := ⟨[], .initial start⟩

/-- What is read once another note is made. -/
def next (r : RunReading) (n : RunNote) (moment : Int64) : RunReading :=
  ⟨r.heard ++ [n], r.progress.hear moment n⟩

/-- What the reading shows, and how many cycles have begun: each makes the connection anew. -/
def sight (r : RunReading) : Sight := ⟨(callNotes r.heard).count .resetConnection, r.progress⟩

/-- One reading is made of the other by further notes. -/
inductive Leads : RunReading → RunReading → Prop
  | refl (r : RunReading) : Leads r r
  | next {r later : RunReading} (n : RunNote) (moment : Int64) : Leads (r.next n moment) later →
      Leads r later

theorem Leads.heard {r later : RunReading} (h : r.Leads later) : r.heard <+: later.heard := by
  induction h with
  | refl r => exact List.prefix_rfl
  | next n moment _ ih => exact (List.prefix_append _ _).trans ih

/-- Nothing is read anew without another note. -/
theorem Leads.eq_of_heard {r later : RunReading} (h : r.Leads later) (hh : r.heard = later.heard) :
    later = r := by
  cases h with
  | refl => rfl
  | next n moment h =>
    have longer := h.heard.length_le
    rw [← hh, show (r.next n moment).heard = r.heard ++ [n] from rfl, List.length_append] at longer
    exact absurd longer (Nat.not_succ_le_self _)

/-- The reading shows what its notes have signalled, but for the moment of the last change. -/
def Kept (r : RunReading) : Prop :=
  r.sight.timeless = Sight.initial.afterAll (signalsOf r.heard)

theorem Kept.opening (start : Int64) : (opening start).Kept := rfl

theorem Kept.next {r : RunReading} (h : r.Kept) (n : RunNote) (moment : Int64) :
    (r.next n moment).Kept := by
  unfold Kept RunReading.next
  rw [signalsOf_append, Sight.afterAll_append, ← show _ = _ from h]
  unfold sight
  rw [callNotes_append, List.count_append]
  cases n with
  | called call => cases call <;> rfl
  | progress u => cases u <;> rfl
  | _ => rfl

theorem Kept.later {r later : RunReading} (h : r.Kept) (hl : r.Leads later) : later.Kept := by
  induction hl with
  | refl r => exact h
  | next n moment _ ih => exact ih (h.next n moment)

end RunReading

/-- What is read, one reading after another. -/
def readings : RunReading → List Happening → List RunReading
  | _, [] => []
  | r, .note n moment :: happenings => readings (r.next n moment) happenings
  | r, .read :: happenings => r :: readings r happenings

/-- All that is read comes of the notes made before. -/
theorem leads_of_mem_readings {happenings : List Happening} {r later : RunReading}
    (h : later ∈ readings r happenings) :
    r.Leads later ∧ later.heard <+: r.heard ++ notesOf happenings := by
  induction happenings generalizing r with
  | nil => cases h
  | cons happening happenings ih =>
    cases happening with
    | note n moment =>
      obtain ⟨hl, hp⟩ := ih h
      refine ⟨hl.next n moment, ?_⟩
      rwa [show (r.next n moment).heard = r.heard ++ [n] from rfl, List.append_assoc] at hp
    | read =>
      rcases List.mem_cons.1 h with rfl | h
      · exact ⟨.refl _, List.prefix_append _ _⟩
      · exact ih h

/-- Each reading leads to those that come after it. -/
theorem pairwise_readings (happenings : List Happening) (r : RunReading) :
    (readings r happenings).Pairwise RunReading.Leads := by
  induction happenings generalizing r with
  | nil => exact .nil
  | cons happening happenings ih =>
    cases happening with
    | note n moment => exact ih _
    | read => exact .cons (fun _ h => (leads_of_mem_readings h).1) (ih r)

/-- **Every reading of a run is sound, and the run only goes forward.** Whatever the targets and the
parties, and however notes and readings come in turn: what is read agrees with itself and with the
targets; each later reading extends the lists of an earlier one and lies further along the stations
of the run; and once the run has ended nothing changes. The stations are those of the itinerary and
the completion, or the failure at some point of the way. -/
theorem stressTest_readings (context : RunContext) (site : Site ω) (world : ω) (start : Int64)
    (happenings : List Happening)
    (h : notesOf happenings <+: (stressTest context site ⟨world, .empty⟩).notes) :
    let run := stressTest context site ⟨world, .empty⟩
    let read := readings (.opening start) happenings
    (∀ r ∈ read, r.sight.Sound context.targets ∧ stations r.heard <+: stations run.notes ∧
      (stations r.heard).getLast? = some r.sight.station) ∧
    read.Pairwise (fun earlier later => earlier.sight.Grows later.sight ∧
      stations earlier.heard <+: stations later.heard ∧
      (earlier.progress.status.phase = .completed ∨ earlier.progress.status.phase = .failed →
        later = earlier)) ∧
    match run.outcome with
    | .ok _ => stations run.notes = (.idle, none) :: itinerary context.targets ++ [(.completed, none)]
    | .error _ => ∃ past, past <+: itinerary context.targets ∧
        stations run.notes = (.idle, none) :: past ++ [(.failed, none)] := by
  intro run read
  have along := Sight.along_stressTest context site world
  have heard {r : RunReading} (hr : r ∈ read) : r.heard <+: run.notes :=
    (leads_of_mem_readings hr).2.trans h
  have kept {r : RunReading} (hr : r ∈ read) : r.Kept :=
    (RunReading.Kept.opening start).later (leads_of_mem_readings hr).1
  have last {r : RunReading} (hr : r ∈ read) : (stations r.heard).getLast? = some r.sight.station := by
    have := Sight.station_afterAll .initial (signalsOf r.heard)
    rwa [← show _ = _ from kept hr] at this
  refine ⟨fun r hr => ⟨?_, stations_prefix (heard hr), last hr⟩, ?_,
    stressTest_stations context site world⟩
  · obtain ⟨rest, hrest⟩ := (heard hr).filterMap RunNote.signal?
    rw [show signalsOf run.notes = signalsOf r.heard ++ rest from hrest.symm] at along
    have sound := along.split.1.sound_afterAll
    rw [← show _ = _ from kept hr] at sound
    exact sound.of_timeless
  · refine (pairwise_readings happenings _).imp_of_mem fun {earlier later} he hl hleads => ?_
    refine ⟨?_, stations_prefix hleads.heard, fun hended => ?_⟩
    · obtain ⟨between, hbetween⟩ := hleads.heard.filterMap RunNote.signal?
      obtain ⟨rest, hrest⟩ := (heard hl).filterMap RunNote.signal?
      have hlater : signalsOf later.heard = signalsOf earlier.heard ++ between := hbetween.symm
      rw [show signalsOf run.notes = signalsOf later.heard ++ rest from hrest.symm, hlater] at along
      have grows := along.split.1.split.2.grows
      rw [← Sight.afterAll_append, ← hlater, ← show _ = _ from kept hl,
        ← show _ = _ from kept he] at grows
      exact grows.of_timeless
    · have all := eq_of_ended context site world (heard he) (last he) hended
      refine hleads.eq_of_heard (hleads.heard.eq_of_length_le ?_)
      rw [all]
      exact (heard hl).length_le

/-! ## A rehearsed run -/

/-- Someone reads before the first note and after every one. -/
def attentive (notes : List RunNote) : List Happening :=
  .read :: notes.flatMap fun n => [.note n 0, .read]

theorem notesOf_attentive (notes : List RunNote) : notesOf (attentive notes) = notes := by
  show notesOf (notes.flatMap _) = notes
  induction notes with
  | nil => rfl
  | cons n notes ih => exact congrArg (n :: ·) ih

/-- The run raises its two soft failures in the end, and whoever is attentive has seen it pass. -/
theorem stressTest_readings_overshoot :
    let run := stressTest overshootContext (Rehearsal.site "bench" none) ⟨overshootScript, .empty⟩
    let read := readings (.opening 0) (attentive run.notes)
    notesOf (attentive run.notes) <+: run.notes ∧ (∀ r ∈ read, r.sight.Sound [2]) ∧
      read.Pairwise (fun earlier later => earlier.sight.Grows later.sight) ∧
      stations run.notes =
        [(.idle, none), (.scalingUp, some 2), (.scalingDown, some 2), (.failed, none)] := by
  intro run read
  have whole : notesOf (attentive run.notes) <+: run.notes :=
    (notesOf_attentive run.notes).symm ▸ List.prefix_rfl
  obtain ⟨sound, forward, _⟩ := stressTest_readings overshootContext (Rehearsal.site "bench" none)
    overshootScript 0 (attentive run.notes) whole
  exact ⟨whole, fun r hr => (sound r hr).1, forward.imp fun h => h.1, by decide +kernel⟩

end FleetScaling

import FleetScaling.Proofs.Traces

/-!
# Sampling step by step

The traces of the parts of a sampler. Dealing with a sample never fails (`Sampler.keep_apply`,
`Sampler.miss_apply`), so a step always ends well, with a sample or without one (`Sampler.step_of_ok`,
`Sampler.step_of_error`). After a step a window ends at the target, ends because its budget is used
up, or goes on after a wait that brings it nearer to its end (`Sampler.sampleFrom_of_open`,
`Sampler.remaining_lt`). No step is taken in a window without a deadline
(`Sampler.collect_of_no_deadline`).
-/

namespace FleetScaling

open Time

variable {ω : Type}

/-- What the clock can show, it could show before. -/
theorem Time.Duration.Showable.of_le {earlier later : Duration} (h : later.Showable)
    (le : earlier ≤ later) : earlier.Showable :=
  Int.le_trans (Int.ofNat_le.2 (Nat.div_le_div_right le)) h

theorem showable_of_add {uptime budget : Duration} (h : (uptime + budget).Showable) :
    budget.Showable := h.of_le (Nat.le_add_left budget.nanos uptime.nanos)

namespace Sampler

variable {s : Sampler ω} {window : Window} {p next : Progress} {elapsed : Duration} {world : ω}

/-! ## Dealing with a sample -/

/-- What is noted about a good sample that comes after `streak` failed ones. -/
def keepNotes (s : Sampler ω) (window : Window) (streak : Nat) (sample : Sample) : List SiteNote :=
  (if s.degradedAfter ≤ streak ∧ s.reportsHealth then [.judged .collector .healthy none] else []) ++
    (if window.publish then
      [.measured (.sample window.cluster sample.instances sample.nodes window.target)] else []) ++
    [.sampled (some sample)]

theorem keep_apply (sample : Sample) : s.keep window p sample world =
    ⟨.ok ⟨p.samples ++ [sample], p.errors, 0⟩, world, s.keepNotes window p.streak sample⟩ := by
  unfold keep judge keepNotes
  by_cases hs : s.degradedAfter ≤ p.streak <;> by_cases hr : s.reportsHealth = true <;>
    by_cases hw : window.publish = true <;> simp only [hs, hr, hw] <;> rfl

/-- What is said about a collector that degrades at a failure after `streak` others. -/
def degradedDetail (streak : Nat) (failure : Failure) : String :=
  toString (streak + 1) ++ " consecutive samples failed: " ++ failure.message

/-- What is noted about a sample that could not be taken after `streak` others. -/
def missNotes (s : Sampler ω) (window : Window) (streak : Nat) (failure : Failure) :
    List SiteNote :=
  [.measured .probeError, .logged (.warning "Failed to sample cluster"
    [("cluster", .text window.cluster), ("error", .text failure.summary)])] ++
    (if streak + 1 = s.degradedAfter ∧ s.reportsHealth then
      [.judged .collector .degraded (some (degradedDetail streak failure))] else []) ++
    [.sampled none]

theorem miss_apply (failure : Failure) : s.miss window p failure world =
    ⟨.ok ⟨p.samples, p.errors + 1, p.streak + 1⟩, world, s.missNotes window p.streak failure⟩ := by
  unfold miss judge missNotes
  by_cases hs : p.streak + 1 = s.degradedAfter
  · by_cases hr : s.reportsHealth = true <;> simp only [eq_true hs, hr] <;> rfl
  · by_cases hr : s.reportsHealth = true <;> simp only [eq_false hs, hr] <;> rfl

/-! ## Steps -/

theorem step_of_ok {sample : Sample} (h : (s.sample window world).outcome = .ok sample) :
    s.step window p world =
      ⟨.ok (⟨p.samples ++ [sample], p.errors, 0⟩,
          sample.instances = window.target && sample.nodes = window.target),
        (s.sample window world).world,
        (s.sample window world).notes ++ s.keepNotes window p.streak sample⟩ := by
  unfold step
  rw [Operation.bind_of_ok (a := .ok sample) (by rw [Operation.attempt_apply, h])]
  simp only [Operation.attempt_apply]
  rw [Operation.bind_eq_of_ok (keep_apply _)]
  simp only [Operation.pure_apply, List.append_nil]

theorem step_of_error {failure : Failure}
    (h : (s.sample window world).outcome = .error failure) :
    s.step window p world =
      ⟨.ok (⟨p.samples, p.errors + 1, p.streak + 1⟩, false),
        (s.sample window world).world,
        (s.sample window world).notes ++ s.missNotes window p.streak failure⟩ := by
  unfold step
  rw [Operation.bind_of_ok (a := .error failure) (by rw [Operation.attempt_apply, h])]
  simp only [Operation.attempt_apply]
  rw [Operation.bind_eq_of_ok (miss_apply _)]
  simp only [Operation.pure_apply, List.append_nil]

/-! ## Windows -/

/-- How long the sampler waits before the next sample. -/
def wait (s : Sampler ω) (window : Window) (elapsed : Duration) : Duration :=
  s.interval.length.shorter (window.budget - elapsed)

/-- A wait brings the end of the window nearer. -/
theorem remaining_lt (h : ¬window.budget ≤ elapsed) :
    window.budget.nanos - (elapsed + s.wait window elapsed).nanos <
      window.budget.nanos - elapsed.nanos := by
  have hi := s.interval.pos
  have h' : ¬window.budget.nanos ≤ elapsed.nanos := h
  show window.budget.nanos - (elapsed.nanos + (s.wait window elapsed).nanos) < _
  unfold wait Duration.shorter
  split
  · omega
  · show _ - (elapsed.nanos + (window.budget.nanos - elapsed.nanos)) < _
    omega

theorem sampleFrom_of_reached (h : (s.step window p world).outcome = .ok (next, true)) :
    s.sampleFrom window p elapsed world =
      ⟨.ok next.samples, (s.step window p world).world,
        (s.step window p world).notes ++ [.logged (reachedEntry window next)]⟩ := by
  rw [sampleFrom, Operation.bind_of_ok h]
  rfl

theorem sampleFrom_of_closed (h : (s.step window p world).outcome = .ok (next, false))
    (hb : window.budget ≤ elapsed) :
    s.sampleFrom window p elapsed world =
      ⟨.ok next.samples, (s.step window p world).world,
        (s.step window p world).notes ++ [.logged (closedEntry window next)]⟩ := by
  rw [sampleFrom, Operation.bind_of_ok h]
  simp only [Bool.false_eq_true, if_false, if_pos hb]
  rfl

theorem sampleFrom_of_open (h : (s.step window p world).outcome = .ok (next, false))
    (hb : ¬window.budget ≤ elapsed) :
    s.sampleFrom window p elapsed world =
      let rest := s.sampleFrom window next (elapsed + s.wait window elapsed)
        (s.step window p world).world
      ⟨rest.outcome, rest.world,
        (s.step window p world).notes ++ .waited (s.wait window elapsed) :: rest.notes⟩ := by
  rw [sampleFrom, Operation.bind_of_ok h]
  simp only [Bool.false_eq_true, if_false, if_neg hb]
  rfl

/-! ## Deadlines -/

/-- The clock can show when a window that begins in a world has to end. -/
def HasDeadline (s : Sampler ω) (window : Window) (world : ω) : Prop :=
  (s.uptime world + window.budget).Showable

instance (s : Sampler ω) (window : Window) (world : ω) : Decidable (s.HasDeadline window world) :=
  inferInstanceAs (Decidable (Duration.Showable _))

/-- A shorter window has a deadline too. -/
theorem HasDeadline.of_le {shorter : Window} (h : s.HasDeadline window world)
    (le : shorter.budget ≤ window.budget) : s.HasDeadline shorter world :=
  Duration.Showable.of_le h (Nat.add_le_add_left le _)

theorem collect_apply (s : Sampler ω) (window : Window) (world : ω) :
    s.collect window world =
      let rest := (orPanic ((s.uptime world).deadline window.budget) >>= fun _ =>
        s.sampleThrough window) world
      ⟨rest.outcome, rest.world, .logged (openedEntry window) :: rest.notes⟩ := rfl

theorem collect_of_deadline (h : s.HasDeadline window world) : s.collect window world =
    let rest := s.sampleThrough window world
    ⟨rest.outcome, rest.world, .logged (openedEntry window) :: rest.notes⟩ := by
  have told : (s.uptime world).deadline window.budget = .ok (s.uptime world + window.budget) := if_pos h
  rw [collect_apply, told]
  rfl

theorem collect_of_no_deadline (h : ¬s.HasDeadline window world) : s.collect window world =
    ⟨.error (.of (.panicked .deadline)), world,
      [.logged (openedEntry window), .panicked .deadline]⟩ := by
  have late : (s.uptime world).deadline window.budget = .error .deadline := if_neg h
  rw [collect_apply, late]
  rfl

end Sampler

end FleetScaling

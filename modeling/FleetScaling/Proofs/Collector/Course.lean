import FleetScaling.Proofs.Collector.Sampling
import FleetScaling.Proofs.Scaling.Samples
import Mathlib.Algebra.BigOperators.Group.List.Basic
import Mathlib.Algebra.GroupWithZero.Nat
import Mathlib.Data.Nat.Find
import Mathlib.Order.Bounds.Basic

/-!
# The course of a window

Which samples a sampler takes in a window, and when, is settled by what its probe and its clock
answer: left to themselves they would give one sample after another without end (`Sampler.good?`),
and the window ends with the first at which it may end (`Sampler.endings`, `Sampler.exists_last`).
A step of the sampler either is that last one or is followed by a wait and the rest of the window
(`Sampler.sampleFrom_last`, `Sampler.sampleFrom_more`). By induction over the samples this says what
comes of a whole window that has a deadline (`Sampler.collect_course`), how long is waited in it
(`Sampler.collect_wait`) and, if probe and clock keep quiet, when each sample is taken
(`Sampler.collect_timeline`).
-/

namespace FleetScaling

open Time

variable {ω : Type}

/-- The sample, if there is one, has both counts at the target. -/
def Window.Reached (window : Window) (o : Option Sample) : Prop :=
  ∃ sample, o = some sample ∧ sample.instances = window.target ∧ sample.nodes = window.target

theorem Window.not_reached_none (window : Window) : ¬window.Reached none := by
  rintro ⟨sample, h, _⟩
  cases h

theorem Window.reached_some_iff {window : Window} {sample : Sample} :
    window.Reached (some sample) ↔
      sample.instances = window.target ∧ sample.nodes = window.target := by
  constructor
  · rintro ⟨_, h, reached⟩
    cases h
    exact reached
  · exact fun h => ⟨sample, rfl, h⟩

/-! ## Waits and samples among notes -/

/-- A note that is neither a wait nor a sample. -/
def SiteNote.IsAside : SiteNote → Prop
  | waited _ => False
  | sampled _ => False
  | _ => True

/-- When the samples among some notes were taken, in nanoseconds, and what they were; the first note
is made at `now`. -/
def timeline : Nat → List SiteNote → List (Nat × Option Sample)
  | _, [] => []
  | now, .waited d :: notes => timeline (now + d.nanos) notes
  | now, .sampled o :: notes => (now, o) :: timeline now notes
  | now, _ :: notes => timeline now notes

theorem timeline_append (now : Nat) (a b : List SiteNote) :
    timeline now (a ++ b) = timeline now a ++ timeline (now + (totalWait a).nanos) b := by
  induction a generalizing now with
  | nil => rfl
  | cons n a ih =>
    rw [totalWait_cons, List.cons_append]
    cases n with
    | waited d =>
      show timeline (now + d.nanos) (a ++ b) = timeline (now + d.nanos) a ++ _
      rw [ih, Nat.add_assoc]
      rfl
    | sampled o =>
      show (now, o) :: timeline now (a ++ b) = (now, o) :: timeline now a ++ _
      rw [ih, List.cons_append]
      exact congrArg (fun t => _ :: (_ ++ timeline (now + t) b)) (Nat.zero_add _).symm
    | _ =>
      show timeline now (a ++ b) = timeline now a ++ _
      rw [ih]
      exact congrArg (fun t => _ ++ timeline (now + t) b) (Nat.zero_add _).symm

theorem totalWait_of_aside {notes : List SiteNote} (h : ∀ n ∈ notes, n.IsAside) :
    (totalWait notes).nanos = 0 := by
  induction notes with
  | nil => rfl
  | cons n notes ih =>
    rw [totalWait_cons, ih fun m hm => h m (List.mem_cons_of_mem n hm)]
    have aside := h n List.mem_cons_self
    cases n with
    | waited d => exact aside.elim
    | _ => rfl

theorem timeline_of_aside {notes : List SiteNote} (h : ∀ n ∈ notes, n.IsAside) (now : Nat) :
    timeline now notes = [] := by
  induction notes with
  | nil => rfl
  | cons n notes ih =>
    have rest := ih fun m hm => h m (List.mem_cons_of_mem n hm)
    have aside := h n List.mem_cons_self
    cases n with
    | waited d => exact aside.elim
    | sampled o => exact aside.elim
    | _ => exact rest

namespace Sampler

variable {s : Sampler ω} {window : Window} {p : Progress} {elapsed : Duration} {world : ω} {k : Nat}

/-! ## Samples without end -/

/-- The world after some samples. -/
def worldAfter (s : Sampler ω) (window : Window) (world : ω) (i : Nat) : ω :=
  (fun world => (s.sample window world).world)^[i] world

/-- What comes of the sample that follows `i` others. -/
def look (s : Sampler ω) (window : Window) (world : ω) (i : Nat) : Trace SiteNote ω Sample :=
  s.sample window (s.worldAfter window world i)

/-- The sample that follows `i` others, if it can be taken. -/
def good? (s : Sampler ω) (window : Window) (world : ω) (i : Nat) : Option Sample :=
  (s.look window world i).outcome.toOption

/-- The samples with which the window may end, `elapsed` having passed before the first: those with
both counts at the target, and those that come when the budget is used up. -/
def endings (s : Sampler ω) (window : Window) (elapsed : Duration) (world : ω) : Set Nat :=
  {i | window.Reached (s.good? window world i) ∨
    window.budget.nanos ≤ elapsed.nanos + i * s.interval.length.nanos}

/-- A window has a last sample, since its budget is used up at some time. -/
theorem exists_last (s : Sampler ω) (window : Window) (elapsed : Duration) (world : ω) :
    ∃ k, IsLeast (s.endings window elapsed world) k := by
  classical
  have late : ∃ i, i ∈ s.endings window elapsed world := by
    refine ⟨window.budget.nanos, Or.inr ?_⟩
    have := Nat.le_mul_of_pos_right window.budget.nanos s.interval.pos
    omega
  exact ⟨Nat.find late, Nat.find_spec late, fun i hi => Nat.find_min' late hi⟩

theorem elapsed_after_wait (h : ¬window.budget ≤ elapsed) :
    (elapsed + s.wait window elapsed).nanos =
      min (elapsed.nanos + s.interval.length.nanos) window.budget.nanos := by
  have h : ¬window.budget.nanos ≤ elapsed.nanos := h
  show elapsed.nanos + (s.wait window elapsed).nanos = _
  unfold wait Duration.shorter
  split <;> rename_i hw
  · have hw : s.interval.length.nanos ≤ window.budget.nanos - elapsed.nanos := hw
    omega
  · have hw : ¬s.interval.length.nanos ≤ window.budget.nanos - elapsed.nanos := hw
    show elapsed.nanos + (window.budget.nanos - elapsed.nanos) = _
    omega

/-- After the first sample and a wait, the last one is nearer by one. -/
theorem last_of_succ (h : IsLeast (s.endings window elapsed world) (k + 1)) :
    ¬window.Reached (s.good? window world 0) ∧ ¬window.budget ≤ elapsed ∧
      IsLeast (s.endings window (elapsed + s.wait window elapsed)
        (s.sample window world).world) k := by
  have first : 0 ∉ s.endings window elapsed world := fun h0 => absurd (h.2 h0) (by omega)
  have early : ¬window.budget ≤ elapsed := by
    intro hb
    refine first (Or.inr ?_)
    rw [Nat.zero_mul]
    exact hb
  have shift (i : Nat) : i ∈ s.endings window (elapsed + s.wait window elapsed)
      (s.sample window world).world ↔ i + 1 ∈ s.endings window elapsed world := by
    refine or_congr Iff.rfl ?_
    -- a wait that is cut short ends with the budget, and then the next sample is the last one
    rw [elapsed_after_wait early, Nat.succ_mul]
    have early : ¬window.budget.nanos ≤ elapsed.nanos := early
    have := s.interval.pos
    omega
  refine ⟨fun hr => first (Or.inl hr), early, (shift k).2 h.1, fun i hi => ?_⟩
  exact Nat.le_of_succ_le_succ (h.2 ((shift i).1 hi))

/-! ## One sample of many -/

/-- The notes about a good sample end with it, and say nothing of waits or samples before. -/
theorem exists_keepNotes (s : Sampler ω) (window : Window) (streak : Nat) (sample : Sample) :
    ∃ front, s.keepNotes window streak sample = front ++ [.sampled (some sample)] ∧
      ∀ n ∈ front, n.IsAside := by
  refine ⟨_, rfl, fun n hn => ?_⟩
  rcases List.mem_append.1 hn with hn | hn <;> split at hn
  · rw [List.mem_singleton.1 hn]
    trivial
  · cases hn
  · rw [List.mem_singleton.1 hn]
    trivial
  · cases hn

/-- The same of the notes about a sample that could not be taken. -/
theorem exists_missNotes (s : Sampler ω) (window : Window) (streak : Nat) (failure : Failure) :
    ∃ front, s.missNotes window streak failure = front ++ [.sampled none] ∧
      ∀ n ∈ front, n.IsAside := by
  refine ⟨_, rfl, fun n hn => ?_⟩
  rcases List.mem_append.1 hn with hn | hn
  · rcases List.mem_cons.1 hn with rfl | hn
    · trivial
    · rw [List.mem_singleton.1 hn]
      trivial
  · split at hn
    · rw [List.mem_singleton.1 hn]
      trivial
    · cases hn

/-- A step takes one sample, deals with it, and says whether it has both counts at the target. -/
theorem step_look (s : Sampler ω) (window : Window) (p : Progress) (world : ω) :
    ∃ (next : Progress) (reached : Bool) (front : List SiteNote),
      s.step window p world = ⟨.ok (next, reached), (s.sample window world).world,
        (s.sample window world).notes ++ (front ++ [.sampled (s.good? window world 0)])⟩ ∧
      next.samples = p.samples ++ (s.good? window world 0).toList ∧
      (reached = true ↔ window.Reached (s.good? window world 0)) ∧ ∀ n ∈ front, n.IsAside := by
  rcases h : (s.sample window world).outcome with failure | sample
  · have hg : s.good? window world 0 = none := congrArg Except.toOption h
    obtain ⟨front, hfront, aside⟩ := s.exists_missNotes window p.streak failure
    rw [hg, step_of_error h, hfront]
    exact ⟨_, _, front, rfl, (List.append_nil _).symm,
      iff_of_false Bool.false_ne_true window.not_reached_none, aside⟩
  · have hg : s.good? window world 0 = some sample := congrArg Except.toOption h
    obtain ⟨front, hfront, aside⟩ := s.exists_keepNotes window p.streak sample
    rw [hg, step_of_ok h, hfront]
    refine ⟨_, _, front, rfl, rfl, ?_, aside⟩
    rw [window.reached_some_iff, Bool.and_eq_true, decide_eq_true_iff, decide_eq_true_iff]

/-- The rest of a window of which only one sample is left. -/
theorem sampleFrom_last (p : Progress) (h : IsLeast (s.endings window elapsed world) 0) :
    ∃ (front : List SiteNote) (entry : LogEntry), (∀ n ∈ front, n.IsAside) ∧
      s.sampleFrom window p elapsed world =
        ⟨.ok (p.samples ++ (s.good? window world 0).toList), (s.sample window world).world,
          (s.sample window world).notes ++ (front ++ [.sampled (s.good? window world 0)]) ++
            [.logged entry]⟩ := by
  obtain ⟨next, reached, front, hs, hnext, hr, hf⟩ := step_look s window p world
  rw [← hnext]
  cases reached with
  | true => exact ⟨front, _, hf, by rw [sampleFrom_of_reached (by rw [hs]), hs]⟩
  | false =>
    have hb : window.budget ≤ elapsed := by
      rcases h.1 with h' | h'
      · exact absurd (hr.2 h') Bool.false_ne_true
      · rw [Nat.zero_mul] at h'
        exact h'
    exact ⟨front, _, hf, by rw [sampleFrom_of_closed (by rw [hs]) hb, hs]⟩

/-- The rest of a window of which more than one sample is left. -/
theorem sampleFrom_more (p : Progress) (h : IsLeast (s.endings window elapsed world) (k + 1)) :
    ∃ (front : List SiteNote) (next : Progress), (∀ n ∈ front, n.IsAside) ∧
      next.samples = p.samples ++ (s.good? window world 0).toList ∧
      s.sampleFrom window p elapsed world =
        let rest := s.sampleFrom window next (elapsed + s.wait window elapsed)
          (s.sample window world).world
        ⟨rest.outcome, rest.world,
          (s.sample window world).notes ++ (front ++ [.sampled (s.good? window world 0)]) ++
            .waited (s.wait window elapsed) :: rest.notes⟩ := by
  obtain ⟨open_, early, _⟩ := last_of_succ h
  obtain ⟨next, reached, front, hs, hnext, hr, hf⟩ := step_look s window p world
  have hfalse : reached = false := Bool.eq_false_iff.2 fun h' => open_ (hr.1 h')
  subst hfalse
  refine ⟨front, next, hf, hnext, ?_⟩
  rw [sampleFrom_of_open (by rw [hs]) early, hs]

/-! ## Whole windows -/

theorem filterMap_range_succ {α : Type} (f : Nat → Option α) (n : Nat) :
    (List.range (n + 1)).filterMap f =
      (f 0).toList ++ (List.range n).filterMap fun i => f (i + 1) := by
  rw [List.range_succ_eq_map, List.filterMap_cons, List.filterMap_map]
  cases f 0 <;> rfl

/-- What comes of the rest of a window, by induction over the samples that are left. -/
theorem sampleFrom_course (p : Progress) (h : IsLeast (s.endings window elapsed world) k) :
    (s.sampleFrom window p elapsed world).outcome =
        .ok (p.samples ++ (List.range (k + 1)).filterMap (s.good? window world)) ∧
      (s.sampleFrom window p elapsed world).world = s.worldAfter window world (k + 1) := by
  induction k generalizing p elapsed world with
  | zero =>
    obtain ⟨front, entry, _, hs⟩ := sampleFrom_last p h
    rw [hs, filterMap_range_succ]
    refine ⟨?_, rfl⟩
    rw [List.range_zero, List.filterMap_nil, List.append_nil]
  | succ k ih =>
    obtain ⟨front, next, _, hnext, hs⟩ := sampleFrom_more p h
    obtain ⟨houtcome, hworld⟩ := ih next (last_of_succ h).2.2
    rw [hs]
    refine ⟨houtcome.trans ?_, hworld⟩
    rw [hnext, filterMap_range_succ _ (k + 1), List.append_assoc]
    rfl

/-- How long is waited in the rest of a window: a whole number of intervals or what is left of the
budget, and whatever the samples themselves take. -/
theorem sampleFrom_wait (p : Progress) (h : IsLeast (s.endings window elapsed world) k) :
    (totalWait (s.sampleFrom window p elapsed world).notes).nanos =
      min (k * s.interval.length.nanos) (window.budget.nanos - elapsed.nanos) +
        ((List.range (k + 1)).map fun i => (totalWait (s.look window world i).notes).nanos).sum := by
  induction k generalizing p elapsed world with
  | zero =>
    obtain ⟨front, entry, hf, hs⟩ := sampleFrom_last p h
    rw [hs]
    simp only [totalWait_append, totalWait_of_aside hf]
    show (totalWait (s.look window world 0).notes).nanos + (0 + 0) + 0 = _
    simp
  | succ k ih =>
    obtain ⟨front, next, hf, _, hs⟩ := sampleFrom_more p h
    obtain ⟨_, early, later⟩ := last_of_succ h
    have hwait : elapsed.nanos + (s.wait window elapsed).nanos =
      min (elapsed.nanos + s.interval.length.nanos) window.budget.nanos := elapsed_after_wait early
    have early : ¬window.budget.nanos ≤ elapsed.nanos := early
    rw [hs, List.sum_range_succ', Nat.succ_mul]
    simp only [totalWait_append, totalWait_cons, totalWait_of_aside hf, ih next later]
    show (totalWait (s.look window world 0).notes).nanos + (0 + 0) +
      ((s.wait window elapsed).nanos +
        (min _ (window.budget.nanos - (elapsed.nanos + (s.wait window elapsed).nanos)) +
          ((List.range (k + 1)).map fun i =>
            (totalWait (s.look window world i.succ).notes).nanos).sum)) = _
    omega

/-- When the samples in the rest of a window are taken, if nothing else takes time: at every
interval, and at last when the budget is used up. -/
theorem sampleFrom_timeline (quiet : (s.sample window).Notes SiteNote.IsAside) (p : Progress)
    (hb : elapsed ≤ window.budget) (h : IsLeast (s.endings window elapsed world) k) :
    timeline elapsed.nanos (s.sampleFrom window p elapsed world).notes =
      (List.range (k + 1)).map fun i =>
        (min (elapsed.nanos + i * s.interval.length.nanos) window.budget.nanos,
          s.good? window world i) := by
  have hb : elapsed.nanos ≤ window.budget.nanos := hb
  induction k generalizing p elapsed world with
  | zero =>
    obtain ⟨front, entry, hf, hs⟩ := sampleFrom_last p h
    rw [hs]
    simp only [timeline_append, timeline_of_aside (quiet world), timeline_of_aside hf,
      totalWait_of_aside (quiet world), totalWait_of_aside hf]
    show [(elapsed.nanos + 0 + 0, s.good? window world 0)] =
      [(min (elapsed.nanos + 0 * _) window.budget.nanos, _)]
    rw [Nat.zero_mul, Nat.add_zero, Nat.min_eq_left hb]
  | succ k ih =>
    obtain ⟨front, next, hf, _, hs⟩ := sampleFrom_more p h
    obtain ⟨_, early, later⟩ := last_of_succ h
    have hwait : elapsed.nanos + (s.wait window elapsed).nanos =
      min (elapsed.nanos + s.interval.length.nanos) window.budget.nanos := elapsed_after_wait early
    have hlater : (elapsed + s.wait window elapsed).nanos ≤ window.budget.nanos := by
      show elapsed.nanos + (s.wait window elapsed).nanos ≤ _
      omega
    have tail := ih next hlater later hlater
    rw [hs, List.range_succ_eq_map, List.map_cons, List.map_map]
    simp only [timeline_append, timeline_of_aside (quiet world), timeline_of_aside hf,
      totalWait_append, totalWait_of_aside (quiet world), totalWait_of_aside hf]
    show (elapsed.nanos + 0 + 0, s.good? window world 0) ::
      timeline (elapsed + s.wait window elapsed).nanos _ =
        (min (elapsed.nanos + 0 * _) window.budget.nanos, _) :: _
    rw [tail, Nat.zero_mul, Nat.add_zero, Nat.min_eq_left hb]
    refine congrArg (_ :: ·) (List.map_congr_left fun i _ => ?_)
    show (min (elapsed.nanos + (s.wait window elapsed).nanos + _) _, _) = (min (_ + (i + 1) * _) _, _)
    rw [hwait, Nat.succ_mul]
    refine congrArg (·, _) ?_
    omega

/-! ## The window as a whole -/

section Deadline

variable (told : s.HasDeadline window world)

include told

/-- **The course of a window.** All good samples up to the last one are collected, and then the
clock is read. -/
theorem collect_course (h : IsLeast (s.endings window .zero world) k) :
    s.collect window world =
      let read := s.clock (s.worldAfter window world (k + 1))
      ⟨read.outcome.map (Series.ofSamples ((List.range (k + 1)).filterMap (s.good? window world))),
        read.world, .logged (openedEntry window) ::
          ((s.sampleFrom window ⟨[], 0, 0⟩ .zero world).notes ++ read.notes)⟩ := by
  obtain ⟨houtcome, hworld⟩ := sampleFrom_course ⟨[], 0, 0⟩ h
  rw [collect_of_deadline told]
  unfold sampleThrough
  rw [Operation.bind_of_ok houtcome, hworld, Operation.bind_pure_apply]
  rfl

/-- How long is waited in a window. -/
theorem collect_wait (h : IsLeast (s.endings window .zero world) k) :
    (totalWait (s.collect window world).notes).nanos =
      min (k * s.interval.length.nanos) window.budget.nanos +
        ((List.range (k + 1)).map fun i => (totalWait (s.look window world i).notes).nanos).sum +
        (totalWait (s.clock (s.worldAfter window world (k + 1))).notes).nanos := by
  rw [collect_course told h, totalWait_cons, totalWait_append, sampleFrom_wait _ h]
  exact Nat.zero_add _

variable (quiet : (s.sample window).Notes SiteNote.IsAside) (silent : s.clock.Notes SiteNote.IsAside)

include quiet silent

/-- How long is waited in a window in which nothing else takes time. -/
theorem collect_wait_of_quiet (h : IsLeast (s.endings window .zero world) k) :
    (totalWait (s.collect window world).notes).nanos =
      min (k * s.interval.length.nanos) window.budget.nanos := by
  have sampled (i : Nat) : (totalWait (s.look window world i).notes).nanos = 0 :=
    totalWait_of_aside (quiet _)
  have sum : ((List.range (k + 1)).map fun i =>
      (totalWait (s.look window world i).notes).nanos).sum = 0 := by
    simp only [sampled, List.map_const', List.sum_replicate_nat, Nat.mul_zero]
  rw [collect_wait told h, sum, totalWait_of_aside (silent _), Nat.add_zero]

/-- A window of the same cluster with a smaller budget is never longer. -/
theorem collect_wait_mono {shorter : Window} (same : s.sample shorter = s.sample window)
    (target : shorter.target = window.target) (le : shorter.budget ≤ window.budget) :
    totalWait (s.collect shorter world).notes ≤ totalWait (s.collect window world).notes := by
  obtain ⟨k, last⟩ := s.exists_last shorter .zero world
  obtain ⟨k', last'⟩ := s.exists_last window .zero world
  have told' := told.of_le le
  have le : shorter.budget.nanos ≤ window.budget.nanos := le
  have looks : s.good? shorter world = s.good? window world := by
    unfold good? look worldAfter
    rw [same]
  have earlier : k ≤ k' := by
    refine last.2 (last'.1.imp (fun ⟨sample, hs, reached⟩ => ?_) le.trans)
    exact ⟨sample, looks ▸ hs, target ▸ reached⟩
  have steps := Nat.mul_le_mul_right s.interval.length.nanos earlier
  show (totalWait _).nanos ≤ (totalWait _).nanos
  rw [collect_wait_of_quiet told' (same ▸ quiet) silent last,
    collect_wait_of_quiet told quiet silent last']
  omega

/-- When the samples of such a window are taken. -/
theorem collect_timeline (h : IsLeast (s.endings window .zero world) k) :
    timeline 0 (s.collect window world).notes =
      (List.range (k + 1)).map fun i =>
        (min (i * s.interval.length.nanos) window.budget.nanos, s.good? window world i) := by
  have sampled := sampleFrom_timeline quiet ⟨[], 0, 0⟩ (Nat.zero_le _) h
  rw [collect_course told h]
  show timeline 0 (_ ++ _) = _
  rw [timeline_append, timeline_of_aside (silent _), List.append_nil]
  refine sampled.trans (List.map_congr_left fun i _ => ?_)
  show (min (0 + _) _, _) = _
  rw [Nat.zero_add]

end Deadline

/-! ## What a window gives -/

/-- A window without a deadline gives no series. -/
theorem hasDeadline_of_ok {series : Series} (h : (s.collect window world).outcome = .ok series) :
    s.HasDeadline window world := by
  by_contra late
  rw [collect_of_no_deadline late] at h
  cases h

/-- The collected samples are good ones, and the last of them ends the window at the target unless
the whole budget was used. -/
theorem collect_ends {series : Series} (h : (s.collect window world).outcome = .ok series) :
    (∀ sample ∈ series.samples, ∃ world, (s.sample window world).outcome = .ok sample) ∧
      ((∃ front sample, series.samples = front ++ [sample] ∧
          sample.instances = window.target ∧ sample.nodes = window.target) ∨
        window.budget.nanos ≤ (totalWait (s.collect window world).notes).nanos) := by
  have told := hasDeadline_of_ok h
  obtain ⟨k, last⟩ := s.exists_last window .zero world
  have hsamples : series.samples = (List.range (k + 1)).filterMap (s.good? window world) := by
    rw [collect_course told last] at h
    rcases hc : (s.clock (s.worldAfter window world (k + 1))).outcome with failure | now
    · simp only [hc] at h
      cases h
    · simp only [hc] at h
      cases h
      exact Series.samples_ofSamples _ _
  rw [hsamples]
  constructor
  · intro sample hs
    obtain ⟨i, _, hi⟩ := List.mem_filterMap.1 hs
    refine ⟨s.worldAfter window world i, ?_⟩
    unfold good? look at hi
    cases ho : (s.sample window (s.worldAfter window world i)).outcome with
    | ok sample' =>
      rw [ho] at hi
      cases hi
      rfl
    | error failure =>
      rw [ho] at hi
      cases hi
  · rcases last.1 with ⟨sample, hs, reached⟩ | late
    · refine Or.inl ⟨(List.range k).filterMap (s.good? window world), sample, ?_, reached⟩
      rw [List.range_succ, List.filterMap_append, List.filterMap_cons_some hs, List.filterMap_nil]
    · have late : window.budget.nanos ≤ 0 + k * s.interval.length.nanos := late
      rw [collect_wait told last]
      omega

end Sampler

end FleetScaling

import FleetScaling.Proofs.Collector.Course
import Mathlib.Algebra.Order.Floor.Div

/-!
# The schedule of samples

How a sampler spends a window, whatever it gets to see. A `Feed` is a world that has prepared what
probe and clock answer for each of infinitely many looks at the cluster, and that keeps a record of
the questions it was asked; answering takes no time. `KeepsSchedule` says which looks the sampler
takes in a window, when it takes them, what it asks for, and that it collects exactly the good samples
among them. That is so exactly if the clock can show the deadline; otherwise the sampler panics before
its first look (`keepsSchedule_iff`).
-/

namespace FleetScaling

open Time

/-! ## Prepared looks -/

/-- What probe and clock answer when the cluster is looked at once. -/
structure Look where
  instances : Except Failure UInt32
  nodes : Except Failure UInt32
  time : Instant

/-- A question to a probe. -/
inductive Query
  | instances
  | nodes
  deriving DecidableEq

namespace Look

/-- The sample that comes of a look; it takes both counts. -/
def sample (l : Look) : Except Failure Sample := do
  let instances ← l.instances
  let nodes ← l.nodes
  pure ⟨instances, nodes, l.time.toEpoch⟩

/-- The questions that a look takes; nodes are counted only after the instances. -/
def queries (l : Look) : List Query :=
  match l.instances with
  | .ok _ => [.instances, .nodes]
  | .error _ => [.instances]

theorem count_queries (l : Look) : l.queries.count .instances = 1 := by
  unfold queries
  cases l.instances <;> rfl

end Look

/-- A world in which looks are prepared and questions are recorded. -/
structure Feed where
  looks : Nat → Look
  asked : List Query

namespace Feed

/-- How many looks have begun; each begins with a question about instances. -/
def begun (f : Feed) : Nat := f.asked.count .instances

/-- The look that has begun last. -/
def current (f : Feed) : Look := f.looks (f.begun - 1)

/-- The world after one more question. -/
def ask (f : Feed) (query : Query) : Feed := { f with asked := f.asked ++ [query] }

/-- A probe that answers as prepared. -/
def probe : Probe Feed where
  instances _ _ := fun f => ⟨(f.looks f.begun).instances, f.ask .instances, []⟩
  nodes := fun f => ⟨f.current.nodes, f.ask .nodes, []⟩

/-- A clock that shows the time of the look that has begun last. -/
def clock : SiteOperation Feed Instant := fun f => ⟨.ok f.current.time, f, []⟩

/-- A sampler that gets to see what was prepared, on a machine that has been up for a time. -/
def sampler (uptime : Duration) (interval : Interval) (degradedAfter : Nat) (reportsHealth : Bool) :
    Sampler Feed :=
  ⟨probe, clock, fun _ => uptime, interval, degradedAfter, reportsHealth⟩

/-- The world after the first looks. -/
def after (looks : Nat → Look) (i : Nat) : Feed :=
  ⟨looks, (List.range i).flatMap fun j => (looks j).queries⟩

variable (looks : Nat → Look) (i : Nat)

theorem after_succ : after looks (i + 1) =
    { after looks i with asked := (after looks i).asked ++ (looks i).queries } := by
  unfold after
  rw [List.range_succ, List.flatMap_append, List.flatMap_singleton]

theorem begun_after : (after looks i).begun = i := by
  induction i with
  | zero => rfl
  | succ i ih =>
    rw [after_succ]
    show ((after looks i).asked ++ (looks i).queries).count .instances = i + 1
    rw [List.count_append, Look.count_queries]
    exact congrArg (· + 1) ih

variable (uptime : Duration) (interval : Interval) (degradedAfter : Nat) (reportsHealth : Bool)
  (window : Window)

/-- What is asked within a look is answered from it. -/
theorem current_after {f : Feed} {queries : List Query} (hl : f.looks = looks)
    (ha : f.asked = (after looks i).asked ++ queries) (hq : queries.count .instances = 1) :
    f.current = looks i := by
  have begun : (after looks i).asked.count .instances = i := begun_after looks i
  unfold current Feed.begun
  rw [hl, ha, List.count_append, begun, hq]
  rfl

/-- A sample is one look. -/
theorem sample_after :
    (sampler uptime interval degradedAfter reportsHealth).sample window (after looks i) =
      ⟨(looks i).sample, after looks (i + 1), []⟩ := by
  -- the question about instances begins the look, so the later ones are answered from the same
  let f := (after looks i).ask .instances
  let g : Feed := ⟨looks, (after looks i).asked ++ [.instances, .nodes]⟩
  have opened : probe.instances window.region window.cluster (after looks i) =
      ⟨(looks i).instances, f, []⟩ := by
    show Trace.mk (looks (after looks i).begun).instances f [] = _
    rw [begun_after]
  have counted : probe.nodes f = ⟨(looks i).nodes, g, []⟩ := by
    have asked : f.ask .nodes = g :=
      congrArg (Feed.mk looks) (List.append_assoc (after looks i).asked [.instances] [.nodes])
    show Trace.mk f.current.nodes (f.ask .nodes) [] = _
    rw [current_after looks i rfl rfl rfl, asked]
  have dated : clock g = ⟨.ok (looks i).time, g, []⟩ := by
    show Trace.mk (.ok g.current.time) g [] = _
    rw [current_after looks i rfl rfl rfl]
  show (probe.instances window.region window.cluster >>= fun instances => probe.nodes >>= fun nodes =>
    clock >>= fun now => (pure ⟨instances, nodes, now.toEpoch⟩ : SiteOperation Feed Sample))
      (after looks i) = _
  rw [after_succ]
  unfold Look.sample Look.queries
  rcases hi : (looks i).instances with failure | instances
  · rw [Operation.bind_of_error (by rw [opened, hi]), opened]
    rfl
  rw [Operation.bind_of_ok (by rw [opened, hi]), opened]
  rcases hn : (looks i).nodes with failure | nodes
  · rw [Operation.bind_of_error (by rw [counted, hn]), counted]
    rfl
  · rw [Operation.bind_of_ok (by rw [counted, hn]), counted, Operation.bind_pure_apply, dated]
    rfl

theorem worldAfter_eq : (sampler uptime interval degradedAfter reportsHealth).worldAfter window
    (after looks 0) i = after looks i := by
  unfold Sampler.worldAfter
  induction i with
  | zero => rfl
  | succ i ih => rw [Function.iterate_succ_apply', ih, sample_after]

/-- Looking takes no time. -/
theorem sample_aside : ((sampler uptime interval degradedAfter reportsHealth).sample window).Notes
    SiteNote.IsAside := by
  refine .bind (.of_nil fun _ => rfl) fun _ => .bind (.of_nil fun _ => rfl) fun _ => ?_
  exact .bind (.of_nil fun _ => rfl) fun _ => .of_nil fun _ => rfl

theorem clock_aside : clock.Notes SiteNote.IsAside := .of_nil fun _ => rfl

theorem current_after_succ : (after looks (i + 1)).current = looks i := by
  unfold current
  rw [begun_after]
  rfl

end Feed

/-! ## The schedule -/

/-- What comes of a window that gets to see some looks keeps its schedule. The last look is the first
one at the target or, if none before is at the target, the one that comes when the budget is used up.
One look is taken at the beginning of each interval, the last of which the end of the budget may cut
short, and no time is spent otherwise; nodes are asked for only in looks that have counted the
instances; and the collected series holds the samples of all looks that have counted both, in order,
and nothing else. -/
def KeepsSchedule (looks : Nat → Look) (interval : Interval) (window : Window)
    (done : Trace SiteNote Feed Series) : Prop :=
  let budget := window.budget.nanos
  let step := interval.length.nanos
  let good (i : Nat) : Option Sample := (looks i).sample.toOption
  ∃ k, IsLeast (insert (budget ⌈/⌉ step) {i | window.Reached (good i)}) k ∧
    timeline 0 done.notes = (List.range (k + 1)).map (fun i => (min (i * step) budget, good i)) ∧
    (totalWait done.notes).nanos = min (k * step) budget ∧
    done.world.asked = (List.range (k + 1)).flatMap (fun i => (looks i).queries) ∧
    done.outcome = .ok (.ofSamples ((List.range (k + 1)).filterMap good) (looks k).time)

section

variable (looks : Nat → Look) (uptime : Duration) (interval : Interval) (degradedAfter : Nat)
  (reportsHealth : Bool) (window : Window)

theorem keepsSchedule_of_showable (told : (uptime + window.budget).Showable) :
    KeepsSchedule looks interval window
      ((Feed.sampler uptime interval degradedAfter reportsHealth).collect window ⟨looks, []⟩) := by
  let budget := window.budget.nanos
  let step := interval.length.nanos
  let good (i : Nat) : Option Sample := (looks i).sample.toOption
  let s := Feed.sampler uptime interval degradedAfter reportsHealth
  have told : s.HasDeadline window (Feed.after looks 0) := told
  have hlook (i : Nat) : s.look window (Feed.after looks 0) i =
      ⟨(looks i).sample, Feed.after looks (i + 1), []⟩ := by
    unfold Sampler.look
    rw [Feed.worldAfter_eq, Feed.sample_after]
  have hgood : s.good? window (Feed.after looks 0) = good := by
    funext i
    unfold Sampler.good?
    rw [hlook]
  obtain ⟨k, last⟩ := s.exists_last window .zero (Feed.after looks 0)
  have hworld := Feed.worldAfter_eq looks (k + 1) uptime interval degradedAfter reportsHealth window
  have course : s.collect window ⟨looks, []⟩ = _ := Sampler.collect_course told last
  have quiet := Feed.sample_aside uptime interval degradedAfter reportsHealth window
  refine ⟨k, ?_, ?_, ?_, ?_, ?_⟩
  · have ends (i : Nat) : i ∈ s.endings window .zero (Feed.after looks 0) ↔
        window.Reached (good i) ∨ budget ⌈/⌉ step ≤ i := by
      rw [ceilDiv_le_iff_le_mul interval.pos, Nat.mul_comm, ← hgood]
      refine or_congr Iff.rfl ?_
      show budget ≤ 0 + i * step ↔ budget ≤ i * step
      rw [Nat.zero_add]
    have latest : budget ⌈/⌉ step ∈ s.endings window .zero (Feed.after looks 0) :=
      (ends _).2 (Or.inr (Nat.le_refl _))
    constructor
    · rcases (ends k).1 last.1 with hit | late
      · exact Or.inr hit
      · exact Or.inl (Nat.le_antisymm (last.2 latest) late)
    · rintro i (rfl | hit)
      · exact last.2 latest
      · exact last.2 ((ends i).2 (Or.inl hit))
  · have taken := Sampler.collect_timeline told quiet Feed.clock_aside last
    rw [hgood] at taken
    exact taken
  · exact Sampler.collect_wait_of_quiet told quiet Feed.clock_aside last
  · show (s.collect window ⟨looks, []⟩).world.asked = _
    rw [course]
    show (s.worldAfter window (Feed.after looks 0) (k + 1)).asked = _
    rw [hworld]
    rfl
  · show (s.collect window ⟨looks, []⟩).outcome = _
    rw [course]
    show Except.ok (Series.ofSamples ((List.range (k + 1)).filterMap
      (s.good? window (Feed.after looks 0)))
        (s.worldAfter window (Feed.after looks 0) (k + 1)).current.time) = _
    rw [hgood, hworld, Feed.current_after_succ]

/-- What comes of a window without a deadline. -/
def panickedTrace : Trace SiteNote Feed Series :=
  ⟨.error (.of (.panicked .deadline)), ⟨looks, []⟩,
    [.logged (Sampler.openedEntry window), .panicked .deadline]⟩

theorem collect_of_not_showable (late : ¬(uptime + window.budget).Showable) :
    (Feed.sampler uptime interval degradedAfter reportsHealth).collect window ⟨looks, []⟩ =
      panickedTrace looks window :=
  Sampler.collect_of_no_deadline late

/-- It does not keep its schedule, for want of the series. -/
theorem not_keepsSchedule_panicked :
    ¬KeepsSchedule looks interval window (panickedTrace looks window) := by
  rintro ⟨_, _, _, _, _, collected⟩
  cases collected

end

/-- **Schedule of a window.** A window keeps its schedule, whatever there is to see in it, exactly if
the clock of the machine can show its deadline. Otherwise the sampler panics, without a single look. -/
theorem keepsSchedule_iff (looks : Nat → Look) (uptime : Duration) (interval : Interval)
    (degradedAfter : Nat) (reportsHealth : Bool) (window : Window) :
    let done := (Feed.sampler uptime interval degradedAfter reportsHealth).collect window ⟨looks, []⟩
    (KeepsSchedule looks interval window done ↔ (uptime + window.budget).Showable) ∧
      (KeepsSchedule looks interval window done ∨ done = panickedTrace looks window) := by
  intro done
  by_cases told : (uptime + window.budget).Showable
  · have kept : KeepsSchedule looks interval window done :=
      keepsSchedule_of_showable looks uptime interval degradedAfter reportsHealth window told
    exact ⟨iff_of_true kept told, Or.inl kept⟩
  · have panics : done = panickedTrace looks window :=
      collect_of_not_showable looks uptime interval degradedAfter reportsHealth window told
    refine ⟨iff_of_false ?_ told, Or.inr panics⟩
    rw [panics]
    exact not_keepsSchedule_panicked looks interval window

/-- A window of 153722867280912931 minutes has no deadline, and the sampler fails although the cluster
is at the target when the window begins. -/
theorem not_keepsSchedule_endless :
    let window : Window := ⟨.ofSeconds (153722867280912931 * 60), "us-east-1", "bench", false, 2⟩
    let grown : Look := ⟨.ok 2, .ok 2, .epoch⟩
    let done := (Feed.sampler .zero Sampler.usualInterval Sampler.usualPatience true).collect window
      ⟨fun _ => grown, []⟩
    window.Reached grown.sample.toOption ∧ done.outcome.toOption = none ∧ done.world.asked = [] ∧
      ¬KeepsSchedule (fun _ => grown) Sampler.usualInterval window done := by
  intro window grown done
  have panics : done = panickedTrace (fun _ => grown) window :=
    collect_of_not_showable _ _ _ _ _ window (mt showable_of_add (by decide))
  rw [panics]
  exact ⟨⟨_, rfl, rfl, rfl⟩, rfl, rfl, not_keepsSchedule_panicked _ _ _⟩

end FleetScaling

import FleetScaling.Proofs.Collector.Sampling

/-!
# What a sampler says about its health

Of all the notes of a monitoring window two kinds bear on the health of the collector: judgements
of it, and samples that were dealt with. `marks` keeps these. A sampler that reports its health,
and whose probe and clock say nothing of the kind, leaves in a window the marks that `windowMarks`
lists (`Sampler.marks_collect`): it counts the failed samples from the beginning of the window,
judges the collector degraded when the count comes to the limit, and healthy at a good sample that
finds the count there or beyond.
-/

namespace FleetScaling

open Time

variable {ω : Type}

/-! ## Marks -/

/-- A note that bears on the health of the collector. -/
inductive Mark
  | judged (health : Health) (detail : Option String)
  | sampled (good : Bool)
  deriving DecidableEq

/-- The mark that a note is, if it is one. -/
def SiteNote.mark? : SiteNote → Option Mark
  | judged .collector health detail => some (.judged health detail)
  | sampled sample => some (.sampled sample.isSome)
  | _ => none

/-- The marks among some notes. -/
def marks (notes : List SiteNote) : List Mark := notes.filterMap SiteNote.mark?

@[simp] theorem marks_append (a b : List SiteNote) : marks (a ++ b) = marks a ++ marks b := by
  unfold marks
  rw [List.filterMap_append]

theorem marks_flatten (windows : List (List SiteNote)) :
    marks windows.flatten = (windows.map marks).flatten := by
  unfold marks
  rw [List.filterMap_flatten]

/-- Whether the sample was good, if the mark is one of a sample. -/
def Mark.good? : Mark → Option Bool
  | judged _ _ => none
  | sampled good => some good

/-- Which of the samples among some notes were good. -/
def sampleOutcomes (notes : List SiteNote) : List Bool := (marks notes).filterMap Mark.good?

theorem sampleOutcomes_append (a b : List SiteNote) :
    sampleOutcomes (a ++ b) = sampleOutcomes a ++ sampleOutcomes b := by
  unfold sampleOutcomes
  rw [marks_append, List.filterMap_append]

/-- The marks of an operation that leaves none. -/
theorem marks_of_unmarked {x : SiteOperation ω α} (h : x.Notes fun n => n.mark? = none) (world : ω) :
    marks (x world).notes = [] := by
  unfold marks
  rw [List.filterMap_eq_nil_iff]
  exact h world

/-- What is judged when a sample ends, or does not end, a run of `streak` failed ones: nothing is
said about a good sample, and about a failed one what would degrade the collector. -/
def verdictMarks (limit streak : Nat) : Option String → List Mark
  | none => if limit ≤ streak then [.judged .healthy none] else []
  | some detail => if streak + 1 = limit then [.judged .degraded (some detail)] else []

/-- How many samples have failed in a row after one more sample. -/
def streakAfter (streak : Nat) : Option String → Nat
  | none => 0
  | some _ => streak + 1

/-- The marks of samples that follow `streak` failed ones in the same window. -/
def windowMarks (limit : Nat) : Nat → List (Option String) → List Mark
  | _, [] => []
  | streak, o :: os =>
    verdictMarks limit streak o ++ .sampled o.isNone :: windowMarks limit (streakAfter streak o) os

theorem outcomes_windowMarks (limit streak : Nat) (os : List (Option String)) :
    (windowMarks limit streak os).filterMap Mark.good? = os.map Option.isNone := by
  induction os generalizing streak with
  | nil => rfl
  | cons o os ih =>
    unfold windowMarks
    rw [List.filterMap_append, List.filterMap_cons_some (show Mark.good? _ = some _ from rfl), ih]
    cases o <;> simp only [verdictMarks] <;> split <;> rfl

/-! ## Marks of a window -/

namespace Sampler

/-- Neither the probe nor the clock judges the collector or speaks of its samples. -/
structure Undisturbed (s : Sampler ω) : Prop where
  instances : ∀ region cluster, (s.probe.instances region cluster).Notes fun n => n.mark? = none
  nodes : s.probe.nodes.Notes fun n => n.mark? = none
  clock : s.clock.Notes fun n => n.mark? = none

variable {s : Sampler ω} {window : Window} {p : Progress} {world : ω}

theorem sample_unmarked (h : s.Undisturbed) (window : Window) :
    (s.sample window).Notes fun n => n.mark? = none := by
  unfold sample
  refine (h.instances _ _).bind fun _ => h.nodes.bind fun _ => h.clock.bind fun _ => ?_
  exact .of_nil fun _ => rfl

theorem marks_keepNotes (hr : s.reportsHealth = true) (window : Window) (streak : Nat)
    (sample : Sample) : marks (s.keepNotes window streak sample) =
      verdictMarks s.degradedAfter streak none ++ [.sampled true] := by
  unfold keepNotes
  simp only [verdictMarks, hr, and_true]
  split <;> split <;> rfl

theorem marks_missNotes (hr : s.reportsHealth = true) (window : Window) (streak : Nat)
    (failure : Failure) : marks (s.missNotes window streak failure) =
      verdictMarks s.degradedAfter streak (some (degradedDetail streak failure)) ++
        [.sampled false] := by
  unfold missNotes
  simp only [verdictMarks, hr, and_true]
  split <;> rfl

/-- The marks that come with one sample. -/
theorem marks_step (h : s.Undisturbed) (hr : s.reportsHealth = true) (window : Window)
    (p : Progress) (world : ω) :
    ∃ (o : Option String) (next : Progress) (reached : Bool),
      (s.step window p world).outcome = .ok (next, reached) ∧
        next.streak = streakAfter p.streak o ∧
        marks (s.step window p world).notes =
          verdictMarks s.degradedAfter p.streak o ++ [.sampled o.isNone] := by
  have hq := marks_of_unmarked (sample_unmarked h window) world
  rcases hs : (s.sample window world).outcome with failure | sample
  · refine ⟨some (degradedDetail p.streak failure), _, _, by rw [step_of_error hs], rfl, ?_⟩
    rw [step_of_error hs, marks_append, hq, marks_missNotes hr]
    rfl
  · refine ⟨none, _, _, by rw [step_of_ok hs], rfl, ?_⟩
    rw [step_of_ok hs, marks_append, hq, marks_keepNotes hr]
    rfl

/-- The marks of the rest of a window. -/
theorem marks_sampleFrom (h : s.Undisturbed) (hr : s.reportsHealth = true) (window : Window)
    (p : Progress) (elapsed : Duration) (world : ω) :
    ∃ os : List (Option String), marks (s.sampleFrom window p elapsed world).notes =
      windowMarks s.degradedAfter p.streak os := by
  -- on the time that is left
  induction hn : window.budget.nanos - elapsed.nanos using Nat.strongRecOn
    generalizing p elapsed world with
  | _ n ih =>
    obtain ⟨o, next, reached, hs, hk, hm⟩ := marks_step h hr window p world
    have last : ∀ entry, marks ((s.step window p world).notes ++ [.logged entry]) =
        windowMarks s.degradedAfter p.streak [o] := by
      intro entry
      rw [marks_append, hm]
      simp only [windowMarks, marks, List.filterMap_cons, SiteNote.mark?, List.filterMap_nil,
        List.append_nil]
    cases reached with
    | true => exact ⟨[o], by rw [sampleFrom_of_reached hs]; exact last _⟩
    | false =>
      by_cases hb : window.budget ≤ elapsed
      · exact ⟨[o], by rw [sampleFrom_of_closed hs hb]; exact last _⟩
      · obtain ⟨os, ho⟩ := ih _ (hn ▸ remaining_lt hb) next _ (s.step window p world).world rfl
        refine ⟨o :: os, ?_⟩
        rw [sampleFrom_of_open hs hb, marks_append, hm]
        show _ ++ marks (s.sampleFrom _ _ _ _).notes = _
        rw [ho, hk, windowMarks, List.append_assoc, List.singleton_append]

/-- **Marks of a window.** They are those of some samples, counted from the beginning. -/
theorem marks_collect (h : s.Undisturbed) (hr : s.reportsHealth = true) (window : Window)
    (world : ω) :
    ∃ os : List (Option String),
      marks (s.collect window world).notes = windowMarks s.degradedAfter 0 os := by
  by_cases told : s.HasDeadline window world
  · obtain ⟨os, ho⟩ := marks_sampleFrom h hr window ⟨[], 0, 0⟩ .zero world
    refine ⟨os, ?_⟩
    rw [collect_of_deadline told]
    show marks (s.sampleThrough window world).notes = _
    unfold sampleThrough
    rcases hs : (s.sampleFrom window ⟨[], 0, 0⟩ .zero world).outcome with failure | samples
    · rw [Operation.bind_of_error hs]
      exact ho
    · rw [Operation.bind_of_ok hs, marks_append, ho]
      refine (congrArg (_ ++ ·) ?_).trans (List.append_nil _)
      refine marks_of_unmarked (h.clock.bind fun _ => ?_) _
      exact .of_nil fun _ => rfl
  · exact ⟨[], by rw [collect_of_no_deadline told]; rfl⟩

end Sampler

end FleetScaling

import FleetScaling.Proofs.Collector.Marks
import FleetScaling.Rehearsal.Script

/-!
# The health of the collector across windows

A sampler counts failed samples from the beginning of a window, while what it says about its
health stays in the registry after the window. So the registry follows the samples within a window,
but not always across two: `followsSamples_iff` says that it does exactly if every window is
seamless (`Seamless`), which means that the samples which had failed in a row when the window began,
together with those that fail at its beginning, are too few to matter, or that there were enough
of them before the window and, unless the window ends among them, again within it.
-/

namespace FleetScaling

open Time

variable {ω : Type}

/-! ## What the registry says -/

namespace HealthRegistry

/-- The registry after a note. -/
def hear (r : HealthRegistry) (now : Instant) : SiteNote → HealthRegistry
  | .judged component health detail => r.mark now component health detail
  | _ => r

/-- The registry after some notes, of which the `i`-th was made at `moments i`. -/
def hearAll (moments : Nat → Instant) : HealthRegistry → List SiteNote → HealthRegistry
  | r, [] => r
  | r, n :: ns => hearAll (fun i => moments (i + 1)) (r.hear (moments 0) n) ns

/-- What is said about the collector. -/
def collectorView (r : HealthRegistry) : Health × Option String :=
  ((r.judgement .collector).health, (r.judgement .collector).detail)

/-- The view after one more mark. -/
def viewAfter (view : Health × Option String) : Option Mark → Health × Option String
  | some (.judged health detail) => (health, detail)
  | _ => view

theorem collectorView_hear (r : HealthRegistry) (now : Instant) (n : SiteNote) :
    (r.hear now n).collectorView = viewAfter r.collectorView n.mark? := by
  cases n with
  | judged component health detail => cases component <;> rfl
  | _ => rfl

end HealthRegistry

/-! ## Following the samples -/

/-- How many samples have failed in a row at the end, when `failed` had before them. -/
def failedRun (failed : Nat) (outcomes : List Bool) : Nat :=
  outcomes.foldl (fun failed good => if good then 0 else failed + 1) failed

/-- What is to be said right after a sample, when by then `failed` samples have failed in a row: a
good sample makes the collector healthy, without detail, and it is degraded exactly if `limit`
samples or more have failed. -/
def RightlyJudged (limit : Nat) (view : Health × Option String) (good : Bool) (failed : Nat) : Prop :=
  (good = true → view = (.healthy, none)) ∧ (view.1 = .degraded ↔ limit ≤ failed)

/-- The collector is rightly judged right after every sample among the notes. The notes come after
`failed` failed samples, and the registry is `r` before them. -/
def FollowsSamples (limit failed : Nat) (moments : Nat → Instant) (r : HealthRegistry)
    (notes : List SiteNote) : Prop :=
  ∀ before sample after, notes = before ++ .sampled sample :: after →
    RightlyJudged limit (r.hearAll moments (before ++ [.sampled sample])).collectorView
      sample.isSome (failedRun failed (sampleOutcomes (before ++ [.sampled sample])))

instance (limit : Nat) (view : Health × Option String) (good : Bool) (failed : Nat) :
    Decidable (RightlyJudged limit view good failed) := by unfold RightlyJudged; infer_instance

/-- The same of the marks alone, which are made when `view` is said about the collector. -/
def Agrees (limit : Nat) : Nat → Health × Option String → List Mark → Prop
  | _, _, [] => True
  | failed, _, .judged health detail :: ms => Agrees limit failed (health, detail) ms
  | failed, view, .sampled good :: ms =>
    RightlyJudged limit view good (failedRun failed [good]) ∧
      Agrees limit (failedRun failed [good]) view ms

/-- Decides by going through the marks. -/
def decideAgrees (limit : Nat) : (failed : Nat) → (view : Health × Option String) →
    (ms : List Mark) → Decidable (Agrees limit failed view ms)
  | _, _, [] => .isTrue trivial
  | failed, _, .judged health detail :: ms => decideAgrees limit failed (health, detail) ms
  | failed, view, .sampled good :: ms =>
    have := decideAgrees limit (failedRun failed [good]) view ms
    inferInstanceAs (Decidable (_ ∧ _))

instance (limit failed : Nat) (view : Health × Option String) (ms : List Mark) :
    Decidable (Agrees limit failed view ms) := decideAgrees limit failed view ms

theorem forall_split_cons {n : SiteNote} {ns : List SiteNote}
    {C : List SiteNote → Option Sample → Prop} :
    (∀ before sample after, n :: ns = before ++ .sampled sample :: after → C before sample) ↔
      (∀ sample, n = .sampled sample → C [] sample) ∧
        ∀ before sample after, ns = before ++ .sampled sample :: after → C (n :: before) sample := by
  constructor
  · intro h
    exact ⟨fun sample hn => h [] sample ns (by rw [hn]; rfl),
      fun before sample after hs => h (n :: before) sample after (by rw [hs]; rfl)⟩
  · rintro ⟨hn, hs⟩ before sample after h
    rcases List.cons_eq_append_iff.1 h with ⟨rfl, h'⟩ | ⟨before', rfl, h'⟩
    · exact hn sample (List.cons.inj h').1.symm
    · exact hs before' sample after h'

theorem failedRun_sampleOutcomes_cons (failed : Nat) (n : SiteNote) (ns : List SiteNote) :
    failedRun failed (sampleOutcomes (n :: ns)) =
      failedRun (failedRun failed (sampleOutcomes [n])) (sampleOutcomes ns) := by
  unfold failedRun
  rw [← List.foldl_append, ← sampleOutcomes_append]
  rfl

/-- Whether a registry follows the samples can be read off the marks. -/
theorem followsSamples_iff_agrees (limit failed : Nat) (moments : Nat → Instant)
    (r : HealthRegistry) (notes : List SiteNote) :
    FollowsSamples limit failed moments r notes ↔
      Agrees limit failed r.collectorView (marks notes) := by
  induction notes generalizing failed moments r with
  | nil =>
    refine ⟨fun _ => trivial, fun _ before sample after h => ?_⟩
    exact absurd h.symm (List.append_ne_nil_of_right_ne_nil _ (List.cons_ne_nil _ _))
  | cons n ns ih =>
    have tail := ih (failedRun failed (sampleOutcomes [n])) (fun i => moments (i + 1))
      (r.hear (moments 0) n)
    rw [HealthRegistry.collectorView_hear] at tail
    have split : FollowsSamples limit failed moments r (n :: ns) ↔
        (∀ sample, n = .sampled sample →
          RightlyJudged limit r.collectorView sample.isSome (failedRun failed [sample.isSome])) ∧
        FollowsSamples limit (failedRun failed (sampleOutcomes [n])) (fun i => moments (i + 1))
          (r.hear (moments 0) n) ns := by
      unfold FollowsSamples
      rw [forall_split_cons]
      refine and_congr Iff.rfl (forall_congr' fun before => forall_congr' fun sample =>
        forall_congr' fun after => imp_congr_right fun _ => ?_)
      rw [List.cons_append, failedRun_sampleOutcomes_cons]
      rfl
    rw [split, tail]
    cases n with
    | judged component health detail =>
      cases component <;>
        exact ⟨fun h => h.2, fun h => ⟨fun _ hn => SiteNote.noConfusion hn, h⟩⟩
    | sampled sample =>
      refine and_congr_left' ⟨fun h => h sample rfl, fun h sample' hs => ?_⟩
      rw [← (SiteNote.sampled.inj hs)]
      exact h
    | _ => exact ⟨fun h => h.2, fun h => ⟨fun _ hn => SiteNote.noConfusion hn, h⟩⟩

/-! ## One window -/

/-- What is said about the collector after one sample that follows `streak` failed ones. -/
def viewAfterSample (limit streak : Nat) (view : Health × Option String) :
    Option String → Health × Option String
  | none => if limit ≤ streak then (.healthy, none) else view
  | some detail => if streak + 1 = limit then (.degraded, some detail) else view

/-- What is said about the collector after some samples of one window. -/
def viewAfterWindow (limit : Nat) :
    Nat → Health × Option String → List (Option String) → Health × Option String
  | _, view, [] => view
  | streak, view, o :: os =>
    viewAfterWindow limit (streakAfter streak o) (viewAfterSample limit streak view o) os

/-- A collector that is not degraded is healthy, without detail. -/
def Settled (view : Health × Option String) : Prop := view.1 = .degraded ∨ view = (.healthy, none)

theorem Settled.afterSample {view : Health × Option String} (h : Settled view)
    (limit streak : Nat) (o : Option String) : Settled (viewAfterSample limit streak view o) := by
  cases o <;> simp only [viewAfterSample] <;> split
  · exact .inr rfl
  · exact h
  · exact .inl rfl
  · exact h

theorem Settled.afterWindow {view : Health × Option String} (h : Settled view) (limit streak : Nat)
    (os : List (Option String)) : Settled (viewAfterWindow limit streak view os) := by
  induction os generalizing streak view with
  | nil => exact h
  | cons o os ih => exact ih (h.afterSample limit streak o) _

theorem agrees_sample (limit failed streak : Nat) (view : Health × Option String)
    (o : Option String) (ms : List Mark) :
    Agrees limit failed view (verdictMarks limit streak o ++ .sampled o.isNone :: ms) ↔
      RightlyJudged limit (viewAfterSample limit streak view o) o.isNone
          (failedRun failed [o.isNone]) ∧
        Agrees limit (failedRun failed [o.isNone]) (viewAfterSample limit streak view o) ms := by
  cases o <;> simp only [verdictMarks, viewAfterSample] <;> split <;> rfl

theorem agrees_windowMarks_append (limit failed streak : Nat) (view : Health × Option String)
    (os : List (Option String)) (ms : List Mark) :
    Agrees limit failed view (windowMarks limit streak os ++ ms) ↔
      Agrees limit failed view (windowMarks limit streak os) ∧
        Agrees limit (failedRun failed (os.map Option.isNone))
          (viewAfterWindow limit streak view os) ms := by
  induction os generalizing failed streak view with
  | nil => exact ⟨fun h => ⟨trivial, h⟩, And.right⟩
  | cons o os ih =>
    unfold windowMarks
    rw [List.append_assoc, List.cons_append, agrees_sample, agrees_sample, ih, and_assoc]
    rfl

/-- If the collector is rightly judged all through a window, then so it is at its end. -/
theorem degraded_afterWindow {limit failed streak : Nat} {view : Health × Option String}
    {os : List (Option String)} (hv : view.1 = .degraded ↔ limit ≤ failed)
    (h : Agrees limit failed view (windowMarks limit streak os)) :
    (viewAfterWindow limit streak view os).1 = .degraded ↔
      limit ≤ failedRun failed (os.map Option.isNone) := by
  induction os generalizing failed streak view with
  | nil => exact hv
  | cons o os ih =>
    unfold windowMarks at h
    rw [agrees_sample] at h
    exact ih h.1.2 h.2

/-- How many samples failed before the first good one. -/
def leadingFailures (window : List Bool) : Nat := (window.takeWhile (!·)).length

theorem leadingFailures_false (window : List Bool) :
    leadingFailures (false :: window) = leadingFailures window + 1 := rfl

theorem leadingFailures_true (window : List Bool) : leadingFailures (true :: window) = 0 := rfl

section Window

variable {limit streak : Nat} {view : Health × Option String}

theorem rightlyJudged_good (hl : 0 < limit) :
    RightlyJudged limit view true (failedRun failed [true]) ↔ view = (.healthy, none) := by
  unfold RightlyJudged
  refine ⟨fun h => h.1 rfl, fun h => ⟨fun _ => h, ?_⟩⟩
  rw [h]
  show Health.healthy = Health.degraded ↔ limit ≤ 0
  exact iff_of_false (by decide) (by omega)

theorem rightlyJudged_missed :
    RightlyJudged limit view false (failedRun failed [false]) ↔
      (view.1 = .degraded ↔ limit ≤ failed + 1) := by
  unfold RightlyJudged
  exact ⟨And.right, fun h => ⟨fun hb => (nomatch hb), h⟩⟩

theorem degraded_afterMiss {detail : String} :
    (viewAfterSample limit streak view (some detail)).1 = .degraded ↔
      view.1 = .degraded ∨ streak + 1 = limit := by
  simp only [viewAfterSample]
  split
  · rename_i h
    exact ⟨fun _ => .inr h, fun _ => rfl⟩
  · rename_i h
    exact ⟨.inl, fun h' => h'.resolve_right h⟩

theorem healthy_afterGood (hs : Settled view) :
    viewAfterSample limit streak view none = (.healthy, none) ↔
      (view.1 = .degraded → limit ≤ streak) := by
  simp only [viewAfterSample]
  split
  · rename_i h
    exact ⟨fun _ _ => h, fun _ => rfl⟩
  · rename_i h
    refine ⟨fun hv hd => ?_, fun h' => hs.resolve_left fun hd => h (h' hd)⟩
    rw [hv] at hd
    cases hd

/-- In a window that no failed sample came before, the collector is rightly judged throughout. -/
theorem agrees_fresh (hl : 0 < limit) (hs : Settled view) (hv : view.1 = .degraded ↔ limit ≤ streak)
    (os : List (Option String)) : Agrees limit streak view (windowMarks limit streak os) := by
  induction os generalizing streak view with
  | nil => trivial
  | cons o os ih =>
    unfold windowMarks
    rw [agrees_sample]
    cases o with
    | none =>
      have healthy := (healthy_afterGood hs).2 hv.1
      refine ⟨(rightlyJudged_good hl).2 healthy, ?_⟩
      rw [healthy]
      exact ih (.inr rfl) (iff_of_false (by decide) (Nat.not_le.2 hl))
    | some detail =>
      have degraded : (viewAfterSample limit streak view (some detail)).1 = .degraded ↔
          limit ≤ streak + 1 := by rw [degraded_afterMiss, hv]; omega
      exact ⟨rightlyJudged_missed.2 degraded, ih (hs.afterSample _ _ _) degraded⟩

/-- `carry` samples had failed in a row when the window began. Then its first failures are too few
to reach the limit, or the limit had been reached and is reached again before a good sample. -/
def SeamlessAfter (limit carry : Nat) (window : List Bool) : Prop :=
  carry = 0 ∨ carry + leadingFailures window < limit ∨
    (limit ≤ carry ∧ (leadingFailures window < window.length → limit ≤ leadingFailures window))

instance (limit carry : Nat) (window : List Bool) : Decidable (SeamlessAfter limit carry window) := by
  unfold SeamlessAfter
  infer_instance

/-- When the collector is rightly judged in the rest of a window. All samples of the window so far,
`streak` in number, have failed, and `carry` before it. -/
theorem agrees_leading {carry : Nat} (hl : 0 < limit) (hs : Settled view)
    (hv : view.1 = .degraded ↔ limit ≤ carry ∨ limit ≤ streak)
    (hc : carry = 0 ∨ limit ≤ carry ∨ carry + streak < limit) (os : List (Option String)) :
    Agrees limit (carry + streak) view (windowMarks limit streak os) ↔
      carry = 0 ∨ carry + streak + leadingFailures (os.map Option.isNone) < limit ∨
        (limit ≤ carry ∧ (leadingFailures (os.map Option.isNone) < os.length →
          limit ≤ streak + leadingFailures (os.map Option.isNone))) := by
  induction os generalizing streak view with
  | nil =>
    refine ⟨fun _ => ?_, fun _ => trivial⟩
    rcases hc with hc | hc | hc
    · exact .inl hc
    · exact .inr (.inr ⟨hc, fun h => absurd h (Nat.lt_irrefl 0)⟩)
    · exact .inr (.inl hc)
  | cons o os ih =>
    unfold windowMarks
    rw [agrees_sample]
    cases o with
    | none =>
      -- the good sample must find the collector healthy, and after it the count starts afresh
      have rest : viewAfterSample limit streak view none = (.healthy, none) →
          Agrees limit (failedRun (carry + streak) [true]) (viewAfterSample limit streak view none)
            (windowMarks limit (streakAfter streak none) os) := by
        intro healthy
        rw [healthy]
        exact agrees_fresh hl (.inr rfl) (iff_of_false (by decide) (Nat.not_le.2 hl)) os
      refine (and_iff_left_of_imp fun h => rest ((rightlyJudged_good hl).1 h)).trans ?_
      refine (rightlyJudged_good hl).trans ((healthy_afterGood hs).trans ?_)
      rw [hv, List.map_cons, Option.isNone_none, leadingFailures_true, List.length_cons]
      omega
    | some detail =>
      have degraded : (viewAfterSample limit streak view (some detail)).1 = .degraded ↔
          limit ≤ carry ∨ limit ≤ streak + 1 := by rw [degraded_afterMiss, hv]; omega
      rw [List.map_cons, Option.isNone_some, leadingFailures_false, List.length_cons]
      refine (and_congr_left' (rightlyJudged_missed.trans (by rw [degraded]))).trans ?_
      by_cases hn : carry = 0 ∨ limit ≤ carry ∨ carry + (streak + 1) < limit
      · have tail := ih (hs.afterSample limit streak (some detail)) degraded hn
        refine (and_iff_right (by omega)).trans (tail.trans ?_)
        omega
      · -- the limit is reached by failures of which too few lie within one window
        exact iff_of_false (fun h => absurd h.1 (by omega)) (by omega)

/-- **One window.** The collector is rightly judged throughout exactly if the window is seamless. -/
theorem agrees_window_iff {carry : Nat} (hl : 0 < limit) (hs : Settled view)
    (hv : view.1 = .degraded ↔ limit ≤ carry) (os : List (Option String)) :
    Agrees limit carry view (windowMarks limit 0 os) ↔
      SeamlessAfter limit carry (os.map Option.isNone) := by
  have start : limit ≤ carry ↔ limit ≤ carry ∨ limit ≤ 0 := by omega
  have h := agrees_leading hl hs (hv.trans start) (by omega) os
  unfold SeamlessAfter
  rw [List.length_map]
  simpa only [Nat.add_zero, Nat.zero_add] using h

end Window

/-! ## Many windows -/

/-- Every window is seamless; `carry` samples had failed in a row before the first. -/
def Seamless (limit : Nat) : Nat → List (List Bool) → Prop
  | _, [] => True
  | carry, window :: rest =>
    SeamlessAfter limit carry window ∧ Seamless limit (failedRun carry window) rest

/-- Decides by going through the windows. -/
def decideSeamless (limit : Nat) : (carry : Nat) → (windows : List (List Bool)) →
    Decidable (Seamless limit carry windows)
  | _, [] => .isTrue trivial
  | carry, window :: rest =>
    have := decideSeamless limit (failedRun carry window) rest
    inferInstanceAs (Decidable (_ ∧ _))

instance (limit carry : Nat) (windows : List (List Bool)) :
    Decidable (Seamless limit carry windows) := decideSeamless limit carry windows

/-- The collector is rightly judged in all windows exactly if all are seamless. -/
theorem agrees_windows_iff {limit carry : Nat} {view : Health × Option String} (hl : 0 < limit)
    (hs : Settled view) (hv : view.1 = .degraded ↔ limit ≤ carry)
    (windows : List (List (Option String))) :
    Agrees limit carry view (windows.map (windowMarks limit 0)).flatten ↔
      Seamless limit carry (windows.map fun os => os.map Option.isNone) := by
  induction windows generalizing carry view with
  | nil => rfl
  | cons os rest ih =>
    rw [List.map_cons, List.flatten_cons, agrees_windowMarks_append, List.map_cons, Seamless,
      ← agrees_window_iff hl hs hv]
    exact and_congr_right fun h => ih (hs.afterWindow _ _ _) (degraded_afterWindow hv h)

namespace Sampler

/-- The notes of windows that are sampled one after another, window by window. -/
def windowNotes (s : Sampler ω) : List Window → ω → List (List SiteNote)
  | [], _ => []
  | window :: rest, world =>
    (s.collect window world).notes :: s.windowNotes rest (s.collect window world).world

theorem marks_windowNotes {s : Sampler ω} (h : s.Undisturbed) (hr : s.reportsHealth = true)
    (windows : List Window) (world : ω) :
    ∃ oss : List (List (Option String)), (s.windowNotes windows world).map marks =
      oss.map (windowMarks s.degradedAfter 0) := by
  induction windows generalizing world with
  | nil => exact ⟨[], rfl⟩
  | cons window rest ih =>
    obtain ⟨os, ho⟩ := marks_collect h hr window world
    obtain ⟨oss, hos⟩ := ih (s.collect window world).world
    refine ⟨os :: oss, ?_⟩
    show marks (s.collect window world).notes :: (s.windowNotes rest _).map marks = _
    rw [ho, hos]
    rfl

theorem outcomes_windowNotes {s : Sampler ω} {windows : List Window} {world : ω}
    {oss : List (List (Option String))}
    (h : (s.windowNotes windows world).map marks = oss.map (windowMarks s.degradedAfter 0)) :
    (s.windowNotes windows world).map sampleOutcomes =
      oss.map fun os => os.map Option.isNone := by
  show (s.windowNotes windows world).map ((List.filterMap Mark.good?) ∘ marks) = _
  rw [← List.map_map, h, List.map_map]
  exact List.map_congr_left fun os _ => outcomes_windowMarks _ _ os

end Sampler

/-- **Health across windows.** A collector with the usual patience, which alone judges itself, is
rightly judged right after every sample of its windows exactly if every window is seamless. -/
theorem followsSamples_iff_seamless {probe : Probe ω} {clock : SiteOperation ω Instant}
    {uptime : ω → Duration} {interval : Interval} {s : Sampler ω}
    (built : Sampler.build? (some probe) clock uptime interval true = .ok s) (alone : s.Undisturbed)
    (windows : List Window) (world : ω) (start : Instant) (moments : Nat → Instant) :
    FollowsSamples Sampler.usualPatience 0 moments (.initial start)
        (s.windowNotes windows world).flatten ↔
      Seamless Sampler.usualPatience 0 ((s.windowNotes windows world).map sampleOutcomes) := by
  have hs : s = ⟨probe, clock, uptime, interval, Sampler.usualPatience, true⟩ :=
    (Except.ok.inj built).symm
  have hd : s.degradedAfter = Sampler.usualPatience := by rw [hs]
  obtain ⟨oss, hm⟩ := Sampler.marks_windowNotes alone (by rw [hs]) windows world
  rw [followsSamples_iff_agrees, marks_flatten, Sampler.outcomes_windowNotes hm, hm, hd]
  exact agrees_windows_iff (by decide) (.inr rfl) (iff_of_false (by decide) (by decide)) oss

/-! ## Two windows in rehearsal -/

/-- A machine that has just been started. -/
def justStarted (_ : Rehearsal.Script) : Duration := .zero

/-- A sampler of a scripted cluster. -/
def rehearsedSampler : Sampler Rehearsal.Script :=
  ⟨Rehearsal.probe, Rehearsal.clock, justStarted, Sampler.usualInterval, Sampler.usualPatience, true⟩

theorem rehearsedSampler_undisturbed : rehearsedSampler.Undisturbed where
  instances region cluster := by
    refine .bind (.note rfl) fun _ => .bind (.of_nil fun _ => rfl) fun answer => ?_
    cases answer <;> exact .of_nil fun _ => rfl
  nodes := by
    refine .bind (.of_nil fun _ => rfl) fun script => ?_
    split <;> exact .of_nil fun _ => rfl
  clock := .of_nil fun _ => rfl

/-- A script in which some samples fail before the counts are five and five. -/
def failingScript (failures : Nat) : Rehearsal.Script :=
  { Rehearsal.Script.empty with
    probe := List.replicate failures (.noInstances "throttled") ++ [.counts 5 5] }

/-- A window that waits for five nodes. -/
def windowOf (seconds : Nat) : Window := ⟨.ofSeconds seconds, "us-east-1", "bench", false, 5⟩

theorem build_rehearsedSampler : Sampler.build? (some Rehearsal.probe) Rehearsal.clock justStarted
    Sampler.usualInterval true = .ok rehearsedSampler := rfl

/-- Three failures fill the first window, and three more come before the good sample. -/
theorem followsSamples_two_windows :
    Sampler.build? (some Rehearsal.probe) Rehearsal.clock justStarted Sampler.usualInterval true =
        .ok rehearsedSampler ∧
      rehearsedSampler.Undisturbed ∧
      FollowsSamples Sampler.usualPatience 0 (fun _ => .epoch) (.initial .epoch)
        (rehearsedSampler.windowNotes [windowOf 40, windowOf 60] (failingScript 6)).flatten :=
  ⟨build_rehearsedSampler, rehearsedSampler_undisturbed,
    (followsSamples_iff_seamless build_rehearsedSampler rehearsedSampler_undisturbed
      [windowOf 40, windowOf 60] (failingScript 6) .epoch fun _ => .epoch).2 (by decide +kernel)⟩

/-- Three failures fill the first window, and the second begins with a good sample, which leaves
the collector degraded. -/
theorem not_followsSamples_cut_run :
    Sampler.build? (some Rehearsal.probe) Rehearsal.clock justStarted Sampler.usualInterval true =
        .ok rehearsedSampler ∧
      rehearsedSampler.Undisturbed ∧
      ¬FollowsSamples Sampler.usualPatience 0 (fun _ => .epoch) (.initial .epoch)
        (rehearsedSampler.windowNotes [windowOf 40, windowOf 40] (failingScript 3)).flatten := by
  refine ⟨build_rehearsedSampler, rehearsedSampler_undisturbed, ?_⟩
  rw [followsSamples_iff_agrees]
  decide +kernel

end FleetScaling

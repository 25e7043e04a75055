import FleetScaling.Proofs.Run.Publishing
import FleetScaling.Proofs.Run.Timings
import FleetScaling.Proofs.Run.Windows

/-!
# Metrics of a run

A run changes the metrics in its windows, in its cycles and between these. What they show in the end is
put together here from what happened: `stressTest_metrics` reads the failed samples and the gauges
off the samples that were taken, the histograms off the cycles that were timed, and the number of
soft failures off the progress of the run.
-/

namespace FleetScaling

open Time

variable {ω : Type}

/-! ## What metrics show -/

/-- The gauges of a cluster that a sample sets: a good one does, in a window that publishes. -/
def Window.gauges? (cluster : String) (window : Window) (sample : Option Sample) :
    Option ClusterGauges :=
  if window.publish ∧ window.cluster = cluster then
    sample.map fun sample => ⟨sample.instances, sample.nodes, window.target⟩
  else none

namespace Metrics

/-- The metrics show these samples: how many failed, and of each cluster the last that set its
gauges. -/
structure ShowSamples (m : Metrics) (taken : List (Window × Option Sample)) : Prop where
  failed : m.probeErrors = taken.countP fun t => t.2.isNone
  errors : m.value? "scaling_bench_probe_errors_total" "" [] = some (shownCount m.probeErrors)
  gauges : ∀ cluster,
    let last := (taken.filterMap fun t => t.1.gauges? cluster t.2).getLast?
    m.value? "scaling_bench_ec2_capacity" "" [("cluster", cluster)] =
        last.map (fun gauges => toString gauges.instances) ∧
      m.value? "scaling_bench_compute_nodes" "" [("cluster", cluster)] =
        last.map (fun gauges => toString gauges.nodes) ∧
      m.value? "scaling_bench_target_cluster_size" "" [("cluster", cluster)] =
        last.map (fun gauges => toString gauges.target)

/-- How many durations are no longer than a bound. -/
def atMost (durations : List Int64) (bound : Nat) : Nat :=
  durations.countP fun d => decide (d.toInt ≤ (bound : Int))

theorem atMost_mono (durations : List Int64) {bound bound' : Nat} (h : bound ≤ bound') :
    atMost durations bound ≤ atMost durations bound' := by
  refine List.countP_mono_left fun d _ hd => ?_
  have hd : d.toInt ≤ bound := of_decide_eq_true hd
  exact decide_eq_true (by omega)

/-- The metrics show these durations of a phase, or nothing if there are none: each bucket those up to
its bound, and the count all of them. -/
structure ShowDurations (m : Metrics) (phase : String) (durations : List Int64) : Prop where
  bucket : ∀ bound ∈ durationBounds,
    m.value? "scaling_bench_scaling_duration_seconds" "_bucket"
        [("phase", phase), ("le", toString bound)] =
      if durations = [] then none else some (toString (atMost durations bound))
  total : m.value? "scaling_bench_scaling_duration_seconds" "_bucket"
      [("phase", phase), ("le", "+Inf")] =
    if durations = [] then none else some (toString durations.length)
  count : m.value? "scaling_bench_scaling_duration_seconds" "_count" [("phase", phase)] =
    if durations = [] then none else some (toString durations.length)
  cumulative : ∀ bound bound', bound ≤ bound' →
    atMost durations bound ≤ atMost durations bound' ∧ atMost durations bound' ≤ durations.length

section Shown

variable {updates : List MetricUpdate}

theorem filterMap_filter_of {α β : Type} {p : α → Bool} {f : α → Option β}
    (h : ∀ a, p a = false → f a = none) (l : List α) : (l.filter p).filterMap f = l.filterMap f := by
  rw [List.filterMap_filter]
  congr 1
  funext a
  cases hp : p a
  · exact (h a hp).symm
  · rfl

theorem gauges_updates (cluster : String) (window : Window) (sample : Option Sample) :
    (window.updates sample).filterMap (MetricUpdate.gauges? cluster) =
      (window.gauges? cluster sample).toList := by
  cases sample with
  | none => by_cases h : window.publish ∧ window.cluster = cluster <;> simp [Window.updates,
      Window.gauges?, MetricUpdate.gauges?, h]
  | some sample =>
    by_cases hp : window.publish = true <;> by_cases hc : window.cluster = cluster <;>
      simp [Window.updates, Window.gauges?, MetricUpdate.gauges?, hp, hc]

theorem count_probeError_updates (window : Window) (sample : Option Sample) :
    (window.updates sample).count .probeError = if sample.isNone then 1 else 0 := by
  cases sample with
  | none => rfl
  | some sample => by_cases hp : window.publish = true <;> simp [Window.updates, hp]

/-- Updates about samples are shown as the samples are. -/
theorem showSamples_of {taken : List (Window × Option Sample)}
    (h : updates.filter MetricUpdate.isSampling = taken.flatMap fun t => t.1.updates t.2) :
    (empty.applyAll updates).ShowSamples taken where
  failed := by
    have sampling : MetricUpdate.isSampling .probeError = true := rfl
    rw [probeErrors_applyAll, ← List.count_filter sampling, h]
    show 0 + _ = _
    rw [Nat.zero_add]
    clear h
    induction taken with
    | nil => rfl
    | cons t taken ih =>
      rw [List.flatMap_cons, List.count_append, ih, count_probeError_updates, List.countP_cons,
        Nat.add_comm]
  errors := (value?_counts _).2
  gauges cluster := by
    have set : updates.filterMap (MetricUpdate.gauges? cluster) =
        taken.filterMap fun t => t.1.gauges? cluster t.2 := by
      rw [← filterMap_filter_of (p := MetricUpdate.isSampling), h, List.filterMap_flatMap,
        List.filterMap_eq_flatMap_toList]
      · simp only [gauges_updates]
      · intro update hu
        cases update <;> first | rfl | cases hu
    have last : (empty.applyAll updates).clusters.lookup cluster =
        (taken.filterMap fun t => t.1.gauges? cluster t.2).getLast? := by
      rw [clusters_applyAll, set]
      exact Option.or_none
    rw [← last]
    exact value?_gauges (Distinct.empty.applyAll updates) cluster

/-- Durations are shown as they were observed. -/
theorem showDurations_of {phase : String} {durations : List Int64}
    (h : updates.filterMap (MetricUpdate.seconds? phase) = durations) :
    (empty.applyAll updates).ShowDurations phase durations := by
  obtain ⟨observed, unobserved⟩ := durations_applyAll empty updates phase
  rw [h] at observed unobserved
  have shown {α : Type} (f : List Int64 → α) :
      ((empty.applyAll updates).durations.lookup phase).map f =
        if durations = [] then none else some (f durations) := by
    cases hl : (empty.applyAll updates).durations.lookup phase with
    | none => rw [if_pos (unobserved.mp hl).2, Option.map_none]
    | some found =>
      rw [if_neg fun hd => nomatch hl.symm.trans (unobserved.mpr ⟨rfl, hd⟩)]
      rw [hl] at observed
      exact congrArg (fun l => some (f l)) observed
  obtain ⟨bucket, total, count⟩ :=
    value?_histogram (Distinct.empty.applyAll updates) phase
  constructor
  · intro bound hbound
    rw [bucket bound hbound, shown]
    rfl
  · rw [total, shown]
  · rw [count, shown]
  · intro bound bound' hle
    exact ⟨atMost_mono durations hle, List.countP_le_length⟩

end Shown

end Metrics

/-! ## What a run tells -/

section Run

variable (context : RunContext) (site : Site ω)

/-- What a cycle tells about a phase is its duration, if it is timed. -/
theorem seconds_cycleUpdates {phase : String} {value : CycleCourse → Int64}
    (h : ∀ target d, (durationUpdates (context.resultOf target d)).filterMap
      (MetricUpdate.seconds? phase) = [value d]) (cycle : UInt32 × RunWorld ω) :
    (cycleUpdates context site cycle).filterMap (MetricUpdate.seconds? phase) =
      ((course? context site cycle.1 cycle.2).map value).toList := by
  obtain ⟨target, world⟩ := cycle
  have counts : ∀ outcome : Option CycleResult, ∀ count, (outcome.toList.map fun _ =>
      MetricUpdate.softFailures count).filterMap (MetricUpdate.seconds? phase) = [] := by
    intro outcome count
    cases outcome <;> rfl
  rw [cycleUpdates, List.filterMap_append, counts, List.append_nil]
  cases course? context site target world with
  | none => rfl
  | some d =>
    show (durationUpdates (context.resultOf target d) ++ []).filterMap _ = _
    rw [List.append_nil, h]
    rfl

theorem seconds_stressTest {phase : String} {value : CycleCourse → Int64}
    (h : ∀ target d, (durationUpdates (context.resultOf target d)).filterMap
      (MetricUpdate.seconds? phase) = [value d]) (world : ω) :
    (ownMetrics (stressTest context site ⟨world, .empty⟩).notes).filterMap
        (MetricUpdate.seconds? phase) = (timed context site world).map value := by
  have opened (o : Option Unit) (update : MetricUpdate) (hu : update.seconds? phase = none) :
      (o.toList.map fun _ => update).filterMap (MetricUpdate.seconds? phase) = [] := by
    cases o <;> simp [hu]
  rw [ownMetrics_stressTest, List.filterMap_append, opened _ _ rfl, List.nil_append,
    List.filterMap_flatMap, timed, List.map_filterMap, List.filterMap_eq_flatMap_toList]
  simp only [seconds_cycleUpdates context site h]

/-- The last count of soft failures is that of all cycles that succeeded, by induction on the
targets along the run. -/
theorem softCount_begun (targets : List UInt32) (world : RunWorld ω) :
    (((begun context site targets world).flatMap (cycleUpdates context site)).filterMap
        MetricUpdate.softCount?).getLast?.getD world.soft.failures.length =
      (world.soft.failures ++ failuresOf (attempts context site targets world)).length := by
  have durations (l : List CycleCourse) (target : UInt32) : (l.flatMap fun d =>
      durationUpdates (context.resultOf target d)).filterMap MetricUpdate.softCount? = [] := by
    rw [List.filterMap_flatMap, List.flatMap_eq_nil_iff]
    exact fun _ _ => rfl
  induction targets, world using cycles_induction context site with
  | nil world => simp [begun, attempts, failuresOf, succeeded]
  | failed target rest world failure h =>
    rw [attempts_of_error rest h, (tell_of_error h).2.2.1, begun, h]
    simp [cycleUpdates, durations, h, Except.toOption]
  | succeeded target rest world result h ih =>
    rw [attempts_of_ok rest h, (tell_of_ok (a := .ofCycle context site target world) h _).2.2.1,
      ← List.append_assoc, ← failures_append_recorded, ← ih, begun, h, List.flatMap_cons,
      List.filterMap_append, cycleUpdates, List.filterMap_append, durations, h]
    exact getD_getLast?_append (some _) _ _

theorem softCount_stressTest (world : ω) :
    ((ownMetrics (stressTest context site ⟨world, .empty⟩).notes).filterMap
        MetricUpdate.softCount?).getLast?.getD 0 =
      (Account.ofRun context site world).failures.length := by
  rw [ownMetrics_stressTest, begunBy]
  rcases h : (runOpening site world).outcome with failure | _
  · rw [account_of_error context site world h]
    rfl
  · rw [account_of_ok context site world h]
    exact softCount_begun context site context.targets (runOpening site world).world

/-- The failures that the progress shows at the end are those of the cycles that succeeded. -/
theorem failures_heard (world : ω) (start : Int64) (moments : Nat → Int64) :
    let progress := (RunProgress.initial start).hearAll moments
      (stressTest context site ⟨world, .empty⟩).notes
    progress.results.failures = (Account.ofRun context site world).failures ∧
      progress.status.failureCount =
        UInt64.ofNat (Account.ofRun context site world).failures.length := by
  intro progress
  let loop := stressLoop context site ⟨world, .empty⟩
  let heard := (RunProgress.initial start).hearAll moments loop.notes
  let later (i : Nat) : Int64 := moments (i + loop.notes.length)
  have books : heard.books = .of _ _ (Account.ofRun context site world).failures :=
    (stressLoop_account context site world).2.2.2 start moments
  have hprogress : progress = heard.hearAll later [.progress (ending loop.outcome)] := by
    show RunProgress.hearAll moments _ (stressTest context site ⟨world, .empty⟩).notes = _
    rw [stressTest_apply, RunProgress.hearAll_append]
  obtain ⟨hr, -, hn, -⟩ := hear_ending heard later loop.outcome
  rw [hprogress, hr, hn]
  exact ⟨congrArg (fun b => b.results.failures) books, congrArg Books.failureCount books⟩

end Run

/-- **Metrics of a run.** Let only the collector of a site, which samples at an interval, and the run
itself change the metrics. Then, from empty metrics, whatever the targets and the parties:
the failed samples of all windows are counted, and each cluster has the gauges of its last good sample
in a window that publishes, and of the target of that window;
the histogram of each phase counts the cycles that were timed, whatever came of them later;
the soft failures are as many as the progress shows;
and the same run without publishing does all the same, in the same conversation, and its notes lack
nothing but the metrics of good samples. -/
theorem stressTest_metrics (context : RunContext) {site : Site ω} {s : Sampler ω}
    (quiet : site.Unmetered) (hs : s.Unmetered) (hc : site.collector = s.collector) (world : ω)
    (start : Int64) (moments : Nat → Int64) :
    let run := stressTest context site ⟨world, .empty⟩
    let unpublished := stressTest context.unpublished site ⟨world, .empty⟩
    let m := Metrics.empty.applyAll (metricsOf run.notes)
    let progress := (RunProgress.initial start).hearAll moments run.notes
    let cycles := timed context site world
    ∃ es, Conversation site world es run.world.site ∧ callNotes run.notes = callsOf es ∧
      m.ShowSamples (s.samplesOf site world es) ∧
      (m.ShowDurations "scale_up_ec2" (cycles.map fun d => d.instances.elapsed) ∧
        m.ShowDurations "scale_up_scheduler" (cycles.map fun d => d.nodes.elapsed) ∧
        m.ShowDurations "scale_down" (cycles.map fun d => d.emptied.elapsed)) ∧
      (m.softFailures = progress.results.failures.length ∧
        progress.status.failureCount = UInt64.ofNat m.softFailures ∧
        m.value? "scaling_bench_assertion_failures" "" [] =
          some (Metrics.shownCount m.softFailures)) ∧
      unpublished = { run with notes := run.notes.filterMap RunNote.unpublished? } ∧
      Conversation site world (es.map Exchange.unpublished) unpublished.world.site ∧
      callNotes unpublished.notes = callsOf (es.map Exchange.unpublished) := by
  intro run unpublished m progress cycles
  obtain ⟨es, talk, calls, sampling, own⟩ := stressTest_counted context quiet hs hc ⟨world, .empty⟩
  have same : unpublished = { run with notes := run.notes.filterMap RunNote.unpublished? } :=
    stressTest_unpublished context quiet hs hc ⟨world, .empty⟩
  have durations {phase : String} {value : CycleCourse → Int64}
      (h : ∀ target d, (durationUpdates (context.resultOf target d)).filterMap
        (MetricUpdate.seconds? phase) = [value d]) : m.ShowDurations phase (cycles.map value) := by
    refine Metrics.showDurations_of ?_
    rw [← seconds_stressTest context site h, ← own, Metrics.filterMap_filter_of]
    intro update hu
    cases update <;> first | rfl | cases hu
  have soft : m.softFailures = (Account.ofRun context site world).failures.length := by
    have last : m.softFailures = _ := Metrics.softFailures_applyAll .empty (metricsOf run.notes)
    rw [last, ← softCount_stressTest, ← own, Metrics.filterMap_filter_of]
    · rfl
    · intro update hu
      cases update <;> first | rfl | cases hu
  obtain ⟨heard, counted⟩ := failures_heard context site world start moments
  refine ⟨es, talk, calls, Metrics.showSamples_of sampling, ⟨?_, ?_, ?_⟩, ⟨?_, ?_, ?_⟩, same, ?_, ?_⟩
  · exact durations fun target d => rfl
  · exact durations fun target d => rfl
  · exact durations fun target d => rfl
  · rw [soft, heard]
  · rw [soft, counted]
  · exact (Metrics.value?_counts m).1
  · rw [same]
    exact talk.unpublished hs hc
  · rw [same, callNotes_unpublished, callsOf_unpublished, calls]

/-! ## A run in rehearsal -/

theorem Rehearsal.request_unmetered (r : Rehearsal.Request) (text : String) :
    Unmetered (Rehearsal.request r text) := by
  refine Operation.Notes.bind (.note rfl) fun _ => .bind (.of_nil fun _ => rfl) fun script => ?_
  refine Operation.Notes.bind (.of_nil fun _ => rfl) fun _ => ?_
  split <;> exact .of_nil fun _ => rfl

theorem sampledSite_unmetered : sampledSite.Unmetered where
  parties := {
    headNode := {
      run := fun command => by
        refine (Rehearsal.request_unmetered _ _).bind fun _ => ?_
        refine Operation.Notes.bind (.of_nil fun _ => rfl) fun script => ?_
        split
        · exact .of_nil fun _ => rfl
        · refine Operation.Notes.bind (.of_nil fun _ => rfl) fun _ => ?_
          split <;> exact .of_nil fun _ => rfl
      reset := Rehearsal.request_unmetered _ _ }
    start := Rehearsal.request_unmetered _ _
    stop := Rehearsal.request_unmetered _ _
    submit := fun job => by
      refine Operation.Notes.bind (.of_nil fun _ => rfl) fun script => ?_
      exact (Rehearsal.request_unmetered _ _).bind fun _ => .of_nil fun _ => rfl
    cancel := fun id => Rehearsal.request_unmetered _ _ }
  report r := (Rehearsal.request_unmetered _ _).bind fun _ => .of_nil fun _ => rfl
  clock := .of_nil fun _ => rfl
  readFile path := .of_nil fun _ => rfl

theorem stillSampler_unmetered : stillSampler.Unmetered where
  instances region cluster := by
    refine Operation.Notes.bind (.note rfl) fun _ => .bind (.of_nil fun _ => rfl) fun answer => ?_
    cases answer <;> exact .of_nil fun _ => rfl
  nodes := by
    refine Operation.Notes.bind (.of_nil fun _ => rfl) fun script => ?_
    split <;> exact .of_nil fun _ => rfl
  clock := .of_nil fun _ => rfl

/-- One sample failed, and the last good one was of the empty cluster. -/
theorem stressTest_metrics_waving :
    let context : RunContext := { overshootContext with publish := true }
    let run := stressTest context sampledSite ⟨wavingScript, .empty⟩
    let m := Metrics.empty.applyAll (metricsOf run.notes)
    sampledSite.Unmetered ∧ stillSampler.Unmetered ∧
      sampledSite.collector = stillSampler.collector ∧
      ∃ es, Conversation sampledSite wavingScript es run.world.site ∧
        let taken := stillSampler.samplesOf sampledSite wavingScript es
        (m.probeErrors = 1 ∧ taken.countP (fun t => t.2.isNone) = 1) ∧
        (m.value? "scaling_bench_ec2_capacity" "" [("cluster", "bench")] = some "0" ∧
          (taken.filterMap fun t => t.1.gauges? "bench" t.2).getLast?.map
            (fun gauges => toString gauges.instances) = some "0") ∧
        m.softFailures = 0 := by
  intro context run m
  have collects : sampledSite.collector = stillSampler.collector := rfl
  obtain ⟨es, talk, -, shown, -⟩ := stressTest_metrics context sampledSite_unmetered
    stillSampler_unmetered collects wavingScript 0 fun _ => 0
  have errors : m.probeErrors = 1 := by decide +kernel
  have instances : m.value? "scaling_bench_ec2_capacity" "" [("cluster", "bench")] = some "0" := by
    decide +kernel
  refine ⟨sampledSite_unmetered, stillSampler_unmetered, collects, es, talk,
    ⟨errors, shown.failed.symm.trans errors⟩, ⟨instances, ?_⟩, by decide +kernel⟩
  exact (shown.gauges "bench").1.symm.trans instances

end FleetScaling

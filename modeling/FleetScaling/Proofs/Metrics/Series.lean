import FleetScaling.Keyed
import FleetScaling.Metrics.Exposition
import FleetScaling.Proofs.LastWord

/-!
# Series of the metrics

Metrics are changed by one update after another (`Metrics.applyAll`), and published as families of
lines. What a family shows under some labels is its series there (`Metrics.value?`): the gauges of a
cluster are those of the last sample of it, and the histogram of a phase counts the durations that
were observed for it.
-/

namespace FleetScaling

namespace MetricUpdate

/-- The gauges of a cluster, if the update sets them. -/
def gauges? (cluster : String) : MetricUpdate → Option ClusterGauges
  | sample name instances nodes target =>
    if name = cluster then some ⟨instances, nodes, target⟩ else none
  | _ => none

/-- The seconds that a phase took, if the update tells them. -/
def seconds? (phase : String) : MetricUpdate → Option Int64
  | duration name seconds => if name = phase then some seconds else none
  | _ => none

/-- How many soft checks have failed, if the update tells it. -/
def softCount? : MetricUpdate → Option Nat
  | softFailures count => some count
  | _ => none

end MetricUpdate

namespace Metrics

variable {α : Type}

/-! ## Values by key -/

theorem lookup_adjust (key k : String) (f : Option α → α) (entries : List (String × α)) :
    (adjust key f entries).lookup k =
      if key = k then some (f (entries.lookup key)) else entries.lookup k := by
  induction entries with
  | nil =>
    by_cases h : key = k
    · simp [adjust, h]
    · simp [adjust, h, Ne.symm h]
  | cons entry rest ih =>
    obtain ⟨name, a⟩ := entry
    by_cases hname : name = key
    · subst hname
      by_cases h : name = k
      · simp [adjust, h]
      · have hk : (k == name) = false := beq_eq_false_iff_ne.mpr (Ne.symm h)
        simp [adjust, h, List.lookup_cons, hk]
    · have hkey : (key == name) = false := beq_eq_false_iff_ne.mpr (Ne.symm hname)
      by_cases hk : k = name
      · subst hk
        simp [adjust, hname, Ne.symm hname]
      · have hk : (k == name) = false := beq_eq_false_iff_ne.mpr hk
        simp [adjust, hname, List.lookup_cons, hk, hkey, ih]

theorem map_fst_adjust (key : String) (f : Option α → α) (entries : List (String × α)) :
    (adjust key f entries).map Prod.fst =
      if key ∈ entries.map Prod.fst then entries.map Prod.fst
      else entries.map Prod.fst ++ [key] := by
  induction entries with
  | nil => simp [adjust]
  | cons entry rest ih =>
    by_cases h : entry.1 = key
    · simp [adjust, h]
    · simp only [adjust, h, if_false, List.map_cons, ih, List.mem_cons, Ne.symm h, false_or]
      split <;> simp

theorem nodup_adjust {key : String} {f : Option α → α} {entries : List (String × α)}
    (h : (entries.map Prod.fst).Nodup) : ((adjust key f entries).map Prod.fst).Nodup := by
  rw [map_fst_adjust]
  split
  · exact h
  · rename_i hkey
    rw [List.nodup_append]
    refine ⟨h, List.pairwise_singleton _ key, ?_⟩
    rintro a ha b hb rfl
    exact hkey (List.mem_singleton.mp hb ▸ ha)

/-! ## Updates -/

/-- The metrics after some updates. -/
def applyAll (m : Metrics) (updates : List MetricUpdate) : Metrics := updates.foldl apply m

theorem clusters_apply (m : Metrics) (update : MetricUpdate) (cluster : String) :
    (m.apply update).clusters.lookup cluster =
      ((update.gauges? cluster).map some).getD (m.clusters.lookup cluster) := by
  cases update with
  | sample name instances nodes target =>
    show (adjust name _ m.clusters).lookup cluster = _
    rw [lookup_adjust, MetricUpdate.gauges?]
    split <;> rfl
  | _ => rfl

/-- The gauges of a cluster are those that were set last. -/
theorem clusters_applyAll (m : Metrics) (updates : List MetricUpdate) (cluster : String) :
    (m.applyAll updates).clusters.lookup cluster =
      (updates.filterMap (MetricUpdate.gauges? cluster)).getLast?.or (m.clusters.lookup cluster) := by
  have h := observed_foldl (fun m : Metrics => m.clusters.lookup cluster)
    (fun m update => m.clusters_apply update cluster) m updates
  rw [← List.map_filterMap, List.getLast?_map] at h
  refine h.trans ?_
  cases (updates.filterMap (MetricUpdate.gauges? cluster)).getLast? <;> rfl

theorem softFailures_applyAll (m : Metrics) (updates : List MetricUpdate) :
    (m.applyAll updates).softFailures =
      (updates.filterMap MetricUpdate.softCount?).getLast?.getD m.softFailures :=
  observed_foldl Metrics.softFailures (fun m update => by cases update <;> rfl) m updates

theorem probeErrors_applyAll (m : Metrics) (updates : List MetricUpdate) :
    (m.applyAll updates).probeErrors = m.probeErrors + updates.count .probeError := by
  induction updates generalizing m with
  | nil => rfl
  | cons update updates ih =>
    show ((m.apply update).applyAll updates).probeErrors = _
    rw [ih, List.count_cons]
    cases update with
    | probeError =>
      show m.probeErrors + 1 + _ = m.probeErrors + (_ + 1)
      omega
    | _ => rfl

/-- The durations of a phase are those that were observed, in order. -/
theorem durations_applyAll (m : Metrics) (updates : List MetricUpdate) (phase : String) :
    ((m.applyAll updates).durations.lookup phase).getD [] =
        (m.durations.lookup phase).getD [] ++ updates.filterMap (MetricUpdate.seconds? phase) ∧
      ((m.applyAll updates).durations.lookup phase = none ↔
        m.durations.lookup phase = none ∧ updates.filterMap (MetricUpdate.seconds? phase) = []) := by
  induction updates generalizing m with
  | nil => exact ⟨(List.append_nil _).symm, (and_iff_left rfl).symm⟩
  | cons update updates ih =>
    obtain ⟨hds, hnone⟩ := ih (m.apply update)
    show ((((m.apply update).applyAll updates).durations.lookup phase).getD [] = _) ∧
      (((m.apply update).applyAll updates).durations.lookup phase = none ↔ _)
    rw [hds, hnone, filterMap_cons_toList, ← List.append_assoc, List.append_eq_nil_iff,
      ← and_assoc]
    cases update with
    | duration name seconds =>
      have hl : (m.apply (.duration name seconds)).durations.lookup phase = _ :=
        lookup_adjust name phase _ m.durations
      by_cases h : name = phase
      · subst h
        simp [hl, MetricUpdate.seconds?]
      · simp [hl, MetricUpdate.seconds?, h]
    | _ => simp [MetricUpdate.seconds?, apply]

/-- Every cluster and every phase occurs once. -/
structure Distinct (m : Metrics) : Prop where
  clusters : (m.clusters.map Prod.fst).Nodup
  durations : (m.durations.map Prod.fst).Nodup

theorem Distinct.apply {m : Metrics} (h : m.Distinct) (update : MetricUpdate) : (m.apply update).Distinct := by
  cases update with
  | sample => exact ⟨nodup_adjust h.clusters, h.durations⟩
  | duration => exact ⟨h.clusters, nodup_adjust h.durations⟩
  | _ => exact ⟨h.clusters, h.durations⟩

theorem Distinct.applyAll {m : Metrics} (h : m.Distinct) (updates : List MetricUpdate) :
    (m.applyAll updates).Distinct := by
  induction updates generalizing m with
  | nil => exact h
  | cons update updates ih => exact ih (h.apply update)

theorem Distinct.empty : Metrics.empty.Distinct := ⟨List.nodup_nil, List.nodup_nil⟩

/-! ## Series -/

/-- The value that is shown in a family under some labels, on the line with a suffix. -/
def value? (m : Metrics) (family suffix : String) (labels : List (String × String)) :
    Option String :=
  (m.families.find? fun f => f.name = family).bind fun f =>
    (f.lines.find? fun line => line.suffix = suffix ∧ line.labels = labels).map MetricLine.value

/-- A count, as it is shown without labels. -/
def shownCount (n : Nat) : String := metricValue (Float.ofInt (Int64.ofNat n).toInt)

theorem value?_counts (m : Metrics) :
    m.value? "scaling_bench_assertion_failures" "" [] = some (shownCount m.softFailures) ∧
      m.value? "scaling_bench_probe_errors_total" "" [] = some (shownCount m.probeErrors) :=
  ⟨rfl, rfl⟩

/-- The lines of an entry are found under its key, if the lines of the others do not match. -/
theorem find?_flatMap_lookup {f : String × α → List MetricLine} {p : MetricLine → Bool}
    (key : String) (other : ∀ name a, name ≠ key → (f (name, a)).find? p = none)
    (hit : ∀ a, (f (key, a)).find? p ≠ none) (entries : List (String × α)) :
    (entries.flatMap f).find? p = (entries.lookup key).bind fun a => (f (key, a)).find? p := by
  induction entries with
  | nil => rfl
  | cons entry entries ih =>
    obtain ⟨name, a⟩ := entry
    rw [List.flatMap_cons, List.find?_append, List.lookup_cons]
    by_cases h : name = key
    · subst h
      rw [beq_self_eq_true]
      obtain ⟨line, hline⟩ := Option.ne_none_iff_exists'.mp (hit a)
      simp [hline]
    · rw [other name a h, beq_eq_false_iff_ne.mpr (Ne.symm h)]
      exact ih

theorem lookup_sorted {entries : List (String × α)} (nodup : (entries.map Prod.fst).Nodup)
    (key : String) : (sorted entries).lookup key = entries.lookup key := by
  have hperm : (sorted entries).Perm entries := List.mergeSort_perm _ _
  cases h : entries.lookup key with
  | some a =>
    obtain ⟨l, l', rfl, -⟩ := List.lookup_eq_some_iff.mp h
    have hmem : (key, a) ∈ sorted (l ++ (key, a) :: l') := hperm.mem_iff.mpr (by simp)
    exact lookup_of_mem ((hperm.map Prod.fst).nodup_iff.mpr nodup) hmem
  | none =>
    rw [List.lookup_eq_none_iff] at h ⊢
    exact fun entry hentry => h entry (hperm.mem_iff.mp hentry)

section Gauges

variable {m : Metrics} (distinct : m.Distinct) (cluster : String)

include distinct

theorem value?_clusterFamily (name help : String) (value : ClusterGauges → UInt32) :
    ((m.clusterFamily name help value).lines.find? fun line =>
      line.suffix = "" ∧ line.labels = [("cluster", cluster)]).map MetricLine.value =
    (m.clusters.lookup cluster).map fun gauges => toString (value gauges) := by
  show (((sorted m.clusters).map _).find? _).map _ = _
  rw [List.map_eq_flatMap, find?_flatMap_lookup cluster, lookup_sorted distinct.clusters]
  · cases m.clusters.lookup cluster <;> simp
  · intro name gauges h
    simp [h]
  · intro gauges
    simp

/-- A cluster has all three gauges or none. -/
theorem value?_gauges :
    m.value? "scaling_bench_ec2_capacity" "" [("cluster", cluster)] =
        (m.clusters.lookup cluster).map (fun gauges => toString gauges.instances) ∧
      m.value? "scaling_bench_compute_nodes" "" [("cluster", cluster)] =
        (m.clusters.lookup cluster).map (fun gauges => toString gauges.nodes) ∧
      m.value? "scaling_bench_target_cluster_size" "" [("cluster", cluster)] =
        (m.clusters.lookup cluster).map (fun gauges => toString gauges.target) :=
  ⟨value?_clusterFamily distinct cluster _ _ _, value?_clusterFamily distinct cluster _ _ _,
    value?_clusterFamily distinct cluster _ _ _⟩

end Gauges

/-! ## Histograms -/

theorem toString_inj_durationBounds :
    ∀ a ∈ durationBounds, ∀ b ∈ durationBounds, toString a = toString b → a = b := by
  decide

theorem toString_ne_inf : ∀ b ∈ durationBounds, toString b ≠ "+Inf" := by decide

/-- The line of a bound is found among those of all bounds. -/
theorem find?_bounds {line : Nat → MetricLine} {p : MetricLine → Bool} {bound : Nat}
    (hp : ∀ b ∈ durationBounds, p (line b) = true ↔ b = bound) (h : bound ∈ durationBounds) :
    (durationBounds.map line).find? p = some (line bound) := by
  rw [List.find?_map, Option.map_eq_some_iff]
  refine ⟨bound, ?_, rfl⟩
  generalize durationBounds = bounds at hp h
  induction bounds with
  | nil => cases h
  | cons b bounds ih =>
    rw [List.find?_cons]
    by_cases hb : b = bound
    · subst hb
      rw [show (p ∘ line) b = true from (hp b List.mem_cons_self).mpr rfl]
    · rw [show (p ∘ line) b = false from
        Bool.eq_false_iff.mpr fun h' => hb ((hp b List.mem_cons_self).mp h')]
      exact ih (fun b' hb' => hp b' (List.mem_cons_of_mem b hb'))
        ((List.mem_cons.mp h).resolve_left (Ne.symm hb))

section Histogram

variable (phase : String) (durations : List Int64)

theorem histogram_bucket {bound : Nat} (h : bound ∈ durationBounds) :
    (histogramLines phase durations).find? (fun line =>
      line.suffix = "_bucket" ∧ line.labels = [("phase", phase), ("le", toString bound)]) =
    some ⟨"_bucket", [("phase", phase), ("le", toString bound)],
      toString (durations.countP fun d => decide (d.toInt ≤ (bound : Int)))⟩ := by
  unfold histogramLines
  rw [List.find?_append, find?_bounds (fun b hb => ?_) h]
  · rfl
  · simp only [decide_eq_true_iff, true_and, List.cons.injEq, Prod.mk.injEq, and_true]
    exact ⟨toString_inj_durationBounds b hb bound h, fun he => he ▸ rfl⟩

theorem histogram_total :
    (histogramLines phase durations).find? (fun line =>
        line.suffix = "_bucket" ∧ line.labels = [("phase", phase), ("le", "+Inf")]) =
      some ⟨"_bucket", [("phase", phase), ("le", "+Inf")], toString durations.length⟩ ∧
    (histogramLines phase durations).find? (fun line =>
        line.suffix = "_count" ∧ line.labels = [("phase", phase)]) =
      some ⟨"_count", [("phase", phase)], toString durations.length⟩ := by
  unfold histogramLines
  constructor
  · rw [List.find?_append, List.find?_eq_none.mpr (fun line hline => ?_)]
    · simp
    · obtain ⟨b, hb, rfl⟩ := List.mem_map.mp hline
      simpa using toString_ne_inf b hb
  · rw [List.find?_append, List.find?_eq_none.mpr (fun line hline => ?_)]
    · simp
    · obtain ⟨b, hb, rfl⟩ := List.mem_map.mp hline
      simp

/-- All lines are about the phase. -/
theorem histogram_other {other : String} (h : other ≠ phase) (suffix : String)
    (labels : List (String × String)) :
    (histogramLines other durations).find? (fun line =>
      line.suffix = suffix ∧ line.labels = ("phase", phase) :: labels) = none := by
  rw [List.find?_eq_none]
  intro line hline
  simp only [histogramLines, List.mem_append, List.mem_map, List.mem_cons, List.not_mem_nil,
    or_false] at hline
  rcases hline with ⟨b, -, rfl⟩ | rfl | rfl | rfl <;> simp [h]

end Histogram

/-- A phase has a histogram if durations were observed: its buckets count those up to their bounds, and
all of them are counted. -/
theorem value?_histogram {m : Metrics} (distinct : m.Distinct) (phase : String) :
    (∀ bound ∈ durationBounds,
      m.value? "scaling_bench_scaling_duration_seconds" "_bucket"
          [("phase", phase), ("le", toString bound)] =
        (m.durations.lookup phase).map fun durations =>
          toString (durations.countP fun d => decide (d.toInt ≤ (bound : Int)))) ∧
    m.value? "scaling_bench_scaling_duration_seconds" "_bucket" [("phase", phase), ("le", "+Inf")] =
      (m.durations.lookup phase).map (fun durations => toString durations.length) ∧
    m.value? "scaling_bench_scaling_duration_seconds" "_count" [("phase", phase)] =
      (m.durations.lookup phase).map (fun durations => toString durations.length) := by
  have hfind (suffix : String) (labels : List (String × String))
      (hit : ∀ durations, (histogramLines phase durations).find? (fun line =>
        line.suffix = suffix ∧ line.labels = ("phase", phase) :: labels) ≠ none) :
      m.value? "scaling_bench_scaling_duration_seconds" suffix (("phase", phase) :: labels) =
        ((m.durations.lookup phase).bind fun durations => (histogramLines phase durations).find?
          fun line => line.suffix = suffix ∧ line.labels = ("phase", phase) :: labels).map
            MetricLine.value := by
    rw [← lookup_sorted distinct.durations]
    exact congrArg (Option.map MetricLine.value)
      (find?_flatMap_lookup (f := fun e => histogramLines e.1 e.2) phase
        (fun other durations h => histogram_other phase durations h suffix labels) hit _)
  refine ⟨fun bound hbound => ?_, ?_, ?_⟩
  · rw [hfind _ _ fun durations => by rw [histogram_bucket phase durations hbound]; nofun]
    simp only [histogram_bucket phase _ hbound]
    cases m.durations.lookup phase <;> rfl
  · rw [hfind _ _ fun durations => by rw [(histogram_total phase durations).1]; nofun]
    simp only [(histogram_total phase _).1]
    cases m.durations.lookup phase <;> rfl
  · rw [hfind _ _ fun durations => by rw [(histogram_total phase durations).2]; nofun]
    simp only [(histogram_total phase _).2]
    cases m.durations.lookup phase <;> rfl

end Metrics

end FleetScaling

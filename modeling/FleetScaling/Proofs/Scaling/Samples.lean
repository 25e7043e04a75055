import FleetScaling.Scaling.Series

/-!
# Samples of a series

The columns of a series and the list of its samples say the same. Each column is that of the samples
(`Series.instances_eq`, `Series.nodes_eq`, `Series.times_eq`), since all have one length, and columns
are those of a list of samples exactly if that is the list of the series (`Series.samples_eq_iff`). So
what becomes of the columns can be told by the samples: one is pushed at their end
(`Series.samples_push`), and of a list of them none is lost or moved (`Series.samples_ofSamples`).
-/

namespace FleetScaling.Series

open Time

/-! ## Columns of samples -/

theorem zipColumns_map (samples : List Sample) : zipColumns (samples.map Sample.instances)
    (samples.map Sample.nodes) (samples.map Sample.time) = samples := by
  induction samples with
  | nil => rfl
  | cons sample samples ih => exact congrArg (sample :: ·) ih

/-- Columns of equal length are those of samples. -/
theorem exists_samples {instances nodes : List UInt32} {times : List Float}
    (hi : instances.length = times.length) (hn : nodes.length = times.length) :
    ∃ samples : List Sample, samples.map Sample.instances = instances ∧
      samples.map Sample.nodes = nodes ∧ samples.map Sample.time = times := by
  induction times generalizing instances nodes with
  | nil =>
    rw [List.length_eq_zero_iff.1 hi, List.length_eq_zero_iff.1 hn]
    exact ⟨[], rfl, rfl, rfl⟩
  | cons time times ih =>
    obtain ⟨i, instances, rfl⟩ := List.exists_cons_of_length_eq_add_one hi
    obtain ⟨n, nodes, rfl⟩ := List.exists_cons_of_length_eq_add_one hn
    obtain ⟨samples, rfl, rfl, rfl⟩ := ih (Nat.succ.inj hi) (Nat.succ.inj hn)
    exact ⟨⟨i, n, time⟩ :: samples, rfl, rfl, rfl⟩

variable {series : Series} {samples : List Sample}

/-- Columns are those of a list of samples exactly if that is the list of the series. -/
theorem samples_eq_iff : series.samples = samples ↔ series.instances = samples.map Sample.instances ∧
    series.nodes = samples.map Sample.nodes ∧ series.times = samples.map Sample.time := by
  constructor
  · rintro rfl
    obtain ⟨samples, hi, hn, ht⟩ := exists_samples series.length_instances series.length_nodes
    unfold Series.samples
    rw [← hi, ← hn, ← ht, zipColumns_map]
    exact ⟨rfl, rfl, rfl⟩
  · rintro ⟨hi, hn, ht⟩
    unfold Series.samples
    rw [hi, hn, ht, zipColumns_map]

theorem instances_eq (series : Series) : series.instances = series.samples.map Sample.instances :=
  (samples_eq_iff.1 rfl).1

theorem nodes_eq (series : Series) : series.nodes = series.samples.map Sample.nodes :=
  (samples_eq_iff.1 rfl).2.1

theorem times_eq (series : Series) : series.times = series.samples.map Sample.time :=
  (samples_eq_iff.1 rfl).2.2

theorem size_eq (series : Series) : series.size = series.samples.length := by
  unfold size
  rw [times_eq, List.length_map]

/-! ## Pushing samples -/

@[simp] theorem samples_empty (endTime : Instant) : (empty endTime).samples = [] := rfl

@[simp] theorem samples_push (series : Series) (sample : Sample) :
    (series.push sample).samples = series.samples ++ [sample] := by
  rw [samples_eq_iff, List.map_append, List.map_append, List.map_append, ← instances_eq, ← nodes_eq,
    ← times_eq]
  exact ⟨rfl, rfl, rfl⟩

@[simp] theorem samples_endingAt (series : Series) (endTime : Instant) :
    (series.endingAt endTime).samples = series.samples := rfl

/-- Samples that are pushed one after another come after those of the series, in their order. -/
theorem samples_foldl_push (samples : List Sample) (series : Series) :
    (samples.foldl push series).samples = series.samples ++ samples := by
  induction samples generalizing series with
  | nil => exact (List.append_nil _).symm
  | cons sample samples ih => rw [List.foldl_cons, ih, samples_push, List.append_assoc]; rfl

theorem endTime_foldl_push (samples : List Sample) (series : Series) :
    (samples.foldl push series).endTime = series.endTime := by
  induction samples generalizing series with
  | nil => rfl
  | cons sample samples ih => exact ih (series.push sample)

@[simp] theorem samples_ofSamples (samples : List Sample) (fallback : Instant) :
    (ofSamples samples fallback).samples = samples := by
  have pushed : (samples.foldl push (empty fallback)).samples = samples :=
    samples_foldl_push samples (empty fallback)
  unfold ofSamples
  dsimp only
  split
  · exact pushed
  · split
    · exact pushed
    · rw [samples_endingAt, pushed]

/-- A series of samples ends with the last one, if there is one and its time is an instant. -/
theorem endTime_ofSamples (samples : List Sample) (fallback : Instant) :
    (ofSamples samples fallback).endTime =
      (samples.getLast?.bind fun last => Instant.ofEpoch? last.time).getD fallback := by
  have pushed : (samples.foldl push (empty fallback)).endTime = fallback :=
    endTime_foldl_push samples (empty fallback)
  unfold ofSamples
  dsimp only
  cases samples.getLast? with
  | none => exact pushed
  | some last =>
    dsimp only [Option.bind_some]
    cases Instant.ofEpoch? last.time with
    | none => exact pushed
    | some endTime => rfl

end FleetScaling.Series

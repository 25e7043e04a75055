import FleetScaling.Proofs.Scaling.Samples
import FleetScaling.Scaling.Milestone

/-!
# Milestones and peaks of series

What a milestone and a peak say about the samples that they were taken from. A milestone is found
exactly where the first sample with the target lies (`locate_eq_ok_iff`), its seconds never wrap
(`toInt_elapsed`), and once a column has shown its target, its peak differs from the target exactly
if some sample lies above it (`peak_ne_iff`).
-/

namespace FleetScaling

open Time

/-! ## Milestones -/

/-- The sample at an index is the first with some count, and was taken at an instant. -/
structure FirstAt (count : Sample → UInt32) (value : UInt32) (samples : List Sample) (index : Nat)
    (t : Instant) : Prop where
  reached : ∃ sample, samples[index]? = some sample ∧ count sample = value ∧
    Instant.ofEpoch? sample.time = some t
  first : ∀ sample ∈ samples.take index, count sample ≠ value

theorem FirstAt.mem {count : Sample → UInt32} {value : UInt32} {samples : List Sample}
    {index : Nat} {t : Instant} (h : FirstAt count value samples index t) :
    value ∈ samples.map count := by
  obtain ⟨sample, hs, hv, _⟩ := h.reached
  exact List.mem_map.2 ⟨sample, List.mem_of_getElem? hs, hv⟩

/-- A count is first seen at an index exactly if the column is. -/
theorem idxOf?_map_iff (count : Sample → UInt32) (value : UInt32) (samples : List Sample)
    (index : Nat) : (samples.map count).idxOf? value = some index ↔
      (∃ sample, samples[index]? = some sample ∧ count sample = value) ∧
        ∀ sample ∈ samples.take index, count sample ≠ value := by
  rw [List.idxOf?_eq_some_iff]
  constructor
  · intro ⟨hi, hv, hfirst⟩
    rw [List.length_map] at hi
    rw [List.getElem_map] at hv
    refine ⟨⟨samples[index], List.getElem?_eq_getElem hi, hv⟩, fun sample hs => ?_⟩
    obtain ⟨j, hj, rfl⟩ := List.getElem_of_mem hs
    rw [List.length_take] at hj
    have := hfirst j (by omega)
    rw [List.getElem_map] at this
    rwa [List.getElem_take]
  · intro ⟨⟨sample, hs, hv⟩, hfirst⟩
    obtain ⟨hi, rfl⟩ := List.getElem?_eq_some_iff.1 hs
    refine ⟨by rwa [List.length_map], by rwa [List.getElem_map], fun j hj => ?_⟩
    rw [List.getElem_map]
    refine hfirst _ (List.mem_iff_getElem.2 ⟨j, ?_, List.getElem_take⟩)
    rw [List.length_take]
    omega

section Column

variable {series : Series} {count : Sample → UInt32} {column : List UInt32}
  (counted : column = series.samples.map count)

include counted

/-- A milestone is where the first sample with the target lies. -/
theorem Milestone.locate_eq_ok_iff (target : UInt32) (reference : Instant) (m : Milestone) :
    locate column series.times target reference = .ok m ↔
      FirstAt count target series.samples m.index m.reachedAt ∧
        m.elapsed = Int64.ofInt (elapsedSince reference m.reachedAt) := by
  rw [counted, series.times_eq]
  generalize series.samples = samples
  unfold locate
  rw [if_neg (by rw [List.length_map, List.length_map]; exact fun h => h rfl)]
  rcases hi : (samples.map count).idxOf? target with _ | index
  · constructor
    · intro h
      cases h
    · intro ⟨⟨⟨sample, hs, hv, _⟩, hfirst⟩, _⟩
      rw [(idxOf?_map_iff count target samples m.index).2 ⟨⟨sample, hs, hv⟩, hfirst⟩] at hi
      cases hi
  · obtain ⟨⟨sample, hs, hv⟩, hfirst⟩ := (idxOf?_map_iff count target samples index).1 hi
    have time : (samples.map Sample.time).getD index (Float.ofNat 0) = sample.time := by
      rw [List.getD_eq_getElem?_getD, List.getElem?_map, hs]
      rfl
    simp only [time]
    constructor
    · intro h
      rcases ht : Instant.ofEpoch? sample.time with _ | t
      · rw [ht] at h
        cases h
      · rw [ht] at h
        cases h
        exact ⟨⟨⟨sample, hs, hv, ht⟩, hfirst⟩, rfl⟩
    · intro ⟨⟨⟨sample', hs', hv', ht'⟩, hfirst'⟩, he⟩
      have : some m.index = some index :=
        ((idxOf?_map_iff count target samples m.index).2 ⟨⟨sample', hs', hv'⟩, hfirst'⟩).symm.trans hi
      cases this
      rw [hs] at hs'
      cases hs'
      rw [ht']
      show Except.ok (⟨_, _, _⟩ : Milestone) = _
      rw [← he]

/-- Where every sample was taken at an instant, the milestone of a count is there, or the target is
not among the samples and this is why. -/
theorem Milestone.locate_of_dated
    (dated : ∀ sample ∈ series.samples, (Instant.ofEpoch? sample.time).isSome) (target : UInt32)
    (reference : Instant) :
    (∃ m, locate column series.times target reference = .ok m) ∨
      (locate column series.times target reference =
          .error (.targetNotReached target series.size) ∧
        ∀ sample ∈ series.samples, count sample ≠ target) := by
  rcases hi : (series.samples.map count).idxOf? target with _ | index
  · refine Or.inr ⟨?_, fun sample hs hv => ?_⟩
    · unfold locate
      rw [counted, series.size_eq, series.times_eq,
        if_neg (by rw [List.length_map, List.length_map]; exact fun h => h rfl), hi, List.length_map]
    · exact List.idxOf?_eq_none_iff.1 hi (List.mem_map.2 ⟨sample, hs, hv⟩)
  · obtain ⟨⟨sample, hs, hv⟩, hfirst⟩ := (idxOf?_map_iff count target series.samples index).1 hi
    obtain ⟨t, ht⟩ := Option.isSome_iff_exists.1 (dated sample (List.mem_of_getElem? hs))
    exact Or.inl ⟨⟨index, t, Int64.ofInt (elapsedSince reference t)⟩,
      (locate_eq_ok_iff counted target reference _).2 ⟨⟨⟨sample, hs, hv, ht⟩, hfirst⟩, rfl⟩⟩

end Column

/-! ## Seconds -/

/-- Two instants lie less than a hundred trillion seconds apart. -/
theorem secondsSince_bounds (t reference : Instant) :
    -100000000000000 ≤ t.secondsSince reference ∧
      t.secondsSince reference ≤ 100000000000000 := by
  have ht := t.first_le
  have ht' := t.le_last
  have hr := reference.first_le
  have hr' := reference.le_last
  have hn := t.nanos_lt
  have hn' := reference.nanos_lt
  have hl : -1 ≤ t.leapSecondsSince reference ∧ t.leapSecondsSince reference ≤ 1 := by
    unfold Instant.leapSecondsSince
    split
    · split <;> omega
    · split
      · split <;> omega
      · omega
  unfold Instant.secondsSince Instant.nanosSince
  rw [Int.tdiv_eq_ediv]
  unfold firstSecond at ht hr
  unfold lastSecond at ht' hr'
  unfold billion at *
  split
  · omega
  · show _ ≤ _ + (1 : Int) ∧ _ + (1 : Int) ≤ _
    omega

/-- The seconds of a milestone are never negative and never wrap. -/
theorem Milestone.toInt_elapsed (reference t : Instant) :
    (Int64.ofInt (elapsedSince reference t)).toInt = max 0 (t.secondsSince reference) := by
  have := secondsSince_bounds t reference
  unfold elapsedSince
  exact Int64.toInt_ofInt_of_le (by omega) (by omega)

/-! ## Peaks -/

instance lawfulOrderMaxUInt32 : Std.LawfulOrderMax UInt32 := by
  have max_def (a b : UInt32) : max a b = if a ≤ b then b else a := rfl
  apply Std.LawfulOrderMax.of_max_le_iff
  · intro a b c
    rw [max_def]
    by_cases hab : a ≤ b
    · rw [if_pos hab]
      exact ⟨fun hbc => ⟨UInt32.le_trans hab hbc, hbc⟩, fun h => h.2⟩
    · rw [if_neg hab]
      have hba : b ≤ a := UInt32.le_of_lt (UInt32.not_le.1 hab)
      exact ⟨fun hac => ⟨hac, UInt32.le_trans hba hac⟩, fun h => h.1⟩
  · intro a b
    rw [max_def]
    split
    · exact Or.inr rfl
    · exact Or.inl rfl

/-- The peak of a column is its greatest entry. -/
theorem mem_peak {column : List UInt32} {value : UInt32} (h : value ∈ column) :
    column.max?.getD 0 ∈ column ∧ ∀ x ∈ column, x ≤ column.max?.getD 0 := by
  rcases hp : column.max? with _ | peak
  · rw [List.max?_eq_none_iff.1 hp] at h
    cases h
  · exact List.max?_eq_some_iff.1 hp

/-- Once a count has been some value, its peak is another exactly if some sample lies above. -/
theorem peak_ne_iff {count : Sample → UInt32} {samples : List Sample} {value : UInt32}
    (h : value ∈ samples.map count) :
    (samples.map count).max?.getD 0 ≠ value ↔ ∃ sample ∈ samples, value < count sample := by
  obtain ⟨hm, hle⟩ := mem_peak h
  constructor
  · intro hne
    obtain ⟨sample, hs, hp⟩ := List.mem_map.1 hm
    refine ⟨sample, hs, ?_⟩
    rw [hp]
    exact UInt32.lt_of_le_of_ne (hle value h) hne.symm
  · intro ⟨sample, hs, hlt⟩ he
    exact UInt32.not_le.2 hlt (he ▸ hle _ (List.mem_map_of_mem hs))

/-- The last count is some other value exactly if there is a last sample with another. -/
theorem last_ne_iff {count : Sample → UInt32} {samples : List Sample} {value : UInt32} :
    (samples.map count).getLast?.getD value ≠ value ↔
      ∃ sample ∈ samples.getLast?, count sample ≠ value := by
  rw [List.getLast?_map]
  cases samples.getLast? with
  | none => simp
  | some sample => simp

end FleetScaling

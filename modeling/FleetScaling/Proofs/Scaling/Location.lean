import FleetScaling.Proofs.Scaling.Milestone

/-!
# What is answered about a column

A column, its times, a target and a reference always have one answer, and the first entry with the
target decides it: whether there is such an entry, whether its time is an instant, and how long after
the reference that is (`Milestone.locate_answers`). Further samples come after that entry and do not
matter. A later reference never lengthens the time, unless one of the two lies in a leap second: then
a second more may have passed since the earlier clock reading than the readings show.
-/

namespace FleetScaling

open Time

/-! ## Differences of instants -/

namespace Time.Instant

variable {t reference later : Instant} {time : Float}

/-- No instant before or at the second one is after it. -/
def NotAfter (a b : Instant) : Prop :=
  a.seconds < b.seconds ∨ (a.seconds = b.seconds ∧ a.nanos ≤ b.nanos)

/-- The instant of a sample is never in a leap second. -/
theorem isLeap_of_ofEpoch? (h : ofEpoch? time = some t) : t.isLeap = false := by
  obtain ⟨exact, -, h⟩ := Option.bind_eq_some_iff.1 h
  obtain ⟨nanos, -, h⟩ := Option.bind_eq_some_iff.1 h
  unfold of? at h
  split at h
  · cases h
    refine decide_eq_false ?_
    show ¬billion ≤ min nanos (billion - 1)
    unfold billion
    omega
  · cases h

/-- Outside leap seconds the difference is the one that the readings show. -/
theorem nanosSince_regular (ht : t.isLeap = false) (hr : reference.isLeap = false) :
    t.nanosSince reference =
      (t.seconds - reference.seconds) * billion + ((t.nanos : Int) - reference.nanos) := by
  have none_between : t.leapSecondsSince reference = 0 := by
    unfold leapSecondsSince
    rw [ht, hr]
    split
    · rfl
    · split <;> rfl
  unfold nanosSince
  rw [none_between, Int.add_zero]

theorem nanos_lt_of_regular (h : t.isLeap = false) : t.nanos < billion :=
  Nat.lt_of_not_le (of_decide_eq_false h)

/-- Whole seconds since a later reference are no more. -/
theorem secondsSince_antitone (ht : t.isLeap = false) (hr : reference.isLeap = false)
    (hl : later.isLeap = false) (h : reference.NotAfter later) :
    t.secondsSince later ≤ t.secondsSince reference := by
  have hle : t.nanosSince later ≤ t.nanosSince reference := by
    rw [nanosSince_regular ht hr, nanosSince_regular ht hl]
    have := nanos_lt_of_regular hr
    have := nanos_lt_of_regular hl
    unfold NotAfter at h
    unfold billion at *
    omega
  unfold secondsSince
  exact Int.tdiv_le_tdiv (by decide) hle

end Time.Instant

/-! ## The first entry with a target -/

/-- The first entry of a column that is the target stands at an index. -/
def FirstIn (column : List UInt32) (target : UInt32) (index : Nat) : Prop :=
  column[index]? = some target ∧ ∀ i < index, column[i]? ≠ some target

namespace FirstIn

variable {column : List UInt32} {target : UInt32} {index : Nat}

theorem iff_idxOf? : FirstIn column target index ↔ column.idxOf? target = some index := by
  rw [List.idxOf?_eq_some_iff]
  constructor
  · intro ⟨at_, before⟩
    obtain ⟨hi, he⟩ := List.getElem?_eq_some_iff.1 at_
    exact ⟨hi, he, fun j hj => fun hne => before j hj (List.getElem?_eq_some_iff.2 ⟨by omega, hne⟩)⟩
  · intro ⟨hi, he, before⟩
    refine ⟨List.getElem?_eq_some_iff.2 ⟨hi, he⟩, fun j hj hne => ?_⟩
    obtain ⟨_, hne⟩ := List.getElem?_eq_some_iff.1 hne
    exact before j hj hne

/-- The index is that of an entry, so with as many times as entries it has a time. -/
theorem exists_time (h : FirstIn column target index) {times : List Float}
    (hlength : column.length = times.length) : ∃ time, times[index]? = some time := by
  obtain ⟨hi, -⟩ := List.getElem?_eq_some_iff.1 h.1
  exact ⟨times[index], List.getElem?_eq_getElem (hlength ▸ hi)⟩

theorem mem (h : FirstIn column target index) : target ∈ column := List.mem_of_getElem? h.1

/-- A target that stands in a column has a first entry there. -/
theorem of_mem (h : target ∈ column) : ∃ index, FirstIn column target index := by
  rcases hi : column.idxOf? target with _ | index
  · exact absurd h (List.idxOf?_eq_none_iff.1 hi)
  · exact ⟨index, iff_idxOf?.2 hi⟩

/-- Further entries do not matter. -/
theorem append (h : FirstIn column target index) (more : List UInt32) :
    FirstIn (column ++ more) target index := by
  obtain ⟨hi, -⟩ := List.getElem?_eq_some_iff.1 h.1
  refine ⟨?_, fun i hlt => ?_⟩
  · rw [List.getElem?_append_left hi]
    exact h.1
  · rw [List.getElem?_append_left (Nat.lt_trans hlt hi)]
    exact h.2 i hlt

end FirstIn

/-! ## Answers -/

namespace Milestone

section Cases

variable {column : List UInt32} {times : List Float} {target : UInt32} {reference : Instant}

theorem locate_of_length_ne (h : column.length ≠ times.length) :
    locate column times target reference =
      .error (.lengthMismatch column.length times.length) := by
  unfold locate
  rw [if_pos h]

theorem locate_of_not_mem (hlength : column.length = times.length) (h : target ∉ column) :
    locate column times target reference = .error (.targetNotReached target column.length) := by
  unfold locate
  rw [if_neg (not_not_intro hlength), List.idxOf?_eq_none_iff.2 h]

/-- The first entry with the target is timed. -/
theorem locate_of_firstIn {index : Nat} {time : Float} (hlength : column.length = times.length)
    (first : FirstIn column target index) (htime : times[index]? = some time) :
    locate column times target reference =
      match Instant.ofEpoch? time with
      | none => .error (.invalidTime time)
      | some t => .ok ⟨index, t, Int64.ofInt (elapsedSince reference t)⟩ := by
  have timed : times.getD index (Float.ofNat 0) = time := by
    rw [List.getD_eq_getElem?_getD, htime]
    rfl
  have found := FirstIn.iff_idxOf?.1 first
  rcases ht : Instant.ofEpoch? time with _ | t
  · simp only [locate, if_neg (not_not_intro hlength), found, timed, ht]
  · simp only [locate, if_neg (not_not_intro hlength), found, timed, ht]

/-- The answers to be given: the first fault found, or the milestone. -/
inductive Answers (column : List UInt32) (times : List Float) (target : UInt32)
    (reference : Instant) : Except MilestoneError Milestone → Prop
  | mismatch : column.length ≠ times.length →
      Answers column times target reference
        (.error (.lengthMismatch column.length times.length))
  | absent : column.length = times.length → target ∉ column →
      Answers column times target reference (.error (.targetNotReached target column.length))
  | undated {index : Nat} {time : Float} : column.length = times.length →
      FirstIn column target index → times[index]? = some time → Instant.ofEpoch? time = none →
      Answers column times target reference (.error (.invalidTime time))
  | reached {m : Milestone} {time : Float} : column.length = times.length →
      FirstIn column target m.index → times[m.index]? = some time →
      Instant.ofEpoch? time = some m.reachedAt →
      m.elapsed.toInt = max 0 (m.reachedAt.secondsSince reference) →
      Answers column times target reference (.ok m)

theorem answers_locate : Answers column times target reference
    (locate column times target reference) := by
  by_cases hlength : column.length = times.length
  · by_cases hmem : target ∈ column
    · obtain ⟨index, first⟩ := FirstIn.of_mem hmem
      obtain ⟨time, htime⟩ := first.exists_time hlength
      rw [locate_of_firstIn hlength first htime]
      rcases ht : Instant.ofEpoch? time with _ | t
      · exact .undated hlength first htime ht
      · exact .reached hlength first htime ht (toInt_elapsed reference t)
    · rw [locate_of_not_mem hlength hmem]
      exact .absent hlength hmem
  · rw [locate_of_length_ne hlength]
    exact .mismatch hlength

/-- There is one answer. -/
theorem locate_eq_iff {answer : Except MilestoneError Milestone} :
    locate column times target reference = answer ↔
      Answers column times target reference answer := by
  refine ⟨fun h => h ▸ answers_locate, fun h => ?_⟩
  cases h with
  | mismatch hlength => exact locate_of_length_ne hlength
  | absent hlength hmem => exact locate_of_not_mem hlength hmem
  | undated hlength first htime ht => rw [locate_of_firstIn hlength first htime, ht]
  | @reached m time hlength first htime ht helapsed =>
    rw [locate_of_firstIn hlength first htime, ht]
    have : m.elapsed = Int64.ofInt (elapsedSince reference m.reachedAt) :=
      Int64.toInt_inj.1 (helapsed.trans (toInt_elapsed reference m.reachedAt).symm)
    show Except.ok (⟨_, _, _⟩ : Milestone) = _
    rw [← this]

/-- Further samples do not change a milestone. -/
theorem locate_append {m : Milestone} (h : locate column times target reference = .ok m)
    (more : List (UInt32 × Float)) :
    locate (column ++ more.map Prod.fst) (times ++ more.map Prod.snd) target reference = .ok m := by
  cases locate_eq_iff.1 h with
  | reached hlength first htime ht helapsed =>
    obtain ⟨hi, -⟩ := List.getElem?_eq_some_iff.1 htime
    refine locate_eq_iff.2 (.reached ?_ (first.append _) ?_ ht helapsed)
    · rw [List.length_append, List.length_append, hlength, List.length_map, List.length_map]
    · rw [List.getElem?_append_left hi]
      exact htime

/-- A later reference leaves the milestone where it is and its seconds no more. -/
theorem locate_later {m : Milestone} {later : Instant}
    (h : locate column times target reference = .ok m) (hr : reference.isLeap = false)
    (hl : later.isLeap = false) (hlater : reference.NotAfter later) :
    ∃ m', locate column times target later = .ok m' ∧ m'.index = m.index ∧
      m'.reachedAt = m.reachedAt ∧ m'.elapsed ≤ m.elapsed := by
  cases locate_eq_iff.1 h with
  | reached hlength first htime ht helapsed =>
    have fewer := Instant.secondsSince_antitone (Instant.isLeap_of_ofEpoch? ht) hr hl hlater
    have helapsed' := toInt_elapsed later m.reachedAt
    let m' : Milestone := ⟨m.index, m.reachedAt, Int64.ofInt (elapsedSince later m.reachedAt)⟩
    refine ⟨m', locate_eq_iff.2 (.reached hlength first htime ht helapsed'), rfl, rfl, ?_⟩
    rw [Int64.le_iff_toInt_le, helapsed, helapsed']
    omega

end Cases

/-- **The answer about a column.** Columns of different lengths are refused; otherwise a target that
does not stand in the column is reported with the number of entries; otherwise the first entry with
it decides, whose time must be an instant, and its milestone has the seconds since the reference, or
none if it lies before. -/
theorem locate_answers (column : List UInt32) (times : List Float) (target : UInt32)
    (reference : Instant) :
    let answer := locate column times target reference
    let aligned := column.length = times.length
    (∀ samples stamps, answer = .error (.lengthMismatch samples stamps) ↔
      ¬aligned ∧ samples = column.length ∧ stamps = times.length) ∧
    (∀ missed samples, answer = .error (.targetNotReached missed samples) ↔
      aligned ∧ target ∉ column ∧ missed = target ∧ samples = column.length) ∧
    (∀ time, answer = .error (.invalidTime time) ↔
      aligned ∧ ∃ index, FirstIn column target index ∧ times[index]? = some time ∧
        Instant.ofEpoch? time = none) ∧
    (∀ m, answer = .ok m ↔
      aligned ∧ FirstIn column target m.index ∧
        times[m.index]?.bind Instant.ofEpoch? = some m.reachedAt ∧
        m.elapsed.toInt = max 0 ((m.reachedAt.nanosSince reference).tdiv 1000000000)) ∧
    (∀ m, answer = .ok m →
      (∀ more : List (UInt32 × Float), locate (column ++ more.map Prod.fst)
        (times ++ more.map Prod.snd) target reference = .ok m) ∧
      (∀ beyond, target < beyond → column[m.index]? ≠ some beyond) ∧
      ∀ later : Instant, reference.isLeap = false → later.isLeap = false →
        reference.NotAfter later → ∃ m', locate column times target later = .ok m' ∧
          m'.index = m.index ∧ m'.reachedAt = m.reachedAt ∧ m'.elapsed ≤ m.elapsed) ∧
    ((∀ value ∈ column, target < value) → ∀ m, answer ≠ .ok m) := by
  intro answer aligned
  refine ⟨fun samples stamps => ?_, fun missed samples => ?_, fun time => ?_, fun m => ?_,
    fun m h => ⟨locate_append h, fun beyond hbeyond hat => ?_, fun later => locate_later h⟩,
    fun above m h => ?_⟩
  · refine locate_eq_iff.trans ⟨fun h => ?_, fun ⟨hlength, hs, ht⟩ => ?_⟩
    · cases h with
      | mismatch hlength => exact ⟨hlength, rfl, rfl⟩
    · rw [hs, ht]
      exact .mismatch hlength
  · refine locate_eq_iff.trans ⟨fun h => ?_, fun ⟨hlength, hmem, ht, hs⟩ => ?_⟩
    · cases h with
      | absent hlength hmem => exact ⟨hlength, hmem, rfl, rfl⟩
    · rw [ht, hs]
      exact .absent hlength hmem
  · refine locate_eq_iff.trans ⟨fun h => ?_, fun ⟨hlength, index, first, htime, ht⟩ => ?_⟩
    · cases h with
      | undated hlength first htime ht => exact ⟨hlength, _, first, htime, ht⟩
    · exact .undated hlength first htime ht
  · refine locate_eq_iff.trans ⟨fun h => ?_, fun ⟨hlength, first, hdated, helapsed⟩ => ?_⟩
    · cases h with
      | reached hlength first htime ht helapsed =>
        refine ⟨hlength, first, ?_, helapsed⟩
        rw [htime]
        exact ht
    · obtain ⟨time, htime, ht⟩ := Option.bind_eq_some_iff.1 hdated
      exact .reached hlength first htime ht helapsed
  · cases locate_eq_iff.1 h with
    | reached _ first =>
      have same : target = beyond := Option.some.inj (first.1.symm.trans hat)
      exact UInt32.lt_irrefl target (same ▸ hbeyond)
  · cases locate_eq_iff.1 h with
    | reached _ first => exact UInt32.lt_irrefl target (above target first.mem)

end Milestone

end FleetScaling

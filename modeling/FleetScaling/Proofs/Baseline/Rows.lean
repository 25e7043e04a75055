import FleetScaling.Baseline.Basic
import FleetScaling.Proofs.Keyed
import FleetScaling.Proofs.Text.Numerals
import Mathlib.Data.List.Nodup
import Mathlib.Data.Prod.Lex
import Mathlib.Data.String.Basic

/-!
# Rows of baselines

A baseline has metrics under paths of an instance type, a target and a strategy
(`Baseline.metrics?`), and `rows` lists its paths, each once. The rows are sorted by a key in a
lexicographic order (`Row.key`) that tells all paths apart, so there is only one such list, whatever
the order in which the collections hold their entries (`Baseline.Same.rows_eq`). A look-up finds the
times of the row with its path (`Baseline.rows_list_paths`).
-/

namespace FleetScaling

open Json Decimal

namespace Baseline

/-! ## Paths -/

/-- The metrics under a path. -/
def metrics? (b : Baseline) (instanceType target strategy : String) : Option (Keyed Int64) :=
  (b.entries.find? instanceType).bind fun targets =>
    (targets.find? target).bind fun strategies => strategies.find? strategy

/-- The path of a row. -/
def Row.path (row : Row) : String × String × String := (row.instanceType, row.target, row.strategy)

variable {b : Baseline}

theorem mem_unsortedRows_iff {row : Row} : row ∈ b.unsortedRows ↔
    ∃ metrics, b.metrics? row.instanceType row.target row.strategy = some metrics ∧
      row.times = times? metrics := by
  unfold unsortedRows metrics?
  simp only [List.mem_flatMap, List.mem_map, Option.bind_eq_some_iff, Keyed.find?_eq_some_iff]
  constructor
  · rintro ⟨⟨i, targets⟩, hi, ⟨t, strategies⟩, ht, ⟨s, metrics⟩, hs, rfl⟩
    exact ⟨metrics, ⟨targets, hi, strategies, ht, hs⟩, rfl⟩
  · rintro ⟨metrics, ⟨targets, hi, strategies, ht, hs⟩, htimes⟩
    exact ⟨_, hi, _, ht, _, hs, by rw [← htimes]⟩

/-- What is listed for each entry, with its key, is listed once. -/
theorem nodup_flatMap_entries {α β : Type} {c : Keyed α} {f : String × α → List β} (key : β → String)
    (hf : ∀ entry ∈ c.entries, (f entry).Nodup)
    (hkey : ∀ entry ∈ c.entries, ∀ b ∈ f entry, key b = entry.1) : (c.entries.flatMap f).Nodup := by
  refine List.nodup_flatMap.2 ⟨hf, ?_⟩
  refine (List.pairwise_map.1 c.nodup).imp_of_mem fun {e e'} he he' hne => ?_
  intro b hb hb'
  exact hne ((hkey e he b hb).symm.trans (hkey e' he' b hb'))

theorem nodup_unsortedRows (b : Baseline) : b.unsortedRows.Nodup := by
  unfold unsortedRows
  -- at each level the key of an entry stands in its rows, so rows of two entries differ
  refine nodup_flatMap_entries Row.instanceType (fun ⟨i, targets⟩ _ => ?_) ?_
  · refine nodup_flatMap_entries Row.target (fun ⟨t, strategies⟩ _ => ?_) ?_
    · refine List.Nodup.of_map Row.strategy ?_
      rw [List.map_map]
      exact strategies.nodup
    · rintro ⟨t, strategies⟩ _ row hrow
      obtain ⟨⟨s, metrics⟩, _, rfl⟩ := List.mem_map.1 hrow
      rfl
  · rintro ⟨i, targets⟩ _ row hrow
    obtain ⟨⟨t, strategies⟩, _, hrow⟩ := List.mem_flatMap.1 hrow
    obtain ⟨⟨s, metrics⟩, _, rfl⟩ := List.mem_map.1 hrow
    rfl

theorem mem_rows_iff {row : Row} : row ∈ b.rows ↔
    ∃ metrics, b.metrics? row.instanceType row.target row.strategy = some metrics ∧
      row.times = times? metrics := by
  rw [rows, List.mem_mergeSort, mem_unsortedRows_iff]

theorem nodup_rows (b : Baseline) : b.rows.Nodup :=
  (List.mergeSort_perm _ _).nodup_iff.2 b.nodup_unsortedRows

/-- A path has one row at most. -/
theorem eq_of_path {row row' : Row} (h : row ∈ b.rows) (h' : row' ∈ b.rows)
    (hpath : row.path = row'.path) : row = row' := by
  obtain ⟨i, t, s, times⟩ := row
  obtain ⟨i', t', s', times'⟩ := row'
  cases hpath
  obtain ⟨metrics, hm, htimes⟩ := mem_rows_iff.1 h
  obtain ⟨metrics', hm', htimes'⟩ := mem_rows_iff.1 h'
  cases hm.symm.trans hm'
  exact congrArg (Row.mk i t s) (htimes.trans htimes'.symm)

/-- The rows with a path are the one that its metrics make, or none. -/
theorem filter_path (b : Baseline) (i t s : String) :
    b.rows.filter (fun row => row.path = (i, t, s)) =
      ((b.metrics? i t s).map fun metrics => ⟨i, t, s, times? metrics⟩).toList := by
  cases hm : b.metrics? i t s with
  | none =>
    refine List.filter_eq_nil_iff.2 fun row hrow hpath => ?_
    obtain ⟨metrics, hmetrics, _⟩ := mem_rows_iff.1 hrow
    cases of_decide_eq_true hpath
    cases hm.symm.trans hmetrics
  | some metrics =>
    have hmem : (⟨i, t, s, times? metrics⟩ : Row) ∈ b.rows := mem_rows_iff.2 ⟨metrics, hm, rfl⟩
    refine List.perm_singleton.1 ((List.perm_ext_iff_of_nodup (b.nodup_rows.filter _)
      (List.nodup_singleton _)).2 fun row => ?_)
    rw [List.mem_filter, List.mem_singleton, decide_eq_true_iff]
    constructor
    · rintro ⟨hrow, hpath⟩
      exact eq_of_path hrow hmem hpath
    · rintro rfl
      exact ⟨hmem, rfl⟩

/-! ## The order of rows -/

/-- The number that a target is sorted by is the one that it writes, if this fits into 64 bits, and
otherwise the largest that does. -/
theorem targetRank_eq_iff {target : String} {n : Nat} : targetRank target = n ↔
    (WritesNatural target.toList n ∧ n < 2 ^ 64) ∨
      (n = 2 ^ 64 - 1 ∧ ∀ m < 2 ^ 64, ¬WritesNatural target.toList m) := by
  have read (m : Nat) : natural? (twoPow 64) target.toList = some m ↔
      WritesNatural target.toList m ∧ m < 2 ^ 64 := natural?_eq_some_iff
  unfold targetRank
  cases h : natural? (twoPow 64) target.toList with
  | none =>
    have unread : ∀ m < 2 ^ 64, ¬WritesNatural target.toList m := fun m hm hw => by
      cases h.symm.trans ((read m).2 ⟨hw, hm⟩)
    rw [Option.getD_none]
    constructor
    · rintro rfl
      exact Or.inr ⟨rfl, unread⟩
    · rintro (⟨hw, hn⟩ | ⟨rfl, _⟩)
      · exact absurd hw (unread n hn)
      · rfl
  | some m =>
    have hm := (read m).1 h
    rw [Option.getD_some]
    constructor
    · rintro rfl
      exact Or.inl hm
    · rintro (hn | ⟨_, unread⟩)
      · exact Option.some.inj (h.symm.trans ((read n).2 hn))
      · exact absurd hm.1 (unread m hm.2)

/-- A row comes before another: by instance type, then by target as a number, then by target as a
text, then by strategy. -/
def Row.Precedes (a b : Row) : Prop :=
  a.instanceType < b.instanceType ∨ a.instanceType = b.instanceType ∧
    (targetRank a.target < targetRank b.target ∨ targetRank a.target = targetRank b.target ∧
      (a.target < b.target ∨ a.target = b.target ∧ a.strategy < b.strategy))

/-- What rows are sorted by. -/
def Row.key (row : Row) : String ×ₗ Nat ×ₗ String ×ₗ String :=
  toLex (row.instanceType, toLex (targetRank row.target, toLex (row.target, row.strategy)))

theorem Row.precedes_iff {a b : Row} : a.Precedes b ↔ a.key < b.key := by
  unfold Precedes key
  simp only [Prod.Lex.toLex_lt_toLex]

theorem Row.key_inj {a b : Row} : a.key = b.key ↔ a.path = b.path := by
  constructor
  · intro h
    obtain ⟨hi, h⟩ := Prod.mk.inj (toLex.injective h)
    obtain ⟨_, h⟩ := Prod.mk.inj (toLex.injective h)
    exact Prod.ext hi (toLex.injective h)
  · intro h
    obtain ⟨hi, h⟩ := Prod.mk.inj h
    obtain ⟨ht, hs⟩ := Prod.mk.inj h
    unfold key
    rw [hi, ht, hs]

theorem Row.isBefore_iff {a b : Row} : a.isBefore b = true ↔ a.key ≤ b.key := by
  unfold isBefore key
  simp only [Prod.Lex.toLex_le_toLex]
  by_cases hi : a.instanceType = b.instanceType
  · rw [if_neg (not_not_intro hi), hi, or_iff_right (lt_irrefl _), and_iff_right rfl]
    by_cases hr : targetRank a.target = targetRank b.target
    · rw [if_neg (not_not_intro hr), hr, or_iff_right (lt_irrefl _), and_iff_right rfl]
      by_cases ht : a.target = b.target
      · rw [if_neg (not_not_intro ht), ht, or_iff_right (lt_irrefl _), and_iff_right rfl,
          decide_eq_true_iff]
      · rw [if_pos ht, decide_eq_true_iff, or_iff_left fun h => ht h.1]
    · rw [if_pos hr, decide_eq_true_iff, or_iff_left fun h => hr h.1]
  · rw [if_pos hi, decide_eq_true_iff, or_iff_left fun h => hi h.1]

theorem sorted_rows (b : Baseline) : b.rows.Pairwise fun row row' => row.key ≤ row'.key := by
  refine (List.pairwise_mergeSort (fun r s t hrs hst => ?_) (fun r s => ?_) _).imp Row.isBefore_iff.1
  · exact Row.isBefore_iff.2 ((Row.isBefore_iff.1 hrs).trans (Row.isBefore_iff.1 hst))
  · rw [Bool.or_eq_true, Row.isBefore_iff, Row.isBefore_iff]
    exact le_total r.key s.key

theorem pairwise_rows (b : Baseline) : b.rows.Pairwise Row.Precedes := by
  refine (b.sorted_rows.and b.nodup_rows).imp_of_mem fun {row row'} hrow hrow' ⟨hle, hne⟩ => ?_
  exact Row.precedes_iff.2
    (lt_of_le_of_ne hle fun h => hne (eq_of_path hrow hrow' (Row.key_inj.1 h)))

/-! ## Baselines that are the same -/

/-- Two baselines have the same seconds under the same names, in whatever order. -/
def Same (b b' : Baseline) : Prop :=
  Keyed.Same (Keyed.Same (Keyed.Same (Keyed.Same Eq))) b.entries b'.entries

theorem Same.refl (b : Baseline) : b.Same b :=
  .of_perm (fun _ => .of_perm (fun _ => .of_perm (fun _ => .of_perm (fun _ => rfl) (.refl _))
    (.refl _)) (.refl _)) (.refl _)

theorem Same.symm {b b' : Baseline} (h : b.Same b') : b'.Same b :=
  Keyed.Same.symm (Keyed.Same.symm (Keyed.Same.symm (Keyed.Same.symm Eq.symm))) h

section Same

variable {b b' : Baseline} (h : b.Same b')

include h

theorem Same.metrics (i t s : String) :
    Option.Rel (Keyed.Same Eq) (b.metrics? i t s) (b'.metrics? i t s) := by
  unfold metrics?
  rcases Keyed.exists_of_rel (h i) with ⟨hi, hi'⟩ | ⟨targets, targets', hi, hi', hsame⟩
  · rw [hi, hi']
    exact .none
  · rw [hi, hi', Option.bind_some, Option.bind_some]
    rcases Keyed.exists_of_rel (hsame t) with ⟨ht, ht'⟩ | ⟨strategies, strategies', ht, ht', hsame⟩
    · rw [ht, ht']
      exact .none
    · rw [ht, ht', Option.bind_some, Option.bind_some]
      exact hsame s

theorem Same.times (i t s : String) :
    (b.metrics? i t s).map times? = (b'.metrics? i t s).map times? := by
  rcases Keyed.exists_of_rel (h.metrics i t s) with ⟨hm, hm'⟩ | ⟨metrics, metrics', hm, hm', hsame⟩
  · rw [hm, hm']
  · rw [hm, hm', Option.map_some, Option.map_some]
    unfold times?
    simp only [hsame.find?_eq]

theorem Same.mem_rows {row : Row} (hrow : row ∈ b.rows) : row ∈ b'.rows := by
  obtain ⟨metrics, hm, htimes⟩ := mem_rows_iff.1 hrow
  have := h.times row.instanceType row.target row.strategy
  rw [hm, Option.map_some] at this
  obtain ⟨metrics', hm', htimes'⟩ := Option.map_eq_some_iff.1 this.symm
  exact mem_rows_iff.2 ⟨metrics', hm', htimes.trans htimes'.symm⟩

/-- Rows do not depend on the order in which entries are held. -/
theorem Same.rows_eq : b.rows = b'.rows := by
  have same : b.rows.Perm b'.rows := (List.perm_ext_iff_of_nodup b.nodup_rows b'.nodup_rows).2
    fun row => ⟨h.mem_rows, h.symm.mem_rows⟩
  -- both are sorted, and rows that sort alike have one path
  refine same.eq_of_pairwise (fun row row' hrow hrow' hle hle' => ?_) b.sorted_rows b'.sorted_rows
  exact eq_of_path hrow (h.symm.mem_rows hrow') (Row.key_inj.1 (le_antisymm hle hle'))

end Same

/-! ## Look-ups -/

theorem times?_eq_some_iff {metrics : Keyed Int64} {times : Times} : times? metrics = some times ↔
    metrics.find? Metric.instancesUp.name = some times.instancesUp ∧
      metrics.find? Metric.nodesUp.name = some times.nodesUp ∧
      metrics.find? Metric.down.name = some times.down := by
  unfold times?
  constructor
  · intro h
    obtain ⟨x, hx, h⟩ := Option.bind_eq_some_iff.1 h
    obtain ⟨y, hy, h⟩ := Option.bind_eq_some_iff.1 h
    obtain ⟨z, hz, h⟩ := Option.bind_eq_some_iff.1 h
    cases h
    exact ⟨hx, hy, hz⟩
  · rintro ⟨hx, hy, hz⟩
    rw [hx, hy, hz]
    rfl

theorem isSome_times?_iff {metrics : Keyed Int64} :
    (times? metrics).isSome ↔ ∀ metric : Metric, (metrics.find? metric.name).isSome := by
  constructor
  · intro h metric
    obtain ⟨times, htimes⟩ := Option.isSome_iff_exists.1 h
    obtain ⟨hx, hy, hz⟩ := times?_eq_some_iff.1 htimes
    cases metric with
    | instancesUp => rw [hx]; rfl
    | nodesUp => rw [hy]; rfl
    | down => rw [hz]; rfl
  · intro h
    obtain ⟨x, hx⟩ := Option.isSome_iff_exists.1 (h .instancesUp)
    obtain ⟨y, hy⟩ := Option.isSome_iff_exists.1 (h .nodesUp)
    obtain ⟨z, hz⟩ := Option.isSome_iff_exists.1 (h .down)
    have htimes : times? metrics = some ⟨x, y, z⟩ := times?_eq_some_iff.2 ⟨hx, hy, hz⟩
    rw [htimes]
    rfl

theorem lookup_eq (b : Baseline) (i : String) (t : UInt32) (s : Strategy) :
    b.lookup i t s = (b.metrics? i (toString t) s.name).bind times? := by
  unfold lookup metrics?
  simp only [bind, Option.bind_assoc]

theorem Same.lookup_eq {b b' : Baseline} (h : b.Same b') (i : String) (t : UInt32) (s : Strategy) :
    b.lookup i t s = b'.lookup i t s := by
  have joined (b : Baseline) :
      b.lookup i t s = ((b.metrics? i (toString t) s.name).map times?).join := by
    rw [Baseline.lookup_eq]
    cases b.metrics? i (toString t) s.name <;> rfl
  rw [joined, joined, h.times]

/-- The times of a path are those of its row. -/
theorem lookup_eq_some_iff {i : String} {t : UInt32} {s : Strategy} {times : Times} :
    b.lookup i t s = some times ↔ ⟨i, toString t, s.name, some times⟩ ∈ b.rows := by
  rw [lookup_eq, Option.bind_eq_some_iff, mem_rows_iff]
  exact exists_congr fun metrics => and_congr_right fun _ => eq_comm

theorem lookup_eq_none_iff {i : String} {t : UInt32} {s : Strategy} : b.lookup i t s = none ↔
    ∀ row ∈ b.rows, row.path = (i, toString t, s.name) → row.times = none := by
  constructor
  · rintro h ⟨_, _, _, times⟩ hrow ⟨⟩
    cases times with
    | none => rfl
    | some times => cases h.symm.trans (lookup_eq_some_iff.2 hrow)
  · intro h
    by_contra hne
    obtain ⟨times, htimes⟩ := Option.ne_none_iff_exists'.1 hne
    cases h _ (lookup_eq_some_iff.1 htimes) rfl

/-- **The rows of a baseline.** Each path of the baseline has one row and there are no others; they
are sorted strictly by instance type, by the number that the target writes, which is the largest
where it writes none of 64 bits, by the target's text and by strategy, so that baselines that hold
the same in another order have the same rows. A row has times exactly if all three metrics are
there, and a look-up finds the times of the row with its path. -/
theorem rows_list_paths (b : Baseline) :
    (∀ i t s : String, b.rows.filter (fun row => row.path = (i, t, s)) =
      ((b.metrics? i t s).map fun metrics => ⟨i, t, s, times? metrics⟩).toList) ∧
    b.rows.Pairwise Row.Precedes ∧
    (∀ target n, targetRank target = n ↔ (WritesNatural target.toList n ∧ n < 2 ^ 64) ∨
      (n = 2 ^ 64 - 1 ∧ ∀ m < 2 ^ 64, ¬WritesNatural target.toList m)) ∧
    (∀ b' : Baseline, b.Same b' → b.rows = b'.rows) ∧
    (∀ metrics, ((times? metrics).isSome ↔ ∀ metric : Metric, (metrics.find? metric.name).isSome) ∧
      ∀ times, times? metrics = some times ↔
        metrics.find? Metric.instancesUp.name = some times.instancesUp ∧
          metrics.find? Metric.nodesUp.name = some times.nodesUp ∧
          metrics.find? Metric.down.name = some times.down) ∧
    ∀ (i : String) (t : UInt32) (s : Strategy),
      (∀ times, b.lookup i t s = some times ↔ ⟨i, toString t, s.name, some times⟩ ∈ b.rows) ∧
      (b.lookup i t s = none ↔
        ∀ row ∈ b.rows, row.path = (i, toString t, s.name) → row.times = none) :=
  ⟨b.filter_path, b.pairwise_rows, fun _ _ => targetRank_eq_iff, fun _ h => h.rows_eq,
    fun _ => ⟨isSome_times?_iff, fun _ => times?_eq_some_iff⟩,
    fun _ _ _ => ⟨fun _ => lookup_eq_some_iff, lookup_eq_none_iff⟩⟩

/-- A baseline with complete metrics under some targets. -/
def crowded (targets : List String) (nodup : targets.Nodup) : Baseline where
  entries := ⟨[("c5.large", {
    entries := targets.map fun target => (target, ⟨[("best-effort",
      ⟨[("scale_up_time_ec2", 50), ("scale_up_time_scheduler", 70), ("scale_down_time", 30)],
        by decide⟩)], List.nodup_singleton _⟩)
    nodup := by
      rw [List.map_map]
      exact (List.map_id targets).symm ▸ nodup })], List.nodup_singleton _⟩

theorem crowded_same {targets targets' : List String} (nodup : targets.Nodup)
    (h : targets.Perm targets') : (crowded targets nodup).Same (crowded targets' (h.nodup nodup)) := by
  intro key
  by_cases hkey : key = "c5.large"
  · subst hkey
    exact .some (.of_perm (fun _ => .of_perm (fun _ => .of_perm (fun _ => rfl) (.refl _)) (.refl _))
      (h.map _))
  · have absent {c : Keyed (Keyed (Keyed Int64))} : [("c5.large", c)].lookup key = none := by
      rw [List.lookup_cons, beq_eq_false_iff_ne.2 hkey, List.lookup_nil]
    show Option.Rel _ (List.lookup _ _) (List.lookup _ _)
    rw [crowded, crowded, absent, absent]
    exact .none

/-- Targets that write the same number, or none, are sorted by their texts. -/
theorem rows_list_paths_crowded :
    let shuffled := crowded ["1000", "x", "+1000", "01000", "18446744073709551615"] (by decide)
    let sorted := crowded ["+1000", "01000", "1000", "18446744073709551615", "x"] (by decide)
    shuffled.Same sorted ∧ shuffled.rows = sorted.rows ∧
      shuffled.rows.map Row.target = ["+1000", "01000", "1000", "18446744073709551615", "x"] ∧
      ⟨"c5.large", "1000", "best-effort", some ⟨50, 70, 30⟩⟩ ∈ shuffled.rows ∧
      ∀ row ∈ shuffled.rows, row.path = ("c5.large", "2000", "best-effort") → row.times = none := by
  intro shuffled sorted
  have hsame : shuffled.Same sorted := crowded_same _ (by decide)
  obtain ⟨_, _, _, same, _, found⟩ := rows_list_paths shuffled
  have hrows : sorted.rows = sorted.unsortedRows := List.mergeSort_of_pairwise (by decide +kernel)
  refine ⟨hsame, same sorted hsame, ?_,
    ((found "c5.large" 1000 .bestEffort).1 _).1 (by decide +kernel),
    (found "c5.large" 2000 .bestEffort).2.1 (by decide +kernel)⟩
  rw [same sorted hsame, hrows]
  rfl

end Baseline

end FleetScaling

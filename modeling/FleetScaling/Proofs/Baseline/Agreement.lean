import FleetScaling.Operator.Program
import FleetScaling.Proofs.Run.Measures
import Mathlib.Algebra.GroupWithZero.Nat
import Mathlib.Data.List.Forall2
import Mathlib.Data.List.Nodup

/-!
# One comparison, two checks

Results are compared with a baseline twice: at the end of a cycle, where metrics that took longer
become soft failures, and offline, where all compared metrics become rows. `checks_agree` says that
the failing rows of a result are the failures that a cycle records for it, one for one and with the
same numbers, that the results without rows are those for which a cycle logs that there is no
baseline, and so that the offline check fails exactly if a cycle would have recorded something, with
the number of all that would have been recorded.
-/

namespace FleetScaling

variable {ω : Type}

/-! ## Rows and failures -/

/-- A row and a failure speak of the same target and metric, and of the same two numbers. -/
def CheckRow.Matches (row : CheckRow) (f : SoftFailure) : Prop :=
  f.target = row.target ∧ f.check = row.metric ∧ ∃ observed expected : Int64,
    row.observed = toString observed ++ "s" ∧ row.baseline = toString expected ++ "s" ∧
    f.actual = toString observed ∧ f.expected = "<= " ++ toString expected

namespace MetricCheck

/-- The failure of a check that did not pass. -/
def failure (target : UInt32) (check : MetricCheck) : SoftFailure :=
  ⟨target, check.metric.name, "<= " ++ toString check.expected, toString check.observed⟩

theorem softFailure?_eq (target : UInt32) (check : MetricCheck) :
    check.softFailure? target = if check.passed then none else some (check.failure target) := by
  unfold softFailure? SoftFailure.unlessAtMost passed
  simp only [decide_eq_true_iff]
  rfl

theorem softFailure?_eq_some_iff {target : UInt32} {check : MetricCheck} {f : SoftFailure} :
    check.softFailure? target = some f ↔ check.passed = false ∧ f = check.failure target := by
  rw [softFailure?_eq]
  cases check.passed with
  | true => exact ⟨nofun, fun h => nomatch h.1⟩
  | false => exact ⟨fun h => ⟨rfl, (Option.some.inj h).symm⟩, fun h => congrArg some h.2.symm⟩

theorem matches_failure (r : CycleResult) (check : MetricCheck) :
    (CheckRow.ofCheck r check).Matches (check.failure r.target) :=
  ⟨rfl, rfl, check.observed, check.expected, rfl, rfl, rfl, rfl⟩

end MetricCheck

theorem CheckRow.verdict_eq_fail (row : CheckRow) : row.verdict = "fail" ↔ row.passed = false := by
  unfold verdict
  cases row.passed <;> decide

/-- The rows that fail and the failures that are recorded match one for one. -/
theorem forall₂_matches (r : CycleResult) (checks : List MetricCheck) :
    List.Forall₂ CheckRow.Matches
      ((checks.map (CheckRow.ofCheck r)).filter fun row => row.verdict = "fail")
      (checks.filterMap (MetricCheck.softFailure? r.target)) := by
  induction checks with
  | nil => exact .nil
  | cons check checks ih =>
    cases hp : check.passed with
    | true =>
      have hv : ¬(CheckRow.ofCheck r check).verdict = "fail" := fun h =>
        Bool.noConfusion (hp.symm.trans ((CheckRow.verdict_eq_fail _).1 h))
      have hf : check.softFailure? r.target = none := by
        rw [MetricCheck.softFailure?_eq, hp]
        rfl
      rw [List.map_cons, List.filter_cons_of_neg (by simpa using hv), List.filterMap_cons_none hf]
      exact ih
    | false =>
      have hv : (CheckRow.ofCheck r check).verdict = "fail" := (CheckRow.verdict_eq_fail _).2 hp
      have hf : check.softFailure? r.target = some (check.failure r.target) :=
        MetricCheck.softFailure?_eq_some_iff.2 ⟨hp, rfl⟩
      rw [List.map_cons, List.filter_cons_of_pos (by simpa using hv), List.filterMap_cons_some hf]
      exact .cons (MetricCheck.matches_failure r check) ih

/-! ## The comparison of one result -/

namespace Baseline

variable {b : Baseline} {r : CycleResult}

/-- The checks of a result, none if it has no baseline. -/
def checksOf (b : Baseline) (r : CycleResult) : List MetricCheck := (b.checks? r).getD []

/-- The rows of a result. -/
def rowsOf (b : Baseline) (r : CycleResult) : List CheckRow :=
  (b.checksOf r).map (CheckRow.ofCheck r)

/-- Either there is nothing to compare with, or each of the three metrics is compared once. -/
theorem checksOf_cases (b : Baseline) (r : CycleResult) :
    ((b.checks? r).isNone ∧ b.checksOf r = []) ∨
      (¬(b.checks? r).isNone ∧
        (b.checksOf r).map (fun check => check.metric) = [.instancesUp, .nodesUp, .down]) := by
  unfold checksOf checks?
  cases b.lookup r.computeNode r.target r.strategy with
  | none => exact Or.inl ⟨rfl, rfl⟩
  | some times => exact Or.inr ⟨nofun, rfl⟩

theorem isNone_checks?_iff : (b.checks? r).isNone ↔ b.rowsOf r = [] := by
  unfold rowsOf
  rcases b.checksOf_cases r with ⟨hn, hc⟩ | ⟨hn, hc⟩
  · rw [hc]
    exact iff_of_true hn rfl
  · refine iff_of_false hn fun h => ?_
    rw [List.map_eq_nil_iff.1 h] at hc
    cases hc

/-- Two checks of a result are of different metrics. -/
theorem eq_of_metric_name {c c' : MetricCheck} (hc : c ∈ b.checksOf r) (hc' : c' ∈ b.checksOf r)
    (h : c.metric.name = c'.metric.name) : c = c' := by
  have nodup : ((b.checksOf r).map fun check => check.metric).Nodup := by
    rcases b.checksOf_cases r with ⟨_, hm⟩ | ⟨_, hm⟩ <;> rw [hm]
    · exact List.nodup_nil
    · decide
  refine List.inj_on_of_nodup_map nodup hc hc' ?_
  revert h
  cases c.metric <;> cases c'.metric <;> decide

/-- A row fails exactly if a failure that matches it is recorded. -/
theorem verdict_eq_fail_iff {row : CheckRow} (h : row ∈ b.rowsOf r) :
    row.verdict = "fail" ↔ ∃ f ∈ b.regressions r, row.Matches f := by
  obtain ⟨check, hc, rfl⟩ := List.mem_map.1 h
  rw [CheckRow.verdict_eq_fail]
  constructor
  · intro hp
    exact ⟨check.failure r.target, List.mem_filterMap.2 ⟨check, hc,
      MetricCheck.softFailure?_eq_some_iff.2 ⟨hp, rfl⟩⟩, MetricCheck.matches_failure r check⟩
  · rintro ⟨f, hf, _, hmetric, _⟩
    obtain ⟨check', hc', hf⟩ := List.mem_filterMap.1 hf
    obtain ⟨hp, rfl⟩ := MetricCheck.softFailure?_eq_some_iff.1 hf
    rw [eq_of_metric_name hc' hc hmetric] at hp
    exact hp

/-- The results that are missing are those without rows. -/
theorem missing_eq (b : Baseline) (results : List CycleResult) :
    b.missing results = results.filter fun r => (b.rowsOf r).isEmpty := by
  refine List.filter_congr fun r _ => ?_
  rw [Bool.eq_iff_iff, isNone_checks?_iff, List.isEmpty_iff]

/-- The rows of a result are those of the three metrics, in this order, unless there are none. -/
theorem rowsOf_cases (b : Baseline) (r : CycleResult) : b.rowsOf r = [] ∨
    (b.rowsOf r).map (fun row => (row.target, row.strategy, row.metric)) =
      [(r.target, r.strategy.name, "scale_up_time_ec2"),
        (r.target, r.strategy.name, "scale_up_time_scheduler"),
        (r.target, r.strategy.name, "scale_down_time")] := by
  unfold rowsOf
  rcases b.checksOf_cases r with ⟨_, hc⟩ | ⟨_, hc⟩
  · rw [hc]
    exact Or.inl rfl
  · have h := congrArg (List.map fun m : Metric => (r.target, r.strategy.name, m.name)) hc
    rw [List.map_map] at h
    rw [List.map_map]
    exact Or.inr h

/-- As many rows fail as failures are recorded. -/
theorem failedCount_checkRows (b : Baseline) (results : List CycleResult) :
    failedCount (b.checkRows results) =
      (results.map fun r => (b.regressions r).length).sum := by
  have one (r : CycleResult) : (b.rowsOf r).countP (fun row => !row.passed) =
      (b.regressions r).length := by
    have failed (row : CheckRow) : (!row.passed) = decide (row.verdict = "fail") := by
      rw [Bool.eq_iff_iff, decide_eq_true_iff, row.verdict_eq_fail, Bool.not_eq_true']
    simp only [failed]
    rw [List.countP_eq_length_filter]
    exact (forall₂_matches r (b.checksOf r)).length_eq
  show ((results.flatMap b.rowsOf).countP fun row => !row.passed) = _
  rw [List.countP_flatMap]
  exact congrArg List.sum (List.map_congr_left fun r _ => one r)

end Baseline

/-! ## The check of a run -/

/-- A run logs that there is no baseline for the results without rows. -/
theorem mem_missingNotes {context : RunContext} {site : Site ω} {b : Baseline} {r : CycleResult}
    {notes : List SiteNote} :
    RunNote.own (.logged (Journal.baselineMissing site.fleet.name r.computeNode r.target
        r.strategy.name context.baselinePath)) ∈ notes.map .party ++ missingNotes context site r b ↔
      b.rowsOf r = [] := by
  rw [List.mem_append, ← Baseline.isNone_checks?_iff]
  unfold missingNotes
  constructor
  · rintro (h | h)
    · obtain ⟨_, _, h⟩ := List.mem_map.1 h
      cases h
    · split at h
      · assumption
      · cases h
  · intro h
    rw [if_pos h]
    exact Or.inr (List.mem_singleton_self _)

/-! ## The offline check -/

theorem printLines_apply (lines : List String) : printLines lines () = ⟨.ok (), (), lines⟩ := by
  induction lines with
  | nil => rfl
  | cons line lines ih =>
    show (Operation.note line >>= fun _ => printLines lines) () = _
    rw [Operation.bind_of_ok (a := ()) rfl, ih]
    rfl

theorem printAs_ok (format : OutputFormat) (value : Json.Value) (lines : List String) :
    (printAs format value lines ()).outcome = .ok () := by
  cases format with
  | json => rfl
  | table => exact congrArg Trace.outcome (printLines_apply lines)

namespace OperatorSurroundings

/-- Where an offline check takes its results from: a directory of reports, or else the bench. -/
def resultsFrom (s : OperatorSurroundings) (server : Server) :
    Option String → Except Failure (List CycleResult)
  | some directory => s.reportedResults directory
  | none => server.results.map (·.results)

/-- What an offline check does once it has a baseline and results. -/
def compareResults (s : OperatorSurroundings) (format : OutputFormat) (path : String) (b : Baseline)
    (results : List CycleResult) : Printing Unit := do
  if results.isEmpty then .fail (.of .nothingToCheck)
  let rows := b.checkRows results
  printAs format (.list (rows.map CheckRow.toValue))
    (comparisonView s.palette path rows (b.missing results))
  if failedCount rows ≠ 0 then .fail (.of (.regressed (failedCount rows)))

variable {s : OperatorSurroundings} {server : Server} {format : OutputFormat} {path : String}
  {reports : Option String} {b : Baseline} {results : List CycleResult}

theorem checkBaseline_of_found (loaded : s.baseline path = .ok b)
    (found : s.resultsFrom server reports = .ok results) :
    s.checkBaseline server format path reports = s.compareResults format path b results := by
  have h : s.checkBaseline server format path reports =
      Operation.ofExcept (s.baseline path) >>= fun b =>
      Operation.ofExcept (s.resultsFrom server reports) >>= s.compareResults format path b := by
    cases reports <;> rfl
  rw [h, loaded, found]
  rfl

/-- An offline check that has something to check fails exactly if some row does. -/
theorem compareResults_outcome (some_ : results ≠ []) :
    (s.compareResults format path b results ()).outcome =
      if failedCount (b.checkRows results) = 0 then .ok ()
      else .error (.of (.regressed (failedCount (b.checkRows results)))) := by
  obtain ⟨r, rest, rfl⟩ := List.exists_cons_of_ne_nil some_
  have printed := printAs_ok format (.list ((b.checkRows (r :: rest)).map CheckRow.toValue))
    (comparisonView s.palette path (b.checkRows (r :: rest)) (b.missing (r :: rest)))
  show ((printAs format _ _ >>= fun _ => _) ()).outcome = _
  rw [Operation.bind_of_ok printed]
  by_cases h : failedCount (b.checkRows (r :: rest)) = 0
  · simp only [h]
    rfl
  · simp only [h, ne_eq, not_false_eq_true]
    rfl

end OperatorSurroundings

/-! ## Agreement -/

/-- **One comparison, two checks.** A cycle that loads the same baseline checks every result without
failing. Each result gives the rows of its three metrics, or is missing once, and then the cycle logs
that it has no baseline. The rows that fail and the failures that the cycle records match one for
one. So an offline check of some results succeeds if a cycle would record nothing for them, and
otherwise it fails with the number of all failures that would be recorded. -/
theorem checks_agree (context : RunContext) (site : Site ω) (world : RunWorld ω)
    {content : Except FileError String} {b : Baseline}
    (read : (site.readFile context.baselinePath world.site).outcome = .ok content)
    (loaded : Baseline.ofFile context.baselinePath content = .ok b) (results : List CycleResult) :
    let done (r : CycleResult) := checkBaseline context site r world
    let recorded (r : CycleResult) :=
      (done r).world.soft.failures.drop world.soft.failures.length
    (b.checkRows results = results.flatMap b.rowsOf ∧
      b.missing results = results.filter fun r => (b.rowsOf r).isEmpty) ∧
    (∀ r, (b.rowsOf r = [] ∨ (b.rowsOf r).map (fun row => (row.target, row.strategy, row.metric)) =
        [(r.target, r.strategy.name, "scale_up_time_ec2"),
          (r.target, r.strategy.name, "scale_up_time_scheduler"),
          (r.target, r.strategy.name, "scale_down_time")]) ∧
      (done r).outcome = .ok () ∧
      (RunNote.own (.logged (Journal.baselineMissing site.fleet.name r.computeNode r.target
        r.strategy.name context.baselinePath)) ∈ (done r).notes ↔ b.rowsOf r = []) ∧
      (∀ row ∈ b.rowsOf r, row.verdict = "fail" ↔ ∃ f ∈ recorded r, row.Matches f) ∧
      List.Forall₂ CheckRow.Matches ((b.rowsOf r).filter fun row => row.verdict = "fail")
        (recorded r)) ∧
    ∀ (s : OperatorSurroundings) server format path reports, s.baseline path = .ok b →
      s.resultsFrom server reports = .ok results → results ≠ [] →
      let offline := s.checkBaseline server format path reports ()
      ((∀ r ∈ results, recorded r = []) → offline.outcome = .ok ()) ∧
      ((∃ r ∈ results, recorded r ≠ []) → offline.outcome =
        .error (.of (.regressed (results.map fun r => (recorded r).length).sum))) := by
  intro done recorded
  have hdone (r : CycleResult) : done r = _ := checkBaseline_of_ok read loaded
  have hrecorded (r : CycleResult) : recorded r = b.regressions r := by
    show (done r).world.soft.failures.drop _ = _
    rw [hdone]
    exact List.drop_left
  refine ⟨⟨rfl, b.missing_eq results⟩, fun r => ⟨b.rowsOf_cases r, ?_, ?_, ?_, ?_⟩, ?_⟩
  · rw [hdone]
  · rw [hdone]
    exact mem_missingNotes
  · rw [hrecorded]
    exact fun row h => Baseline.verdict_eq_fail_iff h
  · rw [hrecorded]
    exact forall₂_matches r (b.checksOf r)
  · intro s server format path reports hb found some_ offline
    have total : (results.map fun r => (recorded r).length).sum =
        failedCount (b.checkRows results) := by
      rw [b.failedCount_checkRows]
      exact congrArg List.sum (List.map_congr_left fun r _ => congrArg List.length (hrecorded r))
    have none_failed : failedCount (b.checkRows results) = 0 ↔ ∀ r ∈ results, recorded r = [] := by
      rw [← total, List.sum_eq_zero_iff_forall_eq_nat, List.forall_mem_map]
      exact forall₂_congr fun r _ => List.length_eq_zero_iff
    have outcome : offline.outcome = _ :=
      (congrArg (fun check => (check ()).outcome)
        (OperatorSurroundings.checkBaseline_of_found hb found)).trans
        (OperatorSurroundings.compareResults_outcome some_)
    rw [outcome, total]
    constructor
    · intro h
      rw [if_pos (none_failed.2 h)]
    · rintro ⟨r, hr, h⟩
      rw [if_neg fun hz => h (none_failed.1 hz r hr)]

/-! ## A late result -/

/-- A result that took ten seconds longer than its baseline allows. -/
def lateResult : CycleResult :=
  ⟨"us-east-1", "alinux2", "c5.large", "c5.xlarge", 2, .bestEffort, 50, 70, 30⟩

/-- What a bench says that has this result; short pieces are read faster than one long text. -/
def lateAnswer : List Char :=
  ["\x7b\"results\":[\x7b", "\"Region\":\"us-east-1\",", "\"OS\":\"alinux2\",", "\"ComputeNode\":",
    "\"c5.large\",", "\"HeadNode\":", "\"c5.xlarge\",", "\"ScalingTarget\":2,",
    "\"ScalingStrategy\":", "\"best-effort\",", "\"ScaleUpTimeEC2\":50,", "\"ScaleUpTime",
    "Scheduler\":70,", "\"ScaleDownTime\":30\x7d],", "\"assertion_", "failures\":[]\x7d"].flatMap
      String.toList

/-- The reply of a bench that says so. -/
def lateReply : Web.Reply := ⟨200, lateAnswer.map fun c => UInt8.ofNat c.toNat⟩

/-- A bench that replies so. -/
def lateServer : Server where
  network := ⟨fun _ => .ok lateReply⟩
  url := ⟨"http", some ⟨"", "", .name "bench", none⟩, .names [""], none, none⟩

theorem lateReply_decoded : ∃ results, lateReply.decoded RunResults.decoder = .ok results ∧
    results.results = [lateResult] := by
  have units : (Text.decodeBytes lateReply.body).mapM (fun unit => unit) = some lateAnswer := by
    decide +kernel
  have read : Text.readUtf8? lateReply.body = some (String.ofList lateAnswer) := by
    unfold Text.readUtf8?
    rw [units]
    rfl
  have decoded : (Json.decode RunResults.decoder (String.ofList lateAnswer)).toOption.map
      (fun r => r.results) = some [lateResult] := by
    unfold Json.decode Json.Document.ofText
    rw [String.toList_ofList]
    decide +kernel
  obtain ⟨results, hr, hresults⟩ := Option.map_eq_some_iff.1 decoded
  refine ⟨results, ?_, hresults⟩
  unfold Web.Reply.decoded
  simp only [read, eq_ok_of_toOption hr]
  rfl

theorem lateServer_results : lateServer.results.map (fun r => r.results) = .ok [lateResult] := by
  obtain ⟨results, decoded, hresults⟩ := lateReply_decoded
  obtain ⟨url, joined, web⟩ : ∃ url, lateServer.url.join Api.Route.results.names = .ok url ∧
      url.withoutCredentials.scheme = "http" := ⟨_, rfl, rfl⟩
  have asked : lateServer.network.ask url = .ok lateReply := if_pos (Or.inl web)
  have fetched : lateServer.results = .ok results := by
    unfold Server.results Server.fetch
    rw [joined]
    show withContext _ ((lateServer.network.ask url).mapError _) >>= _ = _
    rw [asked]
    simp only [withContext, Except.mapError, bind, Except.bind, decoded]
  rw [fetched]
  exact congrArg Except.ok hresults

/-- An operator with the files of the rehearsed run. -/
def besideRun : OperatorSurroundings :=
  ⟨overshootScript.files, none, none, lateServer.network, ⟨false⟩⟩

theorem checks_agree_late :
    let site := Rehearsal.site "bench" none
    ∃ b, (site.readFile overshootContext.baselinePath overshootScript).outcome =
        .ok overshoot.content ∧
      Baseline.ofFile overshootContext.baselinePath overshoot.content = .ok b ∧
      besideRun.baseline "baseline.json" = .ok b ∧
      besideRun.resultsFrom lateServer none = .ok [lateResult] ∧
      (besideRun.checkBaseline lateServer .table "baseline.json" none ()).outcome =
        .error (.of (.regressed 1)) := by
  intro site
  obtain ⟨b, loaded, _⟩ := overshoot_loaded
  have read : (site.readFile overshootContext.baselinePath overshootScript).outcome =
    .ok overshoot.content := rfl
  have offline : besideRun.baseline "baseline.json" = .ok b := loaded
  let world : RunWorld Rehearsal.Script := ⟨overshootScript, .empty⟩
  have one : ((checkBaseline overshootContext site lateResult world).world.soft.failures.drop
    world.soft.failures.length).length = 1 := by decide +kernel
  obtain ⟨_, _, agree⟩ := checks_agree overshootContext site world read loaded [lateResult]
  have failed := (agree besideRun lateServer .table "baseline.json" none offline lateServer_results
    (List.cons_ne_nil _ _)).2
      ⟨lateResult, List.mem_singleton_self _, List.ne_nil_of_length_eq_add_one one⟩
  refine ⟨b, read, loaded, offline, lateServer_results, failed.trans ?_⟩
  exact congrArg (fun n => Except.error (Failure.of (.regressed (n + 0)))) one

end FleetScaling

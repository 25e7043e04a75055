import FleetScaling.Operator.Program
import FleetScaling.Proofs.Api.Bodies
import FleetScaling.Proofs.Run.Measures
import FleetScaling.Proofs.Site.Filing

/-!
# Sources of results

An operator compares the results of a run with a baseline. They come from the bench, which serves
the results of all cycles, or from the directory of its reports. A report takes the place of an
earlier one for the same target, so that the directory has the last result of each target
(`reported_perm_lastOfEach`). Both sources have the same results exactly if no target is repeated,
and only then do they come to the same for every baseline (`sources_agree_iff`).
-/

namespace FleetScaling

open Report

variable {ω : Type}

/-! ## The last result of each target -/

/-- The results that no other one of the same target comes after. -/
def lastOfEach : List CycleResult → List CycleResult
  | [] => []
  | r :: rs => if r.target ∈ rs.map CycleResult.target then lastOfEach rs else r :: lastOfEach rs

theorem lastOfEach_sublist (rs : List CycleResult) : (lastOfEach rs).Sublist rs := by
  induction rs with
  | nil => exact .slnil
  | cons r rs ih =>
    unfold lastOfEach
    split
    · exact ih.cons r
    · exact ih.cons_cons r

theorem lastOfEach_nodup (rs : List CycleResult) :
    ((lastOfEach rs).map CycleResult.target).Nodup := by
  induction rs with
  | nil => exact .nil
  | cons r rs ih =>
    unfold lastOfEach
    split
    · exact ih
    · rename_i hr
      rw [List.map_cons, List.nodup_cons]
      exact ⟨fun h => hr (((lastOfEach_sublist rs).map _).mem h), ih⟩

/-- Nothing is left out exactly if the targets are different. -/
theorem length_lastOfEach_iff (rs : List CycleResult) :
    (lastOfEach rs).length = rs.length ↔ (rs.map CycleResult.target).Nodup := by
  constructor
  · intro h
    have all := (lastOfEach_sublist rs).eq_of_length h
    rw [← all]
    exact lastOfEach_nodup rs
  · intro h
    induction rs with
    | nil => rfl
    | cons r rs ih =>
      rw [List.map_cons, List.nodup_cons] at h
      unfold lastOfEach
      rw [if_neg h.1, List.length_cons, List.length_cons, ih h.2]

theorem mem_lastOfEach {rs : List CycleResult} {r : CycleResult} :
    r ∈ lastOfEach rs ↔ (rs.filter fun s => s.target = r.target).getLast? = some r := by
  induction rs with
  | nil => exact ⟨fun h => (nomatch h), fun h => (nomatch h)⟩
  | cons s rs ih =>
    have hnone : rs.filter (fun s => s.target = r.target) = [] ↔
        r.target ∉ rs.map CycleResult.target := by
      rw [List.filter_eq_nil_iff, List.mem_map]
      simp
    unfold lastOfEach
    by_cases hs : s.target = r.target
    · rw [List.filter_cons, if_pos (decide_eq_true hs), hs]
      split
      · rename_i hmem
        rw [ih, List.getLast?_cons_of_ne_nil fun h => hnone.1 h hmem]
      · rename_i hmem
        rw [List.mem_cons, ih, hnone.2 hmem]
        simp [eq_comm]
    · rw [List.filter_cons, if_neg (mt of_decide_eq_true hs)]
      split
      · exact ih
      · rw [List.mem_cons, ih]
        exact or_iff_right fun h => hs (h ▸ rfl)

/-! ## What comparisons come to -/

/-- How many rows the comparison of some results has, how many of them did not pass, and how many
results have no baseline. -/
def Baseline.tally (b : Baseline) (results : List CycleResult) : Nat × Nat × Nat :=
  ((b.checkRows results).length, failedCount (b.checkRows results), (b.missing results).length)

theorem Baseline.tally_perm (b : Baseline) {results others : List CycleResult}
    (h : results.Perm others) : b.tally results = b.tally others := by
  have rows : (b.checkRows results).Perm (b.checkRows others) := h.flatMap_right _
  have missing : (b.missing results).Perm (b.missing others) := h.filter _
  unfold Baseline.tally failedCount
  rw [rows.length_eq, rows.countP_eq, missing.length_eq]

/-- The baseline that expects nothing misses every result. -/
theorem Baseline.missing_empty (results : List CycleResult) :
    (Baseline.mk .empty).missing results = results := by
  refine List.filter_eq_self.2 fun r _ => ?_
  rfl

/-! ## The directory -/

section Directory

variable {context : RunContext} {reports loaded : List Report}

/-- The last report of a run for a target is on its last result. -/
theorem latest?_result (hof : ∀ r ∈ reports, IsOf context r) (target : UInt32) :
    (latest? reports context.strategy target).map (·.result) =
      ((reports.map (·.result)).filter fun r => r.target = target).getLast? := by
  have hfilter : reports.filter (isFor context.strategy target) =
      reports.filter fun r => r.result.target = target := by
    refine List.filter_congr fun r hr => ?_
    obtain ⟨hstrategy, htarget⟩ := hof r hr
    unfold isFor
    simp [hstrategy, htarget]
  unfold latest?
  rw [hfilter, List.filter_map, List.getLast?_map]
  rfl

theorem mem_loaded (hlast : ∀ strategy target,
      loaded.filter (isFor strategy target) = (latest? reports strategy target).toList)
    {r : Report} : r ∈ loaded ↔ latest? reports r.result.strategy r.target = some r := by
  have hself : isFor r.result.strategy r.target r = true := decide_eq_true ⟨rfl, rfl⟩
  rw [← Option.mem_toList, ← hlast, List.mem_filter, and_iff_left hself]

/-- The results in a directory of reports are the last one of each target. -/
theorem reported_perm_lastOfEach (hof : ∀ r ∈ reports, IsOf context r)
    (hsorted : loaded.Pairwise Precedes) (hlast : ∀ strategy target,
      loaded.filter (isFor strategy target) = (latest? reports strategy target).toList) :
    (loaded.map (·.result)).Perm (lastOfEach (reports.map (·.result))) := by
  have hloaded {r : Report} (hr : r ∈ loaded) : IsOf context r :=
    hof r (List.mem_filter.1 (List.mem_of_getLast? ((mem_loaded hlast).1 hr))).1
  have hnodup : (loaded.map (·.result)).Nodup := by
    refine List.pairwise_map.2 (hsorted.imp_of_mem fun {a b} ha hb hab heq => ?_)
    have hstrategy : a.result.strategy = b.result.strategy := congrArg CycleResult.strategy heq
    have htarget : a.target = b.target := by
      rw [(hloaded ha).2, (hloaded hb).2]
      exact congrArg CycleResult.target heq
    exact hab.fileName_ne (fileName_inj.2 ⟨hstrategy, htarget⟩)
  have hlastNodup : (lastOfEach (reports.map (·.result))).Nodup :=
    (List.pairwise_map.1 (lastOfEach_nodup _)).imp fun h => mt (congrArg CycleResult.target) h
  refine (List.perm_ext_iff_of_nodup hnodup hlastNodup).2 fun result => ?_
  rw [mem_lastOfEach, ← latest?_result hof, List.mem_map, Option.map_eq_some_iff]
  constructor
  · rintro ⟨r, hr, rfl⟩
    obtain ⟨hstrategy, htarget⟩ := hloaded hr
    refine ⟨r, ?_, rfl⟩
    rw [← hstrategy, ← htarget]
    exact (mem_loaded hlast).1 hr
  · rintro ⟨r, hr, rfl⟩
    obtain ⟨hstrategy, htarget⟩ := hof r (List.mem_filter.1 (List.mem_of_getLast? hr)).1
    refine ⟨r, (mem_loaded hlast).2 ?_, rfl⟩
    rw [hstrategy, htarget]
    exact hr

end Directory

/-! ## The bench -/

/-- Asked for the results, the server gives the reply of a bench in this state. -/
def Server.Shows (server : Server) (s : Api.State) : Prop :=
  ∃ url, server.url.join Api.Route.results.names = .ok url ∧
    server.network.ask url = .ok (s.reply "GET" Api.Route.results.path).sent

theorem withContext_framed {α ε : Type} (context : String) (frame : ε → Failure) (a : α) :
    withContext context ((Except.ok a : Except ε α).mapError frame) = .ok a := rfl

theorem Server.results_of_shows {server : Server} {s : Api.State} (h : server.Shows s) :
    server.results = .ok s.progress.results := by
  obtain ⟨url, hjoin, hask⟩ := h
  have hdecoded : (s.reply "GET" Api.Route.results.path).sent.decoded RunResults.decoder =
      .ok s.progress.results := by
    rw [s.reply_results]
    exact Api.decoded_document RunResults.decodes (by decide) _
  unfold Server.results Server.fetch
  simp only [hjoin, hask, hdecoded, withContext_framed, bind, Except.bind]

/-! ## Both sources -/

section Run

variable {context : RunContext} {site : Site ω} {world : ω} {part : Part ω Files}
  {directory : String}

/-- A run that finishes has a result for every target, in their order. -/
theorem account_results_targets (finished : (Account.ofRun context site world).fatal? = none) :
    (Account.ofRun context site world).results.map CycleResult.target = context.targets := by
  obtain ⟨-, hall, hresults⟩ := account_targets context site world
  rw [hresults, ← hall finished]
  unfold Account.completed
  refine congrArg (List.map Attempt.target) (List.filter_eq_self.2 fun a ha => ?_)
  have hnone : fatalOf? (Account.ofRun context site world).attempts = none := by
    unfold Account.fatal? at finished
    split at finished
    · exact finished
    · cases finished
  have hfailure := List.findSome?_eq_none_iff.1 hnone a ha
  cases ho : a.outcome with
  | ok result => rw [(result?_of_ok ho).1, Option.isSome_some]
  | error failure =>
    rw [(result?_of_error ho).2] at hfailure
    cases hfailure

/-- What both sources have after a run that has finished. -/
theorem sources_of_run (filing : FilesReports site part directory)
    (vacant : (part.get world).Vacant directory)
    (finished : (Account.ofRun context site world).fatal? = none) (start : Int64)
    (moments : Nat → Int64) (health : HealthRegistry) (metrics : Metrics) {server : Server}
    (shows : server.Shows ⟨health, metrics, (RunProgress.initial start).hearAll moments
      (stressTest context site ⟨world, .empty⟩).notes⟩) (operator : OperatorSurroundings)
    (here : operator.files = part.get (stressTest context site ⟨world, .empty⟩).world.site) :
    let served := (Account.ofRun context site world).results
    server.results.map RunResults.results = .ok served ∧
      ∃ reported, operator.reportedResults directory = .ok reported ∧
        reported.Perm (lastOfEach served) := by
  intro served
  obtain ⟨reports, hresults, hof, hstored⟩ := filing.run vacant finished
  obtain ⟨loaded, hload, -, hsorted, hlast⟩ := hstored.loadAll
  refine ⟨?_, loaded.map (·.result), ?_, ?_⟩
  · rw [Server.results_of_shows shows, progress_results]
    rfl
  · unfold OperatorSurroundings.reportedResults
    rw [here, hload]
    rfl
  · rw [show served = _ from hresults.symm]
    exact reported_perm_lastOfEach hof hsorted hlast

end Run

/-- Both have the same results exactly if no target is repeated. -/
theorem perm_lastOfEach_iff {served reported : List CycleResult}
    (h : reported.Perm (lastOfEach served)) :
    reported.Perm served ↔ (served.map CycleResult.target).Nodup := by
  rw [← length_lastOfEach_iff]
  constructor
  · intro hperm
    rw [← h.length_eq, hperm.length_eq]
  · intro hlength
    rwa [(lastOfEach_sublist served).eq_of_length hlength] at h

/-- And only then do they come to the same for every baseline. -/
theorem tally_lastOfEach_iff {served reported : List CycleResult}
    (h : reported.Perm (lastOfEach served)) :
    (∀ b : Baseline, b.tally reported = b.tally served) ↔
      (served.map CycleResult.target).Nodup := by
  constructor
  · intro htally
    have hmissing := congrArg (fun t => t.2.2) (htally ⟨.empty⟩)
    dsimp only [Baseline.tally] at hmissing
    rw [Baseline.missing_empty, Baseline.missing_empty, h.length_eq] at hmissing
    exact (length_lastOfEach_iff served).1 hmissing
  · intro hnodup b
    exact b.tally_perm ((perm_lastOfEach_iff h).2 hnodup)

/-- **Two sources of one run.** After a run that has finished all its cycles, with its reports in a
directory that was vacant before, the directory has the last result of each target among those that
the bench serves. Both have the same results, up to order, exactly if no target is repeated, and
exactly then they come to the same numbers of rows, of rows that did not pass and of results without
baseline, whatever the baseline. -/
theorem sources_agree_iff {context : RunContext} {site : Site ω} {world : ω} {part : Part ω Files}
    {directory : String} (filing : FilesReports site part directory)
    (vacant : (part.get world).Vacant directory)
    (finished : (Account.ofRun context site world).fatal? = none) (start : Int64)
    (moments : Nat → Int64) (health : HealthRegistry) (metrics : Metrics) {server : Server}
    (shows : server.Shows ⟨health, metrics, (RunProgress.initial start).hearAll moments
      (stressTest context site ⟨world, .empty⟩).notes⟩) (operator : OperatorSurroundings)
    (here : operator.files = part.get (stressTest context site ⟨world, .empty⟩).world.site) :
    let served := (Account.ofRun context site world).results
    server.results.map RunResults.results = .ok served ∧
      ∃ reported, operator.reportedResults directory = .ok reported ∧
        reported.Perm (lastOfEach served) ∧
        (reported.Perm served ↔ context.targets.Nodup) ∧
        ((∀ b : Baseline, b.tally reported = b.tally served) ↔ context.targets.Nodup) := by
  intro served
  obtain ⟨hserved, reported, hreported, hlast⟩ :=
    sources_of_run filing vacant finished start moments health metrics shows operator here
  have htargets : served.map CycleResult.target = context.targets :=
    account_results_targets finished
  refine ⟨hserved, reported, hreported, hlast, ?_, ?_⟩
  · rw [← htargets]
    exact perm_lastOfEach_iff hlast
  · rw [← htargets]
    exact tally_lastOfEach_iff hlast

/-! ## Two cycles in rehearsal -/

/-- A run with two targets. -/
def pairContext (first second : UInt32) : RunContext :=
  { overshootContext with targets := [first, second] }

/-- A cluster that grows to a target at once, `pace` seconds after it was empty. -/
def climb (target : UInt32) (start pace : Nat) : Series :=
  .ofSamples [sampleAt 0 0 start, sampleAt target target (start + pace)] .epoch

/-- A cluster that is empty `pace` seconds after it had a target. -/
def descent (target : UInt32) (start pace : Nat) : Series :=
  .ofSamples [sampleAt target target start, sampleAt 0 0 (start + pace)] .epoch

/-- The second cycle takes twice as long as the first; nothing is expected of either. -/
def pairScript (first second : UInt32) : Rehearsal.Script :=
  { Rehearsal.Script.empty with
    clock := [1700000000, 1700000600, 1700001200, 1700001800].map secondOf
    series := [climb first 1700000000 40, descent first 1700000600 40,
      climb second 1700001200 80, descent second 1700001800 80]
    files := ⟨[(["baseline.json"], .file (some "\x7b\x7d"))]⟩ }

/-- A network on which a bench in this state answers to everyone. -/
def Api.State.network (s : Api.State) : Web.Network where
  get url := .ok (s.reply "GET" (Web.Url.pathText url.authority.isSome url.path)).sent

/-- The URL of a bench on the operator's own machine. -/
def localUrl : Web.Url :=
  ⟨"http", some ⟨"", "", .name "localhost", some 8080⟩, .names [""], none, none⟩

theorem Api.State.network_shows (s : Api.State) : (Server.mk s.network localUrl).Shows s :=
  ⟨_, rfl, rfl⟩

theorem pairScript_vacant (first second : UInt32) :
    (Rehearsal.Script.filesPart.get (pairScript first second)).Vacant "reports" :=
  ⟨_, rfl, rfl⟩

/-- The bench after the run of a pair. -/
def pairBench (first second : UInt32) : Api.State where
  health := .initial .epoch
  metrics := .empty
  progress := (RunProgress.initial 0).hearAll (fun _ => 0)
    (stressTest (pairContext first second) (Rehearsal.site "bench" (some "reports"))
      ⟨pairScript first second, .empty⟩).notes

/-- An operator on the machine of the bench. -/
def pairOperator (first second : UInt32) : OperatorSurroundings where
  files := (stressTest (pairContext first second) (Rehearsal.site "bench" (some "reports"))
    ⟨pairScript first second, .empty⟩).world.site.files
  home := none
  apiUrl := none
  network := (pairBench first second).network
  palette := ⟨false⟩

/-- Different targets: the bench and the directory have the same results. -/
theorem sources_agree_iff_distinct :
    let site := Rehearsal.site "bench" (some "reports")
    let served := (Account.ofRun (pairContext 3 2) site (pairScript 3 2)).results
    FilesReports site Rehearsal.Script.filesPart "reports" ∧
      (Rehearsal.Script.filesPart.get (pairScript 3 2)).Vacant "reports" ∧
      (Account.ofRun (pairContext 3 2) site (pairScript 3 2)).fatal? = none ∧
      (Server.mk (pairBench 3 2).network localUrl).Shows (pairBench 3 2) ∧
      (Server.mk (pairBench 3 2).network localUrl).results.map RunResults.results = .ok served ∧
      ∃ reported, (pairOperator 3 2).reportedResults "reports" = .ok reported ∧
        reported.Perm served := by
  intro site served
  have filing := Rehearsal.site_files "bench" "reports"
  have vacant := pairScript_vacant 3 2
  have finished : (Account.ofRun (pairContext 3 2) site (pairScript 3 2)).fatal? = none :=
    Option.isNone_iff_eq_none.1 (by decide +kernel)
  have shows := (pairBench 3 2).network_shows
  obtain ⟨hserved, reported, hreported, -, hperm, -⟩ := sources_agree_iff filing vacant finished
    0 (fun _ => 0) (.initial .epoch) .empty shows (pairOperator 3 2) rfl
  exact ⟨filing, vacant, finished, shows, hserved, reported, hreported, hperm.2 (by decide)⟩

/-- A target that is repeated: the directory has only the second of two results, and a baseline that
expects nothing tells the sources apart. -/
theorem not_sources_agree_repeated :
    let site := Rehearsal.site "bench" (some "reports")
    FilesReports site Rehearsal.Script.filesPart "reports" ∧
      (Rehearsal.Script.filesPart.get (pairScript 2 2)).Vacant "reports" ∧
      (Account.ofRun (pairContext 2 2) site (pairScript 2 2)).fatal? = none ∧
      (Server.mk (pairBench 2 2).network localUrl).Shows (pairBench 2 2) ∧
      ∃ first second : CycleResult, first.down = 60 ∧ second.down = 100 ∧
        (Server.mk (pairBench 2 2).network localUrl).results.map RunResults.results =
          .ok [first, second] ∧
        (pairOperator 2 2).reportedResults "reports" = .ok [second] ∧
        ¬ [second].Perm [first, second] ∧
        (Baseline.mk .empty).tally [second] ≠ (Baseline.mk .empty).tally [first, second] := by
  intro site
  have filing := Rehearsal.site_files "bench" "reports"
  have vacant := pairScript_vacant 2 2
  have finished : (Account.ofRun (pairContext 2 2) site (pairScript 2 2)).fatal? = none :=
    Option.isNone_iff_eq_none.1 (by decide +kernel)
  have shows := (pairBench 2 2).network_shows
  obtain ⟨hserved, reported, hreported, hlast⟩ := sources_of_run filing vacant finished
    0 (fun _ => 0) (.initial .epoch) .empty shows (pairOperator 2 2) rfl
  let result (instances nodes down : Int64) : CycleResult :=
    ⟨"us-east-1", "alinux2", "c5.large", "c5.xlarge", 2, .bestEffort, instances, nodes, down⟩
  have hresults : (Account.ofRun (pairContext 2 2) site (pairScript 2 2)).results =
      [result 60 60 60, result 100 100 100] := by
    decide +kernel
  rw [hresults] at hserved hlast
  obtain rfl : reported = [result 100 100 100] := List.perm_singleton.1 hlast
  refine ⟨filing, vacant, finished, shows, _, _, rfl, rfl, hserved, hreported, ?_, ?_⟩
  · exact fun hperm => absurd hperm.length_eq (by decide)
  · decide

end FleetScaling

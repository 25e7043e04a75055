import FleetScaling.Proofs.Operator.Showing
import FleetScaling.Proofs.Site.LogFiles

/-!
# What a check says of each result

A check of results against a baseline compares those that the baseline has an entry for, by three
rows each, and has nothing to compare the others with. As a table it accounts for all of them, with
a warning for each that was not compared (`Baseline.Accounts`). As a document it only has the rows,
so that it accounts for all of them exactly if all were compared (`results_accounted_iff`): a check
of results that the baseline knows nothing of prints an empty list and ends well.
-/

namespace FleetScaling

open CommandLine Console Json Text

/-! ## Accounts -/

/-- The rows that compare a result with the times that are expected of it. -/
def CycleResult.rowsAgainst (r : CycleResult) (times : Times) : List CheckRow :=
  let row (metric : String) (observed expected : Int64) : CheckRow :=
    ⟨r.target, r.strategy.name, metric, toString observed ++ "s", toString expected ++ "s",
      observed ≤ expected⟩
  [row "scale_up_time_ec2" r.instancesUp times.instancesUp,
    row "scale_up_time_scheduler" r.nodesUp times.nodesUp,
    row "scale_down_time" r.down times.down]

/-- A result took no longer than is expected of it. -/
def Times.Allow (times : Times) (r : CycleResult) : Prop :=
  r.instancesUp ≤ times.instancesUp ∧ r.nodesUp ≤ times.nodesUp ∧ r.down ≤ times.down

/-- A line is a warning that names the compute node, the target and the strategy of a result. -/
def Console.Palette.WarnsOf (palette : Palette) (line : String) (r : CycleResult) : Prop :=
  ∃ text, line = palette.warning text ∧
    occurs ("ComputeNode (" ++ r.computeNode ++ ")") text ∧
    occurs ("ScalingTarget (" ++ toString r.target ++ ")") text ∧
    occurs ("ScalingStrategy (" ++ r.strategy.name ++ ")") text

namespace Baseline

/-- The baseline has times for the combination of a result. -/
def Knows (b : Baseline) (r : CycleResult) : Prop :=
  (b.lookup r.computeNode r.target r.strategy).isSome

/-- Some rows compare a result with what the baseline expects of it. -/
def ComparesIn (b : Baseline) (rows : List CheckRow) (r : CycleResult) : Prop :=
  ∃ times, b.lookup r.computeNode r.target r.strategy = some times ∧ r.rowsAgainst times <:+: rows

/-- Warnings and rows account for some results: one after the other, each has either its three rows
or a warning. -/
inductive Accounts (b : Baseline) (palette : Palette) :
    List CycleResult → List String → List CheckRow → Prop
  | nil : Accounts b palette [] [] []
  | compared {r : CycleResult} {times : Times} {results : List CycleResult} {warnings : List String}
      {rows : List CheckRow} : b.lookup r.computeNode r.target r.strategy = some times →
      Accounts b palette results warnings rows →
      Accounts b palette (r :: results) warnings (r.rowsAgainst times ++ rows)
  | warned {r : CycleResult} {line : String} {results : List CycleResult} {warnings : List String}
      {rows : List CheckRow} : palette.WarnsOf line r → Accounts b palette results warnings rows →
      Accounts b palette (r :: results) (line :: warnings) rows

/-- What printed lines show of a comparison: a document the rows, a table the rows below the
warnings and above a line that sums up. -/
inductive ShowsChecks (palette : Palette) : OutputFormat → List String → List CheckRow → Prop
  | document (rows : List CheckRow) :
      ShowsChecks palette .json [(Value.list (rows.map CheckRow.toValue)).pretty 0] rows
  | table (warnings : List String) (rows : List CheckRow) (summary : String) :
      ShowsChecks palette .table
        (warnings ++ palette.tableLines (checkTable palette rows) ++ ["", summary]) rows

variable {b : Baseline} {palette : Palette} {r : CycleResult} {results : List CycleResult}
  {warnings : List String} {rows : List CheckRow}

theorem Accounts.of_mem (h : b.Accounts palette results warnings rows) (hr : r ∈ results) :
    b.ComparesIn rows r ∨ ∃ line ∈ warnings, palette.WarnsOf line r := by
  induction h with
  | nil => cases hr
  | @compared r' times results warnings rows found rest ih =>
    rcases List.mem_cons.1 hr with rfl | hr
    · exact Or.inl ⟨times, found, List.prefix_append _ _ |>.isInfix⟩
    · refine (ih hr).imp_left fun ⟨expected, hexpected, part⟩ => ⟨expected, hexpected, ?_⟩
      exact part.trans (List.suffix_append _ _).isInfix
  | @warned r' line results warnings rows warns rest ih =>
    rcases List.mem_cons.1 hr with rfl | hr
    · exact Or.inr ⟨line, List.mem_cons_self, warns⟩
    · exact (ih hr).imp_right fun ⟨line, hline, warns⟩ =>
        ⟨line, List.mem_cons_of_mem _ hline, warns⟩

theorem rowsOf_of_lookup {times : Times}
    (found : b.lookup r.computeNode r.target r.strategy = some times) :
    b.rowsOf r = r.rowsAgainst times := by
  unfold rowsOf checksOf checks?
  rw [found]
  rfl

/-- The rows of all results have those of each. -/
theorem comparesIn_checkRows {times : Times} (hr : r ∈ results)
    (found : b.lookup r.computeNode r.target r.strategy = some times) :
    b.ComparesIn (b.checkRows results) r := by
  obtain ⟨before, after, rfl⟩ := List.append_of_mem hr
  refine ⟨times, found, before.flatMap b.rowsOf, after.flatMap b.rowsOf, ?_⟩
  show _ = (before ++ r :: after).flatMap b.rowsOf
  rw [List.flatMap_append, List.flatMap_cons, rowsOf_of_lookup found, List.append_assoc]

theorem rowsOf_of_lookup_none (missing : b.lookup r.computeNode r.target r.strategy = none) :
    b.rowsOf r = [] := by
  unfold rowsOf checksOf checks?
  rw [missing]
  rfl

theorem all_passed_rowsAgainst {times : Times} :
    (∀ row ∈ r.rowsAgainst times, row.passed) ↔ times.Allow r := by
  simp [CycleResult.rowsAgainst, Times.Allow]

/-- Every row of a result passes exactly if the baseline, should it know the result, allows it. -/
theorem all_passed_rowsOf : (∀ row ∈ b.rowsOf r, row.passed) ↔
    ∀ times, b.lookup r.computeNode r.target r.strategy = some times → times.Allow r := by
  cases found : b.lookup r.computeNode r.target r.strategy with
  | none =>
    rw [rowsOf_of_lookup_none found]
    exact iff_of_true nofun nofun
  | some times =>
    rw [rowsOf_of_lookup found, all_passed_rowsAgainst]
    exact ⟨fun h _ e => Option.some.inj e ▸ h, fun h => h times rfl⟩

theorem failedCount_eq_zero_iff (b : Baseline) (results : List CycleResult) :
    failedCount (b.checkRows results) = 0 ↔ ∀ r ∈ results, ∀ times,
      b.lookup r.computeNode r.target r.strategy = some times → times.Allow r := by
  unfold failedCount
  show (results.flatMap b.rowsOf).countP (fun row => !row.passed) = 0 ↔ _
  rw [List.countP_eq_zero, List.forall_mem_flatMap]
  refine forall₂_congr fun r _ => ?_
  rw [← all_passed_rowsOf]
  refine forall₂_congr fun row _ => ?_
  rw [Bool.not_eq_true', Bool.not_eq_false]

end Baseline

/-! ## Warnings -/

theorem occurs_between (before needle after : String) :
    occurs needle (before ++ needle ++ after) := by
  rw [occurs_iff, String.toList_append, String.toList_append]
  exact ⟨before.toList, after.toList, rfl⟩

theorem occurs_append {needle text : String} (h : occurs needle text) (after : String) :
    occurs needle (text ++ after) := by
  rw [occurs_iff] at h ⊢
  rw [String.toList_append]
  exact h.trans (List.prefix_append _ _).isInfix

theorem missingWarning_eq (path : String) (r : CycleResult) :
    missingWarning path r =
      "Baseline for " ++ ("ComputeNode (" ++ r.computeNode ++ ")") ++ ", " ++
        ("ScalingTarget (" ++ toString r.target ++ ")") ++ ", " ++
        ("ScalingStrategy (" ++ r.strategy.name ++ ")") ++
        (" not found. You need to build it in " ++ path) := by
  have node : "Baseline for ComputeNode (" = "Baseline for " ++ "ComputeNode (" := by
    decide +kernel
  have target : "), ScalingTarget (" = ")" ++ ", " ++ "ScalingTarget (" := by decide +kernel
  have strategy : "), ScalingStrategy (" = ")" ++ ", " ++ "ScalingStrategy (" := by decide +kernel
  have rest : ") not found. You need to build it in " =
    ")" ++ " not found. You need to build it in " := by decide +kernel
  unfold missingWarning missingBaselineMessage
  rw [node, target, strategy, rest]
  simp only [String.append_assoc]

/-- The warning about a result that has nothing to be compared with names it. -/
theorem warnsOf_missingWarning (palette : Palette) (path : String) (r : CycleResult) :
    palette.WarnsOf (palette.warning (missingWarning path r)) r := by
  refine ⟨_, rfl, ?_⟩
  rw [missingWarning_eq]
  refine ⟨?_, ?_, occurs_between _ _ _⟩
  · have node := occurs_between "Baseline for " ("ComputeNode (" ++ r.computeNode ++ ")") ", "
    exact occurs_append (occurs_append (occurs_append (occurs_append node _) _) _) _
  · exact occurs_append (occurs_append (occurs_between _ _ _) _) _

/-- A text in some styles begins with a control sequence or as the text does. -/
theorem head?_styled (palette : Palette) (styles : List Style) (text rest : String) :
    (palette.styled styles text ++ rest).toList.head? =
      if palette.colours then some '\x1b' else (text ++ rest).toList.head? := by
  unfold Palette.styled
  split
  · simp only [styleSequence, Console.sequence, String.toList_append]
    rfl
  · rfl

theorem head?_pretty_list (items : List Value) (indent : Nat) :
    ((Value.list items).pretty indent).toList.head? = some '[' := by
  cases items with
  | nil =>
    rw [Value.pretty]
    rfl
  | cons item items =>
    simp only [Value.pretty, String.toList_append]
    rfl

/-- A document is not a warning. -/
theorem pretty_ne_warning (palette : Palette) (text : String) (items : List Value) :
    (Value.list items).pretty 0 ≠ palette.warning text := by
  intro h
  have first := head?_pretty_list items 0
  unfold Palette.warning Palette.message at h
  rw [h, String.append_assoc, head?_styled, String.toList_append] at first
  cases hc : palette.colours <;> rw [hc] at first <;> cases first

/-- The warnings about what is missing and the rows of the others account for all results. -/
theorem Baseline.accounts_results (b : Baseline) (palette : Palette) (path : String)
    (results : List CycleResult) :
    b.Accounts palette results
      ((b.missing results).map fun r => palette.warning (missingWarning path r))
      (b.checkRows results) := by
  rw [b.missing_eq]
  show b.Accounts palette results _ (results.flatMap b.rowsOf)
  induction results with
  | nil => exact .nil
  | cons r results ih =>
    rw [List.flatMap_cons]
    cases found : b.lookup r.computeNode r.target r.strategy with
    | none =>
      have nothing : b.rowsOf r = [] := rowsOf_of_lookup_none found
      rw [List.filter_cons_of_pos (by rw [nothing]; rfl), nothing]
      exact .warned (warnsOf_missingWarning palette path r) ih
    | some times =>
      have rows : b.rowsOf r = r.rowsAgainst times := rowsOf_of_lookup found
      rw [List.filter_cons_of_neg (by rw [rows]; nofun), rows]
      exact .compared found ih

namespace OperatorSurroundings

/-! ## Checks -/

variable {s : OperatorSurroundings} {server : Server} {path : String} {reports : Option String}
  {b : Baseline} {results : List CycleResult}

theorem Reaches.carryOut_check {words : List String} {url file directory : Option String}
    {format : OutputFormat} {settings : OperatorSettings}
    (h : s.Reaches words ⟨url, format, .checkBaseline file directory⟩ settings server)
    (hpath : baselinePath settings file = .ok path) :
    s.carryOut ⟨url, format, .checkBaseline file directory⟩ =
      s.checkBaseline server format path (directory.orElse fun _ => settings.reportDirectory) := by
  unfold carryOut
  rw [h.settled]
  show (Operation.ofExcept (Server.at? s.network (settings.url url)) >>= _) = _
  rw [h.addressed]
  show (Operation.ofExcept (baselinePath settings file) >>= _) = _
  rw [hpath]
  rfl

/-- A check that has something to check prints what it found, whatever comes of it. -/
theorem compareResults_notes (some_ : results ≠ []) (format : OutputFormat) :
    (s.compareResults format path b results ()).notes =
      (printAs format (.list ((b.checkRows results).map CheckRow.toValue))
        (comparisonView s.palette path (b.checkRows results) (b.missing results)) ()).notes := by
  obtain ⟨r, rest, rfl⟩ := List.exists_cons_of_ne_nil some_
  have printed := printAs_ok format (.list ((b.checkRows (r :: rest)).map CheckRow.toValue))
    (comparisonView s.palette path (b.checkRows (r :: rest)) (b.missing (r :: rest)))
  show ((printAs format _ _ >>= fun _ => _) ()).notes = _
  rw [Operation.bind_of_ok printed]
  by_cases h : failedCount (b.checkRows (r :: rest)) = 0
  · simp only [h]
    exact List.append_nil _
  · simp only [h, ne_eq, not_false_eq_true]
    exact List.append_nil _

theorem checkBaseline_notes_json (loaded : s.baseline path = .ok b)
    (found : s.resultsFrom server reports = .ok results) (some_ : results ≠ []) :
    (s.checkBaseline server .json path reports ()).notes =
      [(Value.list ((b.checkRows results).map CheckRow.toValue)).pretty 0] := by
  rw [checkBaseline_of_found loaded found, compareResults_notes some_]
  rfl

theorem checkBaseline_notes_table (loaded : s.baseline path = .ok b)
    (found : s.resultsFrom server reports = .ok results) (some_ : results ≠ []) :
    ∃ summary, (s.checkBaseline server .table path reports ()).notes =
      (b.missing results).map (fun r => s.palette.warning (missingWarning path r)) ++
        s.palette.tableLines (checkTable s.palette (b.checkRows results)) ++ ["", summary] := by
  rw [checkBaseline_of_found loaded found, compareResults_notes some_]
  exact ⟨_, (congrArg Trace.notes (printLines_apply _)).trans (List.append_assoc _ [""] [_])⟩

/-- A check succeeds if nothing that was compared took longer than expected. -/
theorem checkBaseline_ok_iff (loaded : s.baseline path = .ok b)
    (found : s.resultsFrom server reports = .ok results) (some_ : results ≠ [])
    (format : OutputFormat) :
    (s.checkBaseline server format path reports ()).outcome = .ok () ↔ ∀ r ∈ results, ∀ times,
      b.lookup r.computeNode r.target r.strategy = some times → times.Allow r := by
  rw [checkBaseline_of_found loaded found, compareResults_outcome some_,
    ← b.failedCount_eq_zero_iff]
  split
  · exact iff_of_true rfl ‹_›
  · exact iff_of_false nofun ‹_›

/-- Nothing that a check prints as a document is a warning. -/
theorem not_warnsOf_json (loaded : s.baseline path = .ok b)
    (found : s.resultsFrom server reports = .ok results) (some_ : results ≠ []) {line : String}
    (printed : line ∈ (s.checkBaseline server .json path reports ()).notes) (r : CycleResult) :
    ¬s.palette.WarnsOf line r := by
  rw [checkBaseline_notes_json loaded found some_, List.mem_singleton] at printed
  rintro ⟨text, warning, -⟩
  exact pretty_ne_warning s.palette text _ (printed.symm.trans warning)

/-- A check as a document that compares nothing prints an empty list, and succeeds. -/
theorem checkBaseline_unknown (loaded : s.baseline path = .ok b)
    (found : s.resultsFrom server reports = .ok results) (some_ : results ≠ [])
    (unknown : ∀ r ∈ results, ¬b.Knows r) :
    (s.checkBaseline server .json path reports ()).notes = ["[]"] ∧
      (s.checkBaseline server .json path reports ()).outcome = .ok () := by
  constructor
  · have nothing : b.checkRows results = [] :=
      List.flatMap_eq_nil_iff.2 fun r hr => Baseline.rowsOf_of_lookup_none
        (Option.not_isSome_iff_eq_none.1 (unknown r hr))
    rw [checkBaseline_notes_json loaded found some_, nothing, List.map_nil, Value.pretty]
  · rw [checkBaseline_ok_iff loaded found some_]
    exact fun r hr times known => absurd (Option.isSome_iff_exists.2 ⟨times, known⟩) (unknown r hr)

/-- **What a check says of each result.** For a baseline that loads and results that are found, a
check as a table accounts for each result, in order, with its three rows or a warning that names it.
As a document it accounts for all results exactly if the baseline knows all of them, and it warns of
none. The format has no part in the outcome: the check succeeds if no metric that was compared took
longer than expected. So a check as a document that compared nothing prints an empty list and
succeeds. A program that is started with such a command prints what the check does, and its exit
code is zero exactly if the check succeeds. -/
theorem results_accounted_iff (loaded : s.baseline path = .ok b)
    (found : s.resultsFrom server reports = .ok results) (some_ : results ≠ []) :
    let check (format : OutputFormat) := s.checkBaseline server format path reports ()
    (∃ warnings rows summary, (check .table).notes =
        warnings ++ s.palette.tableLines (checkTable s.palette rows) ++ ["", summary] ∧
      b.Accounts s.palette results warnings rows) ∧
    (∀ format, (∃ rows, Baseline.ShowsChecks s.palette format (check format).notes rows ∧
        ∀ r ∈ results, b.ComparesIn rows r ∨
          ∃ line ∈ (check format).notes, s.palette.WarnsOf line r) ↔
      (format = .json → ∀ r ∈ results, b.Knows r)) ∧
    (∀ line ∈ (check .json).notes, ∀ r, ¬s.palette.WarnsOf line r) ∧
    (∀ format, (check format).outcome = .ok () ↔ ∀ r ∈ results, ∀ times,
      b.lookup r.computeNode r.target r.strategy = some times → times.Allow r) ∧
    ((∀ r ∈ results, ¬b.Knows r) →
      (check .json).notes = ["[]"] ∧ (check .json).outcome = .ok ()) ∧
    ∀ words url format file directory settings,
      s.Reaches words ⟨url, format, .checkBaseline file directory⟩ settings server →
      baselinePath settings file = .ok path →
      (directory.orElse fun _ => settings.reportDirectory) = reports →
      (s.run words).output = (check format).notes ∧
        ((s.run words).code = 0 ↔ (check format).outcome = .ok ()) := by
  intro check
  have document : (check .json).notes = _ := checkBaseline_notes_json loaded found some_
  obtain ⟨summary, table⟩ : ∃ summary, (check .table).notes = _ :=
    checkBaseline_notes_table loaded found some_
  have accounts := b.accounts_results s.palette path results
  have quiet : ∀ line ∈ (check .json).notes, ∀ r, ¬s.palette.WarnsOf line r :=
    fun line hline r => not_warnsOf_json loaded found some_ hline r
  have succeeds (format) : (check format).outcome = .ok () ↔ _ :=
    checkBaseline_ok_iff loaded found some_ format
  refine ⟨⟨_, _, _, table, accounts⟩, fun format => ?_, quiet, succeeds,
    checkBaseline_unknown loaded found some_,
    fun words url format file directory settings reached hpath hreports => ?_⟩
  · cases format with
    | json =>
      constructor
      · rintro ⟨rows, -, accounted⟩ - r hr
        rcases accounted r hr with ⟨times, known, -⟩ | ⟨line, hline, warns⟩
        · exact Option.isSome_iff_exists.2 ⟨times, known⟩
        · exact absurd warns (quiet line hline r)
      · intro known
        refine ⟨b.checkRows results, document ▸ .document _, fun r hr => Or.inl ?_⟩
        obtain ⟨times, found⟩ := Option.isSome_iff_exists.1 (known rfl r hr)
        exact Baseline.comparesIn_checkRows hr found
    | table =>
      refine iff_of_true ⟨b.checkRows results, table ▸ .table _ _ _, fun r hr => ?_⟩ nofun
      refine (accounts.of_mem hr).imp_right fun ⟨line, hline, warns⟩ => ⟨line, ?_, warns⟩
      rw [table, List.append_assoc]
      exact List.mem_append_left _ hline
  · subst hreports
    rw [reached.run_eq, reached.carryOut_check hpath]
    show _ ∧ (_ ↔ (s.checkBaseline server format path _ ()).outcome = .ok ())
    cases (s.checkBaseline server format path
        (directory.orElse fun _ => settings.reportDirectory) ()).outcome with
    | ok => exact ⟨rfl, iff_of_true rfl rfl⟩
    | error failure => exact ⟨rfl, iff_of_false nofun nofun⟩

/-! ## A bench with one result -/

/-- An operator of a bench that has one result, beside the file of a baseline. -/
def besideBench (types : List String) : OperatorSurroundings :=
  { besideEntries types with apiUrl := some "http://bench", network := lateServer.network }

/-- The words that ask for a check as a document. -/
def checkWords : List String :=
  ["--format", "json", "baseline", "check", "--file", "baseline.json"]

theorem checkWords_reached : (besideBench []).Reaches checkWords
    ⟨some "http://bench", .json, .checkBaseline (some "baseline.json") none⟩ .empty lateServer := by
  have understood : OperatorRequest.read (some "http://bench") checkWords =
      .ok ⟨some "http://bench", .json, .checkBaseline (some "baseline.json") none⟩ := by
    decide +kernel
  have settled : (besideBench []).settings.toOption = some .empty := by decide +kernel
  have url : (Web.Url.read "http://bench").toOption = some lateServer.url := by decide +kernel
  refine ⟨understood, eq_ok_of_toOption settled, ?_⟩
  show Server.at? lateServer.network "http://bench" = _
  unfold Server.at?
  rw [eq_ok_of_toOption url]

theorem besideBench_results (types : List String) :
    (besideBench types).resultsFrom lateServer none = .ok [lateResult] := lateServer_results

/-- The baseline expects just what the bench has observed. -/
theorem results_accounted_known :
    let s := besideBench ["c5.large"]
    ∃ b, s.baseline "baseline.json" = .ok b ∧ b.Knows lateResult ∧
      s.resultsFrom lateServer none = .ok [lateResult] ∧
      ∃ rows, Baseline.ShowsChecks s.palette .json
          (s.checkBaseline lateServer .json "baseline.json" none ()).notes rows ∧
        ∀ r ∈ [lateResult], b.ComparesIn rows r ∨ ∃ line ∈
          (s.checkBaseline lateServer .json "baseline.json" none ()).notes,
            s.palette.WarnsOf line r := by
  intro s
  have read : ((decode Baseline.decoder (String.ofList (entriesOf ["c5.large"]))).toOption.map
      fun b => b.lookup "c5.large" 2 .bestEffort) = some (some ⟨50, 70, 30⟩) := by
    unfold decode Document.ofText
    rw [String.toList_ofList]
    decide +kernel
  obtain ⟨b, loaded, hlookup⟩ : ∃ b, s.baseline "baseline.json" = .ok b ∧
      b.lookup "c5.large" 2 .bestEffort = some ⟨50, 70, 30⟩ := exists_entries read
  have known : b.Knows lateResult := Option.isSome_iff_exists.2 ⟨_, hlookup⟩
  have found := besideBench_results ["c5.large"]
  obtain ⟨-, accounted, -⟩ := results_accounted_iff loaded found (List.cons_ne_nil _ _)
  refine ⟨b, loaded, known, found, (accounted .json).2 fun _ r hr => ?_⟩
  rw [List.mem_singleton.1 hr]
  exact known

/-- The baseline is empty: nothing is said of the result, and the exit code is zero. -/
theorem not_results_accounted_unknown :
    let s := besideBench []
    ∃ b, s.baseline "baseline.json" = .ok b ∧
      s.resultsFrom lateServer none = .ok [lateResult] ∧
      s.run checkWords = ⟨0, ["[]"], []⟩ ∧
      ¬∃ rows, Baseline.ShowsChecks s.palette .json
          (s.checkBaseline lateServer .json "baseline.json" none ()).notes rows ∧
        ∀ r ∈ [lateResult], b.ComparesIn rows r ∨ ∃ line ∈
          (s.checkBaseline lateServer .json "baseline.json" none ()).notes,
            s.palette.WarnsOf line r := by
  intro s
  have read : ((decode Baseline.decoder (String.ofList (entriesOf []))).toOption.map
      fun b => b.lookup "c5.large" 2 .bestEffort) = some none := by
    unfold decode Document.ofText
    rw [String.toList_ofList]
    decide +kernel
  obtain ⟨b, loaded, hlookup⟩ : ∃ b, s.baseline "baseline.json" = .ok b ∧
      b.lookup "c5.large" 2 .bestEffort = none := exists_entries read
  have found := besideBench_results []
  have some_ : [lateResult] ≠ [] := List.cons_ne_nil _ _
  have unknown : ∀ r ∈ [lateResult], ¬b.Knows r := by
    intro r hr h
    obtain ⟨times, known⟩ := Option.isSome_iff_exists.1 h
    rw [List.mem_singleton.1 hr] at known
    cases hlookup.symm.trans known
  refine ⟨b, loaded, found, ?_, ?_⟩
  · have ends := checkBaseline_unknown loaded found some_ unknown
    have hpath : baselinePath .empty (some "baseline.json") = .ok "baseline.json" := rfl
    have carried := checkWords_reached.carryOut_check hpath
    rw [checkWords_reached.run_of_ok (carried ▸ ends.2), carried]
    exact congrArg (Exit.mk 0 · []) ends.1
  · rintro ⟨rows, -, accounted⟩
    rcases accounted lateResult (List.mem_singleton_self _) with ⟨times, known, -⟩ | ⟨line, h, warns⟩
    · exact unknown lateResult (List.mem_singleton_self _) (Option.isSome_iff_exists.2 ⟨_, known⟩)
    · exact not_warnsOf_json loaded found some_ h lateResult warns

end OperatorSurroundings

end FleetScaling

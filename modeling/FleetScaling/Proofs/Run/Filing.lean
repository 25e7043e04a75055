import FleetScaling.Proofs.Report.Directory
import FleetScaling.Proofs.Run.Account

/-!
# Reports of a run in a directory

On a site whose reports become files of a directory, a run that finishes all its cycles has stored
one report for each of them there, in their order (`FilesReports.run`). The invariant is `Stored`:
every exchange but a report leaves it, and a report adds itself.
-/

namespace FleetScaling

open Report

variable {ω : Type}

/-- The report that was sent, if it is one. -/
def Exchange.report? : Exchange → Option Report
  | reported r _ => some r
  | _ => none

/-- The reports of a site become files of a directory, and nothing else that is asked of the site
changes the files. -/
structure FilesReports (site : Site ω) (part : Part ω Files) (directory : String) : Prop where
  stores : ∀ (r : Report) (before after : ω),
    (Exchange.reported r (.ok ())).TakesPlace site before after →
      part.get after = (store directory r (part.get before)).world
  leaves : ∀ (e : Exchange) (before after : ω), e.TakesPlace site before after → e.report? = none →
    part.get after = part.get before

section Filing

variable {site : Site ω} {part : Part ω Files} {directory : String} {written : List Report}

theorem FilesReports.exchange (h : FilesReports site part directory) {e : Exchange}
    {before after : ω} (took : e.TakesPlace site before after) (he : e.failure? = none)
    (hs : Stored (part.get before) directory written) :
    Stored (part.get after) directory (written ++ e.report?.toList) := by
  cases hr : e.report? with
  | none =>
    rw [h.leaves e before after took hr, Option.toList_none, List.append_nil]
    exact hs
  | some r =>
    obtain ⟨outcome, rfl⟩ : ∃ outcome, e = .reported r outcome := by
      cases e <;> cases hr
      exact ⟨_, rfl⟩
    cases outcome with
    | error failure => cases he
    | ok _ =>
      rw [h.stores r before after took]
      exact (hs.store r).2

/-- By induction on the conversation: each of its exchanges has succeeded. -/
theorem FilesReports.conversation (h : FilesReports site part directory) {es : List Exchange}
    {before after : ω} (talk : Conversation site before es after)
    (hes : ∀ e ∈ es, e.failure? = none) (hs : Stored (part.get before) directory written) :
    Stored (part.get after) directory (written ++ es.filterMap Exchange.report?) := by
  induction es generalizing before written with
  | nil =>
    rw [show after = before from talk, List.filterMap_nil, List.append_nil]
    exact hs
  | cons e es ih =>
    obtain ⟨between, took, talk⟩ := talk
    have hrest := ih talk (fun e he => hes e (List.mem_cons_of_mem _ he))
      (h.exchange took (hes e List.mem_cons_self) hs)
    rw [List.append_assoc] at hrest
    have hcons : (e :: es).filterMap Exchange.report? =
        e.report?.toList ++ es.filterMap Exchange.report? := by
      rw [List.filterMap_cons]
      cases e.report? <;> rfl
    rw [hcons]
    exact hrest

variable {context : RunContext}

/-- A report of a run: its result has the strategy of the run, and both are about one target. -/
def Report.IsOf (context : RunContext) (r : Report) : Prop :=
  r.result.strategy = context.strategy ∧ r.target = r.result.target

theorem cycleExchanges_succeed (cluster : String) (target : UInt32) (d : CycleCourse) :
    ∀ e ∈ context.cycleExchanges cluster target d, e.failure? = none := by
  simp [RunContext.cycleExchanges, RunContext.growthExchanges, RunContext.shrinkExchanges,
    Exchange.failure?, Exchange.failureOf]

/-- A cycle that succeeds has stored the report on its result. -/
theorem FilesReports.cycle (h : FilesReports site part directory) {target : UInt32}
    {world : RunWorld ω} {result : CycleResult}
    (hok : (cycle context site target world).outcome = .ok result)
    (hs : Stored (part.get world.site) directory written) :
    ∃ r, r.result = result ∧ IsOf context r ∧
      Stored (part.get (FleetScaling.cycle context site target world).world.site) directory
        (written ++ [r]) := by
  obtain ⟨es, talk, _, hes⟩ := (cycle_planned context site target).comes world
  rw [hok] at hes
  obtain ⟨d, rfl, rfl⟩ := hes
  exact ⟨context.reportOf site.fleet.name target d, rfl, ⟨rfl, rfl⟩,
    h.conversation talk (cycleExchanges_succeed _ _ d) hs⟩

/-- The reports of cycles that all succeed are stored in the order of their results. -/
theorem FilesReports.cycles (h : FilesReports site part directory) (targets : List UInt32)
    (world : RunWorld ω) (hf : fatalOf? (attempts context site targets world) = none)
    (hs : Stored (part.get world.site) directory written) :
    ∃ reports : List Report,
      reports.map (·.result) = resultsOf (attempts context site targets world) ∧
      (∀ r ∈ reports, IsOf context r) ∧
      Stored (part.get (FleetScaling.cycles context site targets world).world.site) directory
        (written ++ reports) := by
  induction targets, world using cycles_induction context site generalizing written with
  | nil world =>
    refine ⟨[], rfl, fun r hr => (nomatch hr), ?_⟩
    rw [List.append_nil]
    exact hs
  | failed target rest world failure hc =>
    rw [attempts_of_error rest hc, (tell_of_error hc).2.2.2] at hf
    cases hf
  | succeeded target rest world result hc ih =>
    obtain ⟨_, hresults, _, hfatal⟩ := tell_of_ok (a := .ofCycle context site target world) hc
      (attempts context site rest (FleetScaling.cycle context site target world).world)
    rw [attempts_of_ok rest hc, hfatal] at hf
    obtain ⟨r, hr, hof, hfirst⟩ := h.cycle hc hs
    obtain ⟨reports, hmap, hall, hrest⟩ := ih hf hfirst
    refine ⟨r :: reports, ?_, ?_, ?_⟩
    · rw [attempts_of_ok rest hc, hresults, List.map_cons, hr, hmap]
    · intro r' hr'
      rcases List.mem_cons.1 hr' with rfl | hr'
      · exact hof
      · exact hall r' hr'
    · rw [cycles_of_ok rest hc]
      rw [List.append_assoc] at hrest
      exact hrest

end Filing

/-! ## The whole run -/

section Run

variable (context : RunContext) (site : Site ω) (world : ω)

/-- The parties are left by a run as they are by its last cycle. -/
theorem stressTest_site (h : (runOpening site world).outcome = .ok ()) :
    (stressTest context site ⟨world, .empty⟩).world.site =
      (cycles context site context.targets (runOpening site world).world).world.site := by
  rw [stressTest_apply, stressLoop_eq]
  generalize hdone : cycles context site context.targets (runOpening site world).world = done
  have all : allCycles context site ⟨world, .empty⟩ = ⟨done.outcome, done.world,
      (runOpening site world).notes ++ (runNotes context ++ done.notes)⟩ := by
    rw [← hdone]
    exact Operation.bind_of_ok h
  rcases ho : done.outcome with failure | results
  · rw [Operation.bind_of_error (by rw [all, ho]), all]
  · rw [Operation.bind_of_ok (a := results) (by rw [all, ho]), all, raiseFailures_apply]

variable {context site world}

/-- A run that finishes all its cycles has stored a report on each result. -/
theorem FilesReports.run {part : Part ω Files} {directory : String}
    (h : FilesReports site part directory) (vacant : (part.get world).Vacant directory)
    (finished : (Account.ofRun context site world).fatal? = none) :
    ∃ reports : List Report,
      reports.map (·.result) = (Account.ofRun context site world).results ∧
      (∀ r ∈ reports, IsOf context r) ∧
      Stored (part.get (stressTest context site ⟨world, .empty⟩).world.site) directory
        reports := by
  rcases hopen : (runOpening site world).outcome with failure | _
  · rw [account_of_error context site world hopen] at finished
    cases finished
  · rw [account_of_ok context site world hopen] at finished ⊢
    rw [stressTest_site context site world hopen]
    have left : part.get (runOpening site world).world.site = part.get world :=
      h.leaves (.unprotected (disableProtectedMode site.headNode world).outcome) world _
        ⟨rfl, rfl⟩ rfl
    have hs : Stored (part.get (runOpening site world).world.site) directory [] :=
      Or.inr ⟨rfl, left ▸ vacant⟩
    exact h.cycles context.targets _ finished hs

/-- The progress of a run shows the results of its account. -/
theorem progress_results (start : Int64) (moments : Nat → Int64) :
    ((RunProgress.initial start).hearAll moments
        (stressTest context site ⟨world, .empty⟩).notes).results =
      ⟨(Account.ofRun context site world).results,
        (Account.ofRun context site world).failures⟩ := by
  obtain ⟨-, -, -, hbooks⟩ := stressLoop_account context site world
  rw [stressTest_apply, RunProgress.hearAll_append]
  exact (hear_ending _ _ _).1.trans (congrArg Books.results (hbooks start moments))

end Run

end FleetScaling

import FleetScaling.Proofs.Run.Progress
import FleetScaling.Proofs.Run.Protocol

/-!
# The account of a stress test

A stress test tells about its cycles in four places: the outcome, the results and the failures in
the progress, and the pauses that it makes. An `Account` is what there is to tell, taken from the
cycles alone: each is run in the world that the one before has left, and none after one that
fails. Whatever the parties do, the four places agree with it (`stressTest_accounts`).
-/

namespace FleetScaling

variable {ω : Type}

/-! ## Attempts -/

/-- One cycle of a run, as it went. -/
structure Attempt where
  target : UInt32
  outcome : Except Failure CycleResult
  /-- The soft failures that it recorded. -/
  recorded : List SoftFailure
  calls : List Call

namespace Attempt

/-- The result, if the cycle succeeded. -/
def result? (a : Attempt) : Option CycleResult :=
  match a.outcome with
  | .ok result => some result
  | .error _ => none

/-- Why the cycle failed, if it did. -/
def failure? (a : Attempt) : Option Failure :=
  match a.outcome with
  | .ok _ => none
  | .error failure => some failure

/-- The cycle of a target as it is run in a world. -/
def ofCycle (context : RunContext) (site : Site ω) (target : UInt32) (world : RunWorld ω) :
    Attempt :=
  let done := cycle context site target world
  ⟨target, done.outcome, done.world.soft.failures.drop world.soft.failures.length,
    callNotes done.notes⟩

end Attempt

/-- The cycles of some targets, each in the world that the one before has left, up to the first that
fails. -/
def attempts (context : RunContext) (site : Site ω) : List UInt32 → RunWorld ω → List Attempt
  | [], _ => []
  | target :: rest, world =>
    let done := cycle context site target world
    .ofCycle context site target world ::
      match done.outcome with
      | .ok _ => attempts context site rest done.world
      | .error _ => []

/-- The cycles that succeeded. -/
def succeeded (as : List Attempt) : List Attempt := as.filter fun a => a.result?.isSome

/-- The results of the cycles that succeeded. -/
def resultsOf (as : List Attempt) : List CycleResult := as.filterMap Attempt.result?

/-- The soft failures of the cycles that succeeded. -/
def failuresOf (as : List Attempt) : List SoftFailure := (succeeded as).flatMap Attempt.recorded

/-- The first failure of a cycle, if any. -/
def fatalOf? (as : List Attempt) : Option Failure := as.findSome? Attempt.failure?

section Attempts

variable {a : Attempt}

theorem result?_of_ok {result : CycleResult} (h : a.outcome = .ok result) :
    a.result? = some result ∧ a.failure? = none := by
  unfold Attempt.result? Attempt.failure?
  rw [h]
  exact ⟨rfl, rfl⟩

theorem result?_of_error {failure : Failure} (h : a.outcome = .error failure) :
    a.result? = none ∧ a.failure? = some failure := by
  unfold Attempt.result? Attempt.failure?
  rw [h]
  exact ⟨rfl, rfl⟩

/-- A cycle that succeeds is told of before the others. -/
theorem tell_of_ok {result : CycleResult} (h : a.outcome = .ok result) (as : List Attempt) :
    succeeded (a :: as) = a :: succeeded as ∧ resultsOf (a :: as) = result :: resultsOf as ∧
      failuresOf (a :: as) = a.recorded ++ failuresOf as ∧ fatalOf? (a :: as) = fatalOf? as := by
  obtain ⟨hr, hf⟩ := result?_of_ok h
  have hs : succeeded (a :: as) = a :: succeeded as :=
    List.filter_cons_of_pos (by rw [hr]; rfl)
  refine ⟨hs, List.filterMap_cons_some hr, ?_, ?_⟩
  · unfold failuresOf
    rw [hs, List.flatMap_cons]
  · unfold fatalOf?
    rw [List.findSome?_cons, hf]

/-- There is nothing to tell of a cycle that fails, but its failure. -/
theorem tell_of_error {failure : Failure} (h : a.outcome = .error failure) :
    succeeded [a] = [] ∧ resultsOf [a] = [] ∧ failuresOf [a] = [] ∧
      fatalOf? [a] = some failure := by
  obtain ⟨hr, hf⟩ := result?_of_error h
  have hs : succeeded [a] = [] := List.filter_cons_of_neg (by rw [hr]; exact Bool.false_ne_true)
  refine ⟨hs, List.filterMap_cons_none hr, ?_, ?_⟩
  · unfold failuresOf
    rw [hs]
    rfl
  · unfold fatalOf?
    rw [List.findSome?_cons, hf]

end Attempts

section Cycles

variable {context : RunContext} {site : Site ω} {target : UInt32} {world : RunWorld ω}

theorem attempts_of_ok {result : CycleResult} (rest : List UInt32)
    (h : (cycle context site target world).outcome = .ok result) :
    attempts context site (target :: rest) world =
      .ofCycle context site target world ::
        attempts context site rest (cycle context site target world).world := by
  show _ :: (match (cycle context site target world).outcome with | .ok _ => _ | .error _ => _) = _
  rw [h]

theorem attempts_of_error {failure : Failure} (rest : List UInt32)
    (h : (cycle context site target world).outcome = .error failure) :
    attempts context site (target :: rest) world = [.ofCycle context site target world] := by
  show _ :: (match (cycle context site target world).outcome with | .ok _ => _ | .error _ => _) = _
  rw [h]

/-- A cycle adds what it records to the soft failures, and nothing else. -/
theorem failures_append_recorded : (cycle context site target world).world.soft.failures =
    world.soft.failures ++ (Attempt.ofCycle context site target world).recorded := by
  obtain ⟨recorded, h⟩ := (cycle_contained context site target).failures world
  show _ = _ ++ (cycle context site target world).world.soft.failures.drop _
  rw [← h, List.drop_left]

/-- The result of a cycle is about its target. -/
theorem cycle_target {result : CycleResult}
    (h : (cycle context site target world).outcome = .ok result) : result.target = target := by
  obtain ⟨es, _, _, hf⟩ := (cycle_planned context site target).comes world
  rw [h] at hf
  obtain ⟨d, rfl, _⟩ := hf
  rfl

end Cycles

/-! ## Cycles agree with their account -/

section Agreement

variable (context : RunContext) (site : Site ω)

/-- Induction on the targets along a run: there are none left, or the next cycle fails, or it
succeeds and the others are run in the world that it leaves. -/
theorem cycles_induction {motive : List UInt32 → RunWorld ω → Prop}
    (nil : ∀ world, motive [] world)
    (failed : ∀ target rest world failure,
      (cycle context site target world).outcome = .error failure → motive (target :: rest) world)
    (succeeded : ∀ target rest world result,
      (cycle context site target world).outcome = .ok result →
      motive rest (cycle context site target world).world → motive (target :: rest) world)
    (targets : List UInt32) (world : RunWorld ω) : motive targets world := by
  induction targets generalizing world with
  | nil => exact nil world
  | cons target rest ih =>
    rcases h : (cycle context site target world).outcome with failure | result
    · exact failed target rest world failure h
    · exact succeeded target rest world result h (ih _)

theorem cycles_outcome (targets : List UInt32) (world : RunWorld ω) :
    (cycles context site targets world).outcome =
      match fatalOf? (attempts context site targets world) with
      | some failure => .error failure
      | none => .ok (resultsOf (attempts context site targets world)) := by
  induction targets, world using cycles_induction context site with
  | nil world => rfl
  | failed target rest world failure h =>
    rw [cycles_of_error rest h, attempts_of_error rest h, (tell_of_error h).2.2.2]
  | succeeded target rest world result h ih =>
    obtain ⟨_, hr, _, hf⟩ := tell_of_ok (a := .ofCycle context site target world) h
      (attempts context site rest (cycle context site target world).world)
    rw [cycles_of_ok rest h, attempts_of_ok rest h, hr, hf, ih]
    cases fatalOf? (attempts context site rest (cycle context site target world).world) <;> rfl

theorem cycles_failures (targets : List UInt32) (world : RunWorld ω)
    (h : fatalOf? (attempts context site targets world) = none) :
    (cycles context site targets world).world.soft.failures =
      world.soft.failures ++ failuresOf (attempts context site targets world) := by
  induction targets, world using cycles_induction context site with
  | nil world => exact (List.append_nil _).symm
  | failed target rest world failure hc =>
    rw [attempts_of_error rest hc, (tell_of_error hc).2.2.2] at h
    cases h
  | succeeded target rest world result hc ih =>
    obtain ⟨_, _, hs, hf⟩ := tell_of_ok (a := .ofCycle context site target world) hc
      (attempts context site rest (cycle context site target world).world)
    rw [attempts_of_ok rest hc, hf] at h
    rw [cycles_of_ok rest hc, attempts_of_ok rest hc, hs, ih h, failures_append_recorded,
      List.append_assoc]

theorem cycles_calls (targets : List UInt32) (world : RunWorld ω) :
    callNotes (cycles context site targets world).notes =
      (attempts context site targets world).flatMap Attempt.calls := by
  induction targets, world using cycles_induction context site with
  | nil world => rfl
  | failed target rest world failure h =>
    rw [cycles_of_error rest h, attempts_of_error rest h, List.flatMap_singleton]
    rfl
  | succeeded target rest world result h ih =>
    rw [cycles_of_ok rest h, attempts_of_ok rest h, List.flatMap_cons, callNotes_append,
      callNotes_append, callNotes_append, callNotes_refillNotes, ih, List.append_nil]
    exact congrArg (· ++ _) (List.append_nil _)

/-- The targets of the attempts are the first of all, and all of them if no cycle fails. -/
theorem attempts_targets (targets : List UInt32) (world : RunWorld ω) :
    (attempts context site targets world).map Attempt.target <+: targets ∧
      (fatalOf? (attempts context site targets world) = none →
        (attempts context site targets world).map Attempt.target = targets) := by
  induction targets, world using cycles_induction context site with
  | nil world => exact ⟨List.prefix_rfl, fun _ => rfl⟩
  | failed target rest world failure h =>
    rw [attempts_of_error rest h, (tell_of_error h).2.2.2]
    exact ⟨⟨rest, rfl⟩, fun hf => (nomatch hf)⟩
  | succeeded target rest world result h ih =>
    obtain ⟨hp, he⟩ := ih
    rw [attempts_of_ok rest h, (tell_of_ok (a := .ofCycle context site target world) h _).2.2.2]
    exact ⟨(List.prefix_cons_inj target).2 hp, fun hf => congrArg (target :: ·) (he hf)⟩

/-- The results are about the targets of the cycles that succeeded. -/
theorem results_targets (targets : List UInt32) (world : RunWorld ω) :
    (resultsOf (attempts context site targets world)).map CycleResult.target =
      (succeeded (attempts context site targets world)).map Attempt.target := by
  induction targets, world using cycles_induction context site with
  | nil world => rfl
  | failed target rest world failure h =>
    rw [attempts_of_error rest h, (tell_of_error h).1, (tell_of_error h).2.1]
    rfl
  | succeeded target rest world result h ih =>
    obtain ⟨hs, hr, _⟩ := tell_of_ok (a := .ofCycle context site target world) h
      (attempts context site rest (cycle context site target world).world)
    rw [attempts_of_ok rest h, hs, hr, List.map_cons, List.map_cons, ih, cycle_target h]
    rfl

/-- What is published at the end of a cycle enters its result and all failures so far. -/
theorem books_endNotes {p : RunProgress} {results : List CycleResult} {completed : List UInt32}
    {before : List SoftFailure} (h : p.books = .of results completed before)
    (moments : Nat → Int64) (result : CycleResult) (failures : List SoftFailure) :
    (p.hearAll moments (endNotes result failures)).books =
      .of (results ++ [result]) (completed ++ [result.target]) failures := by
  have hr : p.results.results = results := congrArg (fun b => b.results.results) h
  have hc : p.status.completed = completed := congrArg Books.completed h
  have hm : p.status.message = none := congrArg Books.message h
  show (⟨⟨p.results.results ++ [result], failures⟩, p.status.completed ++ [result.target],
    UInt64.ofNat failures.length, p.status.message⟩ : Books) = _
  rw [hr, hc, hm]
  rfl

theorem books_refillNotes (p : RunProgress) (moments : Nat → Int64) (rest : List UInt32) :
    (p.hearAll moments (refillNotes context site rest)).books = p.books := by
  cases rest <;> rfl

/-- A cycle enters nothing by itself. -/
theorem cycle_books (target : UInt32) (world : RunWorld ω) (moments : Nat → Int64)
    (p : RunProgress) :
    (p.hearAll moments (cycle context site target world).notes).books = p.books :=
  books_hearAll ((cycle_contained context site target).notes world) moments p

theorem cycles_books (targets : List UInt32) (world : RunWorld ω) {p : RunProgress}
    (moments : Nat → Int64) {results : List CycleResult} {completed : List UInt32}
    (h : p.books = .of results completed world.soft.failures) :
    (p.hearAll moments (cycles context site targets world).notes).books =
      .of (results ++ resultsOf (attempts context site targets world))
        (completed ++ (succeeded (attempts context site targets world)).map Attempt.target)
        (world.soft.failures ++ failuresOf (attempts context site targets world)) := by
  induction targets, world using cycles_induction context site
    generalizing p moments results completed with
  | nil world =>
    show p.books = .of (results ++ []) (completed ++ []) (world.soft.failures ++ [])
    rw [List.append_nil, List.append_nil, List.append_nil, h]
  | failed target rest world failure hc =>
    obtain ⟨hs, hr, hf, _⟩ := tell_of_error (a := .ofCycle context site target world) hc
    rw [cycles_of_error rest hc, attempts_of_error rest hc, cycle_books, h, hs, hr, hf,
      List.map_nil, List.append_nil, List.append_nil, List.append_nil]
  | succeeded target rest world result hc ih =>
    obtain ⟨hs, hr, hf, _⟩ := tell_of_ok (a := .ofCycle context site target world) hc
      (attempts context site rest (cycle context site target world).world)
    have entered : (p.hearAll moments ((cycle context site target world).notes ++
        endNotes result (cycle context site target world).world.soft.failures ++
        refillNotes context site rest)).books =
        .of (results ++ [result]) (completed ++ [result.target])
          (cycle context site target world).world.soft.failures := by
      rw [RunProgress.hearAll_append, books_refillNotes, RunProgress.hearAll_append]
      exact books_endNotes ((cycle_books context site target world moments p).trans h) _ _ _
    rw [cycles_of_ok rest hc, attempts_of_ok rest hc, hs, hr, hf, RunProgress.hearAll_append,
      ih _ entered, failures_append_recorded, cycle_target hc, List.map_cons,
      List.append_assoc, List.append_assoc, List.append_assoc]
    rfl

theorem ownWait_refillNotes (rest : List UInt32) :
    ownWait (refillNotes context site rest) = if rest = [] then 0 else context.refillDelay.nanos := by
  cases rest with
  | nil => rfl
  | cons next rest => exact Nat.zero_add _

/-- The run waits before each target but the first, once the cycle before it has succeeded. -/
theorem cycles_wait (targets : List UInt32) (world : RunWorld ω) :
    ownWait (cycles context site targets world).notes = context.refillDelay.nanos *
      min (succeeded (attempts context site targets world)).length (targets.length - 1) := by
  induction targets, world using cycles_induction context site with
  | nil world => rfl
  | failed target rest world failure h =>
    have still := ownWait_of_midCycle ((cycle_contained context site target).notes world)
    rw [cycles_of_error rest h, attempts_of_error rest h, (tell_of_error h).1, still]
    simp
  | succeeded target rest world result h ih =>
    have still := ownWait_of_midCycle ((cycle_contained context site target).notes world)
    have last (failures : List SoftFailure) : ownWait (endNotes result failures) = 0 := rfl
    rw [cycles_of_ok rest h, attempts_of_ok rest h,
      (tell_of_ok (a := .ofCycle context site target world) h _).1, ownWait_append,
      ownWait_append, ownWait_append, still, last, ownWait_refillNotes, ih, List.length_cons,
      List.length_cons, Nat.add_sub_cancel]
    cases rest with
    | nil => simp
    | cons next rest =>
      rw [if_neg (List.cons_ne_nil next rest), List.length_cons, Nat.add_sub_cancel,
        Nat.add_min_add_right, Nat.mul_add]
      omega

end Agreement

/-! ## The whole test -/

/-- How a run begins on a site: protected mode is disabled, and no check has failed. -/
def runOpening (site : Site ω) (world : ω) : Trace RunNote (RunWorld ω) Unit :=
  ask .disableProtectedMode (disableProtectedMode site.headNode) ⟨world, .empty⟩

/-- What there is to tell about a run: how its first call ended, and its cycles. -/
structure Account where
  opening : Except Failure Unit
  attempts : List Attempt

namespace Account

/-- The account of a run on a site, in a world of the site. -/
def ofRun (context : RunContext) (site : Site ω) (world : ω) : Account :=
  let opening := runOpening site world
  ⟨opening.outcome, match opening.outcome with
    | .ok _ => FleetScaling.attempts context site context.targets opening.world
    | .error _ => []⟩

/-- The failure that ended the run early, if any. -/
def fatal? (a : Account) : Option Failure :=
  match a.opening with
  | .ok _ => fatalOf? a.attempts
  | .error failure => some failure

/-- The results of the cycles that succeeded. -/
def results (a : Account) : List CycleResult := resultsOf a.attempts

/-- The soft failures of the cycles that succeeded. -/
def failures (a : Account) : List SoftFailure := failuresOf a.attempts

/-- The targets of the cycles that succeeded. -/
def completed (a : Account) : List UInt32 := (succeeded a.attempts).map Attempt.target

/-- The outcome of a run with this account. -/
def outcome (a : Account) : Except Failure (List CycleResult) :=
  match a.fatal? with
  | some failure => .error failure
  | none => if a.failures = [] then .ok a.results else .error (.of (.softFailures a.failures))

theorem outcome_ok_iff (a : Account) (results : List CycleResult) : a.outcome = .ok results ↔
    a.fatal? = none ∧ a.failures = [] ∧ results = a.results := by
  unfold outcome
  cases a.fatal? with
  | some failure => simp
  | none => by_cases h : a.failures = [] <;> simp [h, eq_comm]

/-- A party may fail as the soft failures do; otherwise these are raised only if every cycle
succeeded. -/
theorem outcome_soft_iff (a : Account) (failures : List SoftFailure) :
    a.outcome = .error (.of (.softFailures failures)) ↔
      a.fatal? = some (.of (.softFailures failures)) ∨
      (a.fatal? = none ∧ failures = a.failures ∧ failures ≠ []) := by
  unfold outcome
  cases a.fatal? with
  | some failure => simp
  | none =>
    by_cases h : a.failures = []
    · rw [if_pos h]
      constructor
      · intro hf
        cases hf
      · rintro (hf | ⟨_, hf, hne⟩)
        · cases hf
        · exact absurd (hf.trans h) hne
    · rw [if_neg h]
      constructor
      · intro hf
        cases hf
        exact Or.inr ⟨rfl, rfl, h⟩
      · rintro (hf | ⟨_, hf, _⟩)
        · cases hf
        · rw [hf]

theorem outcome_of_fatal {a : Account} {failure : Failure} (h : a.fatal? = some failure) :
    a.outcome = .error failure := by
  unfold outcome
  rw [h]

end Account

section Run

variable (context : RunContext) (site : Site ω) (world : ω)

/-- A run that could not begin has no cycles. -/
theorem account_of_error {failure : Failure}
    (h : (runOpening site world).outcome = .error failure) :
    Account.ofRun context site world = ⟨.error failure, []⟩ := by
  unfold Account.ofRun
  simp only [h]

theorem account_of_ok (h : (runOpening site world).outcome = .ok ()) :
    Account.ofRun context site world =
      ⟨.ok (), attempts context site context.targets (runOpening site world).world⟩ := by
  unfold Account.ofRun
  simp only [h]

/-- The targets that were begun are the first of all, and all of them if nothing was fatal. -/
theorem account_targets :
    let a := Account.ofRun context site world
    a.attempts.map Attempt.target <+: context.targets ∧
      (a.fatal? = none → a.attempts.map Attempt.target = context.targets) ∧
      a.results.map CycleResult.target = a.completed := by
  intro a
  rcases h : (runOpening site world).outcome with failure | _
  · rw [show a = _ from account_of_error context site world h]
    exact ⟨List.nil_prefix, fun hf => (nomatch hf), rfl⟩
  · rw [show a = _ from account_of_ok context site world h]
    obtain ⟨hp, he⟩ := attempts_targets context site context.targets (runOpening site world).world
    exact ⟨hp, he, results_targets context site context.targets _⟩

theorem runOpening_calls : callNotes (runOpening site world).notes = [.disableProtectedMode] := by
  unfold runOpening
  rw [ask_apply]
  exact congrArg (Call.disableProtectedMode :: ·) (callNotes_party _)

theorem runOpening_contained : ∀ n ∈ (runOpening site world).notes, n.IsMidCycle :=
  (Contained.ask _ _).notes _

/-- The note of a run whose protected mode is disabled. -/
def runNotes : List RunNote :=
  [.own (.measured (.run context.region context.computeNode context.strategy.name))]

theorem stressLoop_of_error {failure : Failure}
    (h : (runOpening site world).outcome = .error failure) :
    stressLoop context site ⟨world, .empty⟩ =
      ⟨.error failure, (runOpening site world).world, (runOpening site world).notes⟩ := by
  exact Operation.bind_of_error h

/-- Once protected mode is disabled, the cycles are run, and their failures raised. -/
theorem stressLoop_of_ok (h : (runOpening site world).outcome = .ok ()) :
    let done := cycles context site context.targets (runOpening site world).world
    (stressLoop context site ⟨world, .empty⟩).notes =
        (runOpening site world).notes ++ runNotes context ++ done.notes ∧
      (stressLoop context site ⟨world, .empty⟩).outcome = match done.outcome with
        | .error failure => .error failure
        | .ok results => if done.world.soft.failures = [] then .ok results
            else .error (.of (.softFailures done.world.soft.failures)) := by
  intro done
  have all : allCycles context site ⟨world, .empty⟩ = ⟨done.outcome, done.world,
      (runOpening site world).notes ++ (runNotes context ++ done.notes)⟩ :=
    Operation.bind_of_ok h
  rw [stressLoop_eq]
  rcases ho : done.outcome with failure | results
  · rw [Operation.bind_of_error (by rw [all, ho]), all]
    exact ⟨(List.append_assoc _ _ _).symm, rfl⟩
  · rw [Operation.bind_of_ok (a := results) (by rw [all, ho]), all, raiseFailures_apply,
      List.append_nil]
    exact ⟨(List.append_assoc _ _ _).symm, rfl⟩

/-- What the loop returns and notes agrees with the account. -/
theorem stressLoop_account :
    let a := Account.ofRun context site world
    let loop := stressLoop context site ⟨world, .empty⟩
    loop.outcome = a.outcome ∧
      callNotes loop.notes = .disableProtectedMode :: a.attempts.flatMap Attempt.calls ∧
      ownWait loop.notes =
        context.refillDelay.nanos * min a.completed.length (context.targets.length - 1) ∧
      ∀ (start : Int64) (moments : Nat → Int64),
        ((RunProgress.initial start).hearAll moments loop.notes).books =
          .of a.results a.completed a.failures := by
  intro a loop
  have calls := runOpening_calls site world
  have contained := runOpening_contained site world
  rcases h : (runOpening site world).outcome with failure | _
  · rw [show a = _ from account_of_error context site world h,
      show loop = _ from stressLoop_of_error context site world h]
    refine ⟨rfl, calls, ?_, fun start moments => books_hearAll contained moments _⟩
    rw [ownWait_of_midCycle contained]
    exact (Nat.mul_zero _).symm
  · rw [show a = _ from account_of_ok context site world h]
    obtain ⟨hnotes, houtcome⟩ := stressLoop_of_ok context site world h
    rw [show loop.notes = _ from hnotes, show loop.outcome = _ from houtcome]
    refine ⟨?_, ?_, ?_, fun start moments => ?_⟩
    · rw [cycles_outcome]
      unfold Account.outcome Account.failures
      rcases hf : fatalOf? (attempts context site context.targets _) with _ | failure
      · rw [cycles_failures _ _ _ _ hf]
        show _ = match fatalOf? (attempts _ _ _ _) with | some _ => _ | none => _
        rw [hf]
        rfl
      · show _ = match fatalOf? (attempts _ _ _ _) with | some _ => _ | none => _
        rw [hf]
    · rw [callNotes_append, callNotes_append, calls, cycles_calls]
      rfl
    · rw [ownWait_append, ownWait_append, ownWait_of_midCycle contained, cycles_wait]
      unfold Account.completed
      rw [List.length_map]
      exact Nat.zero_add _
    · rw [RunProgress.hearAll_append, RunProgress.hearAll_append]
      have begun (moments' : Nat → Int64) : (((RunProgress.initial start).hearAll moments
          (runOpening site world).notes).hearAll moments' (runNotes context)).books =
          .of [] [] (runOpening site world).world.soft.failures :=
        books_hearAll contained moments _
      exact cycles_books context site context.targets _ _ (begun _)

/-- The end of a run is published over the books, which stay. -/
theorem hear_ending (p : RunProgress) (moments : Nat → Int64)
    (outcome : Except Failure (List CycleResult)) :
    let q := p.hearAll moments [.progress (ending outcome)]
    q.results = p.results ∧ q.status.completed = p.status.completed ∧
      q.status.failureCount = p.status.failureCount ∧ q.status.target = none ∧
      match outcome with
      | .ok _ => q.status.phase = .completed ∧ q.status.message = none
      | .error failure => q.status.phase = .failed ∧ q.status.message = some failure.message := by
  cases outcome with
  | ok results => exact ⟨rfl, rfl, rfl, rfl, rfl, rfl⟩
  | error failure => exact ⟨rfl, rfl, rfl, rfl, rfl, rfl⟩

end Run

/-- **Outcome, progress and pauses agree.** Whatever the targets and the parties, a run returns the
results of its cycles exactly if nothing was fatal and no check failed, and the failures of all
cycles exactly if some did; what was fatal is returned as it is, and no later target is begun.
The progress then shows the cycles that succeeded, and nothing of the one that did not. -/
theorem stressTest_accounts (context : RunContext) (site : Site ω) (world : ω) (start : Int64)
    (moments : Nat → Int64) :
    let run := stressTest context site ⟨world, .empty⟩
    let a := Account.ofRun context site world
    let progress := (RunProgress.initial start).hearAll moments run.notes
    ((∀ results, run.outcome = .ok results ↔
        a.fatal? = none ∧ a.failures = [] ∧ results = a.results) ∧
      (∀ failures, run.outcome = .error (.of (.softFailures failures)) ↔
        a.fatal? = some (.of (.softFailures failures)) ∨
        (a.fatal? = none ∧ failures = a.failures ∧ failures ≠ [])) ∧
      ∀ failure, a.fatal? = some failure → run.outcome = .error failure) ∧
    (callNotes run.notes = .disableProtectedMode :: a.attempts.flatMap Attempt.calls ∧
      a.attempts.map Attempt.target <+: context.targets ∧
      (a.fatal? = none → a.attempts.map Attempt.target = context.targets)) ∧
    (progress.results = ⟨a.results, a.failures⟩ ∧
      progress.status.completed = a.completed ∧
      a.results.map CycleResult.target = a.completed ∧
      progress.status.failureCount = UInt64.ofNat a.failures.length ∧
      progress.status.target = none ∧
      match run.outcome with
      | .ok _ => progress.status.phase = .completed ∧ progress.status.message = none
      | .error failure =>
        progress.status.phase = .failed ∧ progress.status.message = some failure.message) ∧
    ownWait run.notes =
      context.refillDelay.nanos * min a.completed.length (context.targets.length - 1) := by
  intro run a progress
  let loop := stressLoop context site ⟨world, .empty⟩
  obtain ⟨houtcome, hcalls, hwait, hbooks⟩ := stressLoop_account context site world
  obtain ⟨hbegun, hall, htargets⟩ := account_targets context site world
  have hrun : run = ⟨loop.outcome, loop.world, loop.notes ++ [.progress (ending loop.outcome)]⟩ :=
    stressTest_apply context site ⟨world, .empty⟩
  refine ⟨?_, ⟨?_, hbegun, hall⟩, ?_, ?_⟩
  · rw [hrun, show loop.outcome = a.outcome from houtcome]
    exact ⟨a.outcome_ok_iff, a.outcome_soft_iff, fun failure => Account.outcome_of_fatal⟩
  · rw [hrun, callNotes_append, hcalls]
    exact List.append_nil _
  · let heard := (RunProgress.initial start).hearAll moments loop.notes
    let later (i : Nat) : Int64 := moments (i + loop.notes.length)
    have books : heard.books = .of a.results a.completed a.failures := hbooks start moments
    have hprogress : progress = heard.hearAll later [.progress (ending loop.outcome)] := by
      show RunProgress.hearAll moments _ run.notes = _
      rw [hrun, RunProgress.hearAll_append]
    obtain ⟨hr, hc, hn, ht, he⟩ := hear_ending heard later loop.outcome
    rw [hprogress, hrun]
    exact ⟨hr.trans (congrArg Books.results books), hc.trans (congrArg Books.completed books),
      htargets, hn.trans (congrArg Books.failureCount books), ht, he⟩
  · rw [hrun, ownWait_append, hwait]
    cases loop.outcome <;> rfl

end FleetScaling

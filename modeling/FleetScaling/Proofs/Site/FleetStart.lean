import FleetScaling.Proofs.Site.Attempts
import FleetScaling.Proofs.Site.FleetReports
import FleetScaling.Proofs.Site.Looks

/-!
# Starting and stopping the fleet

The tool that starts and stops the fleet may end in any way, each time another: its `n`-th run ends
as `answers n` says, and takes no time. The first run asks for a status (`request_told`); the
others, if the start is waited for, are looks at the fleet, which end with the first that says that
it runs or fails to say anything. The last of them comes when the time is up. `startFleet_polls`
tells which runs there are, when, and what they lead to.
-/

namespace FleetScaling

open Text Json Time

/-! ## What the tool answers -/

/-- The arguments with which another status is asked for. -/
def updateArguments (name region wanted : String) : List String :=
  ["update-compute-fleet", "--cluster-name", name, "--region", region, "--status", wanted]

/-- The arguments with which the fleet is looked at. -/
def describeArguments (name region : String) : List String :=
  ["describe-compute-fleet", "--cluster-name", name, "--region", region]

/-- What a checked run of a program comes to if it ends so. -/
def checkedRun (program : String) (arguments : List String) (answer : Answer) :
    Except Failure CommandResult :=
  ((answer.map Completion.result).mapError fun e =>
    (Failure.of (.file e)).within ("Failed to spawn " ++ program)).bind
      (·.checked ("`" ++ program ++ " " ++ joined " " arguments ++ "`"))

/-- What a look at the fleet comes to if the tool ends so. -/
def fleetVerdict (name region : String) (answer : Answer) : Except Failure (Except String Unit) :=
  ((checkedRun "pcluster" (describeArguments name region) answer).bind fun r =>
    FleetStatus.ofText r.output).map fun fleet =>
      if fleet.status = "RUNNING" then .ok () else .error fleet.status

namespace Answer

/-- The program could be started and ended well. -/
def Succeeds (answer : Answer) : Prop :=
  ∃ completion, answer = .ok completion ∧ completion.code = some 0

/-- The program could not be started or did not end well. -/
inductive Fails (program : String) (arguments : List String) : Answer → Failure → Prop
  | unstarted (e : FileError) : Fails program arguments (.error e)
    ((Failure.of (.file e)).within ("Failed to spawn " ++ program))
  | refused {completion : Completion} (code : completion.code ≠ some 0) :
    Fails program arguments (.ok completion) (.other ("`" ++ program ++ " " ++
      joined " " arguments ++ "`" ++ " failed with exit code " ++
      toString (completion.code.getD (-1)) ++ ": " ++ trim (lossyText completion.errors)))

/-- The tool ended well and says that the fleet has a status. -/
def Says (answer : Answer) (status : String) : Prop :=
  ∃ completion, answer = .ok completion ∧ completion.code = some 0 ∧
    ReportsStatus (lossyText completion.output) status

/-- The tool failed, or what it says is no report on the fleet. -/
inductive SaysNothing (arguments : List String) : Answer → Failure → Prop
  | failed {answer : Answer} {failure : Failure} (h : answer.Fails "pcluster" arguments failure) :
    SaysNothing arguments answer failure
  | unread {completion : Completion} {e : DecodeError} (code : completion.code = some 0)
    (none : ∀ status, ¬ReportsStatus (lossyText completion.output) status)
    (why : decode (FleetStatus.record.decoder "ComputeFleetStatus")
      (lossyText completion.output) = .error e) :
    SaysNothing arguments (.ok completion) (unreadReport e)

section

variable {program status status' name region : String} {arguments : List String} {answer : Answer}
  {failure : Failure} {completion : Completion}

theorem code_getD_eq_zero_iff {code : Option Int} : code.getD (-1) = 0 ↔ code = some 0 := by
  cases code <;> simp

theorem checkedRun_of_code (h : completion.code = some 0) :
    checkedRun program arguments (.ok completion) = .ok completion.result :=
  checked_of_code (code_getD_eq_zero_iff.2 h)

theorem Fails.checkedRun (h : answer.Fails program arguments failure) :
    FleetScaling.checkedRun program arguments answer = .error failure := by
  cases h with
  | unstarted e => rfl
  | @refused completion code =>
    have ended : completion.result.exitCode ≠ 0 := mt code_getD_eq_zero_iff.1 code
    exact checked_of_code_ne ended

theorem exists_fails_or (program : String) (arguments : List String) (answer : Answer) :
    answer.Succeeds ∨ ∃ failure, answer.Fails program arguments failure := by
  rcases answer with e | completion
  · exact Or.inr ⟨_, .unstarted e⟩
  by_cases code : completion.code = some 0
  · exact Or.inl ⟨completion, rfl, code⟩
  · exact Or.inr ⟨_, .refused code⟩

theorem Says.verdict (h : answer.Says status) : fleetVerdict name region answer =
    .ok (if status = "RUNNING" then .ok () else .error status) := by
  obtain ⟨completion, rfl, code, reports⟩ := h
  obtain ⟨updated, read⟩ := FleetStatus.ofText_eq_ok_iff.2 reports
  unfold fleetVerdict
  rw [checkedRun_of_code code]
  exact congrArg (Except.map _) read

theorem SaysNothing.verdict (h : answer.SaysNothing (describeArguments name region) failure) :
    fleetVerdict name region answer = .error failure := by
  unfold fleetVerdict
  cases h with
  | failed h => rw [h.checkedRun]; rfl
  | unread code none why =>
    rw [checkedRun_of_code code]
    exact congrArg (Except.map _) (decodeWithin_of_error why)

theorem exists_says_or (arguments : List String) (answer : Answer) :
    (∃ status, answer.Says status) ∨ ∃ failure, answer.SaysNothing arguments failure := by
  obtain ⟨completion, rfl, code⟩ | ⟨failure, h⟩ := answer.exists_fails_or "pcluster" arguments
  · by_cases reports : ∃ status, ReportsStatus (lossyText completion.output) status
    · obtain ⟨status, reports⟩ := reports
      exact Or.inl ⟨status, completion, rfl, code, reports⟩
    · have none := not_exists.1 reports
      obtain ⟨e, why⟩ := FleetStatus.exists_decodeError none
      exact Or.inr ⟨_, .unread code none why⟩
  · exact Or.inr ⟨failure, .failed h⟩

theorem Fails.not_succeeds (h : answer.Fails program arguments failure) : ¬answer.Succeeds := by
  rintro ⟨completion, rfl, code⟩
  cases h with
  | refused hcode => exact hcode code

theorem SaysNothing.not_saying (h : answer.SaysNothing arguments failure) (status : String) :
    ¬answer.Says status := by
  rintro ⟨completion, rfl, code, reports⟩
  cases h with
  | failed h => exact h.not_succeeds ⟨completion, rfl, code⟩
  | unread _ none _ => exact none status reports

theorem Says.unique (h : answer.Says status) (h' : answer.Says status') : status = status' := by
  obtain ⟨completion, rfl, -, reports⟩ := h
  obtain ⟨_, same, -, reports'⟩ := h'
  cases same
  exact reports.unique reports'

end

end Answer

/-! ## Runs of the tool -/

/-- A cluster whose tool is told how its runs end. -/
def toldCluster (name region : String) (answers : Nat → Answer) : ParallelCluster Nat :=
  .ofPrograms name region (toldPrograms answers)

section

variable {name region wanted message : String} {answers : Nat → Answer} {failure : Failure}
  {n : Nat}

theorem runChecked_toldPrograms (answers : Nat → Answer) (program : String)
    (arguments : List String) (n : Nat) : (toldPrograms answers).runChecked program arguments n =
      ⟨checkedRun program arguments (answers n), n + 1, [.started program arguments]⟩ := by
  unfold Programs.runChecked Programs.run
  rw [Operation.bind_ofExcept_apply, runOr_toldPrograms]
  rfl

/-- Asking for a status is one run of the tool. -/
theorem request_told (name region wanted : String) (answers : Nat → Answer) (n : Nat) :
    (toldCluster name region answers).request wanted n =
      ⟨withContext ("Failed to set compute fleet of " ++ name ++ " to " ++ wanted)
        ((checkedRun "pcluster" (updateArguments name region wanted) (answers n)).map fun _ => ()),
        n + 1, [.started "pcluster" (updateArguments name region wanted)]⟩ := by
  have run : (toldCluster name region answers).programs.runChecked "pcluster"
      (["update-compute-fleet"] ++ (toldCluster name region answers).common ++
        ["--status", wanted]) n = _ :=
    runChecked_toldPrograms answers "pcluster" (updateArguments name region wanted) n
  unfold ParallelCluster.request
  rw [Operation.bind_pure_apply, Operation.within_apply, run]
  cases checkedRun "pcluster" (updateArguments name region wanted) (answers n) <;> rfl

theorem request_of_succeeds (h : (answers n).Succeeds) :
    (toldCluster name region answers).request wanted n =
      ⟨.ok (), n + 1, [.started "pcluster" (updateArguments name region wanted)]⟩ := by
  obtain ⟨completion, hanswer, code⟩ := h
  rw [request_told, hanswer, Answer.checkedRun_of_code code]
  rfl

theorem request_of_fails
    (h : (answers n).Fails "pcluster" (updateArguments name region wanted) failure) :
    (toldCluster name region answers).request wanted n =
      ⟨.error (failure.within ("Failed to set compute fleet of " ++ name ++ " to " ++ wanted)),
        n + 1, [.started "pcluster" (updateArguments name region wanted)]⟩ := by
  rw [request_told, h.checkedRun]
  rfl

/-- A look at the fleet is one run of the tool. -/
theorem isRunning_counted (name region : String) (answers : Nat → Answer) :
    CountedLook (toldCluster name region answers).isRunning
      (fun n => fleetVerdict name region (answers n))
      [.started "pcluster" (describeArguments name region)] := by
  intro n
  have run : (toldCluster name region answers).programs.runChecked "pcluster"
      (["describe-compute-fleet"] ++ (toldCluster name region answers).common) n = _ :=
    runChecked_toldPrograms answers "pcluster" (describeArguments name region) n
  unfold ParallelCluster.isRunning ParallelCluster.status
  rw [Operation.bind_pure_apply, Operation.bind_ofExcept_apply, run]
  rfl

/-! ## Asking for a status -/

/-- The course of asking for a status and saying so in the log. -/
inductive Asks (name region wanted message : String) (answer : Answer) :
    Trace SiteNote Nat Unit → Prop
  | accepted (h : answer.Succeeds) : Asks name region wanted message answer
    ⟨.ok (), 1, [.started "pcluster" (updateArguments name region wanted),
      .logged (.info message [("cluster", .text name)])]⟩
  | refused {failure : Failure}
    (h : answer.Fails "pcluster" (updateArguments name region wanted) failure) :
    Asks name region wanted message answer
      ⟨.error (failure.within ("Failed to set compute fleet of " ++ name ++ " to " ++ wanted)), 1,
        [.started "pcluster" (updateArguments name region wanted)]⟩

theorem asks_of_logs {rest : Unit → SiteOperation Nat Unit}
    (logs : rest () 1 = ⟨.ok (), 1, [.logged (.info message [("cluster", .text name)])]⟩) :
    Asks name region wanted message (answers 0)
      (((toldCluster name region answers).request wanted >>= rest) 0) := by
  obtain h | ⟨failure, h⟩ :=
    (answers 0).exists_fails_or "pcluster" (updateArguments name region wanted)
  · rw [Operation.bind_eq_of_ok (request_of_succeeds h), logs]
    exact .accepted h
  · rw [Operation.bind_eq_of_error (request_of_fails h)]
    exact .refused h

/-! ## Waiting for the fleet -/

/-- What a start comes to by the last look, which follows `k` others. -/
inductive EndsWith (name region : String) (k : Nat) (answer : Answer) : Except Failure Unit → Prop
  | running (h : answer.Says "RUNNING") : EndsWith name region k answer (.ok ())
  | saysNothing {failure : Failure}
    (h : answer.SaysNothing (describeArguments name region) failure) :
    EndsWith name region k answer (.error failure)
  | late {status : String} (up : k = 90) (h : answer.Says status) (idle : status ≠ "RUNNING") :
    EndsWith name region k answer (.error (.other
      ("Compute fleet of " ++ name ++ " still " ++ status ++ " after 900s")))

/-- What is logged when the looks have come to this. -/
def runningNotes (name : String) : Except Failure Unit → List SiteNote
  | .ok () => [.logged (.info "Compute fleet running" [("cluster", .text name)])]
  | .error _ => []

/-- What is said when there were looks for so long and the last has shown this status. -/
def stillFailure (name : String) (waited : Duration) (status : String) : Failure :=
  .other ("Compute fleet of " ++ name ++ " still " ++ status ++ " after " ++ waited.text)

theorem timeUp_usualLook : timeUp usualLook (.ofSeconds 900) = 90 := rfl

theorem stillFailure_timeUp (name status : String) :
    stillFailure name ⟨90 * usualLook.length.nanos⟩ status =
      .other ("Compute fleet of " ++ name ++ " still " ++ status ++ " after 900s") := by
  have text : (⟨90 * usualLook.length.nanos⟩ : Duration).text = "900s" := by decide
  unfold stillFailure
  rw [text, String.append_assoc]
  rfl

/-- A look leaves open whether the fleet runs exactly if it shows another status. -/
theorem leftOpen_fleetVerdict_iff {answer : Answer} :
    LeftOpen (fleetVerdict name region answer) ↔
      ∃ status, answer.Says status ∧ status ≠ "RUNNING" := by
  constructor
  · rintro ⟨seen, hseen⟩
    obtain ⟨status, h⟩ | ⟨failure, h⟩ := answer.exists_says_or (describeArguments name region)
    · refine ⟨status, h, fun running => ?_⟩
      rw [h.verdict, if_pos running] at hseen
      cases hseen
    · rw [h.verdict] at hseen
      cases hseen
  · rintro ⟨status, h, idle⟩
    exact ⟨status, by rw [h.verdict, if_neg idle]⟩

theorem endsWith_settled {k : Nat} {answer : Answer}
    (last : (¬∃ status, answer.Says status ∧ status ≠ "RUNNING") ∨ k = 90) :
    EndsWith name region k answer (settled (stillFailure name ⟨k * usualLook.length.nanos⟩)
      (fleetVerdict name region answer)) := by
  obtain ⟨status, h⟩ | ⟨failure, h⟩ := answer.exists_says_or (describeArguments name region)
  · by_cases running : status = "RUNNING"
    · rw [h.verdict, if_pos running]
      exact .running (running ▸ h)
    · have up : k = 90 := last.resolve_left (not_not_intro ⟨status, h, running⟩)
      rw [h.verdict, if_neg running, up]
      show EndsWith name region 90 answer (.error (stillFailure name _ status))
      rw [stillFailure_timeUp]
      exact .late rfl h running
  · rw [h.verdict]
    exact .saysNothing h

/-- The looks at the fleet, after the run that asked for the start. -/
theorem looks_course (name region : String) (answers : Nat → Answer) :
    let c := toldCluster name region answers
    ∃ k ≤ 90, (∀ i < k, ∃ status, (answers (i + 1)).Says status ∧ status ≠ "RUNNING") ∧
      ∃ outcome, EndsWith name region k (answers (k + 1)) outcome ∧
        lookUntil usualLook (.ofSeconds 900) c.isRunning c.late .zero 1 =
          ⟨outcome, k + 2, (List.range k).flatMap (fun _ =>
              [.started "pcluster" (describeArguments name region), .waited (.ofSeconds 10)]) ++
            [.started "pcluster" (describeArguments name region)]⟩ := by
  intro c
  have counted := isRunning_counted name region answers
  obtain ⟨k, hle, opened, ends, last⟩ := counted.exists_last usualLook (.ofSeconds 900) 1
  rw [timeUp_usualLook] at hle ends
  have course := counted.course (stillFailure name) last
  simp only [Nat.add_comm 1, leftOpen_fleetVerdict_iff] at opened ends course
  exact ⟨k, hle, opened, _, endsWith_settled ends, course⟩

/-- The looks have shown that the fleet runs exactly if one of them does and all before it show
something. -/
theorem EndsWith.ok_iff {k : Nat} {outcome : Except Failure Unit}
    (h : EndsWith name region k (answers (k + 1)) outcome) (hle : k ≤ 90)
    (idle : ∀ i < k, ∃ status, (answers (i + 1)).Says status ∧ status ≠ "RUNNING") :
    outcome = .ok () ↔ ∃ j ≤ 90, (answers (j + 1)).Says "RUNNING" ∧
      ∀ i < j, ∃ status, (answers (i + 1)).Says status := by
  constructor
  · rintro rfl
    cases h with
    | running h => exact ⟨k, hle, h, fun i hi => (idle i hi).imp fun _ hs => hs.1⟩
  · rintro ⟨j, hj, running, before⟩
    have hkj : k ≤ j := by
      by_contra hlt
      obtain ⟨status, h, other⟩ := idle j (by omega)
      exact other (h.unique running)
    -- the last look shows something, since no look up to `j` fails to
    have shown : ∃ status, (answers (k + 1)).Says status := by
      obtain hlt | rfl := Nat.lt_or_eq_of_le hkj
      · exact before k hlt
      · exact ⟨_, running⟩
    cases h with
    | running => rfl
    | saysNothing h =>
      obtain ⟨status, hshown⟩ := shown
      exact absurd hshown (h.not_saying status)
    | late up h other =>
      obtain rfl : j = k := by omega
      exact absurd (h.unique running) other

/-- A start that is waited for goes on with the looks, and ends with them. -/
theorem start_of_succeeds (h : (answers 0).Succeeds) {outcome : Except Failure Unit} {n : Nat}
    {looks : List SiteNote}
    (looked : lookUntil usualLook (.ofSeconds 900) (toldCluster name region answers).isRunning
      (toldCluster name region answers).late .zero 1 = ⟨outcome, n, looks⟩) :
    (toldCluster name region answers).start true 0 =
      ⟨outcome, n, .started "pcluster" (updateArguments name region "START_REQUESTED") ::
        .logged (.info "Compute fleet start requested" [("cluster", .text name)]) ::
        (looks ++ runningNotes name outcome)⟩ := by
  let c := toldCluster name region answers
  have wait : (lookUntil usualLook (.ofSeconds 900) c.isRunning c.late .zero >>= fun _ =>
      log (c.entry "Compute fleet running")) 1 =
        ⟨outcome, n, looks ++ runningNotes name outcome⟩ := by
    cases outcome with
    | ok => exact Operation.bind_eq_of_ok looked
    | error failure =>
      refine (Operation.bind_eq_of_error looked).trans ?_
      exact congrArg (Trace.mk _ _) (List.append_nil looks).symm
  have steps : c.start true = c.request "START_REQUESTED" >>= fun _ =>
      log (c.entry "Compute fleet start requested") >>= fun _ =>
        lookUntil usualLook (.ofSeconds 900) c.isRunning c.late .zero >>= fun _ =>
          log (c.entry "Compute fleet running") := rfl
  rw [steps, Operation.bind_eq_of_ok (request_of_succeeds h),
    Operation.bind_eq_of_ok (log_apply _ _), wait]
  rfl

/-- Only the pauses between the looks take time. -/
theorem totalWait_start (name program : String) (update describe : List String) (entry : LogEntry)
    (k : Nat) (outcome : Except Failure Unit) :
    totalWait (.started program update :: .logged entry ::
      ((List.range k).flatMap (fun _ => [.started program describe, .waited (.ofSeconds 10)]) ++
        [.started program describe] ++ runningNotes name outcome)) = .ofSeconds (10 * k) := by
  have between : (totalWait ((List.range k).flatMap fun _ =>
      [.started program describe, .waited (.ofSeconds 10)])).nanos = k * 10000000000 :=
    (requests_between (f := fun _ => [.started program describe]) (fun _ => rfl) 0 k).2
  have last : (totalWait [.started program describe]).nanos = 0 := rfl
  have logging : (totalWait (runningNotes name outcome)).nanos = 0 := by cases outcome <;> rfl
  have opening (notes : List SiteNote) :
      totalWait (.started program update :: .logged entry :: notes) = totalWait notes := rfl
  rw [opening]
  refine congrArg Duration.mk (show (totalWait _).nanos = 1000000000 * (10 * k) from ?_)
  rw [totalWait_append, totalWait_append, between, last, logging]
  omega

end

/-- **Starting and stopping the fleet.** However the runs of the tool end, a start that is waited
for asks once for the status and, unless that fails, looks at the fleet up to 91 times, ten seconds
apart. All looks before the last show a fleet that is not running. The last one shows that it runs;
or it fails, and the start with it; or it comes after 900 seconds, and the start fails with the
status that it shows. So the start succeeds exactly if the request does and one of the 91 looks
shows that the fleet runs before any of them fails. A start that is not waited for and a stop are
one run of the tool each. -/
theorem startFleet_polls (name region : String) (answers : Nat → Answer) :
    let c := toldCluster name region answers
    let t := c.start true 0
    let wanted := "START_REQUESTED"
    let arguments := updateArguments name region wanted
    let update : SiteNote := .started "pcluster" arguments
    let describe : SiteNote := .started "pcluster" (describeArguments name region)
    let requested : SiteNote :=
      .logged (.info "Compute fleet start requested" [("cluster", .text name)])
    (t.outcome = .ok () ↔ (answers 0).Succeeds ∧ ∃ k ≤ 90, (answers (k + 1)).Says "RUNNING" ∧
      ∀ i < k, ∃ status, (answers (i + 1)).Says status) ∧
    ((∃ failure, (answers 0).Fails "pcluster" arguments failure ∧ t = ⟨.error (failure.within
        ("Failed to set compute fleet of " ++ name ++ " to " ++ wanted)), 1, [update]⟩) ∨
      (answers 0).Succeeds ∧ ∃ k ≤ 90,
        (∀ i < k, ∃ status, (answers (i + 1)).Says status ∧ status ≠ "RUNNING") ∧
        EndsWith name region k (answers (k + 1)) t.outcome ∧ t.world = k + 2 ∧
        t.notes = [update, requested] ++
          (List.range k).flatMap (fun _ => [describe, .waited (.ofSeconds 10)]) ++ [describe] ++
          runningNotes name t.outcome ∧
        totalWait t.notes = .ofSeconds (10 * k)) ∧
    Asks name region wanted "Compute fleet start requested" (answers 0) (c.start false 0) ∧
    Asks name region "STOP_REQUESTED" "Compute fleet stop requested" (answers 0) (c.stop 0) := by
  intro c t wanted arguments update describe requested
  have rest : Asks name region wanted "Compute fleet start requested" (answers 0)
        (c.start false 0) ∧
      Asks name region "STOP_REQUESTED" "Compute fleet stop requested" (answers 0) (c.stop 0) :=
    ⟨asks_of_logs rfl, asks_of_logs rfl⟩
  obtain h | ⟨failure, h⟩ := (answers 0).exists_fails_or "pcluster" arguments
  · obtain ⟨k, hle, idle, outcome, ends, looked⟩ := looks_course name region answers
    have course : t = _ := start_of_succeeds h looked
    rw [course]
    refine ⟨?_, Or.inr ⟨h, k, hle, idle, ends, rfl, rfl, totalWait_start ..⟩, rest⟩
    rw [ends.ok_iff hle idle, and_iff_right h]
  · have course : t = _ := Operation.bind_eq_of_error (request_of_fails h)
    rw [course]
    exact ⟨iff_of_false nofun fun hok => h.not_succeeds hok.1, Or.inl ⟨failure, h, rfl⟩, rest⟩

end FleetScaling

import FleetScaling.Proofs.Run.Measures
import FleetScaling.Proofs.Site.LogFiles
import FleetScaling.Run.Smoke

/-!
# The course of the smoke test

The smoke test asks for four things one after another, each in the world that the one before has
left: that a job is submitted, that it runs, that it is cancelled, and that the log of the fleet's
manager is read. What it asks for ends with the first of them that fails (`SmokeCourse`), and the
test succeeds exactly if none does and the log holds no mark of a failed start (`smokeTest_course`).
-/

namespace FleetScaling

open Exchange (Happens)

variable {ω α β : Type}

/-! ## Following a run to its end -/

/-- The operation makes some calls in a world and ends with an outcome. -/
structure Ends (x : RunOperation ω α) (world : RunWorld ω) (calls : List Call)
    (outcome : Except Failure α) : Prop where
  calls_eq : callNotes (x world).notes = calls
  outcome_eq : (x world).outcome = outcome

namespace Ends

variable {world between : RunWorld ω} {calls calls' : List Call}

theorem ask (call : Call) (x : SiteOperation ω α) :
    Ends (FleetScaling.ask call x) world [call] (x world.site).outcome := by
  constructor
  · rw [ask_apply]
    exact congrArg (call :: ·) (callNotes_party _)
  · rw [ask_apply]

/-- After what succeeds, the rest. -/
theorem after {x : RunOperation ω α} {f : α → RunOperation ω β} {a : α}
    {outcome : Except Failure β} (hx : Yields x world a between calls)
    (hf : Ends (f a) between calls' outcome) : Ends (x >>= f) world (calls ++ calls') outcome := by
  constructor
  · rw [Operation.bind_of_ok hx.outcome_eq, callNotes_append, hx.calls_eq, hx.world_eq, hf.calls_eq]
  · rw [Operation.bind_of_ok hx.outcome_eq, hx.world_eq, hf.outcome_eq]

/-- Nothing comes after what fails. -/
theorem failed {x : RunOperation ω α} {failure : Failure} (f : α → RunOperation ω β)
    (hx : Ends x world calls (.error failure)) : Ends (x >>= f) world calls (.error failure) := by
  constructor
  · rw [Operation.bind_of_error hx.outcome_eq, hx.calls_eq]
  · rw [Operation.bind_of_error hx.outcome_eq]

/-- A call that is answered, an entry in the log, and the rest. -/
theorem ask_tell {call : Call} {x : SiteOperation ω α} {f : α → RunOperation ω β} {a : α}
    {site : ω} {entry : α → LogEntry} {outcome : Except Failure β}
    (hx : Yields (FleetScaling.ask call x) world a { world with site } [call])
    (hf : Ends (f a) { world with site } calls outcome) :
    Ends (FleetScaling.ask call x >>= fun a => tell (entry a) >>= fun _ => f a) world
      (call :: calls) outcome :=
  after hx (after (Yields.note rfl) hf)

/-- A call that fails. -/
theorem ask_failed {call : Call} {x : SiteOperation ω α} {failure : Failure}
    (f : α → RunOperation ω β) (h : (x world.site).outcome = .error failure) :
    Ends (FleetScaling.ask call x >>= f) world [call] (.error failure) :=
  failed f (h ▸ ask call x)

end Ends

/-! ## Courses -/

section Course

variable (headNode : HeadNode ω) (scheduler : Scheduler ω) (nodes : UInt32)

/-- The job was submitted as `id`, was seen to run and was cancelled, between two worlds. -/
def SmokeJobDone (id : String) (before after : ω) : Prop :=
  ∃ submitted running, Happens (scheduler.submit (smokeJob nodes)) (.ok id) before submitted ∧
    Happens (scheduler.waitRunning id) (.ok ()) submitted running ∧
    Happens (scheduler.cancel id) (.ok ()) running after

/-- The answer to the command that shows the log of the manager. -/
def managerAnswer (world : ω) : Except Failure CommandResult :=
  (headNode.run (showCommand managerLog) world).outcome

/-- What a smoke test that begins in `before` asks for, and how it ends. -/
inductive SmokeCourse (before : ω) : List Call → Except Failure Unit → Prop
  | notSubmitted {failure : Failure}
    (refused : (scheduler.submit (smokeJob nodes) before).outcome = .error failure) :
    SmokeCourse before [.submit (smokeJob nodes)]
      (.error (failure.within "Smoke test job was not accepted"))
  | notRunning {id : String} {submitted : ω} {failure : Failure}
    (submit : Happens (scheduler.submit (smokeJob nodes)) (.ok id) before submitted)
    (late : (scheduler.waitRunning id submitted).outcome = .error failure) :
    SmokeCourse before [.submit (smokeJob nodes), .waitRunning id] (.error failure)
  | notCancelled {id : String} {submitted running : ω} {failure : Failure}
    (submit : Happens (scheduler.submit (smokeJob nodes)) (.ok id) before submitted)
    (wait : Happens (scheduler.waitRunning id) (.ok ()) submitted running)
    (stuck : (scheduler.cancel id running).outcome = .error failure) :
    SmokeCourse before [.submit (smokeJob nodes), .waitRunning id, .cancel id] (.error failure)
  | logFault {id : String} {cancelled : ω} {failure : Failure}
    (done : SmokeJobDone scheduler nodes id before cancelled)
    (fault : LogFault [bootstrapFailureMarker] managerLog (managerAnswer headNode cancelled)
      failure) :
    SmokeCourse before
      [.submit (smokeJob nodes), .waitRunning id, .cancel id, .readLogs [managerLog]]
      (.error failure)
  | passed {id : String} {cancelled : ω}
    (done : SmokeJobDone scheduler nodes id before cancelled)
    (clean : Clean [bootstrapFailureMarker] (managerAnswer headNode cancelled)) :
    SmokeCourse before
      [.submit (smokeJob nodes), .waitRunning id, .cancel id, .readLogs [managerLog]] (.ok ())

end Course

section

variable {headNode : HeadNode ω} {scheduler : Scheduler ω} {nodes : UInt32} {id : String}

/-- The log of the manager is one file with one message to look for. -/
theorem managerLog_outcome (world : ω) :
    (expectNotLogged headNode [bootstrapFailureMarker] [managerLog] world).outcome =
      logVerdict [bootstrapFailureMarker] managerLog (managerAnswer headNode world) := by
  rcases clean_or_fault [bootstrapFailureMarker] managerLog (managerAnswer headNode world) with
    clean | ⟨failure, fault⟩
  · rw [expectNotLogged_of_clean clean, logVerdict_of_clean clean]
    rfl
  · rw [expectNotLogged_of_fault fault, logVerdict_of_fault fault]

/-- Every smoke test takes one of the courses: case by case, along the calls. -/
theorem smokeTest_takes (headNode : HeadNode ω) (scheduler : Scheduler ω) (cluster : String)
    (nodes : UInt32) (world : RunWorld ω) :
    let test := smokeTest headNode scheduler cluster nodes world
    SmokeCourse headNode scheduler nodes world.site (callNotes test.notes) test.outcome := by
  suffices h : ∃ calls outcome,
      Ends (smokeTest headNode scheduler cluster nodes) world calls outcome ∧
      SmokeCourse headNode scheduler nodes world.site calls outcome by
    obtain ⟨calls, outcome, ⟨hcalls, houtcome⟩, course⟩ := h
    rwa [← hcalls, ← houtcome] at course
  rcases submit : (scheduler.submit (smokeJob nodes) world.site).outcome with failure | id
  · refine ⟨_, _, .ask_failed _ ?_, .notSubmitted submit⟩
    rw [Operation.within_apply, submit]
    rfl
  have submit : Happens _ (.ok id) world.site _ := ⟨submit, rfl⟩
  generalize (scheduler.submit (smokeJob nodes) world.site).world = submitted at submit
  rcases wait : (scheduler.waitRunning id submitted).outcome with failure | _
  · exact ⟨_, _, .ask_tell (.ask_within _ submit) (.ask_failed _ wait), .notRunning submit wait⟩
  have wait : Happens _ (.ok ()) submitted _ := ⟨wait, rfl⟩
  generalize (scheduler.waitRunning id submitted).world = running at wait
  rcases cancel : (scheduler.cancel id running).outcome with failure | _
  · refine ⟨_, _, .ask_tell (.ask_within _ submit) (.ask_tell (.ask _ wait) (.ask_failed _ cancel)),
      .notCancelled submit wait cancel⟩
  have cancel : Happens _ (.ok ()) running _ := ⟨cancel, rfl⟩
  generalize (scheduler.cancel id running).world = cancelled at cancel
  have done : SmokeJobDone scheduler nodes id world.site cancelled :=
    ⟨submitted, running, submit, wait, cancel⟩
  refine ⟨_, _, .ask_tell (.ask_within _ submit) (.ask_tell (.ask _ wait)
    (.ask_tell (.ask _ cancel) (.ask _ _))), ?_⟩
  show SmokeCourse headNode scheduler nodes world.site _
    (expectNotLogged headNode [bootstrapFailureMarker] [managerLog] cancelled).outcome
  rw [managerLog_outcome]
  rcases clean_or_fault [bootstrapFailureMarker] managerLog (managerAnswer headNode cancelled) with
    clean | ⟨failure, fault⟩
  · rw [logVerdict_of_clean clean]
    exact .passed done clean
  · rw [logVerdict_of_fault fault]
    exact .logFault done fault

theorem SmokeJobDone.unique {id' : String} {before after after' : ω}
    (h : SmokeJobDone scheduler nodes id before after)
    (h' : SmokeJobDone scheduler nodes id' before after') : after = after' := by
  obtain ⟨submitted, running, ⟨ho, rfl⟩, ⟨-, rfl⟩, ⟨-, rfl⟩⟩ := h
  obtain ⟨submitted', running', ⟨ho', rfl⟩, ⟨-, rfl⟩, ⟨-, rfl⟩⟩ := h'
  cases ho.symm.trans ho'
  rfl

/-- Only the last course is a success. -/
theorem SmokeCourse.ok_iff {before : ω} {calls : List Call} {outcome : Except Failure Unit}
    (course : SmokeCourse headNode scheduler nodes before calls outcome) :
    outcome = .ok () ↔ ∃ id cancelled, SmokeJobDone scheduler nodes id before cancelled ∧
      Clean [bootstrapFailureMarker] (managerAnswer headNode cancelled) := by
  cases course with
  | passed done clean => exact iff_of_true rfl ⟨_, _, done, clean⟩
  | notSubmitted refused =>
    refine iff_of_false nofun ?_
    rintro ⟨id, -, ⟨_, _, ⟨ho, -⟩, -⟩, -⟩
    cases refused.symm.trans ho
  | notRunning submit late =>
    refine iff_of_false nofun ?_
    rintro ⟨id, -, ⟨_, _, ⟨ho, rfl⟩, ⟨hwait, -⟩, -⟩, -⟩
    obtain ⟨ho', rfl⟩ := submit
    cases ho.symm.trans ho'
    cases late.symm.trans hwait
  | notCancelled submit wait stuck =>
    refine iff_of_false nofun ?_
    rintro ⟨id, -, ⟨_, _, ⟨ho, rfl⟩, ⟨-, rfl⟩, ⟨hcancel, -⟩⟩, -⟩
    obtain ⟨ho', rfl⟩ := submit
    obtain ⟨-, rfl⟩ := wait
    cases ho.symm.trans ho'
    cases stuck.symm.trans hcancel
  | logFault done fault =>
    refine iff_of_false nofun ?_
    rintro ⟨id, cancelled, done', clean⟩
    rw [done'.unique done] at clean
    exact clean.not_fault fault

end

/-- **The smoke test and its look at the logs.** A check of log files succeeds exactly if every file
is shown and holds none of the messages; if not, its failure is that of the first file with a fault,
and the commands that were run show the files up to that one. A smoke test takes one of its courses
and succeeds exactly if the job was submitted, ran and was cancelled and the log of the manager is
shown without the mark of a failed start. -/
theorem smokeTest_course (headNode : HeadNode ω) (scheduler : Scheduler ω) (cluster : String)
    (nodes : UInt32) :
    (∀ messages files world,
      let check := expectNotLogged headNode messages files world
      let answers := headNode.answers (files.map showCommand) world
      let commands := (expectNotLogged headNode.recorded messages files (world, [])).world.2
      (check.outcome = .ok () ↔ ∀ answer ∈ answers, Clean messages answer) ∧
      (check.outcome = .ok () → commands = files.map showCommand) ∧
      ∀ failure, check.outcome = .error failure →
        ∃ i, FirstFault messages files answers i failure ∧
          commands = (files.take (i + 1)).map showCommand) ∧
    ∀ world : RunWorld ω,
      let test := smokeTest headNode scheduler cluster nodes world
      SmokeCourse headNode scheduler nodes world.site (callNotes test.notes) test.outcome ∧
      (test.outcome = .ok () ↔ ∃ id cancelled,
        SmokeJobDone scheduler nodes id world.site cancelled ∧
          Clean [bootstrapFailureMarker] (managerAnswer headNode cancelled)) := by
  refine ⟨fun messages files world => expectNotLogged_course headNode messages files world,
    fun world => ?_⟩
  have course := smokeTest_takes headNode scheduler cluster nodes world
  exact ⟨course, course.ok_iff⟩

end FleetScaling

import FleetScaling.Proofs.Site.Answers
import FleetScaling.Site.Ssh

/-!
# Attempts over a connection

A command on the head node is tried again while the exit code of the client says that its connection
was lost and attempts are left. Here the attempts end in any way at all: the `n`-th of them as
`answers n` says. What is done is settled by the first attempt after which there is no other
(`lastAttempts`): all before it were lost, each is logged and followed by one pause, and nothing
follows the last. `run_attempts` says so of a command, and what it comes to.
-/

namespace FleetScaling

open Text Time

/-- How an attempt ended, if the program could be started. -/
abbrev Answer := Except FileError Completion

namespace Answer

/-- The exit code of the attempt. -/
def exitCode? : Answer → Option Int
  | .ok completion => some completion.result.exitCode
  | .error _ => none

/-- What the attempt wrote to its error output. -/
def errors : Answer → String
  | .ok completion => completion.result.errors
  | .error _ => ""

/-- What the command comes to when its last attempt ended so. -/
def outcome (host : String) : Answer → Except Failure CommandResult
  | .ok completion => .ok completion.result
  | .error e => .error (Failure.within ("Failed to spawn ssh to " ++ host) (.of (.file e)))

theorem exitCode?_of_outcome {answer : Answer} {host : String} {r : CommandResult}
    (h : answer.outcome host = .ok r) : answer.exitCode? = some r.exitCode := by
  cases answer with
  | error e => cases h
  | ok completion => cases h; rfl

end Answer

/-- The program that a note says was started, with its arguments. -/
def SiteNote.program? : SiteNote → Option (String × List String)
  | started program arguments => some (program, arguments)
  | _ => none

/-- Programs that end one after the other as `answers` says; the world counts them. -/
def toldPrograms (answers : Nat → Answer) : Programs Nat where
  start program arguments := do
    Operation.note (.started program arguments)
    Operation.change fun n => (answers n, n + 1)

/-- What is noted of an attempt that is made again. -/
def SshSettings.lostNotes (s : SshSettings) (command : String) (attempt attempts : Nat)
    (errors : String) : List SiteNote :=
  [.started "ssh" (s.arguments command), .logged (s.retryEntry attempt attempts errors),
    .waited s.retryDelay]

section

variable {answers : Nat → Answer} {s : SshSettings}

/-- Programs that are told to fail so are started all the same, once. -/
theorem runOr_toldPrograms (answers : Nat → Answer) (failing program : String)
    (arguments : List String) (n : Nat) :
    (toldPrograms answers).runOr failing program arguments n =
      ⟨((answers n).map Completion.result).mapError fun e => (Failure.of (.file e)).within failing,
        n + 1, [.started program arguments]⟩ := by
  unfold Programs.runOr
  have hstart : (toldPrograms answers).start program arguments n =
      ⟨.ok (answers n), n + 1, [.started program arguments]⟩ := rfl
  rw [Operation.bind_eq_of_ok hstart]
  rcases answers n with e | completion <;> rfl

theorem runOr_told (answers : Nat → Answer) (host program : String) (arguments : List String)
    (n : Nat) :
    (toldPrograms answers).runOr ("Failed to spawn ssh to " ++ host) program arguments n =
      ⟨(answers n).outcome host, n + 1, [.started program arguments]⟩ := by
  rw [runOr_toldPrograms]
  rcases answers n with e | completion <;> rfl

/-! ## The attempts of a command -/

/-- The last attempt: the connection holds, or no attempt is left. -/
theorem runAttempt_of_over (command : String) {left attempt first : Nat}
    (h : left = 0 ∨ (answers first).exitCode? ≠ some SshSettings.connectionFailure) :
    s.runAttempt (toldPrograms answers) command left attempt first =
      ⟨(answers first).outcome s.host, first + 1, [.started "ssh" (s.arguments command)]⟩ := by
  have hrun := runOr_told answers s.host "ssh" (s.arguments command) first
  cases left with
  | zero => exact hrun
  | succ left =>
    rw [SshSettings.runAttempt]
    rcases hout : (answers first).outcome s.host with failure | r
    · rw [Operation.bind_of_error ((congrArg Trace.outcome hrun).trans hout), hrun]
    · have hcode : r.exitCode ≠ SshSettings.connectionFailure := by
        rintro hcode
        obtain h | h := h
        · cases h
        · exact h (hcode ▸ Answer.exitCode?_of_outcome hout)
      rw [Operation.bind_of_ok ((congrArg Trace.outcome hrun).trans hout), hrun, if_pos hcode]
      rfl

/-- After an attempt whose connection was lost, the next one is made as if it were the first. -/
theorem runAttempt_of_lost (s : SshSettings) (command : String) (left attempt : Nat) {first : Nat}
    (h : (answers first).exitCode? = some SshSettings.connectionFailure) :
    s.runAttempt (toldPrograms answers) command (left + 1) attempt first =
      let next := s.runAttempt (toldPrograms answers) command left (attempt + 1) (first + 1)
      ⟨next.outcome, next.world,
        s.lostNotes command attempt (attempt + left + 1) (answers first).errors ++ next.notes⟩ := by
  have hrun := runOr_told answers s.host "ssh" (s.arguments command) first
  rcases hanswer : answers first with e | completion
  · rw [hanswer] at h
    cases h
  · rw [hanswer] at h hrun
    have hcode : completion.result.exitCode = SshSettings.connectionFailure := Option.some.inj h
    rw [SshSettings.runAttempt, Operation.bind_eq_of_ok hrun,
      if_neg (not_not_intro hcode)]
    rfl

/-- A command is tried until the connection holds or no attempt is left. By induction on the attempts
that are left. -/
theorem runAttempt_course (answers : Nat → Answer) (s : SshSettings) (command : String)
    (left attempt first : Nat) :
    ∃ n, IsLeast {i | (answers (first + i)).exitCode? ≠ some SshSettings.connectionFailure ∨
        i = left} n ∧
      s.runAttempt (toldPrograms answers) command left attempt first =
        ⟨(answers (first + n)).outcome s.host, first + n + 1,
          (List.range n).flatMap (fun i => s.lostNotes command (attempt + i) (attempt + left)
            (answers (first + i)).errors) ++ [.started "ssh" (s.arguments command)]⟩ := by
  induction left generalizing attempt first with
  | zero =>
    exact ⟨0, ⟨Or.inr rfl, fun i _ => Nat.zero_le i⟩, runAttempt_of_over command (Or.inl rfl)⟩
  | succ left ih =>
    by_cases h : (answers first).exitCode? = some SshSettings.connectionFailure
    · obtain ⟨n, ⟨hn, hleast⟩, hrun⟩ := ih (attempt + 1) (first + 1)
      simp only [Nat.add_right_comm _ 1] at hn hleast hrun
      refine ⟨n + 1, ⟨hn.imp_right (congrArg (· + 1)), fun i hi => ?_⟩, ?_⟩
      · rcases i with _ | i
        · exact hi.elim (fun held => absurd h held) nofun
        · exact Nat.succ_le_succ (hleast (hi.imp_right Nat.succ.inj))
      · rw [runAttempt_of_lost s command left attempt h, hrun, List.range_succ_eq_map,
          List.flatMap_cons, List.flatMap_map, List.append_assoc]
        rfl
    · exact ⟨0, ⟨Or.inl h, fun i _ => Nat.zero_le i⟩, runAttempt_of_over command (Or.inr h)⟩

/-! ## A command on the head node -/

variable (answers s)

/-- The attempts, counted from zero, after which there is no other: the program could not be started,
its connection was not lost, or no attempt is left. -/
def lastAttempts : Set Nat :=
  {i | (answers i).exitCode? ≠ some SshSettings.connectionFailure ∨ i + 1 = max s.attempts 1}

/-- Up to the last attempt, each is followed by a log entry and a pause. -/
theorem run_course (command : String) :
    ∃ last, IsLeast (lastAttempts answers s) last ∧
      (s.headNode (toldPrograms answers)).run command 0 =
        ⟨(answers last).outcome s.host, last + 1,
          (List.range last).flatMap (fun i => s.lostNotes command (i + 1) (max s.attempts 1)
            (answers i).errors) ++ [.started "ssh" (s.arguments command)]⟩ := by
  obtain ⟨last, first, hrun⟩ := runAttempt_course answers s command (s.attempts - 1) 1 0
  have limit : 1 + (s.attempts - 1) = max s.attempts 1 := by omega
  have same (i : Nat) : i = s.attempts - 1 ↔ i + 1 = max s.attempts 1 := by omega
  simp only [Nat.zero_add, limit, same, Nat.add_comm 1] at first hrun
  exact ⟨last, first, hrun⟩

theorem totalWait_lost (command : String) (errors : Nat → String) (n : Nat) :
    (totalWait ((List.range n).flatMap fun i =>
      s.lostNotes command (i + 1) (max s.attempts 1) (errors i))).nanos = n * s.retryDelay.nanos := by
  induction n with
  | zero => rw [Nat.zero_mul]; rfl
  | succ n ih =>
    have one : (totalWait (s.lostNotes command (n + 1) (max s.attempts 1) (errors n))).nanos =
        s.retryDelay.nanos := by
      show 0 + 0 + 0 + s.retryDelay.nanos = _
      omega
    rw [List.range_succ, List.flatMap_append, totalWait_append, ih, List.flatMap_singleton, one,
      Nat.succ_mul]

end

/-- **How often a command is tried.** Whatever the settings and however the attempts end, the attempts
are those up to the first after which there is no other, and never more than the settings allow; no
attempts at all count as one. Between two of them there is one pause, after the last there is none. The
command comes to what the last attempt came to: the exit code, -1 for an end by a signal, and both
outputs, or the reason why the program could not be started. A checked command is the same, but fails
for every exit code that is not zero. The exit code of a lost connection is only given when every
attempt was lost. -/
theorem run_attempts (answers : Nat → Answer) (s : SshSettings) (command : String) :
    let t := (s.headNode (toldPrograms answers)).run command 0
    let checked := (s.headNode (toldPrograms answers)).runChecked command 0
    let limit := max s.attempts 1
    let start : SiteNote := .started "ssh" (s.arguments command)
    (∃ last, IsLeast (lastAttempts answers s) last ∧ last + 1 ≤ limit ∧ t.world = last + 1 ∧
      t.notes = (List.range last).flatMap (fun i => [start,
        .logged (s.retryEntry (i + 1) limit (answers i).errors), .waited s.retryDelay]) ++ [start] ∧
      (totalWait t.notes).nanos = last * s.retryDelay.nanos ∧
      (∀ completion, answers last = .ok completion → t.outcome = .ok
        ⟨completion.code.getD (-1), lossyText completion.output, lossyText completion.errors⟩) ∧
      ∀ e, answers last = .error e → t.outcome =
        .error ((Failure.of (.file e)).within ("Failed to spawn ssh to " ++ s.host))) ∧
    ((∀ r, checked.outcome = .ok r ↔ t.outcome = .ok r ∧ r.exitCode = 0) ∧
      checked.world = t.world ∧ checked.notes = t.notes) ∧
    (∀ r, t.outcome = .ok r → r.exitCode = 255 →
      t.world = limit ∧ ∀ i < limit, (answers i).exitCode? = some 255) ∧
    ({ s with attempts := 0 }.headNode (toldPrograms answers)).run command =
      ({ s with attempts := 1 }.headNode (toldPrograms answers)).run command := by
  intro t checked limit start
  obtain ⟨last, first, hrun⟩ := run_course answers s command
  have hlast : last + 1 ≤ limit := by
    have hle := first.2 (Or.inr (show limit - 1 + 1 = limit by omega))
    omega
  have outcome : t.outcome = (answers last).outcome s.host := congrArg Trace.outcome hrun
  have notes : t.notes = _ := congrArg Trace.notes hrun
  have hchecked : checked = _ := runChecked_apply (s.headNode (toldPrograms answers)) command 0
  refine ⟨⟨last, first, hlast, congrArg Trace.world hrun, notes, ?waited, ?ended, ?unstarted⟩,
    ⟨fun r => ?checked, by rw [hchecked], by rw [hchecked]⟩, fun r hr hcode => ?lost, rfl⟩
  case waited =>
    rw [notes, totalWait_append, totalWait_lost]
    rfl
  case ended =>
    intro completion h
    rw [outcome, h]
    rfl
  case unstarted =>
    intro e h
    rw [outcome, h]
    rfl
  case checked =>
    rw [hchecked]
    show t.outcome.bind _ = .ok r ↔ _
    rcases t.outcome with failure | r'
    · exact iff_of_false nofun fun h => nomatch h.1
    · exact checked_eq_ok_iff.trans (and_congr_left fun _ => (Except.ok.injEq ..).to_iff.symm)
  case lost =>
    have code : (answers last).exitCode? = some 255 :=
      hcode ▸ Answer.exitCode?_of_outcome (outcome ▸ hr)
    have hlimit : last + 1 = limit := first.1.resolve_left (not_not_intro code)
    refine ⟨(congrArg Trace.world hrun).trans hlimit, fun i hi => ?_⟩
    obtain hlt | rfl := Nat.lt_or_eq_of_le (show i ≤ last by omega)
    · by_contra held
      exact absurd (first.2 (Or.inl held)) (Nat.not_le.2 hlt)
    · exact code

end FleetScaling

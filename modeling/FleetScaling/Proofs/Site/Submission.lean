import FleetScaling.Proofs.Site.Attempts
import FleetScaling.Site.Scheduler

/-!
# Submissions over a connection that fails

The head node takes a command whose connection failed for one that was not run, and tries it again.
When the command submits a job, the scheduler may have taken the job before the connection was lost,
and have said so. Then another attempt submits it once more, and nobody will cancel the first job.

Here the attempts of a submission end in any way at all: the `n`-th of them as `answers n` says.
`submission_tried` tells what a submission then does, and `submit_leaves_no_job_iff` when it leaves no
job behind: exactly if every attempt that acknowledges a job ends with exit code 0.
-/

namespace FleetScaling

open Text Time

/-- The id of the job that the scheduler acknowledged in the attempt. -/
def Answer.acknowledged? : Answer → Option String
  | .ok completion => submittedId? completion.result.output
  | .error _ => none

section

variable {answers : Nat → Answer} {s : SshSettings}

/-! ## The attempts of a command -/

/-- The attempts of a command from the `first` to the `last`, with `left` of them allowed after the
first: the connection failed in all but the last, and in the last one too only if no attempt was left.
The command came to what the last attempt came to. -/
structure Tried (answers : Nat → Answer) (s : SshSettings) (command : String)
    (first left last : Nat) (t : Trace SiteNote Nat CommandResult) : Prop where
  count : t.world = last + 1
  first_le : first ≤ last
  le_limit : last ≤ first + left
  lost : ∀ i, first ≤ i → i < last → (answers i).exitCode? = some SshSettings.connectionFailure
  ended : last < first + left → (answers last).exitCode? ≠ some SshSettings.connectionFailure
  outcome : t.outcome = (answers last).outcome s.host
  started : t.notes.filterMap SiteNote.program? =
    List.replicate (last + 1 - first) ("ssh", s.arguments command)

/-- A command is tried until the connection holds or no attempt is left. -/
theorem runAttempt_tried (answers : Nat → Answer) (s : SshSettings) (command : String)
    (left attempt first : Nat) :
    ∃ last, Tried answers s command first left last
      (s.runAttempt (toldPrograms answers) command left attempt first) := by
  obtain ⟨n, ⟨ends, least⟩, hrun⟩ := runAttempt_course answers s command left attempt first
  have hle : n ≤ left := least (Or.inr rfl)
  rw [hrun]
  refine ⟨first + n, rfl, Nat.le_add_right first n, by omega, fun i hi hlt => ?lost, fun hlt => ?ended,
    rfl, ?started⟩
  case lost =>
    by_contra held
    have := least (show i - first ∈ _ from
      Or.inl (show (answers (first + (i - first))).exitCode? ≠ _ by rwa [Nat.add_sub_cancel' hi]))
    omega
  case ended => exact ends.resolve_right (by omega)
  case started =>
    have one (i : Nat) : (s.lostNotes command (attempt + i) (attempt + left)
        (answers (first + i)).errors).filterMap SiteNote.program? =
          [("ssh", s.arguments command)] := rfl
    rw [List.filterMap_append, List.filterMap_flatMap]
    simp only [one]
    rw [← List.map_eq_flatMap, List.map_const', List.length_range, Nat.add_assoc,
      Nat.add_sub_cancel_left, List.replicate_succ']
    rfl

/-! ## Submissions -/

/-- A submission is its command, and what is made of the command's result; else it only writes to the
log. -/
theorem Slurm.submit_apply {ω : Type} (slurm : Slurm ω) (job : Job) (world : ω) :
    ∃ entries : List LogEntry, slurm.submit job world =
      ⟨(slurm.headNode.run job.commandLine world).outcome.bind accepted,
        (slurm.headNode.run job.commandLine world).world,
        (slurm.headNode.run job.commandLine world).notes ++ entries.map .logged⟩ := by
  unfold submit
  rcases hrun : (slurm.headNode.run job.commandLine world).outcome with failure | result
  · rw [Operation.bind_of_error hrun]
    exact ⟨[], congrArg _ (List.append_nil _).symm⟩
  · rw [Operation.bind_of_ok hrun]
    rcases hid : accepted result with failure | id
    · rw [Operation.bind_of_error (x := .ofExcept (.error failure)) rfl]
      exact ⟨[], congrArg (Trace.mk · _ _) hid.symm⟩
    · rw [Operation.bind_of_ok (x := .ofExcept (.ok id)) rfl]
      exact ⟨[_], congrArg (Trace.mk · _ _) hid.symm⟩

/-- A submission over the connection, whose attempts end as `answers` says. -/
def submission (answers : Nat → Answer) (s : SshSettings) (interval : Interval) (limit : Duration)
    (job : Job) : Trace SiteNote Nat String :=
  Slurm.submit ⟨s.headNode (toldPrograms answers), interval, limit⟩ job 0

theorem accepted_eq_ok {r : CommandResult} {id : String} :
    Slurm.accepted r = .ok id ↔ r.exitCode = 0 ∧ submittedId? r.output = some id := by
  unfold Slurm.accepted CommandResult.success
  by_cases hcode : r.exitCode = 0
  · rw [decide_eq_true hcode]
    cases submittedId? r.output with
    | none => exact iff_of_false nofun nofun
    | some id' => simp [hcode]
  · rw [decide_eq_false hcode]
    exact iff_of_false nofun fun h => hcode h.1

/-- The caller gets the id of a job only from an attempt that acknowledged it and ended well. -/
theorem Answer.accepted_iff (answer : Answer) (host id : String) :
    (answer.outcome host).bind Slurm.accepted = .ok id ↔
      answer.exitCode? = some 0 ∧ answer.acknowledged? = some id := by
  cases answer with
  | error e => exact iff_of_false nofun nofun
  | ok completion =>
    refine accepted_eq_ok.trans (and_congr_left fun _ => ?_)
    exact (Option.some_inj (a := completion.result.exitCode)).symm

theorem submission_tried (answers : Nat → Answer) (s : SshSettings) (interval : Interval)
    (limit : Duration) (job : Job) :
    ∃ last run, Tried answers s job.commandLine 0 (s.attempts - 1) last run ∧
      (submission answers s interval limit job).world = last + 1 ∧
      (submission answers s interval limit job).outcome = run.outcome.bind Slurm.accepted ∧
      (submission answers s interval limit job).notes.filterMap SiteNote.program? =
        run.notes.filterMap SiteNote.program? := by
  obtain ⟨last, htried⟩ := runAttempt_tried answers s job.commandLine (s.attempts - 1) 1 0
  obtain ⟨entries, hsubmit⟩ :=
    Slurm.submit_apply ⟨s.headNode (toldPrograms answers), interval, limit⟩ job 0
  have hlogged : (entries.map SiteNote.logged).filterMap SiteNote.program? = [] := by
    simp [SiteNote.program?]
  refine ⟨last, _, htried, ?_⟩
  rw [submission, hsubmit]
  refine ⟨htried.count, rfl, ?_⟩
  rw [List.filterMap_append, hlogged, List.append_nil]
  rfl

/-- The job of every acknowledgement is the one that the submission gives to its caller, and nothing is
submitted after the acknowledgement. -/
def LeavesNoJob (answers : Nat → Answer) (t : Trace SiteNote Nat String) : Prop :=
  ∀ i id, i < t.world → (answers i).acknowledged? = some id → t.world = i + 1 ∧ t.outcome = .ok id

/-- **What a submission leaves behind.** Whatever the settings and however the attempts end, the caller
gets the id that the last attempt acknowledged, if any. The job is not submitted again after an
acknowledgement exactly if no attempt that may be repeated acknowledges a job and loses its connection.
No job is left behind exactly if every attempt that acknowledges one ends with exit code 0. -/
theorem submit_leaves_no_job_iff (answers : Nat → Answer) (s : SshSettings) (interval : Interval)
    (limit : Duration) (job : Job) :
    let t := submission answers s interval limit job
    (t.notes.filterMap SiteNote.program? =
        List.replicate t.world ("ssh", s.arguments job.commandLine) ∧
      0 < t.world ∧ t.world ≤ max s.attempts 1 ∧
      ∀ id, t.outcome = .ok id → (answers (t.world - 1)).acknowledged? = some id) ∧
    ((∀ i id, i < t.world → (answers i).acknowledged? = some id → t.world = i + 1) ↔
      ∀ i id, i < t.world → i + 1 < max s.attempts 1 → (answers i).acknowledged? = some id →
        (answers i).exitCode? ≠ some SshSettings.connectionFailure) ∧
    (LeavesNoJob answers t ↔
      ∀ i id, i < t.world → (answers i).acknowledged? = some id → (answers i).exitCode? = some 0) := by
  intro t
  obtain ⟨last, run, htried, hcount, houtcome, hstarted⟩ :=
    submission_tried answers s interval limit job
  have hle := htried.le_limit
  have hlost := htried.lost
  have hended := htried.ended
  have hworld : t.world = last + 1 := hcount
  have hgiven (id : String) : t.outcome = .ok id ↔
      (answers last).exitCode? = some 0 ∧ (answers last).acknowledged? = some id := by
    rw [← Answer.accepted_iff _ s.host, ← htried.outcome]
    exact ⟨houtcome.symm.trans, houtcome.trans⟩
  rw [hworld]
  refine ⟨⟨?started, by omega, by omega, fun id h => ((hgiven id).mp h).2⟩,
    ⟨?again, ?once⟩, ⟨?left, ?none⟩⟩
  case started => exact hstarted.trans (htried.started.trans (by rw [Nat.sub_zero]))
  case again =>
    intro h i id hi hlimit hack hcode
    have hlast : last + 1 = i + 1 := h i id hi hack
    obtain rfl : last = i := by omega
    exact hended (by omega) hcode
  case once =>
    intro h i id hi hack
    by_cases hlt : i < last
    · exact absurd (hlost i (Nat.zero_le i) hlt) (h i id hi (by omega) hack)
    · omega
  case left =>
    intro h i id hi hack
    obtain ⟨hlast, hok⟩ := h i id (hworld ▸ hi) hack
    obtain rfl : last = i := by omega
    exact ((hgiven id).mp hok).1
  case none =>
    intro h i id hi hack
    rw [hworld] at hi ⊢
    by_cases hlt : i < last
    · have hcode := (h i id hi hack).symm.trans (hlost i (Nat.zero_le i) hlt)
      cases hcode
    · obtain rfl : last = i := by omega
      exact ⟨rfl, (hgiven id).mpr ⟨h last id hi hack, hack⟩⟩

/-! ## A connection that is lost after the job was taken -/

/-- The scheduler takes the job, but its answer is the last thing that comes over the connection. The
attempts that follow go well. -/
def lostAnswer : Nat → Answer
  | 0 => .ok ⟨some 255, "Submitted batch job 42\n".toUTF8.toList, []⟩
  | _ => .ok ⟨some 0, "Submitted batch job 43\n".toUTF8.toList, []⟩

/-- The job is submitted twice, and the first one, which was acknowledged, is left behind. -/
theorem not_leaves_no_job_lost_answer :
    let t := submission lostAnswer (.standard "head" "ec2-user" none) usualLook (.ofSeconds 1800)
      ⟨"srun sleep 10", none, some 2, none⟩
    (lostAnswer 0).acknowledged? = some "42" ∧ t.world = 2 ∧ t.outcome = .ok "43" ∧
      ¬LeavesNoJob lostAnswer t := by
  intro t
  have hack : (lostAnswer 0).acknowledged? = some "42" := by decide +kernel
  have hworld : t.world = 2 := by decide +kernel
  have hgiven : t.outcome.toOption = some "43" := by decide +kernel
  refine ⟨hack, hworld, eq_ok_of_toOption hgiven, fun h => ?_⟩
  have hlast := (h 0 "42" (by omega) hack).1
  omega

end

end FleetScaling

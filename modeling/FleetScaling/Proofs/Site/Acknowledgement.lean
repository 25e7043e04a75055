import FleetScaling.Proofs.Site.Submission
import FleetScaling.Proofs.Site.Waiting

/-!
# The acknowledgement of a job

A job is submitted with one command. Its answer may be anything at all, and the id of the job is
looked for in its output: what counts is the first place where the phrase of an acknowledgement is
directly followed by a digit (`SaysSubmitted`). `submit_acknowledged` tells what comes of a
submission, whatever the answer, and in which commands the id ends up.
-/

namespace FleetScaling

open Text Time

/-- The output acknowledges a job. -/
def SaysSubmitted (output id : String) : Prop :=
  FirstRun "Submitted batch job " isDecimalDigit output id

/-! ## What is made of an answer -/

section

variable {r : CommandResult} {id : String}

theorem accepted_eq_ok_iff :
    Slurm.accepted r = .ok id ↔ r.exitCode = 0 ∧ SaysSubmitted r.output id :=
  accepted_eq_ok.trans (and_congr_right fun _ => map_runAfter_eq_some_iff)

/-- A result that ends badly or acknowledges no job is told to whoever submitted. -/
theorem accepted_of_refused (h : r.exitCode ≠ 0 ∨
      markedPlaces "Submitted batch job ".toList isDecimalDigit r.output.toList = ∅) :
    Slurm.accepted r = .error (.of (.jobNotAccepted (trim r.output ++ trim r.errors))) := by
  unfold Slurm.accepted
  split
  · rename_i id hsuccess hid
    obtain code | none := h
    · exact absurd (of_decide_eq_true hsuccess) code
    · cases hid.symm.trans (map_runAfter_eq_none_iff.2 none)
  · rfl

end

/-! ## Submissions -/

section

variable (answers : Nat → Except Failure CommandResult) (interval : Interval) (limit : Duration)

theorem submit_told (job : Job) :
    let t := (toldSlurm answers interval limit).submit job 0
    t.outcome = (answers 0).bind Slurm.accepted ∧ t.world = 1 ∧
      requests 0 t.notes = [(0, job.commandLine)] := by
  obtain ⟨entries, hsubmit⟩ := Slurm.submit_apply (toldSlurm answers interval limit) job 0
  rw [hsubmit]
  refine ⟨rfl, rfl, ?_⟩
  show requests 0 ([.asked job.commandLine] ++ _) = _
  rw [requests_append, requests_logged]
  rfl

/-- A job is cancelled with one command. -/
theorem cancel_requests (id : String) :
    requests 0 ((toldSlurm answers interval limit).cancel id 0).notes =
      [(0, "scancel " ++ id)] := by
  have run : (((toldSlurm answers interval limit).headNode.runChecked ("scancel " ++ id)).within
      ("Failed to cancel job " ++ id) 0).notes = [.asked ("scancel " ++ id)] :=
    congrArg Trace.notes (runChecked_told answers ("scancel " ++ id) 0)
  unfold Slurm.cancel
  rcases h : (((toldSlurm answers interval limit).headNode.runChecked ("scancel " ++ id)).within
      ("Failed to cancel job " ++ id) 0).outcome with failure | result
  · rw [Operation.bind_of_error h, run]
    rfl
  · rw [Operation.bind_of_ok h, run]
    rfl

theorem waitRunning_requests (id : String) :
    ∀ request ∈ requests 0 ((toldSlurm answers interval limit).waitRunning id 0).notes,
      request.2 = "scontrol show jobs -o " ++ id := by
  obtain ⟨k, first⟩ := exists_lastLook interval limit
    ((toldSlurm answers interval limit).isRunning id) .zero 0
  obtain ⟨-, -, asked⟩ := waitRunning_told answers interval limit first
  intro request hrequest
  rw [asked] at hrequest
  obtain ⟨i, -, rfl⟩ := List.mem_map.1 hrequest
  rfl

end

/-- **What comes of a submission.** However its command is answered, it is the only one, and the
job's id is given exactly if the command ends with exit code 0 and its output acknowledges a job:
then the id is all digits behind the first acknowledgement that has any. So the later commands about
the job, however they are answered, are fixed words followed by digits. Any other result of the
command is a refusal with what the command wrote, and if it could not be run, its failure is passed
on. -/
theorem submit_acknowledged (answers : Nat → Except Failure CommandResult) (interval : Interval)
    (limit : Duration) (job : Job) :
    let t := (toldSlurm answers interval limit).submit job 0
    requests 0 t.notes = [(0, job.commandLine)] ∧ t.world = 1 ∧
    (∀ id, t.outcome = .ok id ↔
      ∃ r, answers 0 = .ok r ∧ r.exitCode = 0 ∧ SaysSubmitted r.output id) ∧
    (∀ id, t.outcome = .ok id →
      id ≠ "" ∧ (∀ c ∈ id.toList, isDecimalDigit c = true) ∧
      ∀ later,
        (∀ request ∈ requests 0 ((toldSlurm later interval limit).waitRunning id 0).notes,
          request.2 = "scontrol show jobs -o " ++ id) ∧
        requests 0 ((toldSlurm later interval limit).cancel id 0).notes = [(0, "scancel " ++ id)]) ∧
    (∀ r, answers 0 = .ok r → (r.exitCode ≠ 0 ∨
        markedPlaces "Submitted batch job ".toList isDecimalDigit r.output.toList = ∅) →
      t.outcome = .error (.of (.jobNotAccepted (trim r.output ++ trim r.errors)))) ∧
    ∀ failure, answers 0 = .error failure → t.outcome = .error failure := by
  intro t
  obtain ⟨houtcome, hworld, asked⟩ := submit_told answers interval limit job
  have given (id : String) : t.outcome = .ok id ↔
      ∃ r, answers 0 = .ok r ∧ r.exitCode = 0 ∧ SaysSubmitted r.output id := by
    rw [houtcome]
    rcases answers 0 with failure | r
    · exact iff_of_false nofun nofun
    · refine Iff.trans (accepted_eq_ok_iff (r := r)) ?_
      exact ⟨fun h => ⟨r, rfl, h⟩, fun ⟨_, hr, h⟩ => Except.ok.inj hr ▸ h⟩
  refine ⟨asked, hworld, given, fun id hid => ?id, fun r hr refused => ?refused,
    fun failure hf => ?failed⟩
  case id =>
    obtain ⟨r, -, -, hid⟩ := (given id).1 hid
    refine ⟨fun empty => hid.toList_ne_nil (empty ▸ rfl), hid.forall_mem, fun later => ?_⟩
    exact ⟨waitRunning_requests later interval limit id, cancel_requests later interval limit id⟩
  case refused =>
    rw [houtcome, hr]
    exact accepted_of_refused refused
  case failed =>
    rw [houtcome, hf]
    rfl

end FleetScaling

import FleetScaling.Proofs.Site.Looks

/-!
# Waiting for a job to run

The scheduler waits for a job by looking at it again and again. What it is told may be anything at
all; here the head node answers the `n`-th look as `answers n` says, and answering takes no time.
Most answers decide at once what comes of waiting (`Decides`); the others name a state in which the
job is neither running nor over. `waitRunning_polls` tells which looks are made, when, and what they
lead to.
-/

namespace FleetScaling

open Text Time

/-! ## What an answer decides -/

/-- The output says that the job is in a state. -/
def SaysState (output word : String) : Prop :=
  FirstRun "JobState=" (fun c => !isBlank c) output word

/-- The command that asks for the state of a job. -/
def stateCommand (id : String) : String := "scontrol show jobs -o " ++ id

/-- What comes of waiting for a job as soon as there is such an answer. -/
inductive Decides (id : String) : Except Failure CommandResult → Except Failure Unit → Prop
  | failed (failure : Failure) : Decides id (.error failure) (.error failure)
  | refused {r : CommandResult} (code : r.exitCode ≠ 0) :
    Decides id (.ok r) (.error (.other ("Remote command `" ++ stateCommand id ++ "`" ++
      " failed with exit code " ++ toString r.exitCode ++ ": " ++ trim r.errors)))
  | noState {r : CommandResult} (code : r.exitCode = 0)
    (none : markedPlaces "JobState=".toList (fun c => !isBlank c) r.output.toList = ∅) :
    Decides id (.ok r) (.error (.other ("No JobState in scontrol output for job " ++ id)))
  | running {r : CommandResult} (code : r.exitCode = 0) (state : SaysState r.output "RUNNING") :
    Decides id (.ok r) (.ok ())
  | ended {r : CommandResult} {word : String} (code : r.exitCode = 0)
    (state : SaysState r.output word) (final : word ∈ JobState.endStates) :
    Decides id (.ok r) (.error (.of (.jobEnded id word)))

/-- What a look at a job makes of the result of its command. -/
def jobReading (id : String) (r : CommandResult) : Except Failure (Except Unit Unit) :=
  match JobState.ofText? r.output with
  | some .running => .ok (.ok ())
  | some (.ended state) => .error (.of (.jobEnded id state))
  | some (.waiting _) => .ok (.error ())
  | none => .error (.other ("No JobState in scontrol output for job " ++ id))

/-- What a look at a job makes of an answer. -/
def verdict (id : String) (answer : Except Failure CommandResult) :
    Except Failure (Except Unit Unit) :=
  (answer.bind (·.checked ("Remote command `" ++ stateCommand id ++ "`"))).bind (jobReading id)

section

variable {id output : String} {answer : Except Failure CommandResult} {r : CommandResult}

theorem ofText?_eq_some {word : String} (h : SaysState output word) :
    JobState.ofText? output = some (.ofName word) := by
  have hword := map_runAfter_eq_some_iff.2 h
  obtain ⟨run, hrun, rfl⟩ := Option.map_eq_some_iff.1 hword
  unfold JobState.ofText?
  rw [hrun]
  rfl

theorem ofText?_eq_none
    (h : markedPlaces "JobState=".toList (fun c => !isBlank c) output.toList = ∅) :
    JobState.ofText? output = none := by
  unfold JobState.ofText?
  rw [runAfter_eq_none_iff.2 h]
  rfl

/-- The output says that the job is in some state, or it says nothing of one. -/
theorem exists_saysState_or (output : String) : (∃ word, SaysState output word) ∨
    markedPlaces "JobState=".toList (fun c => !isBlank c) output.toList = ∅ := by
  rw [← map_runAfter_eq_none_iff]
  rcases h : (runAfter "JobState=".toList (fun c => !isBlank c) output.toList).map String.ofList
    with _ | word
  · exact Or.inr rfl
  · exact Or.inl ⟨word, map_runAfter_eq_some_iff.1 h⟩

theorem verdict_of_code (h : r.exitCode = 0) : verdict id (.ok r) = jobReading id r := by
  unfold verdict Except.bind
  simp only [checked_of_code h]

theorem verdict_of_state {word : String} (code : r.exitCode = 0) (state : SaysState r.output word) :
    verdict id (.ok r) =
      if word = "RUNNING" then .ok (.ok ())
      else if word ∈ JobState.endStates then .error (.of (.jobEnded id word))
      else .ok (.error ()) := by
  rw [verdict_of_code code, jobReading, ofText?_eq_some state, JobState.ofName]
  by_cases running : word = "RUNNING"
  · simp only [if_pos running]
  · by_cases final : word ∈ JobState.endStates
    · simp only [if_neg running, if_pos final]
    · simp only [if_neg running, if_neg final]

theorem Decides.verdict {o : Except Failure Unit} (h : Decides id answer o) :
    verdict id answer = o.map .ok := by
  cases h with
  | failed failure => rfl
  | @refused r code =>
    unfold FleetScaling.verdict Except.bind
    simp only [checked_of_code_ne code]
    rfl
  | noState code none =>
    rw [verdict_of_code code, jobReading, ofText?_eq_none none]
    rfl
  | running code state => rw [verdict_of_state code state, if_pos rfl]; rfl
  | ended code state final =>
    have running : _ ≠ "RUNNING" := ne_of_mem_of_not_mem final (by decide)
    rw [verdict_of_state code state, if_neg running, if_pos final]
    rfl

theorem Decides.says_running (h : Decides id answer (.ok ())) :
    ∃ r, answer = .ok r ∧ r.exitCode = 0 ∧ SaysState r.output "RUNNING" := by
  cases h with
  | running code state => exact ⟨_, rfl, code, state⟩

/-- An answer decides what comes of waiting, or names a state in which one goes on waiting. -/
theorem exists_decides_or (id : String) (answer : Except Failure CommandResult) :
    (∃ o, Decides id answer o) ∨ FleetScaling.verdict id answer = .ok (.error ()) := by
  rcases answer with failure | r
  · exact Or.inl ⟨_, .failed failure⟩
  by_cases code : r.exitCode = 0
  · obtain ⟨word, state⟩ | none := exists_saysState_or r.output
    · by_cases running : word = "RUNNING"
      · exact Or.inl ⟨_, .running code (running ▸ state)⟩
      by_cases final : word ∈ JobState.endStates
      · exact Or.inl ⟨_, .ended code state final⟩
      · right
        rw [verdict_of_state code state, if_neg running, if_neg final]
    · exact Or.inl ⟨_, .noState code none⟩
  · exact Or.inl ⟨_, .refused code⟩

/-- An answer leaves open what comes of waiting exactly if it decides nothing. -/
theorem leftOpen_verdict_iff :
    LeftOpen (FleetScaling.verdict id answer) ↔ ¬∃ o, Decides id answer o := by
  constructor
  · rintro ⟨seen, hseen⟩ ⟨o, decided⟩
    rw [decided.verdict] at hseen
    cases o <;> cases hseen
  · intro undecided
    exact ⟨(), (exists_decides_or id answer).resolve_left undecided⟩

end

/-! ## Looks at a job -/

theorem isRunning_eq {ω : Type} (s : Slurm ω) (id : String) :
    s.isRunning id = s.headNode.runChecked (stateCommand id) >>= fun r =>
      .ofExcept (jobReading id r) := by
  unfold Slurm.isRunning Slurm.jobState
  rw [Operation.bind_assoc]
  refine congrArg _ (funext fun r => ?_)
  unfold jobReading
  rcases JobState.ofText? r.output with _ | _ | state | state <;> rfl

/-- Slurm on a head node that is told its answers. -/
def toldSlurm (answers : Nat → Except Failure CommandResult) (interval : Interval)
    (limit : Duration) : Slurm Nat := ⟨toldHeadNode answers, interval, limit⟩

section

variable (answers : Nat → Except Failure CommandResult) (interval : Interval) (limit : Duration)
  (id : String)

/-- A look is one command. -/
theorem isRunning_told : CountedLook ((toldSlurm answers interval limit).isRunning id)
    (fun n => verdict id (answers n)) [.asked (stateCommand id)] := by
  intro n
  have run : (toldSlurm answers interval limit).headNode.runChecked (stateCommand id) n = _ :=
    runChecked_told answers (stateCommand id) n
  rw [isRunning_eq, Operation.bind_ofExcept_apply, run]
  rfl

/-- A last look comes to what its answer decides, or to the time being up. -/
theorem settled_verdict (id : String) (answer : Except Failure CommandResult)
    (failing : Unit → Failure) :
    Decides id answer (settled failing (verdict id answer)) ∨ (¬∃ o, Decides id answer o) ∧
      settled failing (verdict id answer) = .error (failing ()) := by
  by_cases decided : ∃ o, Decides id answer o
  · obtain ⟨o, ho⟩ := decided
    left
    rw [ho.verdict]
    cases o <;> exact ho
  · right
    rw [(exists_decides_or id answer).resolve_left decided]
    exact ⟨decided, rfl⟩

/-- The looks end with the first answer that decides something, or else when the time is up. -/
theorem exists_last_told :
    ∃ k ≤ limit.nanos ⌈/⌉ interval.length.nanos,
      (∀ i < k, ¬∃ o, Decides id (answers i) o) ∧
      ((∃ o, Decides id (answers k) o) ∨ k = limit.nanos ⌈/⌉ interval.length.nanos) ∧
      IsLeast (lastLooks interval limit ((toldSlurm answers interval limit).isRunning id) .zero 0)
        k := by
  obtain ⟨k, hle, opened, ends, first⟩ :=
    (isRunning_told answers interval limit id).exists_last interval limit 0
  simp only [Nat.zero_add, leftOpen_verdict_iff, not_not] at opened ends
  exact ⟨k, hle, opened, ends, first⟩

variable {id} {k : Nat}

/-- What the looks come to if the last of them follows `k` others. -/
theorem waitRunning_told (first : IsLeast (lastLooks interval limit
      ((toldSlurm answers interval limit).isRunning id) .zero 0) k) :
    let t := (toldSlurm answers interval limit).waitRunning id 0
    (Decides id (answers k) t.outcome ∨ (¬∃ o, Decides id (answers k) o) ∧
        t.outcome = .error (.of (.jobNotRunning id ⟨k * interval.length.nanos⟩))) ∧
      t.world = k + 1 ∧ requests 0 t.notes =
        (List.range (k + 1)).map fun i => (i * interval.length.nanos, stateCommand id) := by
  intro t
  have course : t = ⟨settled (fun _ => .of (.jobNotRunning id ⟨k * interval.length.nanos⟩))
      (verdict id (answers k)), k + 1,
      (List.range k).flatMap (fun _ => [.asked (stateCommand id)] ++ [.waited interval.length]) ++
        [.asked (stateCommand id)]⟩ := by
    have h := (isRunning_told answers interval limit id).course
      (fun waited _ => .of (.jobNotRunning id waited)) first
    rwa [Nat.zero_add] at h
  obtain ⟨asked, waited⟩ := requests_between (f := fun _ => [.asked (stateCommand id)])
    (d := interval.length) (fun _ => rfl) 0 k
  rw [course]
  refine ⟨settled_verdict id (answers k) _, rfl, ?_⟩
  rw [requests_append, asked, waited, List.range_succ, List.map_append]
  simp only [Nat.zero_add]
  exact congrArg (· ++ _) (List.flatMap_pure_eq_map _ _)

end

/-- **The looks at a job.** However the looks are answered, there are at most as many of them as
whole intervals cover the limit, and one more. All of them ask about the job, one after each
interval. The first answer that decides something ends them with what it decides; if there is none
among them, the last one ends them, and then the time that was waited is at least the limit and
exceeds it by less than one interval. Waiting only succeeds when the last answer says that the job
is running. -/
theorem waitRunning_polls (answers : Nat → Except Failure CommandResult) (interval : Interval)
    (limit : Duration) (id : String) :
    let t := (toldSlurm answers interval limit).waitRunning id 0
    let last := limit.nanos ⌈/⌉ interval.length.nanos
    let waited : Duration := ⟨last * interval.length.nanos⟩
    (limit.nanos ≤ waited.nanos ∧ waited.nanos < limit.nanos + interval.length.nanos) ∧
      ∃ k ≤ last, (∀ i < k, ¬∃ o, Decides id (answers i) o) ∧
        requests 0 t.notes = (List.range (k + 1)).map
          (fun i => (i * interval.length.nanos, "scontrol show jobs -o " ++ id)) ∧
        t.world = k + 1 ∧
        (Decides id (answers k) t.outcome ∨
          (¬∃ o, Decides id (answers k) o) ∧ k = last ∧
            t.outcome = .error (.of (.jobNotRunning id waited))) ∧
        (t.outcome = .ok () →
          ∃ r, answers k = .ok r ∧ r.exitCode = 0 ∧ SaysState r.output "RUNNING") := by
  intro t last waited
  have covers (c : Nat) : last ≤ c ↔ limit.nanos ≤ c * interval.length.nanos := by
    rw [ceilDiv_le_iff_le_mul interval.pos, Nat.mul_comm]
  obtain ⟨k, hle, undecided, ends, first⟩ := exists_last_told answers interval limit id
  obtain ⟨hcome, hworld, asked⟩ := waitRunning_told answers interval limit first
  refine ⟨⟨(covers last).1 (Nat.le_refl _), ?exceeds⟩, k, hle, undecided, asked, hworld, ?_⟩
  case exceeds =>
    show last * interval.length.nanos < _
    have hpos := interval.pos
    rcases hlast : last with _ | before
    · omega
    · have short := mt (covers before).2 (by omega)
      rw [Nat.succ_mul]
      omega
  obtain decided | ⟨opened, late⟩ := hcome
  · exact ⟨Or.inl decided, fun hok => Decides.says_running (hok ▸ decided)⟩
  · have hlast : k = last := ends.resolve_left opened
    refine ⟨Or.inr ⟨opened, hlast, ?_⟩, fun hok => ?_⟩
    · rw [late, hlast]
    · cases late.symm.trans hok

end FleetScaling

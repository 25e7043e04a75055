import FleetScaling.Proofs.Traces
import FleetScaling.Site.Scheduler
import Mathlib.Data.Nat.Find
import Mathlib.Order.Bounds.Basic

/-!
# Answers of the head node

A head node may answer a command in any way: it may not run it at all, or the command may end with
any exit code and any output. Here the `n`-th command is answered as `answers n` says
(`toldHeadNode`), and which commands were asked for, and when, is read off the notes (`requests`).

The outputs of the scheduler's tools are searched for a marker with something behind it. An output
may hold the marker many times, also with nothing behind it; what counts is the first place where
something follows (`FirstRun`).
-/

namespace FleetScaling

open Text Time

/-! ## Markers in a text -/

/-- The places of a text where the marker stands and a character satisfying `p` follows it. -/
def markedPlaces (marker : List Char) (p : Char → Bool) (text : List Char) : Set Nat :=
  {i | ∃ c rest, text.drop i = marker ++ c :: rest ∧ p c = true}

section

variable {marker : List Char} {p : Char → Bool} {text run : List Char} {c : Char} {i : Nat}

theorem markedPlaces_nil : markedPlaces marker p [] = ∅ := by
  refine Set.eq_empty_of_forall_notMem fun i => ?_
  rintro ⟨c, rest, h, -⟩
  rw [List.drop_nil] at h
  exact List.append_ne_nil_of_right_ne_nil marker (List.cons_ne_nil c rest) h.symm

theorem succ_mem_markedPlaces_cons :
    i + 1 ∈ markedPlaces marker p (c :: text) ↔ i ∈ markedPlaces marker p text := Iff.rfl

/-- What stands at the front of a text, as the search finds out. -/
theorem zero_mem_markedPlaces_iff :
    0 ∈ markedPlaces marker p text ↔
      marker.isPrefixOf text && !((text.drop marker.length).takeWhile p).isEmpty := by
  rw [Bool.and_eq_true, List.isPrefixOf_iff_prefix]
  constructor
  · rintro ⟨c, rest, h, hc⟩
    have h : text = marker ++ c :: rest := h
    rw [h, List.drop_left, List.takeWhile_cons_of_pos hc]
    exact ⟨List.prefix_append _ _, rfl⟩
  · rintro ⟨⟨rest, rfl⟩, hrun⟩
    rw [List.drop_left] at hrun
    cases rest with
    | nil => cases hrun
    | cons c rest =>
      refine ⟨c, rest, rfl, ?_⟩
      by_contra hc
      rw [List.takeWhile_cons_of_neg hc] at hrun
      cases hrun

theorem runAfter_eq_none (h : markedPlaces marker p text = ∅) : runAfter marker p text = none := by
  induction text with
  | nil => rfl
  | cons c text ih =>
    have first : 0 ∉ markedPlaces marker p (c :: text) := h ▸ Set.notMem_empty 0
    have rest : markedPlaces marker p text = ∅ := by
      refine Set.eq_empty_of_forall_notMem fun i hi => Set.notMem_empty (i + 1) ?_
      exact h ▸ succ_mem_markedPlaces_cons.2 hi
    unfold runAfter
    rw [if_neg fun hc => first (zero_mem_markedPlaces_iff.2 hc)]
    exact ih rest

theorem runAfter_of_isLeast (h : IsLeast (markedPlaces marker p text) i) :
    runAfter marker p text = some ((text.drop (i + marker.length)).takeWhile p) := by
  induction text generalizing i with
  | nil => exact absurd h.1 (markedPlaces_nil ▸ Set.notMem_empty i)
  | cons c text ih =>
    unfold runAfter
    cases i with
    | zero => rw [if_pos (zero_mem_markedPlaces_iff.1 h.1), Nat.zero_add]
    | succ i =>
      have first : 0 ∉ markedPlaces marker p (c :: text) := fun h0 => absurd (h.2 h0) (by omega)
      have next : IsLeast (markedPlaces marker p text) i :=
        ⟨h.1, fun j hj => Nat.le_of_succ_le_succ (h.2 (succ_mem_markedPlaces_cons.2 hj))⟩
      rw [if_neg fun hc => first (zero_mem_markedPlaces_iff.2 hc), ih next, Nat.succ_add]
      rfl

theorem exists_first_marked (h : (markedPlaces marker p text).Nonempty) :
    ∃ i, IsLeast (markedPlaces marker p text) i := by
  classical
  exact ⟨Nat.find h, Nat.find_spec h, fun i hi => Nat.find_min' h hi⟩

/-- The search finds nothing exactly if nothing is there. -/
theorem runAfter_eq_none_iff : runAfter marker p text = none ↔ markedPlaces marker p text = ∅ := by
  refine ⟨fun h => ?_, runAfter_eq_none⟩
  by_contra hne
  obtain ⟨i, hi⟩ := exists_first_marked (Set.nonempty_iff_ne_empty.2 hne)
  rw [runAfter_of_isLeast hi] at h
  cases h

/-- The search finds all that follows the first place. -/
theorem runAfter_eq_some_iff :
    runAfter marker p text = some run ↔ ∃ i, IsLeast (markedPlaces marker p text) i ∧
      run = (text.drop (i + marker.length)).takeWhile p := by
  constructor
  · intro h
    have hne : markedPlaces marker p text ≠ ∅ := fun he => by
      rw [runAfter_eq_none he] at h
      cases h
    obtain ⟨i, hi⟩ := exists_first_marked (Set.nonempty_iff_ne_empty.2 hne)
    rw [runAfter_of_isLeast hi] at h
    exact ⟨i, hi, (Option.some.inj h).symm⟩
  · rintro ⟨i, hi, rfl⟩
    exact runAfter_of_isLeast hi

end

/-- The word is all that follows the first place where the marker stands and a character satisfying
`p` follows it. -/
def FirstRun (marker : String) (p : Char → Bool) (output word : String) : Prop :=
  ∃ i, IsLeast (markedPlaces marker.toList p output.toList) i ∧
    word.toList = (output.toList.drop (i + marker.length)).takeWhile p

section

variable {marker : String} {p : Char → Bool} {output word : String}

theorem map_runAfter_eq_some_iff :
    (runAfter marker.toList p output.toList).map String.ofList = some word ↔
      FirstRun marker p output word := by
  unfold FirstRun
  rw [Option.map_eq_some_iff, ← String.length_toList]
  constructor
  · rintro ⟨run, hrun, rfl⟩
    rw [String.toList_ofList]
    exact runAfter_eq_some_iff.1 hrun
  · intro h
    exact ⟨word.toList, runAfter_eq_some_iff.2 h, String.ofList_toList⟩

theorem map_runAfter_eq_none_iff :
    (runAfter marker.toList p output.toList).map String.ofList = none ↔
      markedPlaces marker.toList p output.toList = ∅ := by
  rw [Option.map_eq_none_iff, runAfter_eq_none_iff]

namespace FirstRun

theorem unique {word' : String} (h : FirstRun marker p output word)
    (h' : FirstRun marker p output word') : word = word' :=
  Option.some.inj ((map_runAfter_eq_some_iff.2 h).symm.trans (map_runAfter_eq_some_iff.2 h'))

theorem toList_ne_nil (h : FirstRun marker p output word) : word.toList ≠ [] := by
  obtain ⟨i, ⟨⟨c, rest, htext, hc⟩, -⟩, hword⟩ := h
  rw [hword, ← List.drop_drop, htext, ← String.length_toList, List.drop_left,
    List.takeWhile_cons_of_pos hc]
  exact List.cons_ne_nil _ _

theorem forall_mem (h : FirstRun marker p output word) : ∀ c ∈ word.toList, p c = true := by
  obtain ⟨i, -, hword⟩ := h
  rw [hword]
  exact fun c hc => List.all_eq_true.1 List.all_takeWhile c hc

end FirstRun

end

/-! ## Commands and their answers -/

/-- A head node whose commands end one after the other as `answers` says; it keeps a record of them,
and the world counts them. -/
def toldHeadNode (answers : Nat → Except Failure CommandResult) : HeadNode Nat where
  run command := do
    Operation.note (.asked command)
    .ofExcept (← Operation.change fun n => (answers n, n + 1))
  reset := pure ()

/-- What was asked for according to some notes, and when, in nanoseconds; the first note is made at
`now`. -/
def requests : Nat → List SiteNote → List (Nat × String)
  | _, [] => []
  | now, .waited d :: notes => requests (now + d.nanos) notes
  | now, .asked request :: notes => (now, request) :: requests now notes
  | now, _ :: notes => requests now notes

/-- A checked command does what the command does, and then looks at its exit code. -/
theorem runChecked_apply {ω : Type} (headNode : HeadNode ω) (command : String) (world : ω) :
    headNode.runChecked command world =
      ⟨(headNode.run command world).outcome.bind
        (·.checked ("Remote command `" ++ command ++ "`")), (headNode.run command world).world,
        (headNode.run command world).notes⟩ :=
  Operation.bind_ofExcept_apply _ _ world

theorem runChecked_told (answers : Nat → Except Failure CommandResult) (command : String)
    (n : Nat) : (toldHeadNode answers).runChecked command n =
      ⟨(answers n).bind (·.checked ("Remote command `" ++ command ++ "`")), n + 1,
        [.asked command]⟩ := runChecked_apply _ command n

section

variable {r : CommandResult} {run : String}

theorem checked_of_code (h : r.exitCode = 0) : r.checked run = .ok r := if_pos (decide_eq_true h)

theorem checked_of_code_ne (h : r.exitCode ≠ 0) :
    r.checked run = .error (.other (run ++ " failed with exit code " ++ toString r.exitCode ++
      ": " ++ trim r.errors)) := if_neg fun hs => h (of_decide_eq_true hs)

theorem checked_eq_ok_iff {r' : CommandResult} :
    r.checked run = .ok r' ↔ r = r' ∧ r'.exitCode = 0 := by
  by_cases h : r.exitCode = 0
  · rw [checked_of_code h, Except.ok.injEq]
    exact ⟨fun hr => ⟨hr, hr ▸ h⟩, And.left⟩
  · rw [checked_of_code_ne h]
    refine iff_of_false nofun ?_
    rintro ⟨rfl, hcode⟩
    exact h hcode

end

theorem requests_append (now : Nat) (a b : List SiteNote) :
    requests now (a ++ b) = requests now a ++ requests (now + (totalWait a).nanos) b := by
  induction a generalizing now with
  | nil => rfl
  | cons n a ih =>
    rw [totalWait_cons, List.cons_append]
    cases n with
    | waited d =>
      show requests (now + d.nanos) (a ++ b) = requests (now + d.nanos) a ++ _
      rw [ih, Nat.add_assoc]
      rfl
    | asked request =>
      show (now, request) :: requests now (a ++ b) = (now, request) :: requests now a ++ _
      rw [ih, List.cons_append]
      exact congrArg (fun t => _ :: (_ ++ requests (now + t) b)) (Nat.zero_add _).symm
    | _ =>
      show requests now (a ++ b) = requests now a ++ _
      rw [ih]
      exact congrArg (fun t => _ ++ requests (now + t) b) (Nat.zero_add _).symm

theorem requests_logged (now : Nat) (entries : List LogEntry) :
    requests now (entries.map .logged) = [] := by
  induction entries with
  | nil => rfl
  | cons entry entries ih => exact ih

end FleetScaling

import FleetScaling.Proofs.Run.Closed

/-!
# What the progress shows

Whoever follows a run hears its notes one after another, each at a moment of its own, and keeps the
progress. The `Books` of a progress are the results, the finished targets, the failures and the
message. A cycle is `Contained`: whatever comes of it, it publishes phases only, does not wait by
itself, and only adds to the soft failures; so the books are as before until its end.
-/

namespace FleetScaling

variable {ω α β : Type}

/-! ## Hearing notes -/

/-- The progress once a note was heard. -/
def RunProgress.hear (p : RunProgress) (now : Int64) (n : RunNote) : RunProgress :=
  match n.update? with
  | some update => p.apply now update
  | none => p

/-- The progress once some notes were heard, each at its moment. -/
def RunProgress.hearAll (moments : Nat → Int64) : RunProgress → List RunNote → RunProgress
  | p, [] => p
  | p, n :: notes => hearAll (fun i => moments (i + 1)) (p.hear (moments 0) n) notes

theorem RunProgress.hearAll_append (moments : Nat → Int64) (p : RunProgress)
    (a b : List RunNote) : p.hearAll moments (a ++ b) =
      (p.hearAll moments a).hearAll (fun i => moments (i + a.length)) b := by
  induction a generalizing moments p with
  | nil => rfl
  | cons n a ih =>
    show hearAll _ (p.hear (moments 0) n) (a ++ b) = _
    rw [ih]
    rfl

/-! ## Books -/

/-- What a progress shows of the cycles that are over. -/
structure Books where
  results : RunResults
  completed : List UInt32
  failureCount : UInt64
  message : Option String

/-- The books of a progress. -/
def RunProgress.books (p : RunProgress) : Books :=
  ⟨p.results, p.status.completed, p.status.failureCount, p.status.message⟩

/-- The books of a run that goes on, with these results, finished targets and failures. -/
def Books.of (results : List CycleResult) (completed : List UInt32)
    (failures : List SoftFailure) : Books :=
  ⟨⟨results, failures⟩, completed, UInt64.ofNat failures.length, none⟩

/-- A note that a cycle may make before it is over: no progress but a phase, and no pause of the
run's own. -/
def RunNote.IsMidCycle : RunNote → Prop
  | progress (.phase _ _) => True
  | progress _ => False
  | own (.waited _) => False
  | _ => True

theorem books_hear {n : RunNote} (h : n.IsMidCycle) (p : RunProgress) (now : Int64) :
    (p.hear now n).books = p.books := by
  cases n with
  | progress update =>
    cases update with
    | phase phase target => rfl
    | result result => exact h.elim
    | failures failures => exact h.elim
    | completed => exact h.elim
    | failed message => exact h.elim
  | _ => rfl

/-- By induction on the notes, none of which enters anything. -/
theorem books_hearAll {notes : List RunNote} (h : ∀ n ∈ notes, n.IsMidCycle)
    (moments : Nat → Int64) (p : RunProgress) : (p.hearAll moments notes).books = p.books := by
  induction notes generalizing moments p with
  | nil => rfl
  | cons n notes ih =>
    show (RunProgress.hearAll _ (p.hear (moments 0) n) notes).books = p.books
    rw [ih (fun m hm => h m (List.mem_cons_of_mem n hm)), books_hear (h n List.mem_cons_self)]

/-! ## Waiting -/

/-- What the run did itself. -/
def ownNotes (notes : List RunNote) : List SiteNote :=
  notes.filterMap fun
    | .own n => some n
    | _ => none

theorem ownNotes_append (a b : List RunNote) : ownNotes (a ++ b) = ownNotes a ++ ownNotes b := by
  unfold ownNotes
  rw [List.filterMap_append]

/-- How long the run waited itself, in nanoseconds. -/
def ownWait (notes : List RunNote) : Nat := (totalWait (ownNotes notes)).nanos

theorem ownWait_append (a b : List RunNote) : ownWait (a ++ b) = ownWait a + ownWait b := by
  unfold ownWait
  rw [ownNotes_append, totalWait_append]

theorem ownWait_of_midCycle {notes : List RunNote} (h : ∀ n ∈ notes, n.IsMidCycle) :
    ownWait notes = 0 := by
  induction notes with
  | nil => rfl
  | cons n notes ih =>
    rw [← List.singleton_append, ownWait_append, ih fun m hm => h m (List.mem_cons_of_mem n hm)]
    have hn := h n List.mem_cons_self
    cases n with
    | own note =>
      cases note with
      | waited d => exact hn.elim
      | _ => rfl
    | _ => rfl

/-! ## Cycles are contained -/

/-- Whatever the world and the outcome, the operation makes notes of an unfinished cycle only and
the soft failures so far stay. -/
structure Contained (x : RunOperation ω α) : Prop where
  notes : Operation.Notes RunNote.IsMidCycle x
  failures : ∀ world, world.soft.failures <+: (x world).world.soft.failures

namespace Contained

theorem bind {x : RunOperation ω α} {f : α → RunOperation ω β} (hx : Contained x)
    (hf : ∀ a, Contained (f a)) : Contained (x >>= f) := by
  refine ⟨hx.notes.bind fun a => (hf a).notes, fun world => ?_⟩
  rcases h : (x world).outcome with failure | a
  · rw [Operation.bind_of_error h]
    exact hx.failures world
  · rw [Operation.bind_of_ok h]
    exact (hx.failures world).trans ((hf a).failures _)

/-- An operation that makes no notes and leaves the soft failures. -/
theorem of_silent {x : RunOperation ω α} (hn : ∀ world, (x world).notes = [])
    (hs : ∀ world, (x world).world.soft = world.soft) : Contained x := by
  refine ⟨.of_nil hn, fun world => ⟨[], ?_⟩⟩
  rw [hs, List.append_nil]

theorem pure (a : α) : Contained (pure a : RunOperation ω α) :=
  of_silent (fun _ => rfl) fun _ => rfl

theorem note {n : RunNote} (h : n.IsMidCycle) :
    Contained (Operation.note n : RunOperation ω Unit) :=
  ⟨.note h, fun _ => List.prefix_rfl⟩

theorem tell (entry : LogEntry) : Contained (tell entry : RunOperation ω Unit) := note trivial

theorem phase (phase : Phase) (target : Option UInt32) :
    Contained (publish (.phase phase target) : RunOperation ω Unit) := note trivial

theorem party (x : SiteOperation ω α) :
    Contained ((x.renote RunNote.party).onPart sitePart) := by
  refine ⟨fun world n hn => ?_, fun _ => List.prefix_rfl⟩
  obtain ⟨m, _, rfl⟩ := List.mem_map.1 hn
  trivial

theorem ask (call : Call) (x : SiteOperation ω α) : Contained (FleetScaling.ask call x) :=
  bind (note trivial) fun _ => party x

theorem recordFailures (failures : List SoftFailure) :
    Contained (FleetScaling.recordFailures failures : RunOperation ω Unit) :=
  ⟨.of_nil fun _ => rfl, fun _ => List.prefix_append _ _⟩

theorem failuresSoFar : Contained (failuresSoFar : RunOperation ω (List SoftFailure)) :=
  of_silent (fun _ => rfl) fun _ => rfl

end Contained

theorem contained_closed : RunClosed fun α (x : RunOperation ω α) => Contained x where
  result _ := .of_silent (fun _ => rfl) fun _ => rfl
  bind := Contained.bind
  tell := Contained.tell
  phase := Contained.phase

theorem cycle_contained (context : RunContext) (site : Site ω) (target : UInt32) :
    Contained (cycle context site target) := by
  refine contained_closed.cycle context target ?_ ?_ (fun _ _ => .note trivial) fun _ => .ask _ _
  · exact ⟨.ask _ _, .ask _ _, fun _ => .ask _ _, .ask _ _, fun _ => .ask _ _, fun _ => .ask _ _,
      .ask _ _⟩
  · exact ⟨.failuresSoFar, Contained.recordFailures, fun _ => .party _⟩

end FleetScaling

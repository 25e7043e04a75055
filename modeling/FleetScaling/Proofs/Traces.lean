import FleetScaling.Run.Note

/-!
# Traces

What is known about the trace of an operation that was put together from others. An operation that
fails ends what follows it (`Operation.bind_of_error`); after one that succeeds the next begins in
the world it left, and its notes come after (`Operation.bind_of_ok`). A property of all notes
(`Operation.Notes`) holds of a whole operation if it holds of its parts.
-/

namespace FleetScaling

variable {ν ω α β : Type}

/-! ## Outcomes -/

theorem eq_ok_of_toOption {ε : Type} {x : Except ε α} {a : α} (h : x.toOption = some a) :
    x = .ok a := by
  cases x with
  | ok b => exact congrArg Except.ok (Option.some.inj h)
  | error e => cases h

theorem exists_ok_of_toOption {ε : Type} {x : Except ε α} (h : x.toOption.isSome) :
    ∃ a, x = .ok a := by
  cases x with
  | ok a => exact ⟨a, rfl⟩
  | error e => cases h

theorem exists_error_of_toOption {ε : Type} {x : Except ε α} (h : x.toOption = none) :
    ∃ e, x = .error e := by
  cases x with
  | ok a => cases h
  | error e => exact ⟨e, rfl⟩

namespace Operation

/-! ## Putting operations together -/

theorem bind_of_ok {x : Operation ν ω α} {f : α → Operation ν ω β} {world : ω} {a : α}
    (h : (x world).outcome = .ok a) :
    (x >>= f) world = ⟨(f a (x world).world).outcome, (f a (x world).world).world,
      (x world).notes ++ (f a (x world).world).notes⟩ := by
  show Operation.bind x f world = _
  unfold Operation.bind
  simp only [h]

theorem bind_of_error {x : Operation ν ω α} {f : α → Operation ν ω β} {world : ω}
    {failure : Failure} (h : (x world).outcome = .error failure) :
    (x >>= f) world = ⟨.error failure, (x world).world, (x world).notes⟩ := by
  show Operation.bind x f world = _
  unfold Operation.bind
  simp only [h]

/-- What follows an operation whose whole trace is known. -/
theorem bind_eq_of_ok {x : Operation ν ω α} {f : α → Operation ν ω β} {world world' : ω} {a : α}
    {notes : List ν} (h : x world = ⟨.ok a, world', notes⟩) :
    (x >>= f) world = ⟨(f a world').outcome, (f a world').world, notes ++ (f a world').notes⟩ := by
  rw [bind_of_ok (congrArg Trace.outcome h), h]

theorem bind_eq_of_error {x : Operation ν ω α} {f : α → Operation ν ω β} {world world' : ω}
    {failure : Failure} {notes : List ν} (h : x world = ⟨.error failure, world', notes⟩) :
    (x >>= f) world = ⟨.error failure, world', notes⟩ := by
  rw [bind_of_error (congrArg Trace.outcome h), h]

theorem bind_assoc {γ : Type} (x : Operation ν ω α) (f : α → Operation ν ω β)
    (g : β → Operation ν ω γ) : x >>= f >>= g = x >>= fun a => f a >>= g := by
  funext world
  show Operation.bind (Operation.bind x f) g world
    = Operation.bind x (fun a => Operation.bind (f a) g) world
  unfold Operation.bind
  rcases h : (x world).outcome with failure | a
  · simp only [h]
  · rcases h' : (f a (x world).world).outcome with failure | b
    · simp only [h, h']
    · simp only [h, h', List.append_assoc]

/-- Both parts of an operation that succeeds have succeeded. -/
theorem ok_of_bind {x : Operation ν ω α} {f : α → Operation ν ω β} {world : ω} {b : β}
    (h : ((x >>= f) world).outcome = .ok b) :
    ∃ a, (x world).outcome = .ok a ∧ (f a (x world).world).outcome = .ok b := by
  rcases hx : (x world).outcome with failure | a
  · rw [bind_of_error hx] at h
    cases h
  · rw [bind_of_ok hx] at h
    exact ⟨a, rfl, h⟩

/-- One of the parts of an operation that fails has failed. -/
theorem error_of_bind {x : Operation ν ω α} {f : α → Operation ν ω β} {world : ω}
    {failure : Failure} (h : ((x >>= f) world).outcome = .error failure) :
    (x world).outcome = .error failure ∨
      ∃ a, (x world).outcome = .ok a ∧ (f a (x world).world).outcome = .error failure := by
  rcases hx : (x world).outcome with failure' | a
  · rw [bind_of_error hx] at h
    cases h
    exact Or.inl rfl
  · rw [bind_of_ok hx] at h
    exact Or.inr ⟨a, rfl, h⟩

/-! ## Single operations -/

@[simp] theorem pure_apply (a : α) (world : ω) :
    (pure a : Operation ν ω α) world = ⟨.ok a, world, []⟩ := rfl

@[simp] theorem note_apply (n : ν) (world : ω) : note n world = ⟨.ok (), world, [n]⟩ := rfl

@[simp] theorem attempt_apply (x : Operation ν ω α) (world : ω) :
    x.attempt world = ⟨.ok (x world).outcome, (x world).world, (x world).notes⟩ := rfl

@[simp] theorem within_apply (context : String) (x : Operation ν ω α) (world : ω) :
    x.within context world =
      ⟨withContext context (x world).outcome, (x world).world, (x world).notes⟩ := rfl

theorem bind_pure_apply (x : Operation ν ω α) (f : α → β) (world : ω) :
    (x >>= fun a => pure (f a)) world =
      ⟨(x world).outcome.map f, (x world).world, (x world).notes⟩ := by
  rcases h : (x world).outcome with failure | a
  · rw [bind_of_error h]
    rfl
  · rw [bind_of_ok h, pure_apply, List.append_nil]
    rfl

theorem bind_ofExcept_apply (x : Operation ν ω α) (f : α → Except Failure β) (world : ω) :
    (x >>= fun a => ofExcept (f a)) world =
      ⟨(x world).outcome.bind f, (x world).world, (x world).notes⟩ := by
  rcases h : (x world).outcome with failure | a
  · rw [bind_of_error h]
    rfl
  · rw [bind_of_ok h]
    exact congrArg (Trace.mk _ _) (List.append_nil _)

/-! ## Properties of all notes -/

/-- Whatever the world, every note of the operation has the property. -/
def Notes (P : ν → Prop) (x : Operation ν ω α) : Prop := ∀ world, ∀ n ∈ (x world).notes, P n

namespace Notes

variable {P : ν → Prop}

theorem of_nil {x : Operation ν ω α} (h : ∀ world, (x world).notes = []) : Notes P x := by
  intro world n hn
  rw [h world] at hn
  cases hn

theorem note {n : ν} (h : P n) : Notes P (note n : Operation ν ω Unit) := by
  intro world m hm
  rw [note_apply, List.mem_singleton] at hm
  rwa [hm]

theorem bind {x : Operation ν ω α} {f : α → Operation ν ω β} (hx : Notes P x)
    (hf : ∀ a, Notes P (f a)) : Notes P (x >>= f) := by
  intro world n hn
  rcases h : (x world).outcome with failure | a
  · rw [bind_of_error h] at hn
    exact hx world n hn
  · rw [bind_of_ok h] at hn
    rcases List.mem_append.1 hn with hn | hn
    · exact hx world n hn
    · exact hf a _ n hn

end Notes

end Operation

/-! ## Notes of a site -/

@[simp] theorem log_apply (entry : LogEntry) (world : ω) :
    log entry world = ⟨.ok (), world, [.logged entry]⟩ := rfl

theorem totalWait_append (a b : List SiteNote) :
    (totalWait (a ++ b)).nanos = (totalWait a).nanos + (totalWait b).nanos := by
  have foldl_nanos (notes : List SiteNote) (d : Time.Duration) :
      (notes.foldl (fun total n => total + n.waiting) d).nanos =
        d.nanos + (totalWait notes).nanos := by
    unfold totalWait
    induction notes generalizing d with
    | nil => rfl
    | cons n notes ih =>
      rw [List.foldl_cons, ih, List.foldl_cons, ih (.zero + n.waiting), ← Nat.add_assoc]
      show d.nanos + n.waiting.nanos + _ = d.nanos + (0 + n.waiting.nanos) + _
      omega
  rw [totalWait, List.foldl_append, foldl_nanos]
  rfl

theorem totalWait_cons (n : SiteNote) (notes : List SiteNote) :
    (totalWait (n :: notes)).nanos = n.waiting.nanos + (totalWait notes).nanos := by
  rw [← List.singleton_append, totalWait_append]
  exact congrArg (· + _) (Nat.zero_add _)

/-! ## Operations of a run -/

section Run

variable (world : RunWorld ω)

@[simp] theorem own_apply (n : SiteNote) : own n world = ⟨.ok (), world, [.own n]⟩ := rfl

theorem ask_apply (call : Call) (x : SiteOperation ω α) :
    ask call x world = ⟨(x world.site).outcome, { world with site := (x world.site).world },
      .called call :: (x world.site).notes.map .party⟩ := rfl

end Run

/-! ## Calls -/

/-- The calls among some notes of a run. -/
def callNotes (notes : List RunNote) : List Call := notes.filterMap RunNote.call?

theorem callNotes_append (a b : List RunNote) :
    callNotes (a ++ b) = callNotes a ++ callNotes b := by
  unfold callNotes
  rw [List.filterMap_append]

theorem callNotes_party (notes : List SiteNote) : callNotes (notes.map RunNote.party) = [] := by
  unfold callNotes
  rw [List.filterMap_map]
  exact List.filterMap_eq_nil_iff.2 fun _ _ => rfl

theorem callNotes_own {ι : Type} (f : ι → SiteNote) (l : List ι) :
    callNotes (l.map fun i => .own (f i)) = [] := by
  unfold callNotes
  rw [List.filterMap_map]
  exact List.filterMap_eq_nil_iff.2 fun _ _ => rfl

end FleetScaling

import FleetScaling.Failure

/-!
# Operations

An operation is something that is done in a world: it has an outcome, leaves the world in some
state, and notes on the way what it did. Operations are put together with `do`; the first failure
ends them, and the world and the notes stay as they were at that point. Notes are only ever added,
so what an operation did can be read off them whatever came of it.
-/

namespace FleetScaling

/-- What an operation did: `ν` is what it notes, `ω` the world. -/
structure Trace (ν ω α : Type) where
  outcome : Except Failure α
  world : ω
  notes : List ν

/-- Something that is done in a world. -/
def Operation (ν ω α : Type) := ω → Trace ν ω α

namespace Operation

/-- Does nothing. -/
protected def pure (a : α) : Operation ν ω α := fun world => ⟨.ok a, world, []⟩

/-- Does one thing and, unless it fails, another. -/
protected def bind (x : Operation ν ω α) (f : α → Operation ν ω β) : Operation ν ω β := fun world =>
  let first := x world
  match first.outcome with
  | .error failure => ⟨.error failure, first.world, first.notes⟩
  | .ok a =>
    let second := f a first.world
    ⟨second.outcome, second.world, first.notes ++ second.notes⟩

instance : Monad (Operation ν ω) where
  pure := Operation.pure
  bind := Operation.bind

/-- Fails. -/
def fail (failure : Failure) : Operation ν ω α := fun world => ⟨.error failure, world, []⟩

/-- Succeeds or fails as a result says. -/
def ofExcept (result : Except Failure α) : Operation ν ω α := fun world => ⟨result, world, []⟩

/-- Notes something. -/
def note (n : ν) : Operation ν ω Unit := fun world => ⟨.ok (), world, [n]⟩

/-- Looks at the world and changes it. -/
def change (f : ω → α × ω) : Operation ν ω α := fun world =>
  let (a, world) := f world
  ⟨.ok a, world, []⟩

/-- The outcome of an operation, which itself does not fail. -/
def attempt (x : Operation ν ω α) : Operation ν ω (Except Failure α) := fun world =>
  let trace := x world
  ⟨.ok trace.outcome, trace.world, trace.notes⟩

/-- Adds a context to a failure. -/
def within (context : String) (x : Operation ν ω α) : Operation ν ω α := fun world =>
  let trace := x world
  { trace with outcome := withContext context trace.outcome }

/-- The same operation with its notes written in another form. -/
def renote (f : ν → μ) (x : Operation ν ω α) : Operation μ ω α := fun world =>
  let trace := x world
  ⟨trace.outcome, trace.world, trace.notes.map f⟩

end Operation

/-- A part of a world that can be looked at and replaced. -/
structure Part (ω κ : Type) where
  get : ω → κ
  set : ω → κ → ω

/-- An operation on a part of a world, done in the whole of it. -/
def Operation.onPart (part : Part ω κ) (x : Operation ν κ α) : Operation ν ω α := fun world =>
  let trace := x (part.get world)
  ⟨trace.outcome, part.set world trace.world, trace.notes⟩

end FleetScaling

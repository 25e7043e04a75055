import FleetScaling.Decimal.Layout
import FleetScaling.Time.Instant

/-!
# Milestones

A milestone is the first sample at which a column has exactly the target value, with the whole
seconds it took from a reference instant. A column that jumps over the target never reaches it;
a sample before the reference took no time.
-/

namespace FleetScaling

open Time Decimal

/-- Why a column has no milestone. -/
inductive MilestoneError
  | targetNotReached (target : UInt32) (samples : Nat)
  | lengthMismatch (samples times : Nat)
  | invalidTime (time : Float)
  deriving DecidableEq

/-- The wording of a milestone error. -/
def MilestoneError.message : MilestoneError → String
  | targetNotReached target samples =>
    "scaling target " ++ toString target ++ " never observed in " ++ toString samples ++ " samples"
  | lengthMismatch samples times =>
    "series has " ++ toString samples ++ " samples but " ++ toString times ++ " timestamps"
  | invalidTime time =>
    "timestamp " ++ Layout.plain.write time ++ " at the target sample is not a valid epoch time"

/-- When a column first reached its target. -/
structure Milestone where
  /-- The index of the sample. -/
  index : Nat
  reachedAt : Instant
  /-- Whole seconds from the reference, never negative. -/
  elapsed : Int64
  deriving DecidableEq

namespace Milestone

/-- Whole seconds from a reference, and zero when the instant lies before it. -/
def elapsedSince (reference reachedAt : Instant) : Int := max 0 (reachedAt.secondsSince reference)

/-- The milestone of a column whose samples were taken at the given times. -/
def locate (column : List UInt32) (times : List Float) (target : UInt32) (reference : Instant) :
    Except MilestoneError Milestone :=
  if column.length ≠ times.length then .error (.lengthMismatch column.length times.length)
  else match column.idxOf? target with
    | none => .error (.targetNotReached target column.length)
    | some index =>
      let time := times.getD index (Float.ofNat 0)
      match Instant.ofEpoch? time with
      | none => .error (.invalidTime time)
      | some reachedAt =>
        .ok ⟨index, reachedAt, Int64.ofInt (elapsedSince reference reachedAt)⟩

end Milestone

end FleetScaling

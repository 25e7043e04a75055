/-!
# Panics

A computation whose result does not fit where it belongs ends the program at once: what was done by
then stays done, and nothing of what was to come after it happens.
-/

namespace FleetScaling

/-- Why a program ends at once. -/
structure Panic where
  message : String
  deriving DecidableEq

namespace Panic

/-- A product does not fit into a word. -/
def product : Panic := ⟨"attempt to multiply with overflow"⟩

/-- A deadline is later than the clock can tell. -/
def deadline : Panic := ⟨"overflow when adding duration to instant"⟩

end Panic

/-- The product of two words, if it fits into a word. -/
def checkedMul (a b : UInt64) : Except Panic UInt64 :=
  if a.toNat * b.toNat < UInt64.size then .ok (a * b) else .error .product

end FleetScaling

import FleetScaling.Json.Record
import FleetScaling.Json.Value

/-!
# Soft checks

A soft check that fails does not stop a run: its failure is recorded, and the failures of all
targets are raised together once the run is over.
-/

namespace FleetScaling

open Json Text

/-- A soft check that failed. -/
structure SoftFailure where
  target : UInt32
  check : String
  expected : String
  actual : String
  deriving DecidableEq

namespace SoftFailure

/-- The failure in one line. -/
def message (f : SoftFailure) : String :=
  "[target " ++ toString f.target ++ "] " ++ f.check ++ ": expected " ++ f.expected ++
    ", got " ++ f.actual

/-- The failure of a check that two values are equal, unless they are. -/
def unlessEqual [DecidableEq α] (write : α → String) (target : UInt32) (check : String)
    (actual expected : α) : Option SoftFailure :=
  if actual = expected then none else some ⟨target, check, write expected, write actual⟩

/-- The failure of a check that a value is within a limit, unless it is. -/
def unlessAtMost [LE α] [DecidableLE α] (write : α → String) (target : UInt32) (check : String)
    (actual limit : α) : Option SoftFailure :=
  if actual ≤ limit then none else some ⟨target, check, "<= " ++ write limit, write actual⟩

/-- The failure as a document. -/
def toValue (f : SoftFailure) : Value :=
  .object [("scaling_target", .integer f.target.toNat), ("check", .text f.check),
    ("expected", .text f.expected), ("actual", .text f.actual)]

/-- The fields of a failure. -/
def record : Record SoftFailure :=
  SoftFailure.mk <$> .field "scaling_target" .count <*> .field "check" (.text "a string") <*>
    .field "expected" (.text "a string") <*> .field "actual" (.text "a string")

/-- Decodes a failure. -/
def decoder : Decoder SoftFailure := record.decoder "AssertionFailure"

end SoftFailure

/-- What is said about all failures of a run together. -/
def softFailuresMessage (failures : List SoftFailure) : String :=
  toString failures.length ++ " soft assertion(s) failed:\n" ++
    joined "\n" (failures.map fun f => "  " ++ f.message)

/-- The failures recorded so far, in order. -/
structure SoftChecks where
  failures : List SoftFailure
  deriving DecidableEq

namespace SoftChecks

/-- Nothing has failed. -/
def empty : SoftChecks := ⟨[]⟩

/-- One more failure. -/
def add (checks : SoftChecks) (failure : SoftFailure) : SoftChecks :=
  ⟨checks.failures ++ [failure]⟩

/-- The failures of some checks that were made in order. -/
def addAll (checks : SoftChecks) (failures : List SoftFailure) : SoftChecks :=
  ⟨checks.failures ++ failures⟩

/-- How many checks have failed. -/
def count (checks : SoftChecks) : Nat := checks.failures.length

end SoftChecks

end FleetScaling

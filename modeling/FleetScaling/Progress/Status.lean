import FleetScaling.Json.Record
import FleetScaling.Json.Value

/-!
# The status of a run

What a run is doing, which targets it has finished and how many checks have failed so far.
-/

namespace FleetScaling

open Json

/-- What a run is doing. -/
inductive Phase
  | idle
  | smokeTest
  | scalingUp
  | scalingDown
  | waitingForRefill
  | completed
  | failed
  deriving DecidableEq, Repr

namespace Phase

/-- Every phase, in the order of messages. -/
def all : List Phase :=
  [idle, smokeTest, scalingUp, scalingDown, waitingForRefill, completed, failed]

/-- The phase's name in documents and on the console. -/
def name : Phase → String
  | idle => "idle"
  | smokeTest => "smoke_test"
  | scalingUp => "scaling_up"
  | scalingDown => "scaling_down"
  | waitingForRefill => "waiting_for_refill"
  | completed => "completed"
  | failed => "failed"

/-- Decodes a phase by its name. -/
def decoder : Decoder Phase := .variant (all.map fun phase => (phase.name, phase))

end Phase

/-- The status of a run at one moment. -/
structure Status where
  phase : Phase
  /-- The target being cycled. -/
  target : Option UInt32
  /-- The targets of the finished cycles, in order. -/
  completed : List UInt32
  /-- How many soft checks have failed. -/
  failureCount : UInt64
  /-- Why the run failed. -/
  message : Option String
  /-- Seconds since 1970. -/
  updatedAt : Int64
  deriving DecidableEq

namespace Status

/-- The status as a document; a target or message that is not there is left out. -/
def toValue (s : Status) : Value :=
  .object <|
    [("phase", .text s.phase.name)] ++
    Value.optionalMember "scaling_target" s.target (fun t => .integer t.toNat) ++
    [("completed_targets", .list (s.completed.map fun t => .integer t.toNat)),
     ("assertion_failures", .integer s.failureCount.toNat)] ++
    Value.optionalMember "message" s.message .text ++
    [("updated_at", .integer s.updatedAt.toInt)]

/-- The fields of a status. -/
def record : Record Status :=
  Status.mk <$> .field "phase" Phase.decoder <*> .optionalField "scaling_target" .count <*>
    .field "completed_targets" (.list .count) <*> .field "assertion_failures" .size <*>
    .optionalField "message" (.text "a string") <*> .field "updated_at" .int64

/-- Decodes a status. -/
def decoder : Decoder Status := record.decoder "RunStatus"

end Status

end FleetScaling

import FleetScaling.Json.Record
import FleetScaling.Json.Value
import FleetScaling.Scaling.Strategy
import FleetScaling.Text.Quoted

/-!
# Results

The result of one cycle: what was scaled to which size, and the three durations that were
measured. A result has a title for people, a document for programs, and a form that the log shows.
-/

namespace FleetScaling

open Json Text

/-- The outcome of one cycle of scaling up and down. -/
structure CycleResult where
  region : String
  os : String
  computeNode : String
  headNode : String
  target : UInt32
  strategy : Strategy
  /-- Seconds until the launched instances reached the target. -/
  instancesUp : Int64
  /-- Seconds until the joined nodes reached the target. -/
  nodesUp : Int64
  /-- Seconds until no node was left. -/
  down : Int64
  deriving DecidableEq

namespace CycleResult

/-- Keys and values in the order of the report. -/
def entries (r : CycleResult) : List (String × String) :=
  [("Region", r.region), ("OS", r.os), ("ComputeNode", r.computeNode), ("HeadNode", r.headNode),
   ("ScalingTarget", toString r.target), ("ScalingStrategy", r.strategy.name),
   ("ScaleUpTimeEC2", toString r.instancesUp), ("ScaleUpTimeScheduler", toString r.nodesUp),
   ("ScaleDownTime", toString r.down)]

/-- Every entry as `Key[value]` and a blank, with a comma and a blank between entries. -/
def title (r : CycleResult) : String :=
  joined ", " (r.entries.map fun (key, value) => key ++ "[" ++ value ++ "] ")

/-- The result with all its fields, as the log shows it. -/
def shown (r : CycleResult) : String :=
  let fields := [("region", quoted r.region), ("os", quoted r.os),
    ("compute_node", quoted r.computeNode), ("head_node", quoted r.headNode),
    ("scaling_target", toString r.target), ("scaling_strategy", r.strategy.shown),
    ("scale_up_time_ec2", toString r.instancesUp),
    ("scale_up_time_scheduler", toString r.nodesUp), ("scale_down_time", toString r.down)]
  "ScalingResult \x7b " ++ joined ", " (fields.map fun (key, value) => key ++ ": " ++ value) ++ " \x7d"

/-- The result as a document. -/
def toValue (r : CycleResult) : Value :=
  .object [("Region", .text r.region), ("OS", .text r.os), ("ComputeNode", .text r.computeNode),
    ("HeadNode", .text r.headNode), ("ScalingTarget", .integer r.target.toNat),
    ("ScalingStrategy", .text r.strategy.name), ("ScaleUpTimeEC2", .integer r.instancesUp.toInt),
    ("ScaleUpTimeScheduler", .integer r.nodesUp.toInt), ("ScaleDownTime", .integer r.down.toInt)]

/-- The fields of a result. -/
def record : Record CycleResult :=
  CycleResult.mk <$> .field "Region" (.text "a string") <*> .field "OS" (.text "a string") <*>
    .field "ComputeNode" (.text "a string") <*> .field "HeadNode" (.text "a string") <*>
    .field "ScalingTarget" .count <*> .field "ScalingStrategy" Strategy.decoder <*>
    .field "ScaleUpTimeEC2" .int64 <*> .field "ScaleUpTimeScheduler" .int64 <*>
    .field "ScaleDownTime" .int64

/-- Decodes a result. -/
def decoder : Decoder CycleResult := record.decoder "ScalingResult"

end CycleResult

end FleetScaling

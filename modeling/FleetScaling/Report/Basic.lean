import FleetScaling.Json.Record
import FleetScaling.Scaling.Result
import FleetScaling.Scaling.Series

/-!
# Reports

A report is everything that is known about one cycle once it is over. Reports are stored as
documents, one file for each strategy and target.
-/

namespace FleetScaling

open Json Time

/-- The report on one cycle. -/
structure Report where
  title : String
  region : String
  cluster : String
  /-- When the cluster began to grow, to the minute. -/
  startTime : Instant
  /-- The end of the second monitoring window. -/
  endTime : Instant
  target : UInt32
  /-- When the joined nodes reached the target, to the minute. -/
  targetTime : Instant
  result : CycleResult
  deriving DecidableEq

namespace Report

/-- The name of the file that the report is stored in. -/
def fileName (r : Report) : String :=
  "scaling-" ++ r.result.strategy.name ++ "-" ++ toString r.target ++ ".json"

/-- Whether a file is named like a report. -/
def isFileName (name : String) : Bool :=
  name.startsWith "scaling-" && Text.endsIn ".json" name

/-- The report as a document. -/
def toValue (r : Report) : Value :=
  .object [("title", .text r.title), ("region", .text r.region), ("cluster_name", .text r.cluster),
    ("start_time", .text r.startTime.rfc3339), ("end_time", .text r.endTime.rfc3339),
    ("scaling_target", .integer r.target.toNat),
    ("scaling_target_time", .text r.targetTime.rfc3339), ("result", r.result.toValue)]

/-- The text of the report's file. -/
def text (r : Report) : String := r.toValue.pretty 0

/-- The fields of a report. -/
def record : Record Report :=
  Report.mk <$> .field "title" (.text "a string") <*> .field "region" (.text "a string") <*>
    .field "cluster_name" (.text "a string") <*> .field "start_time" instantDecoder <*>
    .field "end_time" instantDecoder <*> .field "scaling_target" .count <*>
    .field "scaling_target_time" instantDecoder <*> .field "result" CycleResult.decoder

/-- Decodes a report. -/
def decoder : Decoder Report := record.decoder "ScalingReport"

/-- Whether a report comes before another or at the same place: by the strategy's name, then by
target. -/
def isBefore (a b : Report) : Bool :=
  if a.result.strategy ≠ b.result.strategy then
    a.result.strategy.name < b.result.strategy.name
  else a.target ≤ b.target

end Report

end FleetScaling

import FleetScaling.Json.Record
import FleetScaling.Text.Quoted

/-!
# Samples

A sample is what was seen of the cluster at one moment: how many instances were launched, how
many nodes had joined the scheduler, and when. Sampling tools write the time as a number or as a
numeric string of seconds since 1970.
-/

namespace FleetScaling

open Json Text Decimal

/-- The cluster at one moment. -/
structure Sample where
  instances : UInt32
  nodes : UInt32
  /-- Seconds since 1970. -/
  time : Float
  deriving DecidableEq

/-- Seconds since 1970 as sampling tools write them. -/
inductive EpochSeconds
  | number (x : Float)
  | text (s : String)

namespace EpochSeconds

/-- What a document says about a time, if it is a number or a string. -/
def ofDocument? : Document → Option EpochSeconds
  | .number (.ok n) => some (number n.toFloat)
  | .text (.ok s) => some (text s)
  | _ => none

/-- Decodes a time without looking into its string. -/
def decoder : Decoder EpochSeconds := .untagged "EpochSeconds" ofDocument?

/-- The seconds; a string must hold a number, between blanks at most. -/
def toFloat : EpochSeconds → Except DecodeError Float
  | number x => .ok x
  | text s => match readFloat? (trimmed s.toList) with
    | some x => .ok x
    | none => .error (.rejected ("invalid epoch timestamp: " ++ quoted s))

end EpochSeconds

namespace Sample

/-- The fields of a sample. -/
def record : Record Sample :=
  Sample.mk <$> .field "ec2_capacity" .count <*> .field "compute_nodes" .count <*>
    .field "timestamp" (EpochSeconds.decoder.andThen EpochSeconds.toFloat)

/-- Decodes a sample. -/
def decoder : Decoder Sample := record.decoder "ScalingSample"

end Sample

end FleetScaling

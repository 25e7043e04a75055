import FleetScaling.Json.Record
import FleetScaling.Json.Value
import FleetScaling.Keyed
import FleetScaling.Scaling.Strategy

/-!
# Baselines

A baseline holds the seconds that scaling is expected to take: for each instance type, target and
strategy, seconds under the names of metrics. A combination whose three metrics are all there is
complete and has `Times`. `rows` lists every combination in an order that does not depend on how
the baseline was written; `lookup` finds the times of one.
-/

namespace FleetScaling

open Json Text Decimal

/-- Expected durations of one combination, in seconds. -/
structure Times where
  instancesUp : Int64
  nodesUp : Int64
  down : Int64
  deriving DecidableEq

/-- The three metrics that a combination is compared by. -/
inductive Metric
  | instancesUp
  | nodesUp
  | down
  deriving DecidableEq, Repr

namespace Metric

/-- The metric's name in baselines and reports. -/
def name : Metric → String
  | instancesUp => "scale_up_time_ec2"
  | nodesUp => "scale_up_time_scheduler"
  | down => "scale_down_time"

end Metric

/-- Expected seconds by instance type, target, strategy and metric. -/
structure Baseline where
  entries : Keyed (Keyed (Keyed (Keyed Int64)))

namespace Baseline

/-! ## Documents -/

/-- Seconds within 64 bits; what lies outside becomes the nearest bound. -/
def saturated (n : Int) : Int64 :=
  if fitsSigned 63 n then Int64.ofInt n else if n < 0 then Int64.minValue else Int64.maxValue

/-- The wording for seconds that are none. -/
def invalidSeconds (shown : String) : DecodeError :=
  .rejected ("invalid baseline seconds: " ++ shown)

/-- Seconds as they are written: an integer, a fraction that is cut off, or an integer in a
string. -/
inductive RawSeconds
  | integer (n : Int64)
  | float (x : Float)
  | text (s : String)

/-- What a document says about seconds, if it is a number or a string. -/
def RawSeconds.ofDocument? : Document → Option RawSeconds
  | .number (.ok (.natural n)) =>
    if n ≤ largest 63 then some (integer (Int64.ofNat n)) else some (float (Float.ofNat n))
  | .number (.ok (.negative n)) => some (integer (Int64.ofInt n))
  | .number (.ok (.float x)) => some (float x)
  | .text (.ok s) => some (text s)
  | _ => none

/-- The seconds that were meant. -/
def RawSeconds.toInt64 : RawSeconds → Except DecodeError Int64
  | integer n => .ok n
  | float x => match BinaryFraction.ofFloat? x with
    | some y => .ok (saturated y.truncate)
    | none => .error (invalidSeconds (Layout.plain.write x))
  | text s => match readInt64? (trimmed s.toList) with
    | some n => .ok n
    | none => .error (invalidSeconds (quoted s))

/-- Decodes seconds. -/
def secondsDecoder : Decoder Int64 :=
  (Decoder.untagged "RawSeconds" RawSeconds.ofDocument?).andThen RawSeconds.toInt64

/-- Decodes a collection with any keys. -/
def keyedDecoder (decoder : Decoder α) : Decoder (Keyed α) := fun depth document =>
  (Decoder.members decoder depth document).map Keyed.ofList

/-- Decodes a baseline. -/
def decoder : Decoder Baseline := fun depth document =>
  (keyedDecoder (keyedDecoder (keyedDecoder (keyedDecoder secondsDecoder))) depth document).map
    Baseline.mk

/-- A collection as a document. -/
def keyedValue (write : α → Value) (c : Keyed α) : Value :=
  .object (c.entries.map fun (key, value) => (key, write value))

/-- The baseline as a document. -/
def toValue (b : Baseline) : Value :=
  keyedValue (keyedValue (keyedValue (keyedValue fun n => .integer n.toInt))) b.entries

/-! ## Lookup -/

/-- The three durations, if all metrics are there. -/
def times? (metrics : Keyed Int64) : Option Times := do
  let instancesUp ← metrics.find? Metric.instancesUp.name
  let nodesUp ← metrics.find? Metric.nodesUp.name
  let down ← metrics.find? Metric.down.name
  some ⟨instancesUp, nodesUp, down⟩

/-- The expected durations of a combination, if it is there and complete. -/
def lookup (b : Baseline) (instanceType : String) (target : UInt32) (strategy : Strategy) :
    Option Times := do
  let targets ← b.entries.find? instanceType
  let strategies ← targets.find? (toString target)
  let metrics ← strategies.find? strategy.name
  times? metrics

/-! ## Rows -/

/-- One combination of a baseline; its times are there if it is complete. -/
structure Row where
  instanceType : String
  target : String
  strategy : String
  times : Option Times
  deriving DecidableEq

/-- The number that a target is sorted by; texts that are no number come last. -/
def targetRank (target : String) : Nat :=
  (natural? (twoPow 64) target.toList).getD (largest 64)

/-- Whether a row comes before another or at the same place: by instance type, then by target as
a number and as a text, then by strategy. -/
def Row.isBefore (a b : Row) : Bool :=
  if a.instanceType ≠ b.instanceType then a.instanceType < b.instanceType
  else if targetRank a.target ≠ targetRank b.target then targetRank a.target < targetRank b.target
  else if a.target ≠ b.target then a.target < b.target
  else a.strategy ≤ b.strategy

/-- Every combination, in the order of the baseline. -/
def unsortedRows (b : Baseline) : List Row :=
  b.entries.entries.flatMap fun (instanceType, targets) =>
    targets.entries.flatMap fun (target, strategies) =>
      strategies.entries.map fun (strategy, metrics) =>
        ⟨instanceType, target, strategy, times? metrics⟩

/-- Every combination, in order. -/
def rows (b : Baseline) : List Row := b.unsortedRows.mergeSort Row.isBefore

end Baseline

end FleetScaling

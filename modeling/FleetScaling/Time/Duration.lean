import FleetScaling.Decimal.Word
import FleetScaling.Panic
import FleetScaling.Text.Digit

/-!
# Durations

A duration is a number of nanoseconds. Messages show it in the largest unit in which it is at
least one, with as many decimals as it needs. Deadlines are set by how long the machine has been up,
on a clock that is never put back; its seconds are a signed word of 64 bits, so that a deadline may be
too late for it.
-/

namespace FleetScaling.Time

open FleetScaling.Text FleetScaling.Decimal

/-- A span of time, in nanoseconds. -/
structure Duration where
  nanos : Nat
  deriving DecidableEq, Repr

namespace Duration

/-- No time at all. -/
def zero : Duration := ⟨0⟩

/-- A whole number of seconds. -/
def ofSeconds (seconds : Nat) : Duration := ⟨1000000000 * seconds⟩

/-- A whole number of milliseconds. -/
def ofMillis (millis : Nat) : Duration := ⟨1000000 * millis⟩

/-- The whole seconds of the duration. -/
def seconds (d : Duration) : Nat := d.nanos / 1000000000

/-- The whole milliseconds of the duration. -/
def millis (d : Duration) : Nat := d.nanos / 1000000

instance : LT Duration := ⟨fun a b => a.nanos < b.nanos⟩

instance (a b : Duration) : Decidable (a < b) := inferInstanceAs (Decidable (a.nanos < b.nanos))

instance : Sub Duration := ⟨fun a b => ⟨a.nanos - b.nanos⟩⟩

instance : Add Duration := ⟨fun a b => ⟨a.nanos + b.nanos⟩⟩

instance : LE Duration := ⟨fun a b => a.nanos ≤ b.nanos⟩

instance (a b : Duration) : Decidable (a ≤ b) := inferInstanceAs (Decidable (a.nanos ≤ b.nanos))

/-- The duration in a unit of `10 ^ places` nanoseconds. -/
def inUnit (d : Duration) (places : Nat) (unit : String) : String :=
  let fraction := (padded places (d.nanos % tenPow places)).toList
  let kept := (fraction.reverse.dropWhile (· == '0')).reverse
  toString (d.nanos / tenPow places) ++
    (if kept.isEmpty || places = 0 then "" else "." ++ String.ofList kept) ++ unit

/-- The shorter of two durations. -/
def shorter (a b : Duration) : Duration := if a ≤ b then a else b

/-- The duration as messages show it. -/
def text (d : Duration) : String :=
  if tenPow 9 ≤ d.nanos then d.inUnit 9 "s"
  else if tenPow 6 ≤ d.nanos then d.inUnit 6 "ms"
  else if tenPow 3 ≤ d.nanos then d.inUnit 3 "µs"
  else d.inUnit 0 "ns"

/-! ## Deadlines -/

/-- The clock of the machine can show that it has been up so long. -/
def Showable (uptime : Duration) : Prop := (uptime.seconds : Int) ≤ Int64.maxValue.toInt

instance (uptime : Duration) : Decidable uptime.Showable :=
  inferInstanceAs (Decidable ((uptime.seconds : Int) ≤ Int64.maxValue.toInt))

/-- The end of a time that begins when the machine has been up so long. -/
def deadline (uptime budget : Duration) : Except Panic Duration :=
  if (uptime + budget).Showable then .ok (uptime + budget) else .error .deadline

end Duration

/-- A duration that is not zero: the time between two looks at something that changes. -/
structure Interval where
  length : Duration
  pos : 0 < length.nanos
  deriving DecidableEq

/-- An interval of whole seconds. -/
def Interval.ofSeconds (seconds : Nat) (h : 0 < seconds := by decide) : Interval :=
  ⟨.ofSeconds seconds, by simp [Duration.ofSeconds]; omega⟩

end FleetScaling.Time

import FleetScaling.Decimal.Binary
import FleetScaling.Time.Calendar

/-!
# Instants

An instant of universal time is a whole number of seconds since 1970-01-01T00:00:00Z and a
number of nanoseconds within that second. A leap second is kept as the second before it with a
billion nanoseconds or more; it can only be the last second of a minute. Instants cover the years
-262143 to 262142.
-/

namespace FleetScaling.Time

open FleetScaling.Text FleetScaling.Decimal

/-- The first second that an instant can lie in. -/
def firstSecond : Int := -8334601228800

/-- The last second that an instant can lie in. -/
def lastSecond : Int := 8210266876799

/-- Nanoseconds in a second. -/
def billion : Nat := 1000000000

/-- A point of universal time. -/
structure Instant where
  seconds : Int
  nanos : Nat
  first_le : firstSecond ≤ seconds
  le_last : seconds ≤ lastSecond
  nanos_lt : nanos < 2 * billion
  leap_at_end : billion ≤ nanos → seconds % 60 = 59
  deriving DecidableEq

namespace Instant

/-- The instant with these seconds and nanoseconds, if there is one. -/
def of? (seconds : Int) (nanos : Nat) : Option Instant :=
  if h : firstSecond ≤ seconds ∧ seconds ≤ lastSecond ∧ nanos < 2 * billion ∧
      (billion ≤ nanos → seconds % 60 = 59) then
    some ⟨seconds, nanos, h.1, h.2.1, h.2.2.1, h.2.2.2⟩
  else none

/-- The start of 1970. -/
def epoch : Instant := ⟨0, 0, by decide, by decide, by decide, by decide⟩

/-- Whether the instant lies in a leap second. -/
def isLeap (t : Instant) : Bool := billion ≤ t.nanos

/-! ## Fractional seconds -/

/-- The instant that is `t` seconds after the epoch, to the nearest nanosecond but never in the
next second; none for infinities, not-a-number and instants out of range. -/
def ofEpoch? (t : Float) : Option Instant := do
  let exact ← BinaryFraction.ofFloat? t
  let seconds := exact.floor
  let fraction := (t - Float.ofInt seconds) * Float.ofNat billion
  let nanos ← (BinaryFraction.ofFloat? fraction).map fun x => x.round.toNat
  of? seconds (min nanos (billion - 1))

/-- Seconds since the epoch as a floating-point number. -/
def toEpoch (t : Instant) : Float :=
  Float.ofInt t.seconds + Float.ofNat t.nanos / Float.ofNat billion

/-! ## Minutes -/

/-- The start of the minute that the instant lies in. -/
def startOfMinute (t : Instant) : Instant where
  seconds := t.seconds - t.seconds % 60
  nanos := 0
  first_le := by
    have := t.first_le
    unfold firstSecond at *
    omega
  le_last := by
    have := t.le_last
    unfold lastSecond at *
    omega
  nanos_lt := by decide
  leap_at_end := fun h => absurd h (by decide)

/-! ## Differences -/

/-- Seconds since midnight. -/
def secondOfDay (t : Instant) : Int := t.seconds % 86400

/-- How many leap seconds lie between two instants, as far as the instants show: the one that the
earlier time of day lies in has passed. -/
def leapSecondsSince (t reference : Instant) : Int :=
  if reference.secondOfDay < t.secondOfDay then (if reference.isLeap then 1 else 0)
  else if t.secondOfDay < reference.secondOfDay then (if t.isLeap then -1 else 0)
  else 0

/-- The nanoseconds from `reference` to `t`. -/
def nanosSince (t reference : Instant) : Int :=
  (t.seconds - reference.seconds + t.leapSecondsSince reference) * billion +
    ((t.nanos : Int) - reference.nanos)

/-- The whole seconds from `reference` to `t`, without the fraction. -/
def secondsSince (t reference : Instant) : Int := (t.nanosSince reference).tdiv billion

/-! ## Text -/

/-- The date that the instant lies in. -/
def date (t : Instant) : Date := Date.ofDays (t.seconds / 86400)

/-- A fraction of a second with no, three, six or nine digits, as few as it needs. -/
def fractionText (nanos : Nat) : String :=
  if nanos = 0 then ""
  else if nanos % 1000000 = 0 then "." ++ padded 3 (nanos / 1000000)
  else if nanos % 1000 = 0 then "." ++ padded 6 (nanos / 1000)
  else "." ++ padded 9 nanos

/-- Hours, minutes and seconds; a leap second is the sixtieth. -/
def clockText (t : Instant) : String :=
  let second := t.secondOfDay.toNat
  padded 2 (second / 3600) ++ ":" ++ padded 2 (second / 60 % 60) ++ ":" ++
    padded 2 (second % 60 + (if t.isLeap then 1 else 0))

/-- The time of day. -/
def timeText (t : Instant) : String := t.clockText ++ fractionText (t.nanos % billion)

/-- The instant as RFC 3339 writes it. -/
def rfc3339 (t : Instant) : String := t.date.text ++ "T" ++ t.timeText ++ "Z"

/-- The instant as messages write it. -/
def text (t : Instant) : String := t.date.text ++ " " ++ t.timeText ++ " UTC"

end Instant

end FleetScaling.Time

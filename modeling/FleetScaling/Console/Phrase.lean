import FleetScaling.Console.Style
import FleetScaling.Console.Table
import FleetScaling.Text.Lower
import FleetScaling.Time.Instant

/-!
# Phrases

How the console shows durations, moments and states, and the lines of a message: a mark for its
kind and what it says.
-/

namespace FleetScaling.Console

open FleetScaling.Text FleetScaling.Time

/-- A number of seconds, in minutes and seconds from one minute on. -/
def durationText (seconds : Int) : String :=
  if seconds < 60 then toString seconds ++ "s"
  else toString (seconds / 60) ++ "m" ++ padded 2 (seconds % 60).toNat ++ "s"

/-- A moment that is given in seconds since 1970; the number itself if it lies out of range. -/
def momentText (seconds : Int) : String :=
  match Instant.of? seconds 0 with
  | some t => t.date.text ++ " " ++ t.clockText
  | none => toString seconds

/-- The style of a state, whatever its letter case. -/
def stateStyle? (state : String) : Option Style :=
  [("idle", .yellow), ("waiting_for_refill", .yellow), ("scaling_up", .blue),
    ("scaling_down", .blue), ("smoke_test", .blue), ("completed", .green), ("pass", .green),
    ("failed", .red), ("fail", .red), ("missing", .dim)].lookup (lower state)

namespace Palette

/-- A state in its style. -/
def state (palette : Palette) (state : String) : String :=
  match stateStyle? state with
  | some style => palette.styled [style] state
  | none => state

/-! ## Messages -/

/-- A message after its mark. -/
def message (palette : Palette) (mark : String) (style : Style) (text : String) : String :=
  palette.styled [.bold, style] mark ++ " " ++ text

/-- Something went well. -/
def success (palette : Palette) (text : String) : String := palette.message "✓" .green text

/-- Something went wrong. -/
def failure (palette : Palette) (text : String) : String := palette.message "✗" .red text

/-- Something is not as it should be. -/
def warning (palette : Palette) (text : String) : String := palette.message "⚠" .yellow text

/-- Something to know. -/
def notice (palette : Palette) (text : String) : String := palette.message "ℹ" .blue text

/-- The lines of a table, or one that says that it has no rows. -/
def tableLines (palette : Palette) (t : Table) : List String :=
  if t.rows.isEmpty then [palette.styled [.yellow] "No items found"] else t.lines

end Palette

end FleetScaling.Console

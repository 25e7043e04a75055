import FleetScaling.Health.Registry
import FleetScaling.Metrics.Basic
import FleetScaling.Operation.Basic
import FleetScaling.Scaling.Sample
import FleetScaling.Site.Log
import FleetScaling.Time.Duration

/-!
# Notes of a site

What the parties of a site note while they work: programs they started, how long they waited, what
they logged and measured, how they judged a component, and the samples they took. Only waiting
takes time.
-/

namespace FleetScaling

open Time

/-- Something that a party did. -/
inductive SiteNote
  /-- A party was asked for something and keeps a record of requests. -/
  | asked (request : String)
  /-- A program was started with arguments. -/
  | started (program : String) (arguments : List String)
  | waited (duration : Duration)
  | logged (entry : LogEntry)
  | measured (update : MetricUpdate)
  | judged (component : Component) (health : Health) (detail : Option String)
  /-- A sample was taken and dealt with, or could not be taken. -/
  | sampled (sample : Option Sample)
  /-- The program ends here. -/
  | panicked (panic : Panic)

/-- What a party does in a world `ω`. -/
abbrev SiteOperation (ω α : Type) := Operation SiteNote ω α

namespace SiteNote

/-- The waiting time that a note stands for. -/
def waiting : SiteNote → Duration
  | waited d => d
  | _ => .zero

/-- The log entry that a note stands for, if it is one. -/
def entry? : SiteNote → Option LogEntry
  | logged entry => some entry
  | _ => none

end SiteNote

/-- Waits. -/
def pause (d : Duration) : SiteOperation ω Unit := Operation.note (.waited d)

/-- Writes to the log. -/
def log (entry : LogEntry) : SiteOperation ω Unit := Operation.note (.logged entry)

/-- Changes the metrics. -/
def measure (update : MetricUpdate) : SiteOperation ω Unit := Operation.note (.measured update)

/-- Goes on with a result, unless the program panics for want of one. -/
def orPanic (result : Except Panic α) : SiteOperation ω α :=
  match result with
  | .ok a => pure a
  | .error panic => do
    Operation.note (.panicked panic)
    .fail (.of (.panicked panic))

/-- The time that was spent waiting. -/
def totalWait (notes : List SiteNote) : Duration :=
  notes.foldl (fun total n => total + n.waiting) .zero

/-- The usual time between two looks. -/
def usualLook : Interval := .ofSeconds 10

/-- Looks again and again, with `interval` between two looks, until there is an answer. When
there is none although `limit` has passed, `late` decides; it is given the time that has passed
and what was seen last. -/
def lookUntil (interval : Interval) (limit : Duration) (look : SiteOperation ω (Except β α))
    (late : Duration → β → SiteOperation ω α) (elapsed : Duration) : SiteOperation ω α := do
  match ← look with
  | .ok answer => pure answer
  | .error seen =>
    if limit ≤ elapsed then late elapsed seen
    else
      pause interval.length
      lookUntil interval limit look late (elapsed + interval.length)
  termination_by limit.nanos - elapsed.nanos
  decreasing_by
    have := interval.pos
    have : ¬ limit.nanos ≤ elapsed.nanos := by assumption
    show limit.nanos - (elapsed.nanos + interval.length.nanos) < limit.nanos - elapsed.nanos
    omega

end FleetScaling

import FleetScaling.Json.Value

/-!
# Log entries

An entry of the structured log: how grave it is, a message, and fields. Entries about the course
of a run name the event they are about.
-/

namespace FleetScaling

open Json

/-- How grave a log entry is. -/
inductive Severity
  | info
  | warning
  | error
  deriving DecidableEq, Repr

/-- The name of a severity in the log. -/
def Severity.name : Severity → String
  | info => "INFO"
  | warning => "WARN"
  | error => "ERROR"

/-- An entry of the log. -/
structure LogEntry where
  severity : Severity
  message : String
  /-- The event that the entry is about, if it is about one. -/
  event : Option String
  fields : List (String × Value)

namespace LogEntry

/-- An entry that tells something. -/
def info (message : String) (fields : List (String × Value)) : LogEntry :=
  ⟨.info, message, none, fields⟩

/-- An entry that warns of something. -/
def warning (message : String) (fields : List (String × Value)) : LogEntry :=
  ⟨.warning, message, none, fields⟩

/-- The entry as one about an event. -/
def about (entry : LogEntry) (event : String) : LogEntry := { entry with event := some event }

/-- All fields, with the event in front and the message at the end. -/
def allFields (entry : LogEntry) : List (String × Value) :=
  Value.optionalMember "event" entry.event .text ++ entry.fields ++
    [("message", .text entry.message)]

/-- The entry as a document. -/
def toValue (entry : LogEntry) : Value :=
  .object [("level", .text entry.severity.name), ("fields", .object entry.allFields)]

end LogEntry

end FleetScaling

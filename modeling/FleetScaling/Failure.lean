import FleetScaling.Checks.Soft
import FleetScaling.Files
import FleetScaling.Json.Decoder
import FleetScaling.Scaling.Milestone
import FleetScaling.Time.Duration
import FleetScaling.Web.Network

/-!
# Failures

A failure is a cause and the contexts in which it arose, outermost first. Its message is the chain
of all of them. What caused a failure can be told whatever contexts were added.
-/

namespace FleetScaling

open Json Text Time Web

/-- What went wrong. -/
inductive Cause
  | milestone (error : MilestoneError)
  /-- A baseline file that cannot be read. -/
  | unreadableBaseline (path : String) (error : FileError)
  /-- A baseline file that holds no baseline. -/
  | malformedBaseline (path : String) (error : DecodeError)
  /-- The scheduler did not take a job. -/
  | jobNotAccepted (detail : String)
  /-- A job ended before it ran. -/
  | jobEnded (id state : String)
  /-- A job did not run in time. -/
  | jobNotRunning (id : String) (waited : Duration)
  | softFailures (failures : List SoftFailure)
  /-- A file of settings that cannot be read. -/
  | unreadableSettings
  | url (error : UrlError)
  | request (error : RequestError)
  /-- Metrics took longer than the baseline expects. -/
  | regressed (count : Nat)
  /-- There is no result to compare with the baseline. -/
  | nothingToCheck
  | malformed (error : DecodeError)
  | file (error : FileError)
  /-- The program does not outlive this failure. -/
  | panicked (panic : Panic)
  | other (message : String)

/-- The messages of a cause; that of a baseline file names what lies below it, which then speaks
for itself. -/
def Cause.messages : Cause → List String
  | milestone e => [e.message]
  | unreadableBaseline path e =>
    ["failed to read baseline file " ++ path ++ ": " ++ e.message, e.message]
  | malformedBaseline path e =>
    ["malformed baseline file " ++ path ++ ": " ++ e.message, e.message]
  | jobNotAccepted detail => ["job was not accepted by the scheduler: " ++ detail]
  | jobEnded id state => ["job " ++ id ++ " ended in state " ++ state ++ " before running"]
  | jobNotRunning id waited => ["job " ++ id ++ " not running after " ++ waited.text]
  | softFailures failures => [softFailuresMessage failures]
  | unreadableSettings => ["Failed to read bench configuration"]
  | url e => [e.message]
  | request e => e.messages
  | regressed count => [toString count ++ " metric(s) regressed beyond the baseline"]
  | nothingToCheck => ["no scaling results to check"]
  | malformed e => [e.message]
  | file e => [e.message]
  | panicked panic => [panic.message]
  | other message => [message]

/-- A cause in its contexts. -/
structure Failure where
  /-- What was being done, outermost first. -/
  contexts : List String
  cause : Cause

namespace Failure

/-- A failure without context. -/
def of (cause : Cause) : Failure := ⟨[], cause⟩

/-- A failure that is only a message. -/
def other (message : String) : Failure := of (.other message)

/-- The failure in one more context. -/
def within (context : String) (failure : Failure) : Failure :=
  { failure with contexts := context :: failure.contexts }

/-- The whole chain. -/
def message (failure : Failure) : String :=
  joined ": " (failure.contexts ++ failure.cause.messages)

/-- What was being done, or what went wrong if nothing else is known. -/
def summary (failure : Failure) : String :=
  (failure.contexts ++ failure.cause.messages).headD ""

/-- Whether the failure is that soft checks failed. -/
def isSoft (failure : Failure) : Bool :=
  match failure.cause with
  | .softFailures _ => true
  | _ => false

end Failure

/-- The result with one more context around its failure. -/
def withContext (context : String) (result : Except Failure α) : Except Failure α :=
  result.mapError (Failure.within context)

/-- The failures that were recorded, raised together; nothing if there are none. -/
def SoftChecks.finish (checks : SoftChecks) : Except Failure Unit :=
  if checks.failures.isEmpty then .ok () else .error (.of (.softFailures checks.failures))

namespace Json

/-- The value that a text stands for; `context` says what the text is. -/
def decodeWithin (context : String) (decoder : Decoder α) (text : String) : Except Failure α :=
  withContext context ((decode decoder text).mapError fun e => Failure.of (.malformed e))

end Json

end FleetScaling

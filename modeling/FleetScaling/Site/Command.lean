import FleetScaling.Site.Note
import FleetScaling.Text.Utf8

/-!
# Commands

Commands are run in two ways: as programs on the machine of the bench, and as command lines on the
head node of the cluster. Both end with an exit code and two texts; a checked run fails unless the
exit code is zero.
-/

namespace FleetScaling

open Text

/-- What a finished command left behind. -/
structure CommandResult where
  exitCode : Int
  output : String
  errors : String
  deriving DecidableEq

/-- Whether the command ended well. -/
def CommandResult.success (r : CommandResult) : Bool := r.exitCode = 0

/-- The result if the command ended well, or else the failure of what was `run`. -/
def CommandResult.checked (run : String) (r : CommandResult) : Except Failure CommandResult :=
  if r.success then .ok r
  else .error <| .other <| run ++ " failed with exit code " ++ toString r.exitCode ++ ": " ++
    trim r.errors

/-! ## Programs -/

/-- How a program ended. -/
structure Completion where
  /-- The exit code; none if a signal ended the program. -/
  code : Option Int
  output : List UInt8
  errors : List UInt8
  deriving DecidableEq

namespace Completion

/-- A program that ends well and writes nothing. -/
def silent : Completion := ⟨some 0, [], []⟩

/-- The result of the command; an end by a signal counts as code -1. -/
def result (c : Completion) : CommandResult :=
  ⟨c.code.getD (-1), lossyText c.output, lossyText c.errors⟩

end Completion

/-- The programs that the bench can start on its own machine. -/
structure Programs (ω : Type) where
  /-- Starts a program and waits for its end, unless it cannot be started. -/
  start (program : String) (arguments : List String) :
    SiteOperation ω (Except FileError Completion)

namespace Programs

/-- Runs a program; `failing` is said if it cannot be started. -/
def runOr (failing : String) (programs : Programs ω) (program : String)
    (arguments : List String) : SiteOperation ω CommandResult := do
  match ← programs.start program arguments with
  | .ok completion => pure completion.result
  | .error e => .fail (Failure.within failing (.of (.file e)))

/-- Runs a program. -/
def run (programs : Programs ω) (program : String) (arguments : List String) :
    SiteOperation ω CommandResult :=
  programs.runOr ("Failed to spawn " ++ program) program arguments

/-- Runs a program, which must end well. -/
def runChecked (programs : Programs ω) (program : String) (arguments : List String) :
    SiteOperation ω CommandResult := do
  let result ← programs.run program arguments
  .ofExcept (result.checked ("`" ++ program ++ " " ++ joined " " arguments ++ "`"))

end Programs

/-! ## Head node -/

/-- The head node of a cluster, where command lines are run. -/
structure HeadNode (ω : Type) where
  run (command : String) : SiteOperation ω CommandResult
  /-- Closes the connection, so that the next command opens a new one. -/
  reset : SiteOperation ω Unit

/-- Runs a command line, which must end well. -/
def HeadNode.runChecked (headNode : HeadNode ω) (command : String) :
    SiteOperation ω CommandResult := do
  let result ← headNode.run command
  .ofExcept (result.checked ("Remote command `" ++ command ++ "`"))

end FleetScaling

import FleetScaling.Baseline.File
import FleetScaling.Operation.Basic
import FleetScaling.Operator.CommandLine
import FleetScaling.Operator.Server
import FleetScaling.Operator.Settings
import FleetScaling.Operator.Views
import FleetScaling.Report.Directory

/-!
# The operator's program

The program reads the operator's settings, does what the command line says and prints lines. A
failure is told after what was printed before it, and then the exit code is one.
-/

namespace FleetScaling

open CommandLine Console Json Text

/-- What the operator's program finds where it is started. -/
structure OperatorSurroundings where
  files : Files
  /-- The operator's home directory. -/
  home : Option String
  /-- The URL of the bench that is set outside the command line. -/
  apiUrl : Option String
  network : Web.Network
  palette : Palette

/-- Something that prints lines. -/
abbrev Printing (α : Type) := Operation String Unit α

/-- Prints lines. -/
def printLines (lines : List String) : Printing Unit := lines.forM Operation.note

/-- Prints a document. -/
def printDocument (value : Value) : Printing Unit := Operation.note (value.pretty 0)

/-- Prints something as a document or as lines. -/
def printAs (format : OutputFormat) (value : Value) (lines : List String) : Printing Unit :=
  match format with
  | .json => printDocument value
  | .table => printLines lines

namespace OperatorSurroundings

/-- The settings of the operator. -/
def settings (s : OperatorSurroundings) : Except Failure OperatorSettings :=
  match s.home with
  | none => .error (.other "Could not determine home directory")
  | some home => OperatorSettings.load s.files (OperatorSettings.pathBelow home)

/-- The baseline in the file at a path. -/
def baseline (s : OperatorSurroundings) (path : String) : Except Failure Baseline :=
  Baseline.ofFile path (s.files.read path)

/-- The results in a directory of reports. -/
def reportedResults (s : OperatorSurroundings) (directory : String) :
    Except Failure (List CycleResult) :=
  withContext ("Failed to load reports from " ++ directory)
    ((Report.loadAll s.files directory).map fun reports => reports.map (·.result))

/-- Shows the status of the run. -/
def showStatus (s : OperatorSurroundings) (server : Server) (format : OutputFormat) :
    Printing Unit := do
  let status ← .ofExcept server.status
  printAs format status.toValue (status.view s.palette)

/-- Shows the results so far, of one target or all. -/
def showResults (s : OperatorSurroundings) (server : Server) (format : OutputFormat)
    (target : Option UInt32) : Printing Unit := do
  let results ← .ofExcept server.results
  let results := results.of target
  printAs format results.toValue (results.view s.palette)

/-- Shows the baseline in the file at a path. -/
def showBaseline (s : OperatorSurroundings) (format : OutputFormat) (path : String)
    (instanceType : Option String) : Printing Unit := do
  let baseline ← .ofExcept (s.baseline path)
  printAs format baseline.toValue (baseline.view s.palette path instanceType)

/-- Checks results against the baseline in the file at a path. -/
def checkBaseline (s : OperatorSurroundings) (server : Server) (format : OutputFormat)
    (path : String) (reports : Option String) : Printing Unit := do
  let baseline ← .ofExcept (s.baseline path)
  let results ← .ofExcept <| match reports with
    | some directory => s.reportedResults directory
    | none => server.results.map (·.results)
  if results.isEmpty then .fail (.of .nothingToCheck)
  let rows := baseline.checkRows results
  printAs format (.list (rows.map CheckRow.toValue))
    (comparisonView s.palette path rows (baseline.missing results))
  if failedCount rows ≠ 0 then .fail (.of (.regressed (failedCount rows)))

/-- The path of the baseline file, from the command line or else from the settings. -/
def baselinePath (settings : OperatorSettings) (file : Option String) : Except Failure String :=
  (file.orElse fun _ => settings.baselinePath).elim
    (.error (.other "No baseline file given; pass --file or set baseline_path in the config")) .ok

/-- Does what a command line says. -/
def carryOut (s : OperatorSurroundings) (request : OperatorRequest) : Printing Unit := do
  let settings ← .ofExcept s.settings
  let server ← .ofExcept (Server.at? s.network (settings.url request.apiUrl))
  match request.command with
  | .status => s.showStatus server request.format
  | .results target => s.showResults server request.format target
  | .showBaseline file instanceType =>
    let path ← .ofExcept (baselinePath settings file)
    s.showBaseline request.format path instanceType
  | .checkBaseline file reports =>
    let path ← .ofExcept (baselinePath settings file)
    s.checkBaseline server request.format path
      (reports.orElse fun _ => settings.reportDirectory)

/-- How the program ends when it is started with some words. -/
def run (s : OperatorSurroundings) (words : List String) : Exit :=
  match OperatorRequest.read s.apiUrl words with
  | .error halt =>
    halt.exit OperatorRequest.program OperatorRequest.version OperatorRequest.usage
  | .ok request =>
    let trace := s.carryOut request ()
    match trace.outcome with
    | .ok _ => ⟨0, trace.notes, []⟩
    | .error failure => ⟨1, trace.notes, [s.palette.failure failure.message]⟩

end OperatorSurroundings

end FleetScaling

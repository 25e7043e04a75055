import FleetScaling.Report.Basic
import FleetScaling.Site.Note

/-!
# Directories of reports

A report is written into a directory under its own name, so that a later report for the same
strategy and target takes the place of an earlier one. Reading a directory gives all its reports,
by strategy and target, and passes over files with other names.
-/

namespace FleetScaling

open Json

namespace Report

/-- Does something to the files; a failure is put into a context. -/
def changeFiles (context : String) (change : Files → Except FileError Files) :
    SiteOperation Files Unit := fun files =>
  match change files with
  | .ok files => ⟨.ok (), files, []⟩
  | .error e => ⟨.error (Failure.within context (.of (.file e))), files, []⟩

/-- What is logged about a report. -/
def entry (r : Report) : LogEntry :=
  (LogEntry.info "Scaling report"
    [("title", .text r.title), ("region", .text r.region), ("cluster", .text r.cluster),
     ("scaling_target", .integer r.target.toNat), ("start_time", .text r.startTime.text),
     ("end_time", .text r.endTime.text),
     ("scaling_target_time", .text r.targetTime.text)]).about "scaling_report"

/-- Writes a report into a directory, which is made if it is missing. -/
def store (directory : String) (r : Report) : SiteOperation Files Unit := do
  log r.entry
  changeFiles ("Failed to create report directory " ++ directory) fun files =>
    files.makeDirectory directory
  let path := Files.joinPath directory r.fileName
  changeFiles ("Failed to write report " ++ path) fun files => files.write path r.text
  log (.info "Report written" [("path", .text path)])

/-- Reads the report at a path. -/
def load (files : Files) (path : String) : Except Failure Report := do
  let text ← withContext ("Failed to read " ++ path)
    ((files.read path).mapError fun e => .of (.file e))
  decodeWithin ("Malformed report " ++ path) decoder text

/-- All reports in a directory, in order; a directory that is missing has none. -/
def loadAll (files : Files) (directory : String) : Except Failure (List Report) :=
  match files.list directory with
  | .error .notFound => .ok []
  | .error e => .error (Failure.within ("Failed to list " ++ directory) (.of (.file e)))
  | .ok names => do
    let reports ← (names.filter isFileName).mapM fun name =>
      load files (Files.joinPath directory name)
    .ok (reports.mergeSort isBefore)

end Report

end FleetScaling

import FleetScaling.Baseline.Comparison
import FleetScaling.Console.Phrase
import FleetScaling.Progress.Tracker

/-!
# Views

What an operator sees of a status, of results, of a baseline and of a comparison with one: lines of
text with tables, in the colours of a palette.
-/

namespace FleetScaling

open Console Text

/-! ## Status -/

/-- A label and a value, with the values below each other. -/
def labelled (label value : String) : String :=
  label ++ "".pushn ' ' (24 - label.length) ++ value

/-- The targets that are done. -/
def completedText (targets : List UInt32) : String :=
  if targets.isEmpty then "-" else joined ", " (targets.map toString)

/-- The lines that show a status. -/
def Status.view (palette : Palette) (s : Status) : List String :=
  [palette.styled [.bold] "Scaling Bench Status", "".pushn '=' 50,
    labelled "Phase:" (palette.state s.phase.name)] ++
  (s.target.toList.map fun target =>
    labelled "Scaling target:" (palette.styled [.cyan] (toString target))) ++
  [labelled "Completed targets:" (completedText s.completed),
    labelled "Assertion failures:"
      (palette.styled [if s.failureCount = 0 then .green else .red] (toString s.failureCount))] ++
  (s.message.toList.map (labelled "Message:")) ++
  ["", "Last updated: " ++ palette.styled [.dim] (momentText s.updatedAt.toInt)]

/-! ## Results -/

/-- The table of results. -/
def resultTable (results : List CycleResult) : Table where
  head := ["Target", "Strategy", "Compute Node", "Scale Up (EC2)", "Scale Up (Scheduler)",
    "Scale Down"]
  rows := results.map fun r => [toString r.target, r.strategy.name, r.computeNode,
    durationText r.instancesUp.toInt, durationText r.nodesUp.toInt, durationText r.down.toInt]

/-- The table of soft failures. -/
def failureTable (failures : List SoftFailure) : Table where
  head := ["Target", "Check", "Expected", "Actual"]
  rows := failures.map fun f => [toString f.target, f.check, f.expected, f.actual]

/-- The results and failures of one target, or all. -/
def RunResults.of (target : Option UInt32) (r : RunResults) : RunResults :=
  match target with
  | none => r
  | some target => ⟨r.results.filter (·.target = target), r.failures.filter (·.target = target)⟩

/-- The lines that show results. -/
def RunResults.view (palette : Palette) (r : RunResults) : List String :=
  [palette.styled [.bold] "Scaling Results"] ++ palette.tableLines (resultTable r.results) ++ [""] ++
  if r.failures.isEmpty then [palette.success "No assertion failures"]
  else palette.styled [.bold, .red] "Assertion Failures" ::
    palette.tableLines (failureTable r.failures)

/-! ## Baselines -/

/-- A number of seconds, or a hyphen. -/
def secondsText (seconds : Option Int64) : String :=
  match seconds with
  | none => "-"
  | some n => toString n ++ "s"

/-- The cells of a row of a baseline. -/
def Baseline.Row.cells (row : Baseline.Row) : List String :=
  [row.instanceType, row.target, row.strategy, secondsText (row.times.map (·.instancesUp)),
    secondsText (row.times.map (·.nodesUp)), secondsText (row.times.map (·.down))]

/-- The table of the rows of a baseline, of one instance type or all. -/
def Baseline.table (instanceType : Option String) (b : Baseline) : Table where
  head := ["Compute Node", "Target", "Strategy", "Scale Up (EC2)", "Scale Up (Scheduler)",
    "Scale Down"]
  rows := (b.rows.filter fun row => instanceType.all (· == row.instanceType)).map Row.cells

/-- The lines that show the baseline in the file at a path. -/
def Baseline.view (palette : Palette) (path : String) (instanceType : Option String)
    (b : Baseline) : List String :=
  (palette.styled [.bold] "Baseline" ++ " " ++ palette.styled [.dim] path) ::
    palette.tableLines (b.table instanceType)

/-! ## Comparisons -/

/-- The warning about a result that the baseline at a path has nothing to compare with. -/
def missingWarning (path : String) (r : CycleResult) : String :=
  missingBaselineMessage r.computeNode (toString r.target) r.strategy.name path

/-- The table of compared metrics. -/
def checkTable (palette : Palette) (rows : List CheckRow) : Table where
  head := ["Target", "Strategy", "Metric", "Observed", "Baseline", "Result"]
  rows := rows.map fun row => [toString row.target, row.strategy, row.metric, row.observed,
    row.baseline, palette.state row.verdict]

/-- How many rows did not pass. -/
def failedCount (rows : List CheckRow) : Nat := rows.countP fun row => !row.passed

/-- The lines that show a comparison with the baseline at a path. -/
def comparisonView (palette : Palette) (path : String) (rows : List CheckRow)
    (missing : List CycleResult) : List String :=
  missing.map (fun r => palette.warning (missingWarning path r)) ++
  palette.tableLines (checkTable palette rows) ++ [""] ++
  [if failedCount rows = 0 then palette.success "No regressions against the baseline"
    else palette.notice (toString (failedCount rows) ++ " of " ++ toString rows.length ++
      " checks failed")]

end FleetScaling

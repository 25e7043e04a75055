import FleetScaling.Bench.Program
import FleetScaling.Operator.Program
import FleetScaling.Rehearsal.Script

/-!
# The command line

The first word names the program: `scalectl` for the operator's program, `scaling-bench` for the
bench. Files that the other words and the settings name are read before the program is run. From
here no other machine can be reached and no program started, so the bench gets no further than to
the head node's first answer.
-/

open FleetScaling

namespace FleetScaling.CommandLine

/-! ## Files -/

/-- The content of a file. -/
def entryOf (content : ByteArray) : Entry := .file (Text.readUtf8? content.toList)

/-- The files with the one at a path, if there is one. -/
def withFile (files : Files) (path : String) : IO Files := do
  try return files.put path (entryOf (← IO.FS.readBinFile path))
  catch _ => return files

/-- The files with the one at a path, or with the files in the directory there. -/
def withPath (files : Files) (path : String) : IO Files := do
  try
    let entries ← (← IO.FS.realPath path).readDir
    entries.foldlM (fun files entry => withFile files (Files.joinPath path entry.fileName))
      (files.put path .directory)
  catch _ => withFile files path

/-- The paths that a word may name. -/
def pathsOf (word : String) : List String :=
  (word.splitOn "=").filter (!·.isEmpty)

/-- The files that words name. -/
def namedFiles (words : List String) : IO Files :=
  (words.flatMap pathsOf).foldlM withPath .empty

/-! ## Programs -/

/-- Prints how a program ends. -/
def tell (exit : Exit) : IO UInt32 := do
  exit.output.forM fun line => IO.println line
  exit.errors.forM fun line => IO.eprintln line
  return UInt32.ofNat exit.code

/-- Runs the operator's program. -/
def runOperator (words : List String) : IO UInt32 := do
  let home ← IO.getEnv "HOME"
  let files ← (home.toList.map OperatorSettings.pathBelow).foldlM withFile (← namedFiles words)
  let bare : OperatorSurroundings :=
    ⟨files, home, ← IO.getEnv "SCALECTL_API_URL", .isolated, ⟨(← IO.getEnv "NO_COLOR").isNone⟩⟩
  let settings := bare.settings.toOption.getD .empty
  let paths := settings.baselinePath.toList ++ settings.reportDirectory.toList
  tell ({ bare with files := ← paths.foldlM withPath files }.run words)

/-- The variables that settings of the bench can be in. -/
def benchVariables : List String :=
  ["CONFIG", "CLUSTER_NAME", "REGION", "OS", "COMPUTE_INSTANCE_TYPE", "HEAD_NODE_INSTANCE_TYPE",
    "SCALING_STRATEGY", "SCALING_TARGETS", "MAX_MONITORING_MINUTES", "REFILL_DELAY_SECS",
    "SAMPLE_INTERVAL_SECS", "PUBLISH_METRICS", "BASELINE_PATH", "REPORT_DIR", "API_PORT",
    "SSH__HOST", "SSH__USER", "SSH__KEY_PATH", "SMOKE__MAX_NODES"].map ("SCALING_" ++ ·)

/-- The variables that are set. -/
def setVariables (names : List String) : IO (List (String × String)) :=
  names.filterMapM fun name => do return (← IO.getEnv name).map fun value => (name, value)

/-- Runs the bench and prints its log. -/
def runBench (words : List String) : IO UInt32 := do
  let environment ← setVariables benchVariables
  let named := words ++ environment.map (·.2)
  let files ← namedFiles (named ++ named.map (· ++ ".toml") ++ named.map (· ++ ".json"))
  let uptime ← IO.monoNanosNow
  let machine : Machine Rehearsal.Script :=
    ⟨Rehearsal.programs, Rehearsal.Script.filesPart, Rehearsal.clock, fun _ => ⟨uptime⟩⟩
  let done := machine.runBench environment words { Rehearsal.Script.empty with files }
  let entries := (done.notes.filterMap RunNote.siteNote?).filterMap SiteNote.entry?
  entries.forM fun entry => IO.println entry.toValue.compact
  match done.exit with
  | some exit => tell exit
  | none => return UInt32.ofNat done.code

end FleetScaling.CommandLine

/-- Runs the program that the first word names. -/
def main : List String → IO UInt32
  | "scalectl" :: words => CommandLine.runOperator words
  | "scaling-bench" :: words => CommandLine.runBench words
  | _ => CommandLine.tell (CommandLine.Halt.usage.exit "" ""
      ("(" ++ OperatorRequest.usage ++ ") | (" ++ BenchRequest.usage ++ ")"))

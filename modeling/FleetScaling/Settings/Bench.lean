import FleetScaling.Failure
import FleetScaling.Run.Cycle
import FleetScaling.Run.Smoke
import FleetScaling.Settings.Reading
import FleetScaling.Site.Collector
import FleetScaling.Site.Ssh

/-!
# Settings of the bench

The bench is set up by a file, over which environment variables whose names begin with `SCALING_`
take precedence; two underscores in a name separate the names of tables. Only the cluster and the
host of its head node have to be given.
-/

namespace FleetScaling

open Text Time

/-- How the head node is reached. -/
structure HeadNodeSettings where
  host : String
  user : String
  keyPath : Option String
  deriving DecidableEq

/-- Everything that can be set. -/
structure BenchSettings where
  cluster : String
  region : String
  os : String
  computeNode : String
  headNode : String
  strategy : Strategy
  targets : List UInt32
  /-- The budget of each monitoring window. -/
  monitoringMinutes : UInt64
  /-- The pause between two targets. -/
  refillSeconds : UInt64
  /-- The time between two samples. -/
  sampleSeconds : UInt64
  /-- Whether samples become metrics. -/
  publish : Bool
  baselinePath : String
  reportDirectory : String
  apiPort : UInt16
  ssh : HeadNodeSettings
  smokeNodes : UInt32
  deriving DecidableEq

namespace BenchSettings

open Setting

/-! ## Reading -/

/-- Reads how the head node is reached. -/
def readSsh (s : Setting) : Reading HeadNodeSettings := do
  let members ← s.structureOf "SshSettings"
  let host ← members.read? "host" 0 toText
  let missingHost := members.require "host" "struct SshSettings with 3 elements" 0 host
  match members, host with
  | .listed _, none => let _ ← missingHost
  | _, _ => pure ()
  let user ← members.read? "user" 1 toText
  let keyPath ← members.read? "key_path" 2 toText?
  let host ← missingHost
  .ok ⟨host, user.getD "ec2-user", keyPath.getD none⟩

/-- Reads the size of the smoke test. -/
def readSmoke (s : Setting) : Reading UInt32 := do
  let members ← s.structureOf "SmokeSettings"
  let nodes ← members.read? "max_nodes" 0 toCount
  .ok (nodes.getD usualSmokeNodes)

/-- Reads all settings. What is there is judged before what is missing. -/
def read (tree : Setting) : Reading BenchSettings := do
  let members := Members.named tree.members
  let cluster ← members.read? "cluster_name" 0 toText
  let region ← members.read? "region" 1 toText
  let os ← members.read? "os" 2 toText
  let computeNode ← members.read? "compute_instance_type" 3 toText
  let headNode ← members.read? "head_node_instance_type" 4 toText
  let strategy ← members.read? "scaling_strategy" 5 toStrategy
  let targets ← members.read? "scaling_targets" 6 (Setting.toList toCount)
  let monitoringMinutes ← members.read? "max_monitoring_minutes" 7 toWord
  let refillSeconds ← members.read? "refill_delay_secs" 8 toWord
  let sampleSeconds ← members.read? "sample_interval_secs" 9 toWord
  let publish ← members.read? "publish_metrics" 10 toBool
  let baselinePath ← members.read? "baseline_path" 11 toText
  let reportDirectory ← members.read? "report_dir" 12 toText
  let apiPort ← members.read? "api_port" 13 toPort
  let ssh ← members.read? "ssh" 14 readSsh
  let smokeNodes ← members.read? "smoke" 15 readSmoke
  let cluster ← members.require "cluster_name" "" 0 cluster
  let ssh ← members.require "ssh" "" 14 ssh
  .ok {
    cluster
    region := region.getD "us-east-1"
    os := os.getD "alinux2"
    computeNode := computeNode.getD "c5.large"
    headNode := headNode.getD "c5.large"
    strategy := strategy.getD .bestEffort
    targets := targets.getD [1000, 2000, 3000, 4000]
    monitoringMinutes := monitoringMinutes.getD 20
    refillSeconds := refillSeconds.getD 300
    sampleSeconds := sampleSeconds.getD 20
    publish := publish.getD true
    baselinePath := baselinePath.getD "baseline/scaling.json"
    reportDirectory := reportDirectory.getD "reports"
    apiPort := apiPort.getD 8080
    ssh
    smokeNodes := smokeNodes.getD usualSmokeNodes }

/-- The rules that settings of the right kind must keep. -/
def check (s : BenchSettings) : Except Failure Unit :=
  if s.targets.isEmpty then
    .error (.other "scaling_targets must list at least one cluster size")
  else if s.sampleSeconds = 0 then .error (.other "sample_interval_secs must be positive")
  else .ok ()

/-- The settings of a tree, if they keep the rules. -/
def ofTree (tree : Setting) : Except Failure BenchSettings := do
  let settings ← withContext "Invalid bench configuration"
    ((read tree).mapError fun e => .other e.message)
  settings.check
  .ok settings

/-! ## Sources -/

/-- The formats of files, by the ends of their names. -/
def formats : List (String × (String → String → Option (List (String × Setting)))) :=
  [("toml", tomlEntries?), ("json", jsonEntries?), ("yaml", yamlEntries?), ("yml", yamlEntries?)]

/-- Whether a file is at a path. -/
def isFile (files : Files) (path : String) : Bool := (files.read path).toBool ||
  (match files.read path with
    | .error .notText => true
    | _ => false)

/-- The end of a file's name after its last point, unless the name begins with it. -/
def extension? (path : String) : Option String :=
  let name := ((pieces (· == '/') path.toList).getLast?).getD []
  let parts := pieces (· == '.') name
  if parts.length > 1 && parts.dropLast ≠ [[]] then parts.getLast?.map String.ofList else none

/-- The path of a settings file with the name of its format: as it is given, or with the name of a
format added to it. -/
def findFile (files : Files) (path : String) : Except Failure (String × String) :=
  if isFile files path then
    match extension? path with
    | some format => .ok (path, format)
    | none => .error (.of .unreadableSettings)
  else match (formats.map (·.1)).find? fun format => isFile files (path ++ "." ++ format) with
    | some format => .ok (path ++ "." ++ format, format)
    | none => .error <| Failure.within "Failed to read bench configuration" <|
        .other ("configuration file \"" ++ path ++ "\" not found")

/-- A path in messages, without the names that lead nowhere. -/
def shownPath (path : String) : String :=
  joined "/" ((Files.namesOf path).filter (· ≠ "."))

/-- The entries of a settings file. -/
def fileEntries (files : Files) (path : String) : Except Failure (List (String × Setting)) := do
  let (path, format) ← findFile files path
  let unreadable : Failure := .of .unreadableSettings
  let read ← (formats.lookup format).elim (.error unreadable) .ok
  let text ← (files.read path).mapError fun _ => unreadable
  (read (shownPath path) text).elim (.error unreadable) .ok

/-- The settings of a file, if one is given, and of environment variables. -/
def load (files : Files) (path : Option String) (environment : List (String × String)) :
    Except Failure BenchSettings := do
  let fromFile ← match path with
    | none => .ok []
    | some path => fileEntries files path
  ofTree (Setting.ofEntries
    (fromFile ++ environmentEntries "scaling_" "scaling_targets" environment))

/-! ## Use -/

/-- The budget of each monitoring window; its seconds have to fit into a word. -/
def budget (s : BenchSettings) : Except Panic Duration :=
  (checkedMul s.monitoringMinutes 60).map fun seconds => .ofSeconds seconds.toNat

/-- The time between two samples, if it is positive. -/
def interval? (s : BenchSettings) : Option Interval :=
  if h : 0 < s.sampleSeconds.toNat then some (.ofSeconds s.sampleSeconds.toNat h) else none

/-- What does not change during a run, with the budget of its windows. -/
def contextWith (s : BenchSettings) (budget : Duration) : RunContext where
  region := s.region
  os := s.os
  computeNode := s.computeNode
  headNode := s.headNode
  strategy := s.strategy
  budget
  baselinePath := s.baselinePath
  refillDelay := .ofSeconds s.refillSeconds.toNat
  targets := s.targets
  publish := s.publish

/-- What does not change during a run. -/
def context (s : BenchSettings) : Except Panic RunContext := s.budget.map s.contextWith

/-- How the head node is reached. -/
def sshSettings (s : BenchSettings) : SshSettings :=
  .standard s.ssh.host s.ssh.user s.ssh.keyPath

end BenchSettings

end FleetScaling

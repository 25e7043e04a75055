import FleetScaling.Decimal.Layout
import FleetScaling.Metrics.Basic
import FleetScaling.Text.Blank

/-!
# The text of metrics

Metrics are published as text: families by name, in each family its series by the values of their
labels, and in each series its labels by name. A family without series is left out.
-/

namespace FleetScaling

open Text Decimal

/-- One line of a family: a suffix of its name, labels and a value. -/
structure MetricLine where
  suffix : String
  labels : List (String × String)
  value : String

/-- The kinds of families. -/
inductive FamilyKind
  | gauge
  | histogram
  deriving DecidableEq, Repr

/-- The name of a kind. -/
def FamilyKind.name : FamilyKind → String
  | gauge => "gauge"
  | histogram => "histogram"

/-- Metrics of one name. -/
structure Family where
  name : String
  help : String
  kind : FamilyKind
  lines : List MetricLine

/-- One character of a label's value; backslashes, quotes and line feeds are escaped. -/
def labelChar (c : Char) : String :=
  match c with
  | '\\' => "\\\\"
  | '"' => "\\\""
  | '\n' => "\\n"
  | c => c.toString

/-- A label with its value. -/
def labelText (label : String × String) : String :=
  label.1 ++ "=\"" ++ String.join (label.2.toList.map labelChar) ++ "\""

/-- A line of a family. -/
def MetricLine.text (family : String) (line : MetricLine) : String :=
  let labels := if line.labels.isEmpty then ""
    else "\x7b" ++ joined "," (line.labels.map labelText) ++ "\x7d"
  family ++ line.suffix ++ labels ++ " " ++ line.value ++ "\n"

/-- A family with its heading. -/
def Family.text (f : Family) : String :=
  if f.lines.isEmpty then ""
  else "# HELP " ++ f.name ++ " " ++ f.help ++ "\n# TYPE " ++ f.name ++ " " ++ f.kind.name ++
    "\n" ++ String.join (f.lines.map (MetricLine.text f.name))

/-- A number as a value. -/
def metricValue (x : Float) : String := Layout.plain.write x

/-! ## Histograms -/

/-- The upper bounds of the classes of durations, in seconds. -/
def durationBounds : List Nat := [30, 60, 120, 180, 240, 300, 420, 600, 900, 1200, 1800]

/-- The lines of a histogram of durations of one phase. -/
def histogramLines (phase : String) (durations : List Int64) : List MetricLine :=
  let label := ("phase", phase)
  let atMost (bound : Nat) := durations.countP fun d => decide (d.toInt ≤ (bound : Int))
  let bucket (bound : String) (count : Nat) : MetricLine :=
    ⟨"_bucket", [label, ("le", bound)], toString count⟩
  durationBounds.map (fun bound => bucket (toString bound) (atMost bound)) ++
    [bucket "+Inf" durations.length,
     ⟨"_sum", [label], metricValue (durations.foldl (fun sum d => sum + Float.ofInt d.toInt) (Float.ofNat 0))⟩,
     ⟨"_count", [label], toString durations.length⟩]

namespace Metrics

/-- Entries in ascending order of their keys. -/
def sorted (entries : List (String × α)) : List (String × α) :=
  entries.mergeSort fun a b => decide (a.1 ≤ b.1)

/-- A gauge of every cluster. -/
def clusterFamily (m : Metrics) (name help : String) (value : ClusterGauges → UInt32) : Family :=
  ⟨name, help, .gauge, (sorted m.clusters).map fun (cluster, gauges) =>
    ⟨"", [("cluster", cluster)], toString (value gauges)⟩⟩

/-- A gauge without labels. -/
def plainFamily (name help : String) (value : Nat) : Family :=
  ⟨name, help, .gauge, [⟨"", [], metricValue (Float.ofInt (Int64.ofNat value).toInt)⟩]⟩

/-- What is being run, as labels. -/
def runFamily (m : Metrics) : Family :=
  ⟨"scaling_bench_run_info", "Information about the current benchmark run", .gauge,
    match m.run with
    | none => []
    | some run => [⟨"", [("compute_node", run.computeNode), ("region", run.region),
        ("scaling_strategy", run.strategy)], "1"⟩]⟩

/-- All families, by name. -/
def families (m : Metrics) : List Family :=
  [plainFamily "scaling_bench_assertion_failures"
      "Soft assertion failures accumulated in the current run" m.softFailures,
    m.clusterFamily "scaling_bench_compute_nodes"
      "Compute nodes joined to the scheduler at the last sample" ClusterGauges.nodes,
    m.clusterFamily "scaling_bench_ec2_capacity"
      "EC2 instances launched for the compute fleet at the last sample" ClusterGauges.instances,
    plainFamily "scaling_bench_probe_errors_total" "Total number of failed cluster samples"
      m.probeErrors,
    m.runFamily,
    ⟨"scaling_bench_scaling_duration_seconds", "Observed time to reach a scaling target",
      .histogram, (sorted m.durations).flatMap fun (phase, durations) =>
        histogramLines phase durations⟩,
    m.clusterFamily "scaling_bench_target_cluster_size"
      "Cluster size the current monitoring window waits for" ClusterGauges.target]

/-- The text of all metrics. -/
def text (m : Metrics) : String := String.join (m.families.map Family.text)

end Metrics

end FleetScaling

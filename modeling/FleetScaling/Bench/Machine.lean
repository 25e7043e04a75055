import FleetScaling.Report.Directory
import FleetScaling.Run.Note
import FleetScaling.Settings.Bench
import FleetScaling.Site.Fleet
import FleetScaling.Site.Probe
import FleetScaling.Site.Scheduler

/-!
# The machine of the bench

The machine that the bench runs on offers programs, files and a clock. With settings it makes a
site: the head node is reached through `ssh`, the scheduler is Slurm on the head node, the fleet
and the instances are asked about with the programs of AWS, and reports become files.
-/

namespace FleetScaling

open Time

/-- What the machine of the bench offers. -/
structure Machine (ω : Type) where
  programs : Programs ω
  files : Part ω Files
  clock : SiteOperation ω Instant
  /-- How long the machine has been up. -/
  uptime : ω → Duration

namespace Machine

/-- Reads a file. -/
def readFile (m : Machine ω) (path : String) : SiteOperation ω (Except FileError String) :=
  Operation.change fun world => ((m.files.get world).read path, world)

end Machine

namespace BenchSettings

/-- The head node. -/
def headNodeOn (s : BenchSettings) (m : Machine ω) : HeadNode ω := s.sshSettings.headNode m.programs

/-- The scheduler. -/
def schedulerOn (s : BenchSettings) (m : Machine ω) : Scheduler ω :=
  (Slurm.ofHeadNode (s.headNodeOn m)).scheduler

/-- The collector, which reports its health. -/
def samplerOn (s : BenchSettings) (m : Machine ω) : Except Failure (Sampler ω) :=
  Sampler.build? (some (parallelClusterProbe m.programs (s.headNodeOn m))) m.clock m.uptime
    (s.interval?.getD Sampler.usualInterval) true

/-- The site of a run, with its collector. -/
def siteOn (s : BenchSettings) (m : Machine ω) (sampler : Sampler ω) : Site ω where
  headNode := s.headNodeOn m
  scheduler := s.schedulerOn m
  fleet := (ParallelCluster.ofPrograms s.cluster s.region m.programs).fleet
  collector := sampler.collector
  report r := (r.store s.reportDirectory).onPart m.files
  clock := m.clock
  readFile := m.readFile

end BenchSettings

end FleetScaling

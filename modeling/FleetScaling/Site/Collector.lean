import FleetScaling.Scaling.Series
import FleetScaling.Site.Probe

/-!
# Collecting series

A collector samples a cluster through a monitoring window: until both counts equal the target, or
until the time of the window is used up, which is no failure. `Sampler.collect` samples at a fixed
interval, once it has set a deadline; if that is too late for the clock, the program panics. A sample
that cannot be taken is passed over; a run of such samples degrades the collector component until the
next good one.
-/

namespace FleetScaling

open Json Time

/-- One monitoring window. -/
structure Window where
  budget : Duration
  region : String
  cluster : String
  /-- Whether every sample becomes a metric. -/
  publish : Bool
  /-- The size at which the window ends early. -/
  target : UInt32
  deriving DecidableEq

/-- Something that samples a cluster through a window. -/
structure Collector (ω : Type) where
  collect (window : Window) : SiteOperation ω Series

/-- A collector that samples at a fixed interval. -/
structure Sampler (ω : Type) where
  probe : Probe ω
  clock : SiteOperation ω Instant
  /-- How long the machine has been up. -/
  uptime : ω → Duration
  interval : Interval
  /-- How many failed samples in a row degrade the collector. -/
  degradedAfter : Nat
  /-- Whether the health of the collector is reported. -/
  reportsHealth : Bool

namespace Sampler

/-- The usual interval between samples. -/
def usualInterval : Interval := .ofSeconds 20

/-- How many failed samples in a row usually degrade the collector. -/
def usualPatience : Nat := 3

/-- A sampler with the usual settings that reports its health; it needs a probe. -/
def build? (probe : Option (Probe ω)) (clock : SiteOperation ω Instant) (uptime : ω → Duration)
    (interval : Interval) (reportsHealth : Bool) : Except Failure (Sampler ω) :=
  match probe with
  | none => .error (.other "Probe is required")
  | some probe => .ok ⟨probe, clock, uptime, interval, usualPatience, reportsHealth⟩

/-- Judges the collector. -/
def judge (s : Sampler ω) (health : Health) (detail : Option String) : SiteOperation ω Unit := do
  if s.reportsHealth then Operation.note (.judged .collector health detail)

/-- Takes one sample; its time is when both counts are in. -/
def sample (s : Sampler ω) (window : Window) : SiteOperation ω Sample := do
  let instances ← s.probe.instances window.region window.cluster
  let nodes ← s.probe.nodes
  let now ← s.clock
  pure ⟨instances, nodes, now.toEpoch⟩

/-- What has happened in a window so far. -/
structure Progress where
  samples : List Sample
  errors : Nat
  /-- How many samples have failed since the last good one. -/
  streak : Nat

/-- Deals with a good sample. -/
def keep (s : Sampler ω) (window : Window) (p : Progress) (sample : Sample) :
    SiteOperation ω Progress := do
  if s.degradedAfter ≤ p.streak then s.judge .healthy none
  if window.publish then
    measure (.sample window.cluster sample.instances sample.nodes window.target)
  Operation.note (.sampled (some sample))
  pure ⟨p.samples ++ [sample], p.errors, 0⟩

/-- Deals with a sample that could not be taken. -/
def miss (s : Sampler ω) (window : Window) (p : Progress) (failure : Failure) :
    SiteOperation ω Progress := do
  let streak := p.streak + 1
  measure .probeError
  log (.warning "Failed to sample cluster"
    [("cluster", .text window.cluster), ("error", .text failure.summary)])
  if streak = s.degradedAfter then
    s.judge .degraded
      (some (toString streak ++ " consecutive samples failed: " ++ failure.message))
  Operation.note (.sampled none)
  pure ⟨p.samples, p.errors + 1, streak⟩

/-- Takes one sample and deals with it; says whether it ends the window. -/
def step (s : Sampler ω) (window : Window) (p : Progress) : SiteOperation ω (Progress × Bool) := do
  match ← (s.sample window).attempt with
  | .ok sample =>
    let next ← s.keep window p sample
    pure (next, sample.instances = window.target && sample.nodes = window.target)
  | .error failure =>
    let next ← s.miss window p failure
    pure (next, false)

/-- What is logged when a window begins. -/
def openedEntry (window : Window) : LogEntry :=
  .info "Monitoring cluster size"
    [("cluster", .text window.cluster), ("target_cluster_size", .integer window.target.toNat),
     ("max_monitoring_secs", .integer window.budget.seconds)]

/-- What is logged when a window ends at the target. -/
def reachedEntry (window : Window) (p : Progress) : LogEntry :=
  .info "Cluster reached target size"
    [("cluster", .text window.cluster), ("target_cluster_size", .integer window.target.toNat),
     ("samples", .integer p.samples.length)]

/-- What is logged when the time of a window is used up. -/
def closedEntry (window : Window) (p : Progress) : LogEntry :=
  .warning "Monitoring window closed before the cluster reached target size"
    [("cluster", .text window.cluster), ("target_cluster_size", .integer window.target.toNat),
     ("samples", .integer p.samples.length), ("errors", .integer p.errors)]

/-- Samples until the target is reached or the budget is used up, and gives all good samples. The
deadline of the window has come exactly when its budget is used up. -/
def sampleFrom (s : Sampler ω) (window : Window) (p : Progress) (elapsed : Duration) :
    SiteOperation ω (List Sample) := do
  let (p, reached) ← s.step window p
  if reached then
    log (reachedEntry window p)
    pure p.samples
  else if window.budget ≤ elapsed then
    log (closedEntry window p)
    pure p.samples
  else
    let wait := s.interval.length.shorter (window.budget - elapsed)
    pause wait
    s.sampleFrom window p (elapsed + wait)
  termination_by window.budget.nanos - elapsed.nanos
  decreasing_by
    have := s.interval.pos
    have : ¬ window.budget.nanos ≤ elapsed.nanos := by assumption
    show window.budget.nanos - (elapsed.nanos +
      (s.interval.length.shorter (window.budget - elapsed)).nanos) <
        window.budget.nanos - elapsed.nanos
    unfold Duration.shorter
    split
    · omega
    · show window.budget.nanos - (elapsed.nanos + (window.budget.nanos - elapsed.nanos)) < _
      omega

/-- Samples a cluster through a window and gives the series. -/
def sampleThrough (s : Sampler ω) (window : Window) : SiteOperation ω Series := do
  let samples ← s.sampleFrom window ⟨[], 0, 0⟩ .zero
  let now ← s.clock
  pure (Series.ofSamples samples now)

/-- Sets the deadline of a window and samples the cluster through it. -/
def collect (s : Sampler ω) (window : Window) : SiteOperation ω Series := do
  log (openedEntry window)
  let uptime ← Operation.change fun world => (s.uptime world, world)
  let _ ← orPanic (uptime.deadline window.budget)
  s.sampleThrough window

/-- The sampler as a collector. -/
def collector (s : Sampler ω) : Collector ω := ⟨s.collect⟩

end Sampler

end FleetScaling

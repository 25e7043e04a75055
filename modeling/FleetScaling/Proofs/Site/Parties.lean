import FleetScaling.Bench.Machine
import FleetScaling.Proofs.Traces

/-!
# Parties and their programs

The parties of the bench do all their work with programs that they start. A property of operations that
is `Closed` under the ways in which parties put these together holds of all that they do, once it
holds of the programs (`siteOn_has`).
-/

namespace FleetScaling

open Time

variable {ω α β : Type}

/-- A property that an operation has if its parts have it; what only notes something has it, unless that
is a metric. -/
structure Closed (P : ∀ α : Type, SiteOperation ω α → Prop) : Prop where
  result : ∀ {α : Type} (o : Except Failure α), P α (.ofExcept o)
  note : ∀ n : SiteNote, (∀ update, n ≠ .measured update) → P Unit (.note n)
  bind : ∀ {α β : Type} {x : SiteOperation ω α} {f : α → SiteOperation ω β},
    P α x → (∀ a, P β (f a)) → P β (x >>= f)
  within : ∀ {α : Type} {x : SiteOperation ω α} (context : String),
    P α x → P α (x.within context)

/-- All that is asked of the head node has a property. -/
structure HeadNode.Has (P : ∀ α : Type, SiteOperation ω α → Prop) (headNode : HeadNode ω) :
    Prop where
  run : ∀ command, P CommandResult (headNode.run command)
  reset : P Unit headNode.reset

/-- All that is asked of the head node, the fleet and the scheduler has a property. -/
structure Site.Has (P : ∀ α : Type, SiteOperation ω α → Prop) (site : Site ω) : Prop where
  headNode : site.headNode.Has P
  start : P Unit (site.fleet.start true)
  stop : P Unit site.fleet.stop
  submit : ∀ job, P String (site.scheduler.submit job)
  cancel : ∀ id, P Unit (site.scheduler.cancel id)

section Parties

variable {P : ∀ α : Type, SiteOperation ω α → Prop} (closed : Closed P)

include closed

theorem Closed.pure (a : α) : P α (pure a) := closed.result (.ok a)

theorem Closed.fail (failure : Failure) : P α (.fail failure) := closed.result (.error failure)

/-- By induction on what is left of the time. -/
theorem Closed.lookUntil {interval : Interval} {limit : Duration}
    {look : SiteOperation ω (Except β α)} {late : Duration → β → SiteOperation ω α}
    (hlook : P _ look) (hlate : ∀ elapsed seen, P α (late elapsed seen)) (elapsed : Duration) :
    P α (lookUntil interval limit look late elapsed) := by
  induction h : limit.nanos - elapsed.nanos using Nat.strongRecOn generalizing elapsed with
  | ind left ih =>
    unfold FleetScaling.lookUntil
    refine closed.bind hlook fun answer => ?_
    cases answer with
    | ok answer => exact closed.pure answer
    | error seen =>
      dsimp only
      split
      · exact hlate elapsed seen
      · rename_i hopen
        refine closed.bind (closed.note _ nofun) fun _ => ih _ ?_ _ rfl
        have hinterval := interval.pos
        have hopen : ¬ limit.nanos ≤ elapsed.nanos := hopen
        show limit.nanos - (elapsed.nanos + interval.length.nanos) < left
        omega

/-! ## Programs and the head node -/

section Programs

variable {programs : Programs ω}
  (started : ∀ program arguments, P _ (programs.start program arguments))

include started

theorem Closed.runOr (failing program : String) (arguments : List String) :
    P _ (programs.runOr failing program arguments) := by
  refine closed.bind (started program arguments) fun completion => ?_
  cases completion with
  | ok completion => exact closed.pure _
  | error e => exact closed.fail _

theorem Closed.runChecked (program : String) (arguments : List String) :
    P _ (programs.runChecked program arguments) :=
  closed.bind (closed.runOr started _ program arguments) fun _ => closed.result _

theorem SshSettings.headNode_has (s : SshSettings) : (s.headNode programs).Has P where
  run command := by
    show P _ (s.runAttempt programs command (s.attempts - 1) 1)
    generalize s.attempts - 1 = left
    generalize 1 = attempt
    induction left generalizing attempt with
    | zero => exact closed.runOr started _ _ _
    | succ left ih =>
      refine closed.bind (closed.runOr started _ _ _) fun result => ?_
      split
      · exact closed.pure result
      · refine closed.bind (closed.note _ nofun) fun _ => ?_
        exact closed.bind (closed.note _ nofun) fun _ => ih _
  reset := closed.bind (closed.runOr started _ _ _) fun _ => closed.pure ()

end Programs

theorem HeadNode.Has.runChecked {headNode : HeadNode ω} (h : headNode.Has P) (command : String) :
    P _ (headNode.runChecked command) :=
  closed.bind (h.run command) fun _ => closed.result _

theorem HeadNode.Has.disableProtectedMode {headNode : HeadNode ω} (h : headNode.Has P) :
    P Unit (FleetScaling.disableProtectedMode headNode) :=
  closed.bind (closed.within _ (h.runChecked closed _)) fun _ => closed.note _ nofun

/-! ## The other parties -/

theorem Slurm.submit_has {s : Slurm ω} (h : s.headNode.Has P) (job : Job) :
    P String (s.submit job) := by
  refine closed.bind (h.run job.commandLine) fun result => closed.bind (closed.result _) fun id => ?_
  exact closed.bind (closed.note _ nofun) fun _ => closed.pure id

theorem Slurm.cancel_has {s : Slurm ω} (h : s.headNode.Has P) (id : String) :
    P Unit (s.cancel id) :=
  closed.bind (closed.within _ (h.runChecked closed _)) fun _ => closed.note _ nofun

section Cluster

variable {c : ParallelCluster ω}
  (started : ∀ program arguments, P _ (c.programs.start program arguments))

include started

theorem ParallelCluster.request_has (status : String) : P Unit (c.request status) :=
  closed.bind (closed.within _ (closed.runChecked started _ _)) fun _ => closed.pure ()

theorem ParallelCluster.start_has (waitRunning : Bool) : P Unit (c.start waitRunning) := by
  have running : P _ c.isRunning := by
    refine closed.bind ?_ fun _ => closed.pure _
    exact closed.bind (closed.runChecked started _ _) fun _ => closed.result _
  refine closed.bind (request_has closed started _) fun _ => ?_
  refine closed.bind (closed.note _ nofun) fun _ => ?_
  split
  · refine closed.bind (closed.lookUntil running (fun _ _ => closed.fail _) _) fun _ => ?_
    exact closed.note _ nofun
  · exact closed.pure ()

theorem ParallelCluster.stop_has : P Unit c.stop :=
  closed.bind (request_has closed started _) fun _ => closed.note _ nofun

end Cluster

theorem parallelClusterProbe_has {programs : Programs ω} {headNode : HeadNode ω}
    (started : ∀ program arguments, P _ (programs.start program arguments))
    (h : headNode.Has P) :
    (∀ region cluster, P UInt32 ((parallelClusterProbe programs headNode).instances region cluster)) ∧
      P UInt32 (parallelClusterProbe programs headNode).nodes := by
  refine ⟨fun region cluster => ?_, closed.bind (h.runChecked closed _) fun _ => closed.pure _⟩
  refine closed.bind (closed.runChecked started _ _) fun _ => ?_
  exact closed.bind (closed.result _) fun _ => closed.pure _

/-- **The site of the bench.** What holds of the programs that its machine starts holds of all that is
asked of its parties. -/
theorem siteOn_has (s : BenchSettings) (m : Machine ω) (sampler : Sampler ω)
    (started : ∀ program arguments, P _ (m.programs.start program arguments)) :
    (s.siteOn m sampler).Has P where
  headNode := s.sshSettings.headNode_has closed started
  start := ParallelCluster.start_has closed started _
  stop := ParallelCluster.stop_has closed started
  submit := Slurm.submit_has closed (s.sshSettings.headNode_has closed started)
  cancel := Slurm.cancel_has closed (s.sshSettings.headNode_has closed started)

end Parties

end FleetScaling

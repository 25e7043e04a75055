import FleetScaling.Proofs.Collector.Course
import FleetScaling.Proofs.Metrics.Series
import FleetScaling.Proofs.Run.Progress
import FleetScaling.Proofs.Run.Protocol
import FleetScaling.Proofs.Site.Parties

/-!
# Samples of a run

The samples of a run are those that its collector takes in one window after another, each window in
the world in which it begins (`Sampler.samplesOf`). If only the collector and the run itself change
the metrics, the run counts exactly these samples (`stressTest_counted`): every failed one, and every
good one of a window that publishes. Whatever else changes the metrics then comes from the run
itself (`ownMetrics`).
-/

namespace FleetScaling

open Time

variable {ω α β : Type}

/-! ## Updates among notes -/

/-- The update of the metrics that a note is, if it is one. -/
def SiteNote.metric? : SiteNote → Option MetricUpdate
  | measured update => some update
  | _ => none

/-- The update of the metrics that a note is, if it is one. -/
def RunNote.metric? (n : RunNote) : Option MetricUpdate := n.siteNote?.bind SiteNote.metric?

/-- The updates of the metrics among some notes. -/
def metricsOf (notes : List RunNote) : List MetricUpdate := notes.filterMap RunNote.metric?

theorem metricsOf_append (a b : List RunNote) :
    metricsOf (a ++ b) = metricsOf a ++ metricsOf b := by
  unfold metricsOf
  rw [List.filterMap_append]

theorem metricsOf_party (notes : List SiteNote) :
    metricsOf (notes.map RunNote.party) = notes.filterMap SiteNote.metric? := by
  unfold metricsOf
  rw [List.filterMap_map]
  rfl

/-- The updates that the run itself made. -/
def ownMetrics (notes : List RunNote) : List MetricUpdate :=
  (ownNotes notes).filterMap SiteNote.metric?

theorem ownMetrics_append (a b : List RunNote) :
    ownMetrics (a ++ b) = ownMetrics a ++ ownMetrics b := by
  unfold ownMetrics
  rw [ownNotes_append, List.filterMap_append]

theorem ownMetrics_party (notes : List SiteNote) : ownMetrics (notes.map RunNote.party) = [] := by
  have none : ownNotes (notes.map RunNote.party) = [] := by
    unfold ownNotes
    rw [List.filterMap_map]
    exact List.filterMap_eq_nil_iff.mpr fun _ _ => rfl
  unfold ownMetrics
  rw [none]
  rfl

theorem ownMetrics_own {ι : Type} (f : ι → SiteNote) (l : List ι) :
    ownMetrics (l.map fun i => .own (f i)) = l.filterMap fun i => (f i).metric? := by
  unfold ownMetrics ownNotes
  rw [List.filterMap_map, List.filterMap_filterMap]
  rfl

/-- Whatever the world, the operation does not change the metrics. -/
def Unmetered (x : SiteOperation ω α) : Prop := x.Notes fun n => n.metric? = none

theorem Unmetered.metrics {x : SiteOperation ω α} (h : Unmetered x) (world : ω) :
    (x world).notes.filterMap SiteNote.metric? = [] :=
  List.filterMap_eq_nil_iff.2 (h world)

/-- Whether the update is about a sample. -/
def MetricUpdate.isSampling : MetricUpdate → Bool
  | sample .. => true
  | probeError => true
  | _ => false

/-! ## Samples of a window -/

/-- The updates that a sample leads to. -/
def Window.updates (window : Window) : Option Sample → List MetricUpdate
  | none => [.probeError]
  | some sample =>
    if window.publish then
      [.sample window.cluster sample.instances sample.nodes window.target]
    else []

namespace Sampler

/-- The last of the samples of a window that begins in a world. -/
noncomputable def last (s : Sampler ω) (window : Window) (world : ω) : Nat :=
  (s.exists_last window .zero world).choose

theorem last_isLeast (s : Sampler ω) (window : Window) (world : ω) :
    IsLeast (s.endings window .zero world) (s.last window world) :=
  (s.exists_last window .zero world).choose_spec

/-- The samples of a window that begins in a world; without a deadline there are none. -/
noncomputable def samples (s : Sampler ω) (window : Window) (world : ω) : List (Option Sample) :=
  if s.HasDeadline window world then
    (List.range (s.last window world + 1)).map (s.good? window world)
  else []

/-- The metrics are not changed by taking samples. -/
structure Unmetered (s : Sampler ω) : Prop where
  instances : ∀ region cluster, FleetScaling.Unmetered (s.probe.instances region cluster)
  nodes : FleetScaling.Unmetered s.probe.nodes
  clock : FleetScaling.Unmetered s.clock

section Unmetered

variable {s : Sampler ω} {window : Window} {world : ω} {elapsed : Duration} {k : Nat}

theorem Unmetered.sample (h : s.Unmetered) (window : Window) :
    FleetScaling.Unmetered (s.sample window) := by
  unfold Sampler.sample
  refine (h.instances _ _).bind fun _ => h.nodes.bind fun _ => h.clock.bind fun _ => ?_
  exact .of_nil fun _ => rfl

theorem metrics_keepNotes (s : Sampler ω) (window : Window) (streak : Nat) (sample : Sample) :
    (s.keepNotes window streak sample).filterMap SiteNote.metric? =
      window.updates (some sample) := by
  unfold keepNotes Window.updates
  split <;> split <;> rfl

theorem metrics_missNotes (s : Sampler ω) (window : Window) (streak : Nat) (failure : Failure) :
    (s.missNotes window streak failure).filterMap SiteNote.metric? = window.updates none := by
  unfold missNotes
  split <;> rfl

/-- A step counts its sample. -/
theorem metrics_step (h : s.Unmetered) (p : Progress) (world : ω) :
    (s.step window p world).notes.filterMap SiteNote.metric? =
      window.updates (s.good? window world 0) := by
  have hquiet := (h.sample window).metrics world
  rcases hs : (s.sample window world).outcome with failure | sample
  · have hgood : s.good? window world 0 = none := congrArg Except.toOption hs
    rw [step_of_error hs, List.filterMap_append, hquiet, metrics_missNotes, hgood]
    rfl
  · have hgood : s.good? window world 0 = some sample := congrArg Except.toOption hs
    rw [step_of_ok hs, List.filterMap_append, hquiet, metrics_keepNotes, hgood]
    rfl

/-- The rest of a window counts the samples that are left, by induction over them. -/
theorem metrics_sampleFrom (h : s.Unmetered) (p : Progress)
    (hlast : IsLeast (s.endings window elapsed world) k) :
    (s.sampleFrom window p elapsed world).notes.filterMap SiteNote.metric? =
      (List.range (k + 1)).flatMap fun i => window.updates (s.good? window world i) := by
  induction k generalizing p elapsed world with
  | zero =>
    obtain ⟨next, reached, front, hs, -, hr, -⟩ := step_look s window p world
    have hstep : (s.step window p world).outcome = .ok (next, reached) := by rw [hs]
    have counted (entry : LogEntry) :
        ((s.step window p world).notes ++ [SiteNote.logged entry]).filterMap SiteNote.metric? =
          (List.range 1).flatMap fun i => window.updates (s.good? window world i) := by
      rw [List.filterMap_append, metrics_step h, List.range_one, List.flatMap_singleton]
      exact List.append_nil _
    cases reached with
    | true =>
      rw [sampleFrom_of_reached hstep]
      exact counted _
    | false =>
      have hb : window.budget ≤ elapsed := by
        rcases hlast.1 with hreached | hb
        · exact absurd (hr.2 hreached) Bool.false_ne_true
        · rwa [Nat.zero_mul] at hb
      rw [sampleFrom_of_closed hstep hb]
      exact counted _
  | succ k ih =>
    obtain ⟨hopen, early, hlater⟩ := last_of_succ hlast
    obtain ⟨next, reached, front, hs, -, hr, -⟩ := step_look s window p world
    obtain rfl : reached = false := Bool.eq_false_iff.2 fun h' => hopen (hr.1 h')
    have hstep : (s.step window p world).outcome = .ok (next, false) := by rw [hs]
    have hworld : (s.step window p world).world = (s.sample window world).world := by rw [hs]
    rw [sampleFrom_of_open hstep early, List.range_succ_eq_map, List.flatMap_cons, List.flatMap_map]
    show ((s.step window p world).notes ++ SiteNote.waited _ :: _).filterMap SiteNote.metric? = _
    rw [List.filterMap_append, metrics_step h, List.filterMap_cons_none rfl, hworld, ih next hlater]
    rfl

/-- A window counts its samples. -/
theorem metrics_collect (h : s.Unmetered) (window : Window) (world : ω) :
    (s.collect window world).notes.filterMap SiteNote.metric? =
      (s.samples window world).flatMap window.updates := by
  unfold samples
  by_cases told : s.HasDeadline window world
  · have hlast := s.last_isLeast window world
    rw [if_pos told, collect_course told hlast, List.filterMap_cons_none rfl,
      List.filterMap_append, metrics_sampleFrom h _ hlast, h.clock.metrics, List.append_nil,
      List.flatMap_map]
  · rw [if_neg told, collect_of_no_deadline told]
    rfl

end Unmetered

end Sampler

/-! ## Samples of a conversation -/

/-- The world that an exchange leaves. -/
def Exchange.after (site : Site ω) : Exchange → ω → ω
  | unprotected _, world => (disableProtectedMode site.headNode world).world
  | reset _, world => (site.headNode.reset world).world
  | started _, world => (site.fleet.start true world).world
  | submitted job _, world => (site.scheduler.submit job world).world
  | clockRead _, world => (site.clock world).world
  | collected window _, world => (site.collector.collect window world).world
  | cancelled id _, world => (site.scheduler.cancel id world).world
  | stopped _, world => (site.fleet.stop world).world
  | reported r _, world => (site.report r world).world
  | fileRead path _, world => (site.readFile path world).world

theorem Exchange.TakesPlace.after_eq {site : Site ω} {e : Exchange} {before after : ω}
    (h : e.TakesPlace site before after) : e.after site before = after := by
  cases e <;> exact h.2

namespace Sampler

/-- The samples that are taken in an exchange, with their window. -/
noncomputable def samplesIn (s : Sampler ω) (world : ω) : Exchange → List (Window × Option Sample)
  | .collected window _ => (s.samples window world).map (window, ·)
  | _ => []

/-- The samples that are taken in a conversation with a site, with their windows. -/
noncomputable def samplesOf (s : Sampler ω) (site : Site ω) :
    ω → List Exchange → List (Window × Option Sample)
  | _, [] => []
  | world, e :: es => s.samplesIn world e ++ s.samplesOf site (e.after site world) es

theorem samplesOf_append {s : Sampler ω} {site : Site ω} {es es' : List Exchange}
    {before between : ω} (h : Conversation site before es between) :
    s.samplesOf site before (es ++ es') =
      s.samplesOf site before es ++ s.samplesOf site between es' := by
  induction es generalizing before with
  | nil => rw [show between = before from h]; rfl
  | cons e es ih =>
    obtain ⟨next, he, hes⟩ := h
    rw [List.cons_append, samplesOf, samplesOf, he.after_eq, ih hes, List.append_assoc]

end Sampler

/-! ## Counting -/

theorem unmetered_closed : Closed fun α (x : SiteOperation ω α) => Unmetered x where
  result o := .of_nil fun _ => rfl
  note n h := .note <| by
    cases n with
    | measured update => exact absurd rfl (h update)
    | _ => rfl
  bind := .bind
  within context h := h

/-- Of the parties of a site only the collector changes the metrics. -/
structure Site.Unmetered (site : Site ω) : Prop where
  parties : site.Has fun _ x => FleetScaling.Unmetered x
  report : ∀ r, FleetScaling.Unmetered (site.report r)
  clock : FleetScaling.Unmetered site.clock
  readFile : ∀ path, FleetScaling.Unmetered (site.readFile path)

theorem Report.store_unmetered (directory : String) (r : Report) :
    Unmetered (r.store directory) := by
  have changed (context : String) (change : Files → Except FileError Files) :
      Unmetered (changeFiles context change) := by
    refine .of_nil fun files => ?_
    unfold changeFiles
    split <;> rfl
  refine Operation.Notes.bind (.note rfl) fun _ => (changed _ _).bind fun _ => ?_
  exact (changed _ _).bind fun _ => .note rfl

/-- The bench changes the metrics in its collector only, unless a program that it starts does. -/
theorem siteOn_unmetered (b : BenchSettings) (m : Machine ω) {s : Sampler ω}
    (hs : b.samplerOn m = .ok s)
    (started : ∀ program arguments, Unmetered (m.programs.start program arguments))
    (clock : Unmetered m.clock) : (b.siteOn m s).Unmetered ∧ s.Unmetered := by
  have parties := siteOn_has unmetered_closed b m s started
  have report (r : Report) : Unmetered ((b.siteOn m s).report r) :=
    fun world => r.store_unmetered b.reportDirectory (m.files.get world)
  obtain ⟨instances, nodes⟩ := parallelClusterProbe_has unmetered_closed started parties.headNode
  obtain rfl := Except.ok.inj hs
  exact ⟨⟨parties, report, clock, fun path => .of_nil fun _ => rfl⟩, ⟨instances, nodes, clock⟩⟩

/-- Whatever the world, the calls of the operation are those of a conversation with the site. Its
updates about samples are those for the samples that `s` takes there, and it makes all others
itself. -/
def Counted (s : Sampler ω) (site : Site ω) (x : RunOperation ω α) : Prop := ∀ world, ∃ es,
  Conversation site world.site es (x world).world.site ∧
  callNotes (x world).notes = callsOf es ∧
  (metricsOf (x world).notes).filter MetricUpdate.isSampling =
    (s.samplesOf site world.site es).flatMap (fun taken => taken.1.updates taken.2) ∧
  (metricsOf (x world).notes).filter (fun update => !update.isSampling) =
    ownMetrics (x world).notes

namespace Counted

variable {s : Sampler ω} {site : Site ω} {x : RunOperation ω α}

theorem bind {f : α → RunOperation ω β} (hx : Counted s site x) (hf : ∀ a, Counted s site (f a)) :
    Counted s site (x >>= f) := by
  intro world
  obtain ⟨es, talk, hn, hm, ho⟩ := hx world
  rcases h : (x world).outcome with failure | a
  · rw [Operation.bind_of_error h]
    exact ⟨es, talk, hn, hm, ho⟩
  · obtain ⟨es', talk', hn', hm', ho'⟩ := hf a (x world).world
    rw [Operation.bind_of_ok h]
    refine ⟨es ++ es', talk.append talk', ?_, ?_, ?_⟩
    · rw [callNotes_append, callsOf_append, hn, hn']
    · rw [metricsOf_append, List.filter_append, hm, hm', Sampler.samplesOf_append talk,
        List.flatMap_append]
    · rw [metricsOf_append, List.filter_append, ho, ho', ownMetrics_append]

/-- Asks for nothing and takes no sample. -/
theorem of_silent (h : ∀ world, (x world).world.site = world.site ∧
    callNotes (x world).notes = [] ∧
    (metricsOf (x world).notes).filter MetricUpdate.isSampling = [] ∧
    (metricsOf (x world).notes).filter (fun update => !update.isSampling) =
      ownMetrics (x world).notes) : Counted s site x :=
  fun world => ⟨[], h world⟩

theorem pure (a : α) : Counted s site (pure a : RunOperation ω α) :=
  of_silent fun _ => ⟨rfl, rfl, rfl, rfl⟩

theorem tell (entry : LogEntry) : Counted s site (tell entry) :=
  of_silent fun _ => ⟨rfl, rfl, rfl, rfl⟩

theorem publish (update : ProgressUpdate) : Counted s site (publish update) :=
  of_silent fun _ => ⟨rfl, rfl, rfl, rfl⟩

theorem isSampling_updates (window : Window) (o : Option Sample) :
    ∀ update ∈ window.updates o, update.isSampling = true := by
  intro update h
  cases o with
  | none =>
    rw [List.mem_singleton.mp h]
    rfl
  | some sample =>
    by_cases hp : window.publish = true
    · simp only [Window.updates, if_pos hp, List.mem_singleton] at h
      rw [h]
      rfl
    · simp only [Window.updates, if_neg hp, List.not_mem_nil] at h

/-- Calls a party, whose updates are those for the samples of the exchange. -/
theorem ask {call : Call} {x : SiteOperation ω α}
    (h : ∀ world, ∃ e, e.demand = .call call ∧ e.TakesPlace site world (x world).world ∧
      (x world).notes.filterMap SiteNote.metric? =
        (s.samplesIn world e).flatMap fun taken => taken.1.updates taken.2) :
    Counted s site (FleetScaling.ask call x) := by
  intro world
  obtain ⟨e, hd, place, hm⟩ := h world.site
  have metrics : metricsOf (FleetScaling.ask call x world).notes =
      (s.samplesIn world.site e).flatMap fun taken => taken.1.updates taken.2 := by
    rw [ask_apply, metricsOf, List.filterMap_cons_none rfl, ← metricsOf, metricsOf_party, hm]
  have sampling : ∀ update ∈ metricsOf (FleetScaling.ask call x world).notes,
      update.isSampling = true := by
    intro update h
    rw [metrics] at h
    obtain ⟨taken, -, h⟩ := List.mem_flatMap.mp h
    exact isSampling_updates _ _ update h
  refine ⟨[e], ⟨_, place, rfl⟩, ?_, ?_, ?_⟩
  · rw [ask_apply]
    show call :: callNotes _ = _
    rw [callNotes_party]
    unfold callsOf
    rw [List.filterMap_cons_some (by rw [hd]; rfl)]
    rfl
  · rw [List.filter_eq_self.mpr sampling, metrics, Sampler.samplesOf, Sampler.samplesOf,
      List.append_nil]
  · rw [List.filter_eq_nil_iff.mpr fun update h => by rw [sampling update h]; exact nofun]
    exact (ownMetrics_party _).symm

/-- Calls a party that leaves the metrics alone. -/
theorem ask_unmetered {call : Call} {x : SiteOperation ω α} (quiet : Unmetered x)
    (h : ∀ world, ∃ e, e.demand = .call call ∧ e.TakesPlace site world (x world).world ∧
      s.samplesIn world e = []) : Counted s site (FleetScaling.ask call x) := by
  refine ask fun world => ?_
  obtain ⟨e, hd, place, hs⟩ := h world
  exact ⟨e, hd, place, by rw [quiet.metrics, hs]; rfl⟩

/-- Collects the series of a window. -/
theorem collect (hs : s.Unmetered) (hc : site.collector = s.collector) (window : Window) :
    Counted s site (FleetScaling.ask (.collect window) (site.collector.collect window)) := by
  refine ask fun world => ⟨.collected window _, rfl, ⟨rfl, rfl⟩, ?_⟩
  rw [hc]
  show (s.collect window world).notes.filterMap _ = _
  rw [Sampler.metrics_collect hs, Sampler.samplesIn, List.flatMap_map]

/-- Reads a file. -/
theorem readFile (quiet : site.Unmetered) (path : String) :
    Counted s site (((site.readFile path).renote RunNote.party).onPart sitePart) := by
  intro world
  let notes := (site.readFile path world.site).notes.map RunNote.party
  have none : metricsOf notes = [] := by rw [metricsOf_party, (quiet.readFile path).metrics]
  refine ⟨[.fileRead path _], ⟨_, ⟨rfl, rfl⟩, rfl⟩, callNotes_party _, ?_, ?_⟩
  · show (metricsOf notes).filter _ = _
    rw [none]
    rfl
  · show (metricsOf notes).filter _ = ownMetrics notes
    rw [none, ownMetrics_party]
    rfl

theorem closed : RunClosed fun α (x : RunOperation ω α) => Counted s site x where
  result _ := of_silent fun _ => ⟨rfl, rfl, rfl, rfl⟩
  bind := bind
  tell := tell
  phase _ _ := publish _

section Cycle

variable (context : RunContext) (target : UInt32) (quiet : site.Unmetered) (hs : s.Unmetered)
  (hc : site.collector = s.collector)

include quiet hs hc

theorem asked : site.Asked fun _ x => Counted s site x where
  reset := ask_unmetered quiet.parties.headNode.reset fun _ => ⟨.reset _, rfl, ⟨rfl, rfl⟩, rfl⟩
  start := by
    refine ask_unmetered (x := (site.fleet.start true).within _) quiet.parties.start fun world => ?_
    exact ⟨.started (site.fleet.start true world).outcome, rfl, ⟨rfl, rfl⟩, rfl⟩
  submit job := ask_unmetered (quiet.parties.submit job) fun _ =>
    ⟨.submitted job _, rfl, ⟨rfl, rfl⟩, rfl⟩
  clock := ask_unmetered quiet.clock fun _ => ⟨.clockRead _, rfl, ⟨rfl, rfl⟩, rfl⟩
  collect := collect hs hc
  cancel id := ask_unmetered (quiet.parties.cancel id) fun _ =>
    ⟨.cancelled id _, rfl, ⟨rfl, rfl⟩, rfl⟩
  stop := by
    refine ask_unmetered (x := site.fleet.stop.within _) quiet.parties.stop fun world => ?_
    exact ⟨.stopped (site.fleet.stop world).outcome, rfl, ⟨rfl, rfl⟩, rfl⟩

theorem cycle : Counted s site (cycle context site target) := by
  refine closed.cycle context target (asked quiet hs hc) ?_ ?_ fun r => ?_
  · exact ⟨of_silent fun _ => ⟨rfl, rfl, rfl, rfl⟩, fun _ => of_silent fun _ => ⟨rfl, rfl, rfl, rfl⟩,
      readFile quiet⟩
  · exact fun _ _ => of_silent fun _ => ⟨rfl, rfl, rfl, rfl⟩
  · exact ask_unmetered (quiet.report r) fun _ => ⟨.reported r _, rfl, ⟨rfl, rfl⟩, rfl⟩

theorem trackedCycle : Counted s site (trackedCycle context site target) := by
  refine (cycle context target quiet hs hc).bind fun result => (publish _).bind fun _ => ?_
  refine (of_silent fun _ => ⟨rfl, rfl, rfl, rfl⟩).bind fun failures => (publish _).bind fun _ => ?_
  exact (of_silent fun _ => ⟨rfl, rfl, rfl, rfl⟩).bind fun _ => pure _

/-- By induction on the targets. -/
theorem cycles (targets : List UInt32) : Counted s site (cycles context site targets) := by
  induction targets with
  | nil => exact pure []
  | cons target rest ih =>
    rw [cycles_cons]
    refine (trackedCycle context target quiet hs hc).bind fun result => ?_
    refine (of_silent fun world => ?_).bind fun _ => ih.bind fun results => pure _
    rw [refillBefore_apply]
    exact ⟨rfl, callNotes_refillNotes, by cases rest <;> exact ⟨rfl, rfl⟩⟩

end Cycle

end Counted

/-- **The samples that a run counts.** They are those of the conversation that it has. -/
theorem stressTest_counted (context : RunContext) {site : Site ω} {s : Sampler ω}
    (quiet : site.Unmetered) (hs : s.Unmetered) (hc : site.collector = s.collector) :
    Counted s site (stressTest context site) := by
  have loop : Counted s site (stressLoop context site) := by
    refine (Counted.ask_unmetered (quiet.parties.headNode.disableProtectedMode unmetered_closed) fun _ =>
      ⟨.unprotected _, rfl, ⟨rfl, rfl⟩, rfl⟩).bind fun _ => ?_
    refine (Counted.of_silent fun _ => ⟨rfl, rfl, rfl, rfl⟩).bind fun _ => ?_
    refine (Counted.cycles context quiet hs hc _).bind fun results => ?_
    refine (Counted.of_silent fun _ => ⟨rfl, rfl, rfl, rfl⟩).bind fun failures => ?_
    exact (Counted.of_silent fun _ => ⟨rfl, rfl, rfl, rfl⟩).bind fun _ => .pure _
  intro world
  obtain ⟨es, talk, hn, hm, ho⟩ := loop world
  rw [stressTest_apply]
  refine ⟨es, talk, ?_, ?_, ?_⟩
  · rw [callNotes_append, hn]
    exact List.append_nil _
  · rw [metricsOf_append, List.filter_append, hm]
    exact List.append_nil _
  · rw [metricsOf_append, List.filter_append, ho, ownMetrics_append]
    rfl

end FleetScaling

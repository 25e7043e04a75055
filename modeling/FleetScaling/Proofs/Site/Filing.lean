import FleetScaling.Proofs.Collector.Sampling
import FleetScaling.Proofs.Run.Filing
import FleetScaling.Proofs.Site.Parties
import FleetScaling.Rehearsal.Script

/-!
# Sites that file reports

Two sites turn reports into files of a directory and leave the files alone otherwise: that of the
bench, if the programs that it starts do not touch them (`siteOn_files`), and that of a rehearsal
(`Rehearsal.site_files`). `Keeps` says of an operation that it leaves a part of the world as it is;
it is followed through the parties from what each is made of.
-/

namespace FleetScaling

open Time

variable {ν ω κ α β : Type}

/-- Whatever the world, the operation leaves a part of it as it is. -/
def Operation.Keeps (part : Part ω κ) (x : Operation ν ω α) : Prop :=
  ∀ world, part.get (x world).world = part.get world

namespace Operation.Keeps

variable {part : Part ω κ}

theorem pure (a : α) : Keeps part (pure a : Operation ν ω α) := fun _ => rfl

theorem note (n : ν) : Keeps part (Operation.note n : Operation ν ω Unit) := fun _ => rfl

theorem fail (failure : Failure) : Keeps part (Operation.fail failure : Operation ν ω α) :=
  fun _ => rfl

theorem ofExcept (result : Except Failure α) :
    Keeps part (Operation.ofExcept result : Operation ν ω α) := fun _ => rfl

theorem change {f : ω → α × ω} (h : ∀ world, part.get (f world).2 = part.get world) :
    Keeps part (Operation.change f : Operation ν ω α) := h

theorem bind {x : Operation ν ω α} {f : α → Operation ν ω β} (hx : Keeps part x)
    (hf : ∀ a, Keeps part (f a)) : Keeps part (x >>= f) := by
  intro world
  rcases h : (x world).outcome with failure | a
  · rw [bind_of_error h]
    exact hx world
  · rw [bind_of_ok h]
    exact (hf a _).trans (hx world)

theorem within {x : Operation ν ω α} (h : Keeps part x) (context : String) :
    Keeps part (x.within context) := h

theorem attempt {x : Operation ν ω α} (h : Keeps part x) : Keeps part x.attempt := h

theorem orPanic (result : Except Panic α) :
    Keeps part (FleetScaling.orPanic result : SiteOperation ω α) := by
  cases result with
  | ok a => exact pure a
  | error panic => exact bind (note _) fun _ => fail _

end Operation.Keeps

open Operation (Keeps)

/-- What the programs keep, the parties keep. -/
theorem keeps_closed (part : Part ω κ) :
    Closed fun α (x : SiteOperation ω α) => Keeps part x where
  result o := .ofExcept o
  note n _ := .note n
  bind := .bind
  within context h := h.within context

/-! ## The sampler -/

section Sampler

variable {part : Part ω κ} {s : Sampler ω}

/-- Dealing with a sample, good or not, only notes something. -/
theorem Sampler.step_keeps {window : Window} (hs : Keeps part (s.sample window))
    (p : Sampler.Progress) : Keeps part (s.step window p) := by
  intro world
  rcases h : (s.sample window world).outcome with failure | sample
  · rw [step_of_error h]
    exact hs world
  · rw [step_of_ok h]
    exact hs world

/-- By induction on what is left of the budget. -/
theorem Sampler.sampleFrom_keeps {window : Window} (hs : Keeps part (s.sample window))
    (p : Sampler.Progress) (elapsed : Duration) : Keeps part (s.sampleFrom window p elapsed) := by
  induction h : window.budget.nanos - elapsed.nanos using Nat.strongRecOn
    generalizing p elapsed with
  | ind left ih =>
    rw [sampleFrom]
    refine (step_keeps hs p).bind fun stepped => ?_
    obtain ⟨next, reached⟩ := stepped
    dsimp only
    split
    · exact Keeps.bind (.note _) fun _ => .pure _
    · split
      · exact Keeps.bind (.note _) fun _ => .pure _
      · rename_i hopen
        exact Keeps.bind (.note _) fun _ => ih _ (h ▸ remaining_lt hopen) _ _ rfl

theorem Sampler.collect_keeps (hi : ∀ region cluster, Keeps part (s.probe.instances region cluster))
    (hn : Keeps part s.probe.nodes) (hc : Keeps part s.clock) (window : Window) :
    Keeps part (s.collect window) := by
  have hs : Keeps part (s.sample window) :=
    (hi _ _).bind fun _ => hn.bind fun _ => hc.bind fun _ => .pure _
  refine Keeps.bind (.note _) fun _ => Keeps.bind (.change fun _ => rfl) fun uptime => ?_
  refine (Keeps.orPanic _).bind fun _ => (sampleFrom_keeps hs _ _).bind fun _ => ?_
  exact hc.bind fun _ => .pure _

end Sampler

/-! ## Sites -/

section Sites

variable {part : Part ω Files} {directory : String}

/-- A site files its reports if they are stored and all other parties keep the files. -/
theorem FilesReports.of_keeps {site : Site ω}
    (stores : ∀ (r : Report) (before : ω), (site.report r before).outcome = .ok () →
      part.get (site.report r before).world = (r.store directory (part.get before)).world)
    (parties : site.Has fun _ x => Keeps part x)
    (collect : ∀ window, Keeps part (site.collector.collect window))
    (clock : Keeps part site.clock) (readFile : ∀ path, Keeps part (site.readFile path)) :
    FilesReports site part directory where
  stores r before after took := by
    obtain ⟨hok, rfl⟩ := took
    exact stores r before hok
  leaves e before after took he := by
    cases e with
    | unprotected o =>
      exact took.2 ▸ parties.headNode.disableProtectedMode (keeps_closed part) before
    | reset o => exact took.2 ▸ parties.headNode.reset before
    | started o => exact took.2 ▸ parties.start before
    | submitted job o => exact took.2 ▸ parties.submit job before
    | clockRead o => exact took.2 ▸ clock before
    | collected window o => exact took.2 ▸ collect window before
    | cancelled id o => exact took.2 ▸ parties.cancel id before
    | stopped o => exact took.2 ▸ parties.stop before
    | reported r o => cases he
    | fileRead path o => exact took.2 ▸ readFile path before

/-- The site of the bench files its reports, unless a program that it starts changes the files. -/
theorem siteOn_files (s : BenchSettings) (m : Machine ω) {sampler : Sampler ω}
    (hsampler : s.samplerOn m = .ok sampler)
    (lawful : ∀ world files, m.files.get (m.files.set world files) = files)
    (programs : ∀ program arguments, Keeps m.files (m.programs.start program arguments))
    (clock : Keeps m.files m.clock) :
    FilesReports (s.siteOn m sampler) m.files s.reportDirectory := by
  have closed := keeps_closed m.files
  have parties := siteOn_has closed s m sampler programs
  obtain ⟨instances, nodes⟩ := parallelClusterProbe_has closed programs parties.headNode
  obtain rfl := Except.ok.inj hsampler
  exact .of_keeps (fun r before _ => lawful _ _) parties
    (Sampler.collect_keeps instances nodes clock) clock (fun _ => .change fun _ => rfl)

end Sites

namespace Rehearsal

theorem request_keeps (r : Request) (text : String) : Keeps Script.filesPart (request r text) := by
  refine Keeps.bind (.note _) fun _ => Keeps.bind (.change fun _ => rfl) fun script => ?_
  refine Keeps.bind (.change fun _ => rfl) fun _ => ?_
  cases script.planned? r with
  | none => exact .pure ()
  | some message => exact .fail _

theorem headNode_keeps : headNode.Has fun _ x => Keeps Script.filesPart x where
  run command := by
    refine (request_keeps _ _).bind fun _ => Keeps.bind (.change fun _ => rfl) fun script => ?_
    split
    · exact .pure _
    · refine Keeps.bind (.change fun _ => rfl) fun _ => ?_
      split
      · exact .pure _
      · exact .fail _
  reset := request_keeps _ _

theorem onPart_files (x : SiteOperation Files α) (script : Script) :
    (x.onPart Script.filesPart script).world.files = (x script.files).world := rfl

theorem report_stores {directory : String} {r : Report} {before : Script}
    (h : (report (some directory) r before).outcome = .ok ()) :
    (report (some directory) r before).world.files = (r.store directory before.files).world := by
  obtain ⟨_, hrequest, -⟩ := Operation.ok_of_bind h
  have hfiles : (request .report ("report " ++ r.fileName) before).world.files = before.files :=
    request_keeps _ _ before
  generalize hafter : (request .report ("report " ++ r.fileName) before).world = after at hfiles
  have hnoted : Operation.change (fun script : Script =>
      ((), { script with reports := script.reports ++ [r] })) after =
        (⟨.ok (), { after with reports := after.reports ++ [r] }, []⟩ : Trace SiteNote _ _) := rfl
  rw [report, Operation.bind_of_ok hrequest, hafter,
    Operation.bind_of_ok (congrArg (·.outcome) hnoted), hnoted, ← hfiles]
  exact onPart_files _ _

/-- The site of a rehearsal files its reports. -/
theorem site_files (cluster directory : String) :
    FilesReports (site cluster (some directory)) Script.filesPart directory := by
  refine .of_keeps (fun r before hok => ?_) ⟨headNode_keeps, request_keeps _ _,
    request_keeps _ _, fun job => ?_, fun id => request_keeps _ _⟩ (fun window => ?_) ?_
    (fun path => .change fun _ => rfl)
  · exact report_stores hok
  · refine Keeps.bind (.change fun _ => rfl) fun script => (request_keeps _ _).bind fun _ => ?_
    exact Keeps.bind (.change fun _ => rfl) fun _ => .pure _
  · refine (request_keeps _ _).bind fun _ => Keeps.bind (.change fun _ => rfl) fun script => ?_
    split
    · exact .fail _
    · exact Keeps.bind (.change fun _ => rfl) fun _ => .pure _
  · exact .change fun script => by split <;> rfl

end Rehearsal

end FleetScaling

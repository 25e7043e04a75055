import FleetScaling.Proofs.Run.Timings
import FleetScaling.Proofs.Time.Minutes

/-!
# Minutes in the reports of a run

A cycle reads its clock when a monitoring window begins and takes its times from the start of the
minute of that reading. It sends a report exactly if both of its halves are timed, and then the
report is the one of its course (`Timed.reportsOf_cycle`). `minutes_bound_timings` says what the
truncation does to the times that are measured, and that a report never has its target reached
before its start.
-/

namespace FleetScaling

open Time

variable {ω α β : Type}

/-! ## Reports among the notes -/

/-- The report that is sent, if one is. -/
def RunNote.report? : RunNote → Option Report
  | .called (.report r) => some r
  | _ => none

theorem reportsOf_eq (notes : List RunNote) : reportsOf notes = notes.filterMap RunNote.report? := by
  unfold reportsOf callNotes
  rw [List.filterMap_filterMap]
  refine congrArg (notes.filterMap ·) (funext fun n => ?_)
  cases n with
  | called call => cases call <;> rfl
  | _ => rfl

theorem reportsOf_append (a b : List RunNote) : reportsOf (a ++ b) = reportsOf a ++ reportsOf b := by
  unfold reportsOf
  rw [callNotes_append, List.filterMap_append]

/-- Whatever the world, no report is sent. -/
abbrev Unreported (x : RunOperation ω α) : Prop := Operation.Notes (fun n => n.report? = none) x

namespace Unreported

theorem reports {x : RunOperation ω α} (h : Unreported x) (world : RunWorld ω) :
    reportsOf (x world).notes = [] := by
  rw [reportsOf_eq]
  exact List.filterMap_eq_nil_iff.2 (h world)

/-- The reports are those of what comes after. -/
theorem reportsOf_bind {x : RunOperation ω α} {f : α → RunOperation ω β} {world : RunWorld ω} {a : α}
    (hx : Unreported x) (ho : (x world).outcome = .ok a) :
    reportsOf ((x >>= f) world).notes = reportsOf (f a (x world).world).notes := by
  rw [Operation.bind_of_ok ho, reportsOf_append, hx.reports, List.nil_append]

/-- The reports are those of what comes before. -/
theorem reportsOf_after {x : RunOperation ω α} {y : RunOperation ω β} {world : RunWorld ω}
    (hy : Unreported y) : reportsOf ((x >>= fun _ => y) world).notes = reportsOf (x world).notes := by
  rcases ho : (x world).outcome with failure | a
  · rw [Operation.bind_of_error ho]
  · rw [Operation.bind_of_ok ho, reportsOf_append, hy.reports, List.append_nil]

theorem party (x : SiteOperation ω α) :
    Unreported ((x.renote RunNote.party).onPart sitePart) := by
  intro world n hn
  obtain ⟨_, -, rfl⟩ := List.mem_map.1 hn
  rfl

theorem ask {call : Call} (h : (RunNote.called call).report? = none) (x : SiteOperation ω α) :
    Unreported (FleetScaling.ask call x) :=
  Operation.Notes.bind (.note h) fun _ => party x

theorem closed : RunClosed fun α (x : RunOperation ω α) => Unreported x where
  result _ := .of_nil fun _ => rfl
  bind := .bind
  tell _ := .note rfl
  phase _ _ := .note rfl

variable (context : RunContext) (site : Site ω) (target : UInt32)

theorem halves : Unreported (halves context site target) := by
  have asked : site.Asked fun _ x => Unreported x :=
    ⟨ask rfl _, ask rfl _, fun _ => ask rfl _, ask rfl _, fun _ => ask rfl _, fun _ => ask rfl _,
      ask rfl _⟩
  refine (closed.scaleUp context target asked).bind fun (id, up) => ?_
  exact (closed.scaleDown context target asked id).bind fun down => closed.pure _

theorem recordChecks (up : GrowthPhase) (down : ShrinkPhase) :
    Unreported (recordChecks context site target up down) :=
  closed.recordChecks context target
    ⟨.of_nil fun _ => rfl, fun _ => .of_nil fun _ => rfl, fun _ => party _⟩ up down

end Unreported

/-! ## The report of a cycle -/

section Cycle

variable {context : RunContext} {site : Site ω} {target : UInt32} {world : RunWorld ω}

theorem reportsOf_ask (r : Report) (x : SiteOperation ω α) :
    reportsOf (ask (.report r) x world).notes = [r] := by
  rw [ask_apply]
  exact congrArg (fun calls => (Call.report r :: calls).filterMap _) (callNotes_party _)

theorem reportsOf_reportResult (up : GrowthPhase) (down : ShrinkPhase) :
    reportsOf (reportResult context site target up down world).notes =
      [context.report site.fleet.name up down (context.result target up down)] := by
  let result := context.result target up down
  let told : RunOperation ω Unit := tell (.info "Scaling result" [("result", .text result.shown)])
  let measured : RunOperation ω Unit :=
    (durationUpdates result).forM fun update => own (.measured update)
  have untold : Unreported told := .note rfl
  have unmeasured : Unreported measured := Unreported.closed.forM fun _ _ => .note rfl
  have hmeasured (world : RunWorld ω) : (measured world).outcome = .ok () :=
    congrArg Trace.outcome (forM_own_apply _ _ world)
  show reportsOf ((told >>= fun _ => measured >>= fun _ => ask _ _) world).notes = _
  rw [untold.reportsOf_bind (a := ()) rfl, unmeasured.reportsOf_bind (hmeasured _)]
  exact reportsOf_ask _ _

/-- A cycle that is timed sends the report on its course, whatever comes of the checks. -/
theorem Timed.reportsOf_cycle {d : CycleCourse} (h : Timed context site target world d) :
    reportsOf (cycle context site target world).notes =
      [context.reportOf site.fleet.name target d] := by
  have timed : Unreported (FleetScaling.halves context site target) := .halves context site target
  have checked : Unreported (recordChecks context site target d.growth d.shrinkage) :=
    .recordChecks context site target _ _
  rw [cycle_eq_halves, timed.reportsOf_bind h.halves]
  show reportsOf ((reportResult context site target d.growth d.shrinkage >>= fun _ =>
    recordChecks context site target d.growth d.shrinkage) _).notes = _
  rw [checked.reportsOf_after]
  exact reportsOf_reportResult d.growth d.shrinkage

/-- Only a cycle that is timed sends a report. -/
theorem timed_of_mem_reports {report : Report}
    (h : report ∈ reportsOf (cycle context site target world).notes) :
    ∃ d, Timed context site target world d := by
  rcases ho : (halves context site target world).outcome with failure | ⟨up, down⟩
  · rw [cycle_eq_halves, Operation.bind_of_error ho,
      (Unreported.halves context site target).reports] at h
    cases h
  · exact timed_of_halves ho

end Cycle

/-! ## Times that are measured -/

/-- **Minutes and times.** The start of the minute of a clock reading is the greatest whole minute
not after it; taking it again changes nothing, and a later reading never has an earlier one. Outside
leap seconds, a milestone that lies at or after the reading and is timed from the start of its
minute is never clamped, and its seconds are those since the reading itself, with at most a minute
more. In the one report of a cycle the start and the moment at which the nodes reached the target
are the minutes of the reading and of the milestone, so the start is never the later one. -/
theorem minutes_bound_timings (c : Instant) :
    IsGreatest {m : Instant | m.IsMinute ∧ m ≤ c} c.startOfMinute ∧
    c.startOfMinute.startOfMinute = c.startOfMinute ∧
    (∀ later : Instant, c ≤ later → c.startOfMinute ≤ later.startOfMinute) ∧
    (c.isLeap = false → ∀ (column : List UInt32) (times : List Float) (target : UInt32)
      (index : Nat) (r : Instant), column.length = times.length → FirstIn column target index →
      times[index]?.bind Instant.ofEpoch? = some r → c ≤ r →
      ∃ m, Milestone.locate column times target c.startOfMinute = .ok m ∧ m.index = index ∧
        m.reachedAt = r ∧ m.elapsed.toInt = r.secondsSince c.startOfMinute ∧
        r.nanosSince c / 1000000000 ≤ m.elapsed.toInt ∧
        m.elapsed.toInt ≤ r.nanosSince c / 1000000000 + 60 ∧
        (∀ (ω : Type) (failing : String) (world : RunWorld ω),
          (findMilestone failing column times target c.startOfMinute world).notes = []) ∧
        c.startOfMinute ≤ r.startOfMinute ∧ r.startOfMinute ≤ r) ∧
    ∀ (ω : Type) (context : RunContext) (site : Site ω) (target : UInt32) (world : RunWorld ω),
      ∀ report ∈ reportsOf (cycle context site target world).notes,
        (∃ d, Timed context site target world d) ∧
        ∀ d, Timed context site target world d →
          report.startTime = d.upTime.startOfMinute ∧
          report.targetTime = d.nodes.reachedAt.startOfMinute ∧
          (d.upTime ≤ d.nodes.reachedAt → report.startTime ≤ report.targetTime) := by
  refine ⟨c.isGreatest_startOfMinute, c.startOfMinute_startOfMinute,
    fun _ h => Instant.startOfMinute_monotone h, fun hc column times target index r hlength first
    hdated h => ?_, fun ω context site target world report hreport =>
    ⟨timed_of_mem_reports hreport, fun d timed => ?_⟩⟩
  · obtain ⟨time, htime, hr⟩ := Option.bind_eq_some_iff.1 hdated
    obtain ⟨hnonneg, hlow, hhigh⟩ :=
      Instant.secondsSince_startOfMinute_bounds hc (Instant.isLeap_of_ofEpoch? hr) h
    have elapsed := (Milestone.toInt_elapsed c.startOfMinute r).trans (max_eq_right hnonneg)
    have located : Milestone.locate column times target c.startOfMinute = _ :=
      Milestone.locate_of_firstIn hlength first htime
    rw [hr] at located
    refine ⟨_, located, rfl, rfl, elapsed, elapsed ▸ hlow, elapsed ▸ hhigh, fun ω failing world => ?_,
      Instant.startOfMinute_monotone h, r.startOfMinute_le⟩
    rw [findMilestone_of_ok located]
    exact if_neg (Int.not_lt.2 hnonneg)
  · rw [timed.reportsOf_cycle, List.mem_singleton] at hreport
    subst hreport
    exact ⟨rfl, rfl, fun h => Instant.startOfMinute_monotone h⟩

theorem overshoot_timed : Timed overshootContext (Rehearsal.site "bench" none) 2
    ⟨overshootScript, .empty⟩ overshoot :=
  ⟨overshoot_located, _, ⟨_, ⟨rfl, rfl⟩, _, ⟨rfl, rfl⟩, _, ⟨rfl, rfl⟩, _, ⟨rfl, rfl⟩, _, ⟨rfl, rfl⟩,
    _, ⟨rfl, rfl⟩, _, ⟨rfl, rfl⟩, _, ⟨rfl, rfl⟩, _, ⟨rfl, rfl⟩, rfl⟩⟩

/-- The clock is read twenty seconds into a minute, and the nodes are there fifty seconds later. -/
theorem minutes_bound_timings_overshoot :
    let c := overshoot.upTime
    let r := overshoot.nodes.reachedAt
    let done := cycle overshootContext (Rehearsal.site "bench" none) 2 ⟨overshootScript, .empty⟩
    c.isLeap = false ∧ c ≤ r ∧ FirstIn overshoot.up.nodes 2 2 ∧
    (∃ m, Milestone.locate overshoot.up.nodes overshoot.up.times 2 c.startOfMinute = .ok m ∧
      m.reachedAt = r ∧ 50 ≤ m.elapsed.toInt ∧ m.elapsed.toInt ≤ 110) ∧
    ∃ report, reportsOf done.notes = [report] ∧ report.startTime ≤ report.targetTime := by
  intro c r done
  have hc : c.isLeap = false := by decide
  have h : c ≤ r := by decide
  have first : FirstIn overshoot.up.nodes 2 2 := FirstIn.iff_idxOf?.2 (by decide +kernel)
  have since : r.nanosSince c / 1000000000 = 50 := by decide
  have dated : overshoot.up.times[2]?.bind Instant.ofEpoch? = some r := by decide +kernel
  obtain ⟨-, -, -, timings, reports⟩ := minutes_bound_timings c
  obtain ⟨m, located, -, reached, -, low, high, -⟩ :=
    timings hc _ _ 2 2 r overshoot.up.length_nodes first dated h
  have sent := overshoot_timed.reportsOf_cycle
  obtain ⟨-, ordered⟩ := reports _ overshootContext (Rehearsal.site "bench" none) 2
    ⟨overshootScript, .empty⟩ _ (sent ▸ List.mem_singleton_self _)
  rw [since] at low high
  exact ⟨hc, h, first, ⟨m, located, reached, low, high⟩, _, sent,
    (ordered overshoot overshoot_timed).2.2 h⟩

end FleetScaling

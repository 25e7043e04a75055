import FleetScaling.Proofs.Run.Protocol

/-!
# What a run holds

A run holds the jobs that it has submitted and not cancelled and the starts of the fleet that it has
not stopped again. `Holdings.Permits` says what may be held when something is asked for: nothing
at all between the cycles, and inside a cycle the fleet and the job of that cycle alone. Whatever
the parties do, a stress test follows its plan and keeps to this (`stressTest_follows_protocol`).
-/

namespace FleetScaling

variable {ω : Type}

/-- Jobs that were submitted and not cancelled, and starts of the fleet that were not stopped. -/
structure Holdings where
  jobs : List String
  starts : Nat
  deriving DecidableEq

namespace Holdings

/-- No job, and no start. -/
def nothing : Holdings := ⟨[], 0⟩

/-- What is held after an exchange. A start counts even if it failed; a job, a cancellation and a
stop count only if they succeeded. -/
def after (h : Holdings) : Exchange → Holdings
  | .started _ => { h with starts := h.starts + 1 }
  | .submitted _ (.ok id) => { h with jobs := id :: h.jobs }
  | .cancelled id (.ok ()) => { h with jobs := h.jobs.erase id }
  | .stopped (.ok ()) => { h with starts := h.starts - 1 }
  | _ => h

/-- What is held after some exchanges. -/
def afterAll (h : Holdings) (es : List Exchange) : Holdings := es.foldl after h

/-- What must be held, and nothing more, when something is asked for. -/
def Permits (h : Holdings) : Demand → Prop
  | .call .disableProtectedMode | .call .resetConnection | .call (.startFleet _) => h = nothing
  | .call (.submit _) => h = ⟨[], 1⟩
  | .call (.cancel id) => h = ⟨[id], 1⟩
  | .call .stopFleet => h = ⟨[], 1⟩
  | .call (.report _) | .file _ => h = nothing
  | _ => True

theorem afterAll_append (h : Holdings) (a b : List Exchange) :
    h.afterAll (a ++ b) = (h.afterAll a).afterAll b := List.foldl_append

/-- Everything is asked for while the right things are held. -/
def Orderly : Holdings → List Exchange → Prop
  | _, [] => True
  | h, e :: es => h.Permits e.demand ∧ Orderly (h.after e) es

theorem orderly_append {h : Holdings} {a b : List Exchange} :
    Orderly h (a ++ b) ↔ Orderly h a ∧ Orderly (h.afterAll a) b := by
  induction a generalizing h with
  | nil => exact ⟨fun hb => ⟨trivial, hb⟩, fun hb => hb.2⟩
  | cons e a ih =>
    show (h.Permits e.demand ∧ Orderly (h.after e) (a ++ b)) ↔
      (h.Permits e.demand ∧ Orderly (h.after e) a) ∧ Orderly ((h.after e).afterAll a) b
    rw [ih, and_assoc]

theorem Orderly.permits {h : Holdings} {done rest : List Exchange} {e : Exchange}
    (ho : Orderly h (done ++ e :: rest)) : (h.afterAll done).Permits e.demand :=
  (orderly_append.1 ho).2.1

/-- A plan that is left early was orderly as far as it went. -/
theorem Orderly.interrupted {h : Holdings} {plan es : List Exchange} {failure : Failure}
    (ho : Orderly h plan) (hi : Interrupted plan es failure) : Orderly h es := by
  obtain ⟨done, planned, e, rest, rfl, rfl, hd⟩ := hi.split
  obtain ⟨hdone, hpermits, _⟩ := orderly_append.1 ho
  refine orderly_append.2 ⟨hdone, ?_, trivial⟩
  rwa [hd]

end Holdings

open Holdings

namespace RunContext

variable (c : RunContext) (cluster : String)

theorem cycleExchanges_orderly (target : UInt32) (d : CycleCourse) :
    Orderly nothing (c.cycleExchanges cluster target d) :=
  ⟨rfl, rfl, rfl, trivial, trivial, rfl, by simp [Exchange.demand, Permits, after, nothing],
    trivial, trivial, by simp [Exchange.demand, Permits, after, nothing],
    by simp [Exchange.demand, Permits, after, nothing], trivial⟩

theorem afterAll_cycleExchanges (target : UInt32) (d : CycleCourse) :
    nothing.afterAll (c.cycleExchanges cluster target d) = nothing := by
  simp [cycleExchanges, growthExchanges, shrinkExchanges, afterAll, after, nothing]

/-- By induction on the cycles: each begins with nothing held and leaves nothing held. -/
theorem exchanges_orderly (cycles : List (UInt32 × CycleCourse)) :
    Orderly nothing (c.exchanges cluster cycles) ∧
      nothing.afterAll (c.exchanges cluster cycles) = nothing := by
  suffices h : Orderly nothing (c.cyclesExchanges cluster cycles) ∧
      nothing.afterAll (c.cyclesExchanges cluster cycles) = nothing from
    ⟨⟨rfl, h.1⟩, h.2⟩
  unfold RunContext.cyclesExchanges
  induction cycles with
  | nil => exact ⟨trivial, rfl⟩
  | cons cycle cycles ih =>
    obtain ⟨target, d⟩ := cycle
    rw [List.flatMap_cons, orderly_append, afterAll_append, afterAll_cycleExchanges]
    exact ⟨⟨cycleExchanges_orderly c cluster target d, ih.1⟩, ih.2⟩

end RunContext

/-- Whatever the parties do, there are cycles for the targets such that the calls of the run are the
first of `RunContext.calls`: all of them if every cycle succeeded, and else those up to the one
that failed or gave something that is of no use. Each call is made while the right job and start
are held, and a run that followed its plan to the end holds nothing. -/
theorem stressTest_follows_protocol (context : RunContext) (site : Site ω) (world : RunWorld ω) :
    let run := stressTest context site world
    let cluster := site.fleet.name
    ∃ es cycles, Conversation site world.site es run.world.site ∧
      callNotes run.notes = callsOf es ∧
      CyclesFor context.targets cycles ∧
      callsOf es <+: context.calls cluster cycles ∧
      RunEnds (context.exchanges cluster cycles) es run.outcome ∧
      (∀ done e rest, es = done ++ e :: rest → (nothing.afterAll done).Permits e.demand) ∧
      (es = context.exchanges cluster cycles →
        callsOf es = context.calls cluster cycles ∧ nothing.afterAll es = nothing) := by
  intro run cluster
  obtain ⟨es, hc, hn, cycles, hcycles, hends⟩ := stressTest_comes context site world
  obtain ⟨hplan, hleft⟩ := context.exchanges_orderly cluster cycles
  have hcalls := context.callsOf_exchanges cluster cycles
  have hes : callsOf es <+: context.calls cluster cycles ∧ Orderly nothing es := by
    rcases hends with ⟨rfl, _⟩ | ⟨failure, _, hi⟩
    · exact ⟨hcalls ▸ List.prefix_rfl, hplan⟩
    · exact ⟨hcalls ▸ hi.calls_isPrefix, hplan.interrupted hi⟩
  refine ⟨es, cycles, hc, hn, hcycles, hes.1, hends, ?_, ?_⟩
  · intro done e rest h
    exact (h ▸ hes.2).permits
  · intro h
    rw [h]
    exact ⟨hcalls, hleft⟩

end FleetScaling

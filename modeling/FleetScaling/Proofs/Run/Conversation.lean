import FleetScaling.Proofs.Traces
import FleetScaling.Run.Stress

/-!
# Conversations

A run talks to the parties of its site and reads files. An `Exchange` is one thing that was asked
for, with what came of it; a `Conversation` is a list of exchanges that take place one after
another, each in the world that the one before has left. `Comes site x Q` says of an operation
that, whatever the world, its calls are those of a conversation with the site that `Q` describes
together with the outcome.
-/

namespace FleetScaling

open Time

variable {ω α β : Type}

/-! ## Exchanges -/

/-- What a run asks for: a call of a party, or a file. -/
inductive Demand
  | call (call : Call)
  | file (path : String)

/-- The call, if it is one. -/
def Demand.call? : Demand → Option Call
  | call c => some c
  | file _ => none

/-- The failure of a run when what it asked for has failed: that of the party, which for the fleet
says what was being done. -/
def Demand.framed : Demand → Failure → Failure
  | call (.startFleet _), failure => failure.within "Failed to start the compute fleet"
  | call .stopFleet, failure => failure.within "Failed to stop the compute fleet"
  | _, failure => failure

/-- Something that was asked for, with what came of it. -/
inductive Exchange
  | unprotected (outcome : Except Failure Unit)
  | reset (outcome : Except Failure Unit)
  | started (outcome : Except Failure Unit)
  | submitted (job : Job) (outcome : Except Failure String)
  | clockRead (outcome : Except Failure Instant)
  | collected (window : Window) (outcome : Except Failure Series)
  | cancelled (id : String) (outcome : Except Failure Unit)
  | stopped (outcome : Except Failure Unit)
  | reported (r : Report) (outcome : Except Failure Unit)
  | fileRead (path : String) (outcome : Except Failure (Except FileError String))

namespace Exchange

/-- What was asked for. -/
def demand : Exchange → Demand
  | unprotected _ => .call .disableProtectedMode
  | reset _ => .call .resetConnection
  | started _ => .call (.startFleet true)
  | submitted job _ => .call (.submit job)
  | clockRead _ => .call .readClock
  | collected window _ => .call (.collect window)
  | cancelled id _ => .call (.cancel id)
  | stopped _ => .call .stopFleet
  | reported r _ => .call (.report r)
  | fileRead path _ => .file path

/-- The failure of an outcome, if it is one. -/
def failureOf : Except Failure α → Option Failure
  | .ok _ => none
  | .error failure => some failure

/-- Why it failed, if it did. -/
def failure? : Exchange → Option Failure
  | unprotected o | reset o | started o | cancelled _ o | stopped o | reported _ o => failureOf o
  | submitted _ o => failureOf o
  | clockRead o => failureOf o
  | collected _ o => failureOf o
  | fileRead _ o => failureOf o

/-- An operation has such an outcome in one world and leaves the other. -/
def Happens (x : SiteOperation ω α) (outcome : Except Failure α) (before after : ω) : Prop :=
  (x before).outcome = outcome ∧ (x before).world = after

/-- The exchange takes place on a site, between two of its worlds. -/
def TakesPlace (site : Site ω) : Exchange → ω → ω → Prop
  | unprotected o => Happens (disableProtectedMode site.headNode) o
  | reset o => Happens site.headNode.reset o
  | started o => Happens (site.fleet.start true) o
  | submitted job o => Happens (site.scheduler.submit job) o
  | clockRead o => Happens site.clock o
  | collected window o => Happens (site.collector.collect window) o
  | cancelled id o => Happens (site.scheduler.cancel id) o
  | stopped o => Happens site.fleet.stop o
  | reported r o => Happens (site.report r) o
  | fileRead path o => Happens (site.readFile path) o

/-- The protection is lifted by one run of a command on the head node, which has to succeed; its
failure comes with what was being done. -/
theorem takesPlace_unprotected_iff {site : Site ω} {outcome : Except Failure Unit}
    {before after : ω} :
    (unprotected outcome).TakesPlace site before after ↔
      let ran := site.headNode.runChecked unprotectCommand before
      outcome = (withContext "Failed to disable protected mode" ran.outcome).map (fun _ => ()) ∧
        after = ran.world := by
  let ran := site.headNode.runChecked unprotectCommand before
  let framed := (site.headNode.runChecked unprotectCommand).within "Failed to disable protected mode"
  have lifted : (disableProtectedMode site.headNode before).outcome =
      (framed before).outcome.map (fun _ => ()) ∧
      (disableProtectedMode site.headNode before).world = ran.world := by
    show ((framed >>= fun _ => log (.info "Protected mode disabled" [])) before).outcome = _ ∧
      ((framed >>= fun _ => log (.info "Protected mode disabled" [])) before).world = _
    rcases h : (framed before).outcome with failure | result
    · rw [Operation.bind_of_error h]
      exact ⟨rfl, rfl⟩
    · rw [Operation.bind_of_ok h]
      exact ⟨rfl, rfl⟩
  constructor
  · rintro ⟨ho, hw⟩
    exact ⟨ho.symm.trans lifted.1, hw.symm.trans lifted.2⟩
  · rintro ⟨ho, hw⟩
    exact ⟨lifted.1.trans ho.symm, lifted.2.trans hw.symm⟩

end Exchange

/-- The calls of some exchanges. -/
def callsOf (es : List Exchange) : List Call := es.filterMap fun e => e.demand.call?

@[simp] theorem callsOf_append (a b : List Exchange) :
    callsOf (a ++ b) = callsOf a ++ callsOf b := by
  unfold callsOf
  rw [List.filterMap_append]

/-- The exchanges take place one after another on a site, from the first world to the last. -/
def Conversation (site : Site ω) : ω → List Exchange → ω → Prop
  | before, [], after => after = before
  | before, e :: es, after => ∃ between, e.TakesPlace site before between ∧
      Conversation site between es after

theorem Conversation.append {site : Site ω} {es es' : List Exchange} {a b c : ω}
    (h : Conversation site a es b) (h' : Conversation site b es' c) :
    Conversation site a (es ++ es') c := by
  induction es generalizing a with
  | nil => rwa [show b = a from h] at h'
  | cons e es ih =>
    obtain ⟨between, he, hes⟩ := h
    exact ⟨between, he, ih hes⟩

theorem Conversation.split {site : Site ω} {es es' : List Exchange} {a c : ω}
    (h : Conversation site a (es ++ es') c) :
    ∃ b, Conversation site a es b ∧ Conversation site b es' c := by
  induction es generalizing a with
  | nil => exact ⟨a, rfl, h⟩
  | cons e es ih =>
    obtain ⟨between, he, hes⟩ := h
    obtain ⟨b, hb, hb'⟩ := ih hes
    exact ⟨b, ⟨between, he, hb⟩, hb'⟩

/-- An answer to which its demand gives no frame is passed on as it is. -/
theorem apply_framed {demand : Demand} {x : SiteOperation ω α}
    (h : ∀ failure, demand.framed failure = failure) (world : ω) :
    x world = { x world with outcome := (x world).outcome.mapError demand.framed } := by
  have : (x world).outcome.mapError demand.framed = (x world).outcome := by
    cases (x world).outcome with
    | ok a => rfl
    | error failure => exact congrArg Except.error (h failure)
  rw [this]

/-! ## Conversations of operations -/

/-- Whatever the world, the calls of the operation are those of a conversation with the site, and
its exchanges and the outcome satisfy `Q`. -/
def Comes (site : Site ω) (x : RunOperation ω α)
    (Q : List Exchange → Except Failure α → Prop) : Prop :=
  ∀ world, ∃ es, Conversation site world.site es (x world).world.site ∧
    callNotes (x world).notes = callsOf es ∧ Q es (x world).outcome

namespace Comes

variable {site : Site ω} {x : RunOperation ω α} {P : List Exchange → Except Failure α → Prop}

theorem mono {Q : List Exchange → Except Failure α → Prop} (h : Comes site x P)
    (hQ : ∀ es o, P es o → Q es o) : Comes site x Q := by
  intro world
  obtain ⟨es, hc, hn, hp⟩ := h world
  exact ⟨es, hc, hn, hQ es _ hp⟩

theorem bind {f : α → RunOperation ω β} {Q : List Exchange → Except Failure β → Prop}
    (hx : Comes site x P)
    (hok : ∀ es a, P es (.ok a) → Comes site (f a) fun es' o => Q (es ++ es') o)
    (herror : ∀ es failure, P es (.error failure) → Q es (.error failure)) :
    Comes site (x >>= f) Q := by
  intro world
  obtain ⟨es, hc, hn, hp⟩ := hx world
  rcases h : (x world).outcome with failure | a
  · rw [h] at hp
    rw [Operation.bind_of_error h]
    exact ⟨es, hc, hn, herror es failure hp⟩
  · rw [h] at hp
    obtain ⟨es', hc', hn', hq⟩ := hok es a hp (x world).world
    rw [Operation.bind_of_ok h]
    refine ⟨es ++ es', hc.append hc', ?_, hq⟩
    rw [callNotes_append, callsOf_append, hn, hn']

/-- A call of a party; what the party answers may be framed before it is passed on. -/
theorem ask {call : Call} {x y : SiteOperation ω α} {e : Except Failure α → Exchange}
    (hd : ∀ o, (e o).demand = .call call)
    (ht : ∀ o before after, Exchange.Happens x o before after →
      (e o).TakesPlace site before after)
    (hy : ∀ world, y world = { x world with
      outcome := (x world).outcome.mapError (Demand.call call).framed }) :
    Comes site (FleetScaling.ask call y) fun es o =>
      ∃ raw, es = [e raw] ∧ o = raw.mapError (Demand.call call).framed := by
  intro world
  rw [ask_apply, hy]
  refine ⟨[e (x world.site).outcome], ⟨_, ht _ _ _ ⟨rfl, rfl⟩, rfl⟩, ?_, _, rfl, rfl⟩
  show call :: callNotes ((x world.site).notes.map .party) = _
  rw [callNotes_party]
  unfold callsOf
  rw [List.filterMap_cons_some (by rw [hd]; rfl)]
  rfl

/-- A file that is read. -/
theorem readFile (path : String) :
    Comes site (((site.readFile path).renote RunNote.party).onPart sitePart) fun es o =>
      es = [.fileRead path o] := by
  intro world
  refine ⟨[.fileRead path (site.readFile path world.site).outcome], ⟨_, ⟨rfl, rfl⟩, rfl⟩, ?_, rfl⟩
  exact callNotes_party (site.readFile path world.site).notes

end Comes

end FleetScaling

import FleetScaling.Proofs.Run.Conversation

/-!
# Plans

A plan is a conversation in which all goes well. `Planned site x full` says that `x` succeeds with
a conversation that `full` describes, or is interrupted (`Interrupted`) in the middle of one: by
an exchange that failed, or by one that succeeded with something that is of no use
(`Exchange.Unusable`). Plans are followed one after another (`Planned.bind`), so the plan of a run is
put together from those of its parts. A planned operation that fails does so because a party fails
(`FailsItself`), or because the run finds fault with what it was given (`Planned.fails`).
-/

namespace FleetScaling

open Time

variable {ω α β : Type}

/-! ## Interruptions -/

/-- What came of an exchange cannot be used: the series of a window never shows the target in one
of its columns, or what was read from a file is no baseline. -/
inductive Exchange.Unusable : Exchange → Failure → Prop
  | unreached {window : Window} {series : Series} {column : List UInt32} {reference : Instant}
      {error : MilestoneError} (failing : String) :
      column = series.instances ∨ column = series.nodes →
      Milestone.locate column series.times window.target reference = .error error →
      Unusable (.collected window (.ok series)) ((Failure.of (.milestone error)).within failing)
  | unloadable {path : String} {content : Except FileError String} {failure : Failure} :
      Baseline.ofFile path content = .error failure →
      Unusable (.fileRead path (.ok content)) failure

/-- A conversation that follows a plan up to some exchange and ends there with a failure: the
exchange failed, or what came of it cannot be used. -/
inductive Interrupted : List Exchange → List Exchange → Failure → Prop
  | refused (done rest : List Exchange) {planned e : Exchange} {failure : Failure} :
      e.demand = planned.demand → e.failure? = some failure →
      Interrupted (done ++ planned :: rest) (done ++ [e]) (e.demand.framed failure)
  | unusable (done rest : List Exchange) {e : Exchange} {failure : Failure} :
      e.Unusable failure → Interrupted (done ++ e :: rest) (done ++ [e]) failure

namespace Interrupted

variable {plan es : List Exchange} {failure : Failure}

/-- Where the plan is left: what is asked for last is what the plan asks for next. -/
theorem split (h : Interrupted plan es failure) : ∃ done planned e rest,
    plan = done ++ planned :: rest ∧ es = done ++ [e] ∧ e.demand = planned.demand := by
  cases h with
  | refused done rest hd _ => exact ⟨done, _, _, rest, rfl, rfl, hd⟩
  | unusable done rest _ => exact ⟨done, _, _, rest, rfl, rfl, rfl⟩

theorem append (h : Interrupted plan es failure) (later : List Exchange) :
    Interrupted (plan ++ later) es failure := by
  cases h with
  | refused done rest hd hf =>
    rw [List.append_assoc, List.cons_append]
    exact refused done _ hd hf
  | unusable done rest hu =>
    rw [List.append_assoc, List.cons_append]
    exact unusable done _ hu

theorem prepend (earlier : List Exchange) (h : Interrupted plan es failure) :
    Interrupted (earlier ++ plan) (earlier ++ es) failure := by
  cases h with
  | refused done rest hd hf =>
    rw [← List.append_assoc, ← List.append_assoc]
    exact refused _ rest hd hf
  | unusable done rest hu =>
    rw [← List.append_assoc, ← List.append_assoc]
    exact unusable _ rest hu

/-- The calls of an interrupted plan are the first of those it would have made. -/
theorem calls_isPrefix (h : Interrupted plan es failure) : callsOf es <+: callsOf plan := by
  obtain ⟨done, planned, e, rest, rfl, rfl, hd⟩ := h.split
  have : callsOf [e] = callsOf [planned] := by
    unfold callsOf
    simp only [List.filterMap_cons, List.filterMap_nil, hd]
  refine ⟨callsOf rest, ?_⟩
  rw [show planned :: rest = [planned] ++ rest from rfl, callsOf_append, callsOf_append,
    callsOf_append, this, List.append_assoc]

end Interrupted

/-! ## Following a plan -/

/-- The outcome is the value with which a plan ends, all of which was done, or the failure that
interrupted one. -/
def Follows (full : α → List Exchange → Prop) (es : List Exchange) : Except Failure α → Prop
  | .ok a => full a es
  | .error failure => ∃ a plan, full a plan ∧ Interrupted plan es failure

/-- Nothing more is asked for: what came of an exchange is used, or cannot be used. -/
def Uses (e : Exchange) (good : α → Prop) (es : List Exchange) : Except Failure α → Prop
  | .ok a => es = [] ∧ good a
  | .error failure => es = [] ∧ e.Unusable failure

theorem Comes.bind_uses {site : Site ω} {x : RunOperation ω α} {f : α → RunOperation ω β}
    {e : Exchange} {first : α → Prop} {good : β → Prop} (hx : Comes site x (Uses e first))
    (hf : ∀ a, first a → Comes site (f a) (Uses e good)) :
    Comes site (x >>= f) (Uses e good) := by
  refine hx.bind ?_ ?_
  · intro es a ⟨hes, ha⟩
    subst hes
    exact hf a ha
  · intro es failure h
    exact h

/-- The operation follows a plan that `full` describes together with the value at its end. -/
structure Planned (site : Site ω) (x : RunOperation ω α) (full : α → List Exchange → Prop) :
    Prop where
  /-- There is such a plan. -/
  possible : ∃ a plan, full a plan
  comes : Comes site x (Follows full)

namespace Planned

variable {site : Site ω} {x : RunOperation ω α} {first : α → List Exchange → Prop}
  {full : β → List Exchange → Prop}

theorem bind {f : α → RunOperation ω β} (hx : Planned site x first)
    (hf : ∀ a es, first a es → Planned site (f a) fun b es' => full b (es ++ es')) :
    Planned site (x >>= f) full := by
  constructor
  · obtain ⟨a, es, ha⟩ := hx.possible
    obtain ⟨b, es', hb⟩ := (hf a es ha).possible
    exact ⟨b, es ++ es', hb⟩
  · refine hx.comes.bind ?_ ?_
    · intro es a ha
      refine (hf a es ha).comes.mono fun es' o ho => ?_
      cases o with
      | ok b => exact ho
      | error failure =>
        obtain ⟨b, plan, hb, hi⟩ := ho
        exact ⟨b, es ++ plan, hb, hi.prepend es⟩
    · intro es failure ⟨a, plan, ha, hi⟩
      obtain ⟨b, es', hb⟩ := (hf a plan ha).possible
      exact ⟨b, plan ++ es', hb, hi.append es'⟩

/-- Nothing is asked for before what follows. -/
theorem bind_silent {f : α → RunOperation ω β} (hx : Planned site x fun _ es => es = [])
    (hf : ∀ a, Planned site (f a) full) : Planned site (x >>= f) full := by
  refine hx.bind fun a es hes => ?_
  subst hes
  exact hf a

/-- A single exchange, and what follows. -/
theorem bind_exchange {f : α → RunOperation ω β} {e : α → Exchange}
    (hx : Planned site x fun a es => es = [e a])
    (hf : ∀ a, Planned site (f a) fun b es => full b (e a :: es)) :
    Planned site (x >>= f) full := by
  refine hx.bind fun a es hes => ?_
  subst hes
  exact hf a

/-- Exchanges, and what is then made of the last of them without asking for more. -/
theorem bind_use {f : α → RunOperation ω β} {e : α → Exchange} (hx : Planned site x first)
    (hlast : ∀ a es, first a es → ∃ done, es = done ++ [e a])
    (hfull : ∀ a es, first a es → ∃ b, full b es)
    (hf : ∀ a es, first a es → Comes site (f a) (Uses (e a) fun b => full b es)) :
    Planned site (x >>= f) full := by
  constructor
  · obtain ⟨a, es, ha⟩ := hx.possible
    obtain ⟨b, hb⟩ := hfull a es ha
    exact ⟨b, es, hb⟩
  · refine hx.comes.bind ?_ ?_
    · intro es a ha
      refine (hf a es ha).mono fun es' o ho => ?_
      cases o with
      | ok b =>
        obtain ⟨rfl, hb⟩ := ho
        rwa [List.append_nil]
      | error failure =>
        obtain ⟨rfl, hu⟩ := ho
        obtain ⟨done, rfl⟩ := hlast a es ha
        obtain ⟨b, hb⟩ := hfull a _ ha
        rw [List.append_nil]
        exact ⟨b, _, hb, .unusable done [] hu⟩
    · intro es failure ⟨a, plan, hplan, hi⟩
      obtain ⟨b, hb⟩ := hfull a plan hplan
      exact ⟨b, plan, hb, hi⟩

theorem mono {full' : α → List Exchange → Prop} (hx : Planned site x first)
    (h : ∀ a es, first a es → full' a es) : Planned site x full' := by
  constructor
  · obtain ⟨a, es, ha⟩ := hx.possible
    exact ⟨a, es, h a es ha⟩
  · refine hx.comes.mono fun es o ho => ?_
    cases o with
    | ok a => exact h a es ho
    | error failure =>
      obtain ⟨a, plan, ha, hi⟩ := ho
      exact ⟨a, plan, h a plan ha, hi⟩

/-! ## Single exchanges -/

/-- A call of a party; what the party answers may be framed before it is passed on. -/
theorem ask [Nonempty α] {call : Call} {y z : SiteOperation ω α}
    (e : Except Failure α → Exchange)
    (hd : ∀ o, (e o).demand = .call call := by exact fun _ => rfl)
    (ht : ∀ o before after, Exchange.Happens y o before after →
      (e o).TakesPlace site before after := by exact fun _ _ _ h => h)
    (hf : ∀ failure, (e (.error failure)).failure? = some failure := by exact fun _ => rfl)
    (hz : ∀ world, z world = { y world with
      outcome := (y world).outcome.mapError (Demand.call call).framed } := by
        exact fun _ => rfl) :
    Planned site (FleetScaling.ask call z) fun a es => es = [e (.ok a)] := by
  refine ⟨⟨Classical.ofNonempty, _, rfl⟩, (Comes.ask hd ht hz).mono fun es o ⟨raw, hes, ho⟩ => ?_⟩
  subst hes ho
  cases raw with
  | ok a => rfl
  | error failure =>
    refine ⟨Classical.ofNonempty, _, rfl, ?_⟩
    rw [← hd (.error failure)]
    exact .refused [] [] ((hd _).trans (hd _).symm) (hf failure)

/-- A call whose answer is passed on as it is. -/
theorem call [Nonempty α] {call : Call} {y : SiteOperation ω α}
    (e : Except Failure α → Exchange)
    (hd : ∀ o, (e o).demand = .call call := by exact fun _ => rfl)
    (ht : ∀ o before after, Exchange.Happens y o before after →
      (e o).TakesPlace site before after := by exact fun _ _ _ h => h)
    (hf : ∀ failure, (e (.error failure)).failure? = some failure := by exact fun _ => rfl)
    (hframe : ∀ failure, (Demand.call call).framed failure = failure := by
      exact fun _ => rfl) :
    Planned site (FleetScaling.ask call y) fun a es => es = [e (.ok a)] :=
  ask e hd ht hf (apply_framed hframe)

/-- A file that is read. -/
theorem readFile (path : String) :
    Planned site (((site.readFile path).renote RunNote.party).onPart sitePart) fun content es =>
      es = [.fileRead path (.ok content)] := by
  refine ⟨⟨.ok "", _, rfl⟩, (Comes.readFile path).mono fun es o hes => ?_⟩
  subst hes
  cases o with
  | ok content => rfl
  | error failure => exact ⟨.ok "", _, rfl, .refused [] [] rfl rfl⟩

/-! ## No exchanges -/

/-- Asks for nothing and succeeds. -/
theorem of_silent [Nonempty α] (h : ∀ world, (x world).world.site = world.site ∧
    callNotes (x world).notes = [] ∧ ∃ a, (x world).outcome = .ok a) :
    Planned site x fun _ es => es = [] := by
  refine ⟨⟨Classical.ofNonempty, [], rfl⟩, fun world => ?_⟩
  obtain ⟨hw, hn, a, ha⟩ := h world
  exact ⟨[], hw, hn, by rw [ha]; rfl⟩

/-- Something that the run notes itself. -/
theorem note {n : RunNote} (h : n.call? = none) :
    Planned site (Operation.note n) fun _ es => es = [] :=
  of_silent fun _ => ⟨rfl, List.filterMap_cons_none h, (), rfl⟩

theorem pure (a : α) : Planned site (pure a : RunOperation ω α) fun b es => b = a ∧ es = [] :=
  ⟨⟨a, [], rfl, rfl⟩, fun _ => ⟨[], rfl, rfl, rfl, rfl⟩⟩

end Planned

/-! ## Plans that fail -/

/-- A conversation that ends with this failure: what was asked for last has failed. -/
def Refused (es : List Exchange) (failure : Failure) : Prop :=
  ∃ done e raw, es = done ++ [e] ∧ e.failure? = some raw ∧ failure = e.demand.framed raw

/-- What was done since `before` has failed because the last party that was asked did. -/
def FailsItself (site : Site ω) (before : RunWorld ω) (done : Trace RunNote (RunWorld ω) α) : Prop :=
  ∃ es failure, Conversation site before.site es done.world.site ∧
    callNotes done.notes = callsOf es ∧ done.outcome = .error failure ∧ Refused es failure

namespace FailsItself

variable {site : Site ω} {world : RunWorld ω} {x : RunOperation ω α} {f : α → RunOperation ω β}

theorem first (h : FailsItself site world (x world)) : FailsItself site world ((x >>= f) world) := by
  obtain ⟨es, failure, talk, hn, ho, refused⟩ := h
  rw [Operation.bind_of_error ho]
  exact ⟨es, failure, talk, hn, rfl, refused⟩

theorem second {Q : List Exchange → Except Failure α → Prop} (hx : Comes site x Q) {a : α}
    (ha : (x world).outcome = .ok a) (h : FailsItself site (x world).world (f a (x world).world)) :
    FailsItself site world ((x >>= f) world) := by
  obtain ⟨es, talk, hn, _⟩ := hx world
  obtain ⟨es', failure, talk', hn', ho, done, e, raw, rfl, hraw, hf⟩ := h
  rw [Operation.bind_of_ok ha]
  refine ⟨es ++ (done ++ [e]), failure, talk.append talk', ?_, ho, ?_⟩
  · rw [callNotes_append, callsOf_append, hn, hn']
  · exact ⟨es ++ done, e, raw, (List.append_assoc ..).symm, hraw, hf⟩

end FailsItself

/-- A planned operation fails because a party does, or because what came of an exchange of its plan
cannot be used. -/
theorem Planned.fails {site : Site ω} {x : RunOperation ω α} {full : α → List Exchange → Prop}
    {world : RunWorld ω} {failure : Failure} (hx : Planned site x full)
    (failed : (x world).outcome = .error failure) :
    FailsItself site world (x world) ∨ ∃ a done e rest later, full a (done ++ e :: rest) ∧
      Conversation site world.site (done ++ [e]) later ∧ e.Unusable failure := by
  obtain ⟨es, talk, hn, follows⟩ := hx.comes world
  rw [failed] at follows
  obtain ⟨a, plan, hplan, interrupted⟩ := follows
  cases interrupted with
  | refused done rest _ hraw =>
    exact Or.inl ⟨_, _, talk, hn, failed, done, _, _, rfl, hraw, rfl⟩
  | unusable done rest hu => exact Or.inr ⟨a, done, _, rest, _, hplan, talk, hu⟩

/-- What cannot be used is the last of some exchanges, if all before it can. -/
theorem Exchange.Unusable.eq_last {opening done rest : List Exchange} {last e : Exchange}
    {failure : Failure} (hu : e.Unusable failure)
    (usable : ∀ e ∈ opening, ¬e.Unusable failure)
    (h : opening ++ [last] = done ++ e :: rest) : done = opening ∧ e = last := by
  rcases List.eq_nil_or_concat rest with rfl | ⟨rest, e', rfl⟩
  · obtain ⟨hdone, he⟩ := List.append_inj' h rfl
    exact ⟨hdone.symm, (List.singleton_inj.1 he).symm⟩
  · rw [List.concat_eq_append, ← List.cons_append, ← List.append_assoc] at h
    obtain ⟨hopening, _⟩ := List.append_inj' h rfl
    refine absurd hu (usable e ?_)
    rw [hopening]
    exact List.mem_append_right done List.mem_cons_self

end FleetScaling

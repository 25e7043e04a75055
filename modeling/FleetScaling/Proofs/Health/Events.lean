import FleetScaling.Api.Routes
import FleetScaling.Proofs.LastWord

/-!
# What the registry has been told

The registry is told one thing after another: a component is marked, the outcome of an operation that
used it is observed, or the bench becomes ready or stops being so. Whatever it was told, each component
stands as the last event about it says (`HealthRegistry.shown_afterAll`), and the bench is ready as it
was said last (`HealthRegistry.ready_afterAll`). The two routes about health follow from these alone
(`HealthRegistry.routes_follow_events`).
-/

namespace FleetScaling

open Json Text Time

/-! ## The worst health -/

namespace Health

/-- How bad a health is. -/
def rank : Health → Nat
  | healthy => 0
  | degraded => 1
  | unhealthy => 2

theorem rank_worse (h k : Health) : (h.worse k).rank = max h.rank k.rank := by
  cases h <;> cases k <;> rfl

theorem worse_eq_or (h k : Health) : h.worse k = h ∨ h.worse k = k := by
  cases h <;> cases k <;> decide

theorem eq_unhealthy_of_rank {h : Health} (hr : unhealthy.rank ≤ h.rank) : h = unhealthy := by
  cases h
  · exact absurd hr (by decide)
  · exact absurd hr (by decide)
  · rfl

/-- The worst of several is one of them, or what one started with. -/
theorem foldl_worse_mem (hs : List Health) (h : Health) : hs.foldl worse h ∈ h :: hs := by
  induction hs generalizing h with
  | nil => exact List.mem_singleton_self h
  | cons k hs ih =>
    rw [List.foldl_cons]
    have hw := ih (h.worse k)
    obtain he | he := worse_eq_or h k
    · rw [he] at hw ⊢
      exact List.cons_subset_cons h (List.subset_cons_self k hs) hw
    · rw [he] at hw ⊢
      exact List.mem_cons_of_mem h hw

/-- None of several is worse than the worst. -/
theorem rank_le_foldl_worse {hs : List Health} {h k : Health} (hk : k ∈ h :: hs) :
    k.rank ≤ (hs.foldl worse h).rank := by
  induction hs generalizing h k with
  | nil => exact List.mem_singleton.mp hk ▸ Nat.le_refl _
  | cons k' hs ih =>
    rw [List.foldl_cons]
    have hfirst : (h.worse k').rank ≤ _ := ih List.mem_cons_self
    rw [rank_worse] at hfirst
    obtain rfl | rfl | hk : k = h ∨ k = k' ∨ k ∈ hs := by simpa using hk
    · exact Nat.le_trans (Nat.le_max_left ..) hfirst
    · exact Nat.le_trans (Nat.le_max_right ..) hfirst
    · exact ih (List.mem_cons_of_mem _ hk)

end Health

/-! ## Events -/

/-- What is said about a component: its health and a detail. -/
abbrev Standing := Health × Option String

/-- Something that the registry is told. -/
inductive HealthEvent : Type 1
  | marked (component : Component) (health : Health) (detail : Option String)
  | observed {α : Type} (component : Component) (outcome : Except Failure α)
  | readySet (ready : Bool)

namespace HealthEvent

/-- What the outcome of an operation says: a failure of soft checks, in whatever contexts, is as good
as success, and any other failure is told with all its contexts and causes. -/
def standingOf {α : Type} : Except Failure α → Standing
  | .ok _ => (.healthy, none)
  | .error ⟨_, .softFailures _⟩ => (.healthy, none)
  | .error ⟨contexts, cause⟩ => (.unhealthy, some (joined ": " (contexts ++ cause.messages)))

/-- What the event says about a component, if it is about it. -/
def says? (c : Component) : HealthEvent → Option Standing
  | marked component health detail => if component = c then some (health, detail) else none
  | observed component outcome => if component = c then some (standingOf outcome) else none
  | readySet _ => none

/-- Whether the bench is ready, if the event says so or the contrary. -/
def ready? : HealthEvent → Option Bool
  | readySet ready => some ready
  | _ => none

end HealthEvent

/-- How a component stands after some events: as the last one about it says, and healthy before. -/
def standing (events : List HealthEvent) (c : Component) : Standing :=
  (events.filterMap (HealthEvent.says? c)).getLast?.getD (.healthy, none)

/-- Whether the bench is ready after some events: as the last one about that says. -/
def lastReady (events : List HealthEvent) : Bool :=
  (events.filterMap HealthEvent.ready?).getLast?.getD false

namespace HealthRegistry

variable {r : HealthRegistry} {now : Instant} {e : HealthEvent} {c : Component}

/-- The registry after an event. -/
def after (r : HealthRegistry) (now : Instant) : HealthEvent → HealthRegistry
  | .marked component health detail => r.mark now component health detail
  | .observed component outcome => r.observe now component outcome
  | .readySet ready => r.setReady ready

/-- The registry after some events, each at its moment. -/
def afterAll (r : HealthRegistry) (events : List (Instant × HealthEvent)) : HealthRegistry :=
  events.foldl (fun r e => r.after e.1 e.2) r

/-- How a component stands. -/
def shown (r : HealthRegistry) (c : Component) : Standing :=
  ((r.judgement c).health, (r.judgement c).detail)

/-! ## One event -/

theorem verdict_eq {α : Type} (outcome : Except Failure α) :
    verdict outcome = HealthEvent.standingOf outcome := by
  match outcome with
  | .ok _ => rfl
  | .error ⟨contexts, cause⟩ => cases cause <;> rfl

theorem shown_mark (r : HealthRegistry) (now : Instant) (component c : Component)
    (standing : Standing) : (r.mark now component standing.1 standing.2).shown c =
      (if component = c then some standing else none).getD (r.shown c) := by
  unfold shown mark
  by_cases h : c = component
  · simp only [if_pos h, if_pos h.symm]
    rfl
  · simp only [if_neg h, if_neg (Ne.symm h)]
    rfl

/-- A component stands as the event says, or as before if the event is not about it. -/
theorem shown_after (r : HealthRegistry) (now : Instant) (e : HealthEvent) (c : Component) :
    (r.after now e).shown c = (e.says? c).getD (r.shown c) := by
  cases e with
  | marked component health detail => exact r.shown_mark now component c (health, detail)
  | observed component outcome =>
    show (r.mark now component (verdict outcome).1 (verdict outcome).2).shown c = _
    rw [verdict_eq]
    exact r.shown_mark now component c _
  | readySet ready => rfl

/-- What is known about a component stays, the moment of its last change too, when another one is
told about. -/
theorem judgement_after (h : e.says? c = none) : (r.after now e).judgement c = r.judgement c := by
  have other {component : Component} {s : Standing}
      (h : (if component = c then some s else none) = none) : ¬c = component := by
    intro he
    rw [if_pos he.symm] at h
    cases h
  cases e with
  | marked component health detail => exact if_neg (other h)
  | observed component outcome => exact if_neg (other h)
  | readySet ready => rfl

theorem ready_after (r : HealthRegistry) (now : Instant) (e : HealthEvent) :
    (r.after now e).ready = e.ready?.getD r.ready := by
  cases e <;> rfl

/-! ## Many events -/

theorem shown_afterAll (r : HealthRegistry) (events : List (Instant × HealthEvent))
    (c : Component) : (r.afterAll events).shown c =
      ((events.map Prod.snd).filterMap (HealthEvent.says? c)).getLast?.getD (r.shown c) := by
  rw [List.filterMap_map]
  exact observed_foldl (fun r : HealthRegistry => r.shown c) (fun r e => r.shown_after e.1 e.2 c) r
    events

theorem ready_afterAll (r : HealthRegistry) (events : List (Instant × HealthEvent)) :
    (r.afterAll events).ready =
      ((events.map Prod.snd).filterMap HealthEvent.ready?).getLast?.getD r.ready := by
  rw [List.filterMap_map]
  exact observed_foldl HealthRegistry.ready (fun r e => r.ready_after e.1 e.2) r events

/-! ## The two views -/

theorem rank_le_overall (r : HealthRegistry) (c : Component) :
    (r.judgement c).health.rank ≤ r.overall.rank :=
  Health.rank_le_foldl_worse (List.mem_cons_of_mem _
    (List.mem_map_of_mem (f := fun c => (r.judgement c).health) c.mem_all))

/-- Some component is as bad as the whole: a fold that starts healthy is not worse than that. -/
theorem exists_overall (r : HealthRegistry) : ∃ c, (r.judgement c).health = r.overall := by
  obtain hw | hw := List.mem_cons.mp (Health.foldl_worse_mem
    (Component.all.map fun c => (r.judgement c).health) .healthy)
  · have hle := r.rank_le_overall .headNode
    rw [show r.overall = .healthy from hw] at hle
    refine ⟨.headNode, ?_⟩
    rw [show r.overall = .healthy from hw]
    cases hh : (r.judgement .headNode).health
    · rfl
    all_goals exact absurd hle (by rw [hh]; decide)
  · obtain ⟨c, -, hc⟩ := List.mem_map.mp hw
    exact ⟨c, hc⟩

theorem overall_unhealthy (r : HealthRegistry) :
    r.overall = .unhealthy ↔ ∃ c, (r.judgement c).health = .unhealthy := by
  constructor
  · intro h
    obtain ⟨c, hc⟩ := r.exists_overall
    exact ⟨c, hc.trans h⟩
  · intro ⟨c, hc⟩
    exact Health.eq_unhealthy_of_rank (hc ▸ r.rank_le_overall c)

theorem obstacle?_eq_none (r : HealthRegistry) :
    r.obstacle? = none ↔ r.ready = true ∧ ∀ c, (r.judgement c).health ≠ .unhealthy := by
  unfold obstacle?
  cases r.ready with
  | false => exact iff_of_false nofun (fun h => nomatch h.1)
  | true =>
    rw [if_pos rfl, Option.map_eq_none_iff, List.find?_eq_none]
    constructor
    · exact fun h => ⟨rfl, fun c hc => h c c.mem_all (decide_eq_true hc)⟩
    · exact fun h c _ hc => h.2 c (of_decide_eq_true hc)

theorem obstacle?_uninitialized (r : HealthRegistry) :
    r.obstacle? = some "Bench not yet initialized" ↔ r.ready = false := by
  unfold obstacle?
  cases r.ready with
  | false => exact iff_of_true rfl rfl
  | true =>
    refine iff_of_false (fun h => ?_) nofun
    rw [if_pos rfl, Option.map_eq_some_iff] at h
    obtain ⟨c, -, hc⟩ := h
    revert hc
    cases c <;> decide

/-- When the bench has become ready, the first component that is unhealthy is the obstacle. -/
theorem obstacle?_first {r : HealthRegistry} {c : Component} {before later : List Component}
    (hready : r.ready = true) (hall : Component.all = before ++ c :: later)
    (hc : (r.judgement c).health = .unhealthy)
    (hbefore : ∀ b ∈ before, (r.judgement b).health ≠ .unhealthy) :
    r.obstacle? = some (c.title ++ " unhealthy") := by
  have hfind : Component.all.find? (fun c => (r.judgement c).health = .unhealthy) = some c := by
    refine List.find?_eq_some_iff_append.mpr ⟨decide_eq_true hc, before, later, hall, ?_⟩
    intro b hb
    rw [decide_eq_false (hbefore b hb)]
    rfl
  unfold obstacle?
  rw [if_pos hready, hfind]
  rfl

end HealthRegistry

/-! ## The routes -/

namespace Api

theorem availability_eq_ok (available : Bool) : availability available = 200 ↔ available = true := by
  cases available <;> decide

theorem availability_eq_failed (available : Bool) :
    availability available = 503 ↔ available = false := by
  cases available <;> decide

namespace State

variable (s : State)

theorem healthz_failed : (s.reply "GET" "/healthz").code = 503 ↔
    ∃ c, (s.health.judgement c).health = .unhealthy := by
  rw [show s.reply "GET" "/healthz" = _ from s.reply_get .health]
  show availability _ = 503 ↔ _
  rw [availability_eq_failed, decide_eq_false_iff_not, Ne, Decidable.not_not]
  exact s.health.overall_unhealthy

theorem healthz_ok : (s.reply "GET" "/healthz").code = 200 ↔
    ∀ c, (s.health.judgement c).health ≠ .unhealthy := by
  rw [show s.reply "GET" "/healthz" = _ from s.reply_get .health]
  show availability _ = 200 ↔ _
  rw [availability_eq_ok, decide_eq_true_iff, Ne, s.health.overall_unhealthy, not_exists]

theorem readyz_ok : (s.reply "GET" "/readyz").code = 200 ↔ s.health.obstacle? = none := by
  rw [show s.reply "GET" "/readyz" = _ from s.reply_get .readiness]
  show availability _ = 200 ↔ _
  rw [availability_eq_ok, HealthRegistry.isReady, Option.isNone_iff_eq_none]

theorem readyz_of_ready (h : s.health.obstacle? = none) :
    (s.reply "GET" "/readyz").body = .document (.object [("ready", .bool true)]) := by
  rw [show s.reply "GET" "/readyz" = _ from s.reply_get .readiness]
  show Body.document s.health.readiness = _
  rw [HealthRegistry.readiness, HealthRegistry.isReady, h]
  rfl

theorem readyz_of_obstacle {reason : String} (h : s.health.obstacle? = some reason) :
    s.reply "GET" "/readyz" =
      .of 503 (.document (.object [("ready", .bool false), ("reason", .text reason)])) := by
  rw [show s.reply "GET" "/readyz" = _ from s.reply_get .readiness]
  show Reply.of (availability s.health.isReady) (.document s.health.readiness) = _
  rw [HealthRegistry.readiness, HealthRegistry.isReady, h]
  rfl

end State

end Api

namespace HealthRegistry

/-- **Health follows the events.** Let `said` be all that a registry was told since its start. Then
* each component stands as the last event about it says, and an event changes nothing that is known
  about the components it is not about;
* `/healthz` reports exactly the four components as they stand, and as a whole the worst of them; it
  answers 503 if some component is unhealthy and 200 if none is;
* `/readyz` answers 200 if the bench is said to be ready and no component is unhealthy, and 503 with a
  reason otherwise: that the bench is not initialized if and only if it is not said to be ready, and
  else the first unhealthy component;
* so a ready bench is reported as available, and components that are at worst degraded do not make
  either route fail. -/
theorem routes_follow_events (start : Instant) (events : List (Instant × HealthEvent))
    (metrics : Metrics) (progress : RunProgress) :
    let said := events.map Prod.snd
    let r := (initial start).afterAll events
    let unhealthy (c : Component) := (standing said c).1 = .unhealthy
    let healthz := Api.State.reply ⟨r, metrics, progress⟩ "GET" "/healthz"
    let readyz := Api.State.reply ⟨r, metrics, progress⟩ "GET" "/readyz"
    ((∀ c, r.shown c = standing said c) ∧
      ∀ now e c, e.says? c = none → (r.after now e).judgement c = r.judgement c) ∧
    (∃ worst : Health,
      ((∃ c, (standing said c).1 = worst) ∧ ∀ c, (standing said c).1.rank ≤ worst.rank) ∧
      healthz.body = .document (.object [("status", .text worst.name),
        ("components", .object ([Component.headNode, .scheduler, .computeFleet, .collector].map
          fun c => (c.name, .object ([("status", .text (standing said c).1.name)] ++
            Value.optionalMember "detail" (standing said c).2 .text ++
            [("since", .text (r.judgement c).since.rfc3339)]))))])) ∧
    (healthz.code = 503 ↔ ∃ c, unhealthy c) ∧ (healthz.code = 200 ↔ ∀ c, ¬unhealthy c) ∧
    (readyz.code = 200 ↔ lastReady said = true ∧ ∀ c, ¬unhealthy c) ∧
    (readyz.code = 200 →
      readyz.body = .document (.object [("ready", .bool true)])) ∧
    (readyz.code ≠ 200 → readyz.code = 503 ∧ ∃ reason,
      readyz.body = .document (.object [("ready", .bool false), ("reason", .text reason)]) ∧
      (reason = "Bench not yet initialized" ↔ lastReady said = false) ∧
      ∀ before c later, lastReady said = true →
        [Component.headNode, .scheduler, .computeFleet, .collector] = before ++ c :: later →
        unhealthy c → (∀ b ∈ before, ¬unhealthy b) → reason = c.title ++ " unhealthy") ∧
    (readyz.code = 200 → healthz.code = 200) ∧
    ((∀ c, (standing said c).1.rank ≤ Health.degraded.rank) →
      healthz.code = 200 ∧ (lastReady said = true → readyz.code = 200)) := by
  intro said r unhealthy healthz readyz
  have hshown (c : Component) : r.shown c = standing said c :=
    (initial start).shown_afterAll events c
  have hhealth (c : Component) : (r.judgement c).health = (standing said c).1 :=
    congrArg Prod.fst (hshown c)
  have hdetail (c : Component) : (r.judgement c).detail = (standing said c).2 :=
    congrArg Prod.snd (hshown c)
  have hready : r.ready = lastReady said := (initial start).ready_afterAll events
  have hfails : healthz.code = 503 ↔ ∃ c, unhealthy c :=
    (Api.State.healthz_failed _).trans (exists_congr fun c => by rw [hhealth c])
  have hworks : healthz.code = 200 ↔ ∀ c, ¬unhealthy c :=
    (Api.State.healthz_ok _).trans (forall_congr' fun c => by rw [hhealth c])
  have hreadies : readyz.code = 200 ↔ lastReady said = true ∧ ∀ c, ¬unhealthy c := by
    refine (Api.State.readyz_ok _).trans (r.obstacle?_eq_none.trans ?_)
    rw [hready]
    exact and_congr_right fun _ => forall_congr' fun c => by rw [hhealth c]
  refine ⟨⟨hshown, fun _ _ _ => judgement_after⟩, ⟨r.overall, ⟨?worst, ?_⟩, ?report⟩, hfails, hworks,
    hreadies, ?ready, ?reason, fun hcode => hworks.mpr (hreadies.mp hcode).2, ?degraded⟩
  case worst =>
    obtain ⟨c, hc⟩ := r.exists_overall
    exact ⟨c, (hhealth c).symm.trans hc⟩
  · exact fun c => hhealth c ▸ r.rank_le_overall c
  case report =>
    rw [show healthz = _ from Api.State.reply_get _ .health]
    show Api.Body.document r.report = _
    simp only [report, judgementValue, hhealth, hdetail, Component.all]
  case ready => exact fun hcode => Api.State.readyz_of_ready _ ((Api.State.readyz_ok _).mp hcode)
  case reason =>
    intro hcode
    obtain ⟨reason, hreason⟩ := Option.ne_none_iff_exists'.mp
      fun h => hcode ((Api.State.readyz_ok ⟨r, metrics, progress⟩).mpr h)
    have hreply : readyz = _ := Api.State.readyz_of_obstacle _ hreason
    rw [hreply]
    refine ⟨rfl, reason, rfl, ?_, ?_⟩
    · rw [← hready, ← r.obstacle?_uninitialized, hreason, Option.some_inj]
    · intro before c later hr hall hc hbefore
      have hfirst := obstacle?_first (hready.trans hr) hall ((hhealth c).trans hc)
        fun b hb => hhealth b ▸ hbefore b hb
      exact Option.some.inj (hreason.symm.trans hfirst)
  case degraded =>
    intro hdegraded
    have hc (c : Component) : ¬unhealthy c := fun hc =>
      absurd (hdegraded c) (by rw [show (standing said c).1 = _ from hc]; decide)
    exact ⟨hworks.mpr hc, fun hr => hreadies.mpr ⟨hr, hc⟩⟩

end HealthRegistry

end FleetScaling

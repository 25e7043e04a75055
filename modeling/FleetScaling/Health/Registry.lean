import FleetScaling.Failure
import FleetScaling.Time.Instant

/-!
# Health

The bench depends on four components, and each is judged by the last operation that used it. The
registry keeps a judgement for every component (there are always exactly four) and whether the
bench has become ready. Soft failures say something about durations, not about a component, so
they leave it healthy.
-/

namespace FleetScaling

open Json Time

/-- What the bench depends on. -/
inductive Component
  | headNode
  | scheduler
  | computeFleet
  | collector
  deriving DecidableEq, Repr

namespace Component

/-- Every component, in the order of reports. -/
def all : List Component := [headNode, scheduler, computeFleet, collector]

theorem mem_all (c : Component) : c ∈ all := by cases c <;> decide

/-- The component's name in documents. -/
def name : Component → String
  | headNode => "head_node"
  | scheduler => "scheduler"
  | computeFleet => "compute_fleet"
  | collector => "collector"

/-- The component's name in sentences. -/
def title : Component → String
  | headNode => "HeadNode"
  | scheduler => "Scheduler"
  | computeFleet => "ComputeFleet"
  | collector => "Collector"

end Component

/-- How well a component works, best first. -/
inductive Health
  | healthy
  /-- It works, but some of the last operations failed. -/
  | degraded
  | unhealthy
  deriving DecidableEq, Repr

namespace Health

/-- The name in documents. -/
def name : Health → String
  | healthy => "healthy"
  | degraded => "degraded"
  | unhealthy => "unhealthy"

/-- The worse of two. -/
def worse : Health → Health → Health
  | unhealthy, _ => unhealthy
  | _, unhealthy => unhealthy
  | degraded, _ => degraded
  | _, degraded => degraded
  | healthy, healthy => healthy

end Health

/-- What is known about a component. -/
structure Judgement where
  health : Health
  detail : Option String
  /-- When the health last changed. -/
  since : Instant
  deriving DecidableEq

/-- The judgements of all components. -/
structure HealthRegistry where
  judgement : Component → Judgement
  /-- Whether the head node has answered for the first time. -/
  ready : Bool

namespace HealthRegistry

/-- At first every component is healthy and the bench is not ready. -/
def initial (now : Instant) : HealthRegistry := ⟨fun _ => ⟨.healthy, none, now⟩, false⟩

/-- The registry after a component was judged; the time of change stays while the health does. -/
def mark (r : HealthRegistry) (now : Instant) (component : Component) (health : Health)
    (detail : Option String) : HealthRegistry :=
  { r with judgement := fun c =>
      if c = component then
        let before := r.judgement c
        ⟨health, detail, if before.health = health then before.since else now⟩
      else r.judgement c }

/-- The judgement that the outcome of an operation leads to. -/
def verdict (outcome : Except Failure α) : Health × Option String :=
  match outcome with
  | .ok _ => (.healthy, none)
  | .error failure =>
    if failure.isSoft then (.healthy, none) else (.unhealthy, some failure.message)

/-- The registry after an operation that used a component. -/
def observe (r : HealthRegistry) (now : Instant) (component : Component)
    (outcome : Except Failure α) : HealthRegistry :=
  let (health, detail) := verdict outcome
  r.mark now component health detail

/-- The registry with the bench ready or not. -/
def setReady (r : HealthRegistry) (ready : Bool) : HealthRegistry := { r with ready }

/-! ## Reports -/

/-- The worst health of all components. -/
def overall (r : HealthRegistry) : Health :=
  (Component.all.map fun c => (r.judgement c).health).foldl Health.worse .healthy

/-- The judgement as a document. -/
def judgementValue (j : Judgement) : Value :=
  .object ([("status", .text j.health.name)] ++ Value.optionalMember "detail" j.detail .text ++
    [("since", .text j.since.rfc3339)])

/-- The report on all components. -/
def report (r : HealthRegistry) : Value :=
  .object [("status", .text r.overall.name),
    ("components", .object (Component.all.map fun c => (c.name, judgementValue (r.judgement c))))]

/-- Why the bench is not ready, unless it is: it has not started up, or a component is unhealthy. -/
def obstacle? (r : HealthRegistry) : Option String :=
  if r.ready then
    (Component.all.find? fun c => (r.judgement c).health = .unhealthy).map fun c =>
      c.title ++ " unhealthy"
  else some "Bench not yet initialized"

/-- Whether the bench is ready and every component usable. -/
def isReady (r : HealthRegistry) : Bool := r.obstacle?.isNone

/-- The report on readiness. -/
def readiness (r : HealthRegistry) : Value :=
  .object ([("ready", .bool r.isReady)] ++ Value.optionalMember "reason" r.obstacle? .text)

end HealthRegistry

end FleetScaling

import FleetScaling.Health.Registry
import FleetScaling.Metrics.Exposition
import FleetScaling.Progress.Tracker

/-!
# The HTTP interface

While it runs, the bench answers questions about its health, readiness, metrics, status and
results. Every route is only read: it answers `GET`, and `HEAD` with the same reply less its body.
-/

namespace FleetScaling.Api

open Json Text

/-- What the routes show. -/
structure State where
  health : HealthRegistry
  metrics : Metrics
  progress : RunProgress

/-- The routes. -/
inductive Route
  | health
  | readiness
  | metrics
  | status
  | results
  deriving DecidableEq, Repr

namespace Route

/-- Every route. -/
def all : List Route := [health, readiness, metrics, status, results]

/-- The path of a route. -/
def path : Route → String
  | health => "/healthz"
  | readiness => "/readyz"
  | metrics => "/metrics"
  | status => "/api/v1/status"
  | results => "/api/v1/results"

/-- The route of a target, whose query and fragment do not matter. -/
def ofTarget? (target : String) : Option Route :=
  let path := String.ofList (target.toList.takeWhile fun c => c != '?' && c != '#')
  all.find? fun route => route.path = path

theorem ofTarget?_path (route : Route) : ofTarget? route.path = some route := by
  cases route <;> decide +kernel

end Route

/-- What a reply carries. -/
inductive Body
  | document (value : Value)
  | plain (text : String)
  | nothing

namespace Body

/-- The type of the content, if there is any. -/
def contentType : Body → Option String
  | document _ => some "application/json"
  | plain _ => some "text/plain; charset=utf-8"
  | nothing => none

/-- The content as a text. -/
def text : Body → String
  | document value => value.compact
  | plain text => text
  | nothing => ""

end Body

/-- A reply to a request. -/
structure Reply where
  /-- The status code of the reply. -/
  code : Nat
  contentType : Option String
  body : Body

namespace Reply

/-- A reply with a body. -/
def of (code : Nat) (body : Body) : Reply := ⟨code, body.contentType, body⟩

/-- A reply that is only a code. -/
def bare (code : Nat) : Reply := ⟨code, none, .nothing⟩

end Reply

/-- The code for something that works or does not. -/
def availability (available : Bool) : Nat := if available then 200 else 503

namespace State

/-- What a route shows. Degraded components still work. -/
def content (s : State) : Route → Reply
  | .health => .of (availability (s.health.overall ≠ .unhealthy)) (.document s.health.report)
  | .readiness => .of (availability s.health.isReady) (.document s.health.readiness)
  | .metrics => .of 200 (.plain s.metrics.text)
  | .status => .of 200 (.document s.progress.status.toValue)
  | .results => .of 200 (.document s.progress.results.toValue)

/-- The reply to a request. -/
def reply (s : State) (method target : String) : Reply :=
  match Route.ofTarget? target with
  | none => .bare 404
  | some route =>
    if method = "GET" then s.content route
    else if method = "HEAD" then { s.content route with body := .nothing }
    else .bare 405

theorem reply_get (s : State) (route : Route) : s.reply "GET" route.path = s.content route := by
  unfold reply
  rw [route.ofTarget?_path]
  rfl

end State

end FleetScaling.Api

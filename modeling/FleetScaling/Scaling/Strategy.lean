import FleetScaling.Json.Decoder

/-!
# Provisioning strategies

How the orchestrator answers a request for more nodes than it can launch.
-/

namespace FleetScaling

open Json

/-- What happens when a request cannot be met in full. -/
inductive Strategy
  /-- Whatever capacity is available is launched. -/
  | bestEffort
  /-- The full request is launched or nothing. -/
  | allOrNothing
  deriving DecidableEq, Repr

namespace Strategy

/-- The strategy's name in files, requests and reports. -/
def name : Strategy → String
  | bestEffort => "best-effort"
  | allOrNothing => "all-or-nothing"

/-- The strategy as the log shows it. -/
def shown : Strategy → String
  | bestEffort => "BestEffort"
  | allOrNothing => "AllOrNothing"

/-- Every strategy by its name. -/
def byName : List (String × Strategy) :=
  [(bestEffort.name, bestEffort), (allOrNothing.name, allOrNothing)]

/-- The strategy of a name. -/
def ofName? (name : String) : Option Strategy := byName.lookup name

/-- What is said about a name that no strategy has. -/
def unknownMessage (name : String) : String := "Unknown scaling strategy: " ++ name

/-- Decodes a strategy by its name. -/
def decoder : Decoder Strategy := .variant byName

theorem ofName?_name (s : Strategy) : ofName? s.name = some s := by
  cases s <;> decide

end Strategy

end FleetScaling

import FleetScaling.Run.Cycle

/-!
# The stress test

One cycle for each target, with a pause between targets so that the cloud accepts requests for
many instances again. The soft failures of all cycles are raised together at the end.
-/

namespace FleetScaling

open Time

/-- One cycle, its result and failures published. -/
def trackedCycle (context : RunContext) (site : Site ω) (target : UInt32) :
    RunOperation ω CycleResult := do
  let result ← cycle context site target
  publish (.result result)
  let failures ← failuresSoFar
  publish (.failures failures)
  own (.measured (.softFailures failures.length))
  pure result

/-- Waits before the next target. -/
def refill (context : RunContext) (site : Site ω) : RunOperation ω Unit := do
  publish (.phase .waitingForRefill none)
  tell (Journal.refilling site.fleet.name context.refillDelay.seconds)
  own (.waited context.refillDelay)

/-- One cycle for each target. -/
def cycles (context : RunContext) (site : Site ω) :
    List UInt32 → RunOperation ω (List CycleResult)
  | [] => pure []
  | target :: rest => do
    let result ← trackedCycle context site target
    if !rest.isEmpty then refill context site
    let results ← cycles context site rest
    pure (result :: results)

/-- The whole test, with nothing published about its end. -/
def stressLoop (context : RunContext) (site : Site ω) : RunOperation ω (List CycleResult) := do
  ask .disableProtectedMode (disableProtectedMode site.headNode)
  own (.measured (.run context.region context.computeNode context.strategy.name))
  let results ← cycles context site context.targets
  let failures ← failuresSoFar
  .ofExcept (SoftChecks.finish ⟨failures⟩)
  pure results

/-- Runs the stress test; its end is published too. -/
def stressTest (context : RunContext) (site : Site ω) : RunOperation ω (List CycleResult) := do
  let outcome ← (stressLoop context site).attempt
  match outcome with
  | .ok _ => publish .completed
  | .error failure => publish (.failed failure.message)
  .ofExcept outcome

end FleetScaling

-- SUMMARY: Scenarios: replaying triggers against a graph, and the report of a replay.
import AudioPolicy.Engine

/-! # Scenarios

A scenario is a graph with triggers to replay against it. A step of the replay
processes one trigger. If the scenario asks for it, the step then applies the list that
was delivered, so that the next trigger meets the changed graph. -/

namespace AudioPolicy

/-- A graph with triggers to replay. -/
structure Scenario where
  state : Graph := {}
  triggers : List Trigger := []
  /-- Whether each delivered list is applied to the graph. -/
  applyActions : Bool := false
  deriving DecidableEq, Repr

namespace Scenario

/-- How the replay of one trigger went. -/
structure Step where
  index : Nat
  trigger : Trigger
  origin : Option Origin := none
  actions : List Action := []
  error : Option String := none
  deriving DecidableEq, Repr

/-! ## Replay -/

/-- Takes the delivered lists from the router and applies them if asked to. -/
def applyDelivered (applies : Bool) (router : Router) : List Delivery → Logged Router
  | [] => return router
  | delivery :: deliveries => do
    let router ← if applies then router.apply delivery.actions else pure router
    applyDelivered applies router deliveries

/-- Replays one trigger. -/
def replayStep (engine : Engine) (applies : Bool) (router : Router) (index : Nat)
    (trigger : Trigger) : Logged (Step × Router) := do
  let (result, router) ← engine.process router trigger
  let (deliveries, router) := router.take
  let error ←
    match result with
    | .ok () => do
      Logged.count (.steps .delivered) 1
      pure none
    | .error e => do
      Logged.warn (.triggerFailed index trigger.kind e)
      Logged.count (.steps .failed) 1
      pure (some e.message)
  let router ← applyDelivered applies router deliveries
  let step : Step :=
    { index, trigger, error
      origin := deliveries.getLast?.map (·.origin)
      actions := deliveries.flatMap (·.actions) }
  return (step, router)

/-- Replays triggers, the first of which has the given index. -/
def replayFrom (engine : Engine) (applies : Bool) (router : Router) (index : Nat) :
    List Trigger → Logged (List Step × Router)
  | [] => return ([], router)
  | trigger :: triggers => do
    let (step, router) ← replayStep engine applies router index trigger
    let (steps, router) ← replayFrom engine applies router (index + 1) triggers
    return (step :: steps, router)

/-- Replays a scenario. A trigger that is rejected does not end the replay. -/
def replay (scenario : Scenario) (engine : Engine) (router : Router) :
    Logged (List Step × Router) :=
  replayFrom engine scenario.applyActions router 0 scenario.triggers

/-! ## Report -/

/-- The lines of the report on one step. -/
def Step.lines (s : Step) : List String :=
  let title := "#" ++ toString s.index ++ " " ++ s.trigger.kind.text
  let title :=
    match s.origin with
    | some origin => title ++ " (" ++ Spelled.word origin ++ ")"
    | none => title
  let remarks :=
    match s.error with
    | some error => ["  error: " ++ error]
    | none => if s.actions.isEmpty then ["  (no actions)"] else []
  title :: remarks ++ s.actions.map fun action => "  " ++ action.text

/-- The report on a replay, one line after the other. -/
def report (steps : List Step) : String :=
  String.join ((steps.flatMap Step.lines).map (· ++ "\n"))

end Scenario
end AudioPolicy

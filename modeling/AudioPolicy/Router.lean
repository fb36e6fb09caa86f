-- SUMMARY: The routing side: the audio graph and the action lists delivered to it.
import AudioPolicy.Graph.Apply
import AudioPolicy.Journal

/-! # The router

The router holds the audio graph and collects the action lists that are delivered to
it. Delivery changes no graph: lists are applied in a separate step. A router can be
made to refuse deliveries. -/

namespace AudioPolicy

/-- A delivered action list. -/
structure Delivery where
  origin : Origin
  actions : List Action
  deriving DecidableEq, Repr

/-- The routing side. -/
structure Router where
  graph : Graph := {}
  /-- The delivered lists, oldest first. -/
  delivered : List Delivery := []
  /-- Whether deliveries are refused. -/
  refusing : Bool := false
  deriving DecidableEq, Repr

namespace Router

/-- Delivers an action list. -/
def deliver (r : Router) (delivery : Delivery) : Except Error Router :=
  if r.refusing then .error .deliveryRejected
  else .ok { r with delivered := r.delivered ++ [delivery] }

/-- The delivered lists, and the router without them. -/
def take (r : Router) : List Delivery × Router := (r.delivered, { r with delivered := [] })

/-- Applies actions to the graph. -/
def apply (r : Router) (actions : List Action) : Logged Router := do
  Logged.warnAll ((actions.filter Graph.lacksEnds).map .connectWithoutEnds)
  return { r with graph := r.graph.applyAll actions }

end Router
end AudioPolicy

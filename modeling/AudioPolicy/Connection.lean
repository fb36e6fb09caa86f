-- SUMMARY: Main connections, the ways to select them and the orders to list them in.
import AudioPolicy.State

/-! # Main connections

A main connection leads from a source to a sink and may pass through gateways on
its route. A listing of connections starts from the order in which they were
made. Every other order is a stable sort or a reversal of that one. -/

namespace AudioPolicy

/-- A connection between a source and a sink. -/
structure Connection where
  name : String
  source : String
  sink : String
  class_ : String := ""
  state : ConnectionState := .unknown
  /-- Lower values win within a class. -/
  priority : Int32 := 0
  format : Int16 := 0
  /-- The sinks and sources between the two ends. -/
  route : List String := []
  deriving DecidableEq, Repr

namespace Connection

/-- The conventional name of the connection from `source` to `sink`. -/
def nameFor (source sink : String) : String := source ++ ":" ++ sink

/-- A connection that was just made. -/
def made (source sink class_ : String) : Connection :=
  { name := nameFor source sink, source, sink, class_, state := .connected }

/-- Whether the connection starts at, ends at or passes through `element`. -/
def touches (c : Connection) (element : String) : Bool :=
  c.source == element || c.sink == element || c.route.contains element

/-- A selection of connections. -/
inductive Filter
  | all
  | name (name : String)
  | class_ (name : String)
  | source (name : String)
  | sink (name : String)
  /-- Connections that touch an element. -/
  | element (name : String)
  deriving DecidableEq, Repr

/-- Whether the filter selects the connection. -/
def Filter.selects : Filter → Connection → Bool
  | .all, _ => true
  | .name wanted, c => c.name == wanted
  | .class_ wanted, c => c.class_ == wanted
  | .source wanted, c => c.source == wanted
  | .sink wanted, c => c.sink == wanted
  | .element wanted, c => c.touches wanted

/-- The order of a listing. -/
inductive Order
  /-- As made, oldest first. -/
  | unordered
  /-- Lowest priority value first. -/
  | highPriority
  /-- Highest priority value first. -/
  | lowPriority
  | newest
  | oldest
  deriving DecidableEq, Repr, Inhabited

instance : Spelled Order where
  all := [.unordered, .highPriority, .lowPriority, .newest, .oldest]
  word
    | .unordered => "O_UNORDERED"
    | .highPriority => "O_HIGH_PRIORITY"
    | .lowPriority => "O_LOW_PRIORITY"
    | .newest => "O_NEWEST"
    | .oldest => "O_OLDEST"

/-- Arranges connections that stand oldest first. -/
def Order.arrange : Order → List Connection → List Connection
  | .unordered, cs => cs
  | .oldest, cs => cs
  | .newest, cs => cs.reverse
  | .highPriority, cs => cs.mergeSort fun a b => a.priority.toInt ≤ b.priority.toInt
  | .lowPriority, cs => cs.mergeSort fun a b => b.priority.toInt ≤ a.priority.toInt

end Connection
end AudioPolicy

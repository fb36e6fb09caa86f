-- SUMMARY: Queries: calls whose function, category and arguments are resolved.
import AudioPolicy.Failure
import AudioPolicy.Graph
import AudioPolicy.Store
import AudioPolicy.Symbol
import AudioPolicy.Trigger

/-! # Queries

A query is a call after resolution. What it is asked about is a scope: the store,
the graph and the current trigger. -/

namespace AudioPolicy

/-- What a query may read. -/
structure Scope where
  store : Store
  graph : Graph
  trigger : Trigger

/-- A call whose function, category and arguments are resolved. -/
structure Query where
  function : Function
  category : Category
  selector : Selector
  optional : List String := []
  deriving DecidableEq, Repr

namespace Query

/-! ## Arguments -/

/-- The failure of a query whose function does not go with its category. -/
def unsupported (q : Query) : Failure := .unsupported q.function q.category

/-- The optional argument at a place. An empty one counts as not given. -/
def optional? (q : Query) (i : Nat) : Option String := q.optional[i]?.filter fun s => s != ""

/-- The number in the first optional argument. -/
def number? (q : Query) : Except Failure (Option Int) :=
  match q.optional? 0 with
  | none => .ok none
  | some text =>
    match Symbol.number? text with
    | some n => .ok (some n)
    | none => .error (.notNumeric text)

/-- The property type in the first optional argument. A number that does not fit 16
    bits counts as not given. -/
def type? (q : Query) : Except Failure (Option Int16) :=
  q.number?.map fun n => n.bind Numeral.narrow16?

/-- The order of connections, which any optional argument may give. -/
def order (q : Query) : Connection.Order :=
  (q.optional.findSome? Spelled.ofWord?).getD .unordered

/-! ## Subjects and targets -/

/-- The class of an element: the declared one, or else the one it registered with. -/
def elementClass? (scope : Scope) (kind : ElementKind) (name : String) : Option String :=
  match scope.store.classOf? kind name with
  | some class_ => some class_
  | none => scope.graph.classOf? kind name

/-- The elements that the mandatory argument selects. For `ALL` the registered ones
    come first. -/
def subjects (scope : Scope) (q : Query) : Except Failure (List String) :=
  match q.category.subject? with
  | none => .error q.unsupported
  | some kind =>
    match q.selector with
    | .requesting =>
      match scope.trigger.name? kind with
      | some name => .ok [name]
      | none => .error (.unnamed scope.trigger.kind kind)
    | .all => .ok (scope.graph.names kind ++ scope.store.names kind).eraseDups
    | .name name => .ok [name]

/-- Follows a relation under which a subject has at most one counterpart. It fails
    if there are subjects and none of them has one. -/
def related (q : Query) (subjects : List String) (counterpart : String → Option String) :
    Except Failure (List String) :=
  let found := subjects.filterMap counterpart
  if found.isEmpty && !subjects.isEmpty then .error (.unrelated q.category subjects)
  else .ok found.eraseDups

/-- The names of the declared elements in one of the classes, in increasing order. -/
def members (declared : List Endpoint) (classes : List String) : List String :=
  ((declared.filter fun d => classes.contains d.class_).map (·.name)).mergeSort
    fun a b => decide (a ≤ b)

/-- The names of the connections that a filter selects for one of the subjects. -/
def connectionsOf (scope : Scope) (q : Query) (filter : String → Connection.Filter)
    (subjects : List String) : List String :=
  (subjects.flatMap fun s =>
    (scope.graph.connectionsBy (filter s) q.order).map (·.name)).eraseDups

/-- The elements that the function is applied to. -/
def targets (scope : Scope) (q : Query) : Except Failure (List String) := do
  let subjects ← q.subjects scope
  match q.category with
  | .sink | .source | .class_ | .domain | .connection => return subjects
  | .classOfSink => q.related subjects (elementClass? scope .sink)
  | .classOfSource => q.related subjects (elementClass? scope .source)
  | .domainOfSink => q.related subjects (scope.store.domainOf? .sink)
  | .domainOfSource => q.related subjects (scope.store.domainOf? .source)
  | .sinkOfClass => return members scope.store.sinks subjects
  | .sourceOfClass => return members scope.store.sources subjects
  | .connectionOfClass => return connectionsOf scope q .class_ subjects
  | .connectionOfSource => return connectionsOf scope q .source subjects
  | .connectionOfSink => return connectionsOf scope q .sink subjects
  | .user | .system => .error q.unsupported

/-- The kind of the targets, for functions that are for sinks and sources only. -/
def endpointKind (q : Query) : Except Failure ElementKind :=
  match q.category with
  | .sink | .sinkOfClass => .ok .sink
  | .source | .sourceOfClass => .ok .source
  | _ => .error q.unsupported

/-- What a function reads from each target. It fails if there are targets and
    nothing can be read from any of them. -/
def readEach (what : String) (read : String → Option String) (targets : List String) :
    Except Failure (List String) :=
  let values := targets.filterMap read
  if values.isEmpty && !targets.isEmpty then .error (.unread what targets) else .ok values

/-- A value of the trigger. -/
def carried (what : String) (value : Option String) : Except Failure (List String) :=
  match value with
  | some value => .ok [value]
  | none => .error (.notCarried what)

/-- Values of the trigger of which there has to be one. -/
def carriedAll (what : String) (values : List String) : Except Failure (List String) :=
  if values.isEmpty then .error (.absent what) else .ok values

end Query
end AudioPolicy

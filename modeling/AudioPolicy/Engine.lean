-- SUMMARY: The policy engine: from a trigger to a delivered list of actions.
import AudioPolicy.Evaluation
import AudioPolicy.Implied
import AudioPolicy.Router
import AudioPolicy.Template.Resolve

/-! # The policy engine

The engine answers a trigger with a list of actions. First come the actions of the
policies that match, in order of priority. Then come the implied actions. When a domain
has completed its registration, the rules for its stored properties come last. An
availability trigger without a class gets the class of its element beforehand. -/

namespace AudioPolicy

/-- The policy engine. It answers triggers only while it is started. -/
structure Engine where
  store : Store
  started : Bool := false

namespace Engine

/-! ## Lifecycle -/

/-- Starts an engine that is not started. -/
def start (e : Engine) : Except Error Engine :=
  if e.started then .error .alreadyStarted else .ok { e with started := true }

/-- Stops an engine. -/
def stop (e : Engine) : Engine := { e with started := false }

/-! ## Rules -/

/-- The actions of one policy. -/
def policyActions (scope : Scope) : List Template → Logged (List Action)
  | [] => return []
  | template :: templates => do
    let action ← template.resolve scope.trigger (Evaluation.parameter scope)
    let others ← policyActions scope templates
    return action :: others

/-- The actions of the policies that match, up to the first one that stops the search. -/
def matchAll (scope : Scope) : List Policy → Logged (List Action)
  | [] => return []
  | p :: ps => do
    if ← Evaluation.allHold scope p.conditions then
      Logged.count .matched 1
      let actions ← policyActions scope p.actions
      if p.stop then return actions
      else return actions ++ (← matchAll scope ps)
    else matchAll scope ps

/-- The candidate policies for a kind of trigger. A strict lookup has to find one. -/
def candidates (store : Store) (kind : Trigger.Kind) : Except Error (List Policy) :=
  match store.candidates kind with
  | .error e => .error e
  | .ok ps =>
    if ps.isEmpty && store.options.strictLookup then .error (.noPolicy kind) else .ok ps

/-- The actions of the rules for a trigger. -/
def ruleActions (scope : Scope) : Logged (Except Error (List Action)) :=
  match candidates scope.store scope.trigger.kind with
  | .error e => return .error e
  | .ok ps => do return .ok (← matchAll scope ps)

/-! ## Triggers -/

/-- The element whose class an availability trigger still needs. -/
def classless? : Trigger → Option (ElementKind × String)
  | .systemSinkAvailabilityChanged sink _ none => some (.sink, sink)
  | .systemSourceAvailabilityChanged source _ none => some (.source, source)
  | _ => none

/-- The scope of a trigger, in which an availability trigger has the class of its
    element. -/
def scopeOf (store : Store) (graph : Graph) (trigger : Trigger) : Scope :=
  let scope := { store, graph, trigger : Scope }
  match classless? trigger with
  | none => scope
  | some (kind, name) =>
    match Query.elementClass? scope kind name with
    | some class_ => { scope with trigger := trigger.withClass class_ }
    | none => scope

/-- The rule actions for a list of restored requests. A request that is rejected has
    none. -/
def restoreAll (scope : Scope) : List Trigger → Logged (List Action)
  | [] => return []
  | trigger :: triggers => do
    let actions ←
      match ← ruleActions { scope with trigger } with
      | .ok actions => pure actions
      | .error _ => pure []
    return actions ++ (← restoreAll scope triggers)

/-- The rule actions for what a completed domain restores. -/
def restoreActions (scope : Scope) : Logged (List Action) :=
  match scope.trigger with
  | .systemDomainRegistrationComplete domain =>
    if scope.store.options.restoreOnComplete then
      restoreAll scope (Implied.restoreTriggers scope.graph domain)
    else return []
  | _ => return []

/-- The answer to a trigger that an engine with this store and graph gives. -/
def answer (store : Store) (graph : Graph) (trigger : Trigger) :
    Logged (Except Error (List Action)) := do
  let scope := scopeOf store graph trigger
  match ← ruleActions scope with
  | .error e => return .error e
  | .ok actions =>
    let implied := Implied.actions store graph scope.trigger
    return .ok (actions ++ implied ++ (← restoreActions scope))

/-- The answer to a trigger, without delivering it. -/
def evaluate (e : Engine) (graph : Graph) (trigger : Trigger) :
    Logged (Except Error (List Action)) :=
  if e.started then answer e.store graph trigger else return .error .notStarted

/-- Answers a trigger and delivers the answer. Only a failed lookup and a refused
    delivery are errors. -/
def process (e : Engine) (router : Router) (trigger : Trigger) :
    Logged (Except Error Unit × Router) := do
  Logged.count (.triggers trigger.kind) 1
  match ← e.evaluate router.graph trigger with
  | .error error => return (.error error, router)
  | .ok actions =>
    Logged.count (.actions trigger.origin) actions.length
    match router.deliver { origin := trigger.origin, actions } with
    | .ok router => return (.ok (), router)
    | .error error =>
      Logged.warn (.deliveryFailed trigger.kind error)
      return (.error error, router)

/-- The names of the candidate policies for a kind of trigger. -/
def candidateNames (e : Engine) (kind : Trigger.Kind) : Except Error (List String) :=
  (e.store.candidates kind).map fun ps => ps.map (·.name)

end Engine
end AudioPolicy

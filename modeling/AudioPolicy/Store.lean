-- SUMMARY: The store: read-only lookups in a configuration that may have failed to load.
import AudioPolicy.Journal

/-! # The store

A store either holds a configuration or says why there is none. A configuration
gets into a store only if no two of its declarations share a name within a kind, so
every lookup by name has at most one answer. Templates are not elements of the
store. A store without a configuration answers every lookup with nothing. -/

namespace AudioPolicy

/-- The configuration in force, or why there is none. -/
inductive Store
  | loaded (configuration : Configuration) (distinct : configuration.duplicate? = none)
  | unavailable (reason : String)

namespace Store

/-! ## Building -/

/-- The store without declarations and policies. -/
def empty : Store := .loaded {} rfl

/-- Checks that no two declarations of a kind share a name. -/
def check (c : Configuration) : Except Error Unit :=
  match c.duplicate? with
  | some (kind, name) => .error (.duplicateName kind name)
  | none => .ok ()

/-- The store for a configuration that could not be loaded. -/
def failed (reason : String) : Logged Store := do
  Logged.warn (.noConfiguration reason)
  return .unavailable reason

/-- The store for a configuration. -/
def ofConfiguration (c : Configuration) : Logged Store :=
  match h : c.duplicate? with
  | some (kind, name) => failed (Error.duplicateName kind name).message
  | none => do
    Logged.warnAll (c.doubts.map .doubt)
    return .loaded c h

/-- The store for a configuration that was read or could not be read. -/
def ofResult : Except Error Configuration → Logged Store
  | .ok c => ofConfiguration c
  | .error e => failed e.message

/-- Why there is no configuration. -/
def reason? : Store → Option String
  | .loaded .. => none
  | .unavailable reason => some reason

/-! ## Declarations -/

/-- The configuration in force, empty if there is none. -/
def configuration : Store → Configuration
  | .loaded c _ => c
  | .unavailable _ => {}

/-- The declared sinks. -/
def sinks (s : Store) : List Endpoint := s.configuration.sinks.filter fun d => !d.template

/-- The declared sources. -/
def sources (s : Store) : List Endpoint := s.configuration.sources.filter fun d => !d.template

/-- The declared domains. -/
def domains (s : Store) : List DeclaredDomain :=
  s.configuration.domains.filter fun d => !d.template

/-- The declared gateways. -/
def gateways (s : Store) : List Gateway := s.configuration.gateways.filter fun d => !d.template

/-- The declared classes. -/
def classes (s : Store) : List DeclaredClass :=
  s.configuration.classes.filter fun d => !d.template

/-- The policies, in declared order. -/
def policies (s : Store) : List Policy := s.configuration.policies

/-- The system properties that the configuration declares. -/
def systemProperties (s : Store) : List Property := s.configuration.systemProperties

/-- The options in force. -/
def options (s : Store) : Options := s.configuration.options

/-! ## Lookup -/

/-- The declared sink with a name. -/
def sink? (s : Store) (name : String) : Option Endpoint := s.sinks.find? fun d => d.name == name

/-- The declared source with a name. -/
def source? (s : Store) (name : String) : Option Endpoint :=
  s.sources.find? fun d => d.name == name

/-- The declared domain with a name. -/
def domain? (s : Store) (name : String) : Option DeclaredDomain :=
  s.domains.find? fun d => d.name == name

/-- The declared gateway with a name. -/
def gateway? (s : Store) (name : String) : Option Gateway :=
  s.gateways.find? fun d => d.name == name

/-- The declared class with a name. -/
def declaredClass? (s : Store) (name : String) : Option DeclaredClass :=
  s.classes.find? fun d => d.name == name

/-- The names of the declared elements of a kind. -/
def names (s : Store) : ElementKind → List String
  | .sink => s.sinks.map (·.name)
  | .source => s.sources.map (·.name)
  | .domain => s.domains.map (·.name)
  | .gateway => s.gateways.map (·.name)
  | .class_ => s.classes.map (·.name)
  | .connection => []

/-- A text, unless it is empty. -/
def nonEmpty (text : String) : Option String := if text = "" then none else some text

/-- The class of a declared sink or source. -/
def classOf? (s : Store) : ElementKind → String → Option String
  | .sink, name => (s.sink? name).bind fun d => nonEmpty d.class_
  | .source, name => (s.source? name).bind fun d => nonEmpty d.class_
  | _, _ => none

/-- The domain of a declared sink or source, or the one that controls a gateway. -/
def domainOf? (s : Store) : ElementKind → String → Option String
  | .sink, name => (s.sink? name).bind fun d => nonEmpty d.domain
  | .source, name => (s.source? name).bind fun d => nonEmpty d.domain
  | .gateway, name => (s.gateway? name).bind fun d => nonEmpty d.controlDomain
  | _, _ => none

/-! ## Policies -/

/-- The candidate policies for a kind of trigger. Lower priority values go first,
    and equal ones in declared order. -/
def candidates (s : Store) (kind : Trigger.Kind) : Except Error (List Policy) :=
  match s with
  | .unavailable reason => .error (.noConfiguration kind reason)
  | .loaded c _ =>
    .ok ((c.policies.filter (Policy.isCandidate kind)).mergeSort
      fun p q => p.priority.toInt ≤ q.priority.toInt)

end Store
end AudioPolicy

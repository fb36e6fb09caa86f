-- SUMMARY: The controller configuration: declared elements, policies and options.
import AudioPolicy.Category
import AudioPolicy.Function
import AudioPolicy.Policy

/-! # Configuration

A configuration declares the elements of the audio system and the policies. An
element that is declared as a template does not exist by itself. No two elements of
a kind may share a name, and templates count for that too. -/

namespace AudioPolicy

/-- A declared sink or source. -/
structure Endpoint where
  name : String
  domain : String := ""
  class_ : String := ""
  priority : Int32 := 0
  registration : Registration := .domain
  template : Bool := false
  mainSoundProperties : List Property := []
  connectionFormats : List Int16 := []
  deriving DecidableEq, Repr

/-- A declared domain. -/
structure DeclaredDomain where
  name : String
  busName : String := ""
  nodeName : String := ""
  early : Bool := false
  template : Bool := false
  deriving DecidableEq, Repr

/-- A declared gateway between two domains. -/
structure Gateway where
  name : String
  /-- The sink at one end. -/
  sink : String
  /-- The source at the other end. -/
  source : String
  controlDomain : String
  registration : Registration := .domain
  template : Bool := false
  deriving DecidableEq, Repr

/-- A declared class of connections. -/
structure DeclaredClass where
  name : String
  priority : Int32 := 0
  template : Bool := false
  deriving DecidableEq, Repr

/-- Switches of the policy engine. -/
structure Options where
  /-- Whether a trigger without a candidate policy is an error. -/
  strictLookup : Bool := false
  /-- Whether the properties of a domain are restored when it completes its
      registration. -/
  restoreOnComplete : Bool := true
  deriving DecidableEq, Repr

/-- The controller configuration. -/
structure Configuration where
  sources : List Endpoint := []
  sinks : List Endpoint := []
  domains : List DeclaredDomain := []
  gateways : List Gateway := []
  classes : List DeclaredClass := []
  policies : List Policy := []
  systemProperties : List Property := []
  options : Options := {}
  deriving DecidableEq, Repr

namespace Configuration

/-- The first text that stands in a list for a second time. -/
def firstRepeated? (seen : List String) : List String → Option String
  | [] => none
  | name :: names =>
    if seen.contains name then some name else firstRepeated? (name :: seen) names

/-- The declared names of a kind, templates included. -/
def declaredNames (c : Configuration) : ElementKind → List String
  | .source => c.sources.map (·.name)
  | .sink => c.sinks.map (·.name)
  | .domain => c.domains.map (·.name)
  | .gateway => c.gateways.map (·.name)
  | .class_ => c.classes.map (·.name)
  | .connection => []

/-- The first name that two declarations of one kind share. -/
def duplicate? (c : Configuration) : Option (ElementKind × String) :=
  [ElementKind.source, .sink, .domain, .gateway, .class_].findSome? fun kind =>
    (firstRepeated? [] (c.declaredNames kind)).map fun name => (kind, name)

/-! ## Doubtful declarations -/

/-- Something in a configuration that is allowed and most likely not meant. -/
inductive Doubt
  | undeclaredSink (gateway sink : String)
  | undeclaredSource (gateway source : String)
  | withoutTriggers (policy : String)
  | unknownFunction (policy function : String)
  | unknownCategory (policy category : String)
  deriving DecidableEq, Repr

/-- The doubts about a gateway. -/
def gatewayDoubts (c : Configuration) (g : Gateway) : List Doubt :=
  (if c.sinks.any fun s => s.name == g.sink then [] else [.undeclaredSink g.name g.sink])
    ++ (if c.sources.any fun s => s.name == g.source then []
        else [.undeclaredSource g.name g.source])

/-- The doubts about a call in a condition. -/
def callDoubts (policy : String) (call : Call) : List Doubt :=
  (if (Spelled.ofWord? (α := Function) call.function).isSome then []
    else [.unknownFunction policy call.function])
    ++ (if (Spelled.ofWord? (α := Category) call.category).isSome then []
        else [.unknownCategory policy call.category])

/-- The doubts about a policy. -/
def policyDoubts (p : Policy) : List Doubt :=
  (if p.triggers.isEmpty then [.withoutTriggers p.name] else [])
    ++ p.conditions.flatMap fun condition => condition.calls.flatMap (callDoubts p.name)

/-- The doubts about a configuration, gateways first. -/
def doubts (c : Configuration) : List Doubt :=
  c.gateways.flatMap c.gatewayDoubts ++ c.policies.flatMap policyDoubts

end Configuration
end AudioPolicy

-- SUMMARY: Actions and triggers that follow from a trigger without any policy.
import AudioPolicy.Query

/-! # Implied actions and triggers

Three things happen without a policy. When an element is deregistered, every
connection that touches it is ended. When a domain, a sink or a source is registered,
elements that the controller has to register and that have become complete are
registered. When a domain completes its registration, the stored main sound properties
of its sinks and sources are requested again. -/

namespace AudioPolicy.Implied

open AudioPolicy.Action

/-! ## Deregistration -/

/-- A gateway together with the sink and the source that it joins. -/
def gatewayMembers (store : Store) (gateway : String) : List String :=
  gateway ::
    match store.gateway? gateway with
    | some g => [g.sink, g.source]
    | none => []

/-- The texts in increasing order. -/
def sorted (names : List String) : List String := names.mergeSort fun a b => decide (a ≤ b)

@[simp] theorem mem_sorted {name : String} {names : List String} :
    name ∈ sorted names ↔ name ∈ names := List.mem_mergeSort

/-- The gateways of a domain: the registered ones, then those declared under its
    control. -/
def gatewaysOf (store : Store) (graph : Graph) (domain : String) : List String :=
  graph.namesInDomain domain .gateway
    ++ sorted ((store.gateways.filter fun g => g.controlDomain == domain).map (·.name))

/-- The elements of a kind in a domain: the registered ones, then the declared ones. -/
def ownedBy (store : Store) (graph : Graph) (domain : String) (kind : ElementKind) :
    List String :=
  graph.namesInDomain domain kind
    ++ sorted ((store.names kind).filter fun name => store.domainOf? kind name == some domain)

/-- Everything that goes away with a domain. -/
def domainMembers (store : Store) (graph : Graph) (domain : String) : List String :=
  ((gatewaysOf store graph domain).flatMap (gatewayMembers store)
    ++ ownedBy store graph domain .sink ++ ownedBy store graph domain .source).eraseDups

/-- The action that ends a connection. -/
def disconnect (c : Connection) : Action :=
  .ofPairs .disconnect
    [(Key.className, c.class_), (Key.sourceName, c.source), (Key.sinkName, c.sink),
      (Key.connectionName, c.name)]

/-- Keeps the first of the connections that share a name. -/
def firstOfName (seen : List String) : List Connection → List Connection
  | [] => []
  | c :: cs =>
    if seen.contains c.name then firstOfName seen cs
    else c :: firstOfName (c.name :: seen) cs

/-- Ends every connection that touches one of the elements. -/
def disconnectAll (graph : Graph) (elements : List String) : List Action :=
  (firstOfName [] (elements.flatMap fun e =>
    graph.connectionsBy (.element e) .unordered)).map disconnect

/-! ## Registration -/

/-- The names, in increasing order, among the given ones that are not registered. -/
def pending (graph : Graph) (kind : ElementKind) (names : List String) : List String :=
  sorted (names.filter fun name => !graph.isRegistered kind name)

/-- The sinks or sources of a domain that the controller has to register. -/
def pendingEndpoints (graph : Graph) (kind : ElementKind) (declared : List Endpoint)
    (domain : String) : List String :=
  pending graph kind
    ((declared.filter fun d => d.registration == .controller && d.domain == domain).map (·.name))

/-- A registration of a domain's elements. Empty lists are left out. -/
def registration (domain : String) (lists : List (String × List String)) : Action :=
  .ofPairs .register
    ((Key.domainName, domain) ::
      (lists.filter fun (_, names) => !names.isEmpty).map
        fun (key, names) => (key, Text.unwords names))

/-- What the controller has to register when a domain arrives. A gateway counts as soon
    as its ends are registered or about to be. -/
def registerForDomain (store : Store) (graph : Graph) (domain : String) : List Action :=
  let sinks := pendingEndpoints graph .sink store.sinks domain
  let sources := pendingEndpoints graph .source store.sources domain
  let complete (g : Gateway) : Bool :=
    g.registration == .controller && g.controlDomain == domain
      && (graph.isRegistered .sink g.sink || sinks.contains g.sink)
      && (graph.isRegistered .source g.source || sources.contains g.source)
  let gateways := pending graph .gateway ((store.gateways.filter complete).map (·.name))
  if sinks.isEmpty && sources.isEmpty && gateways.isEmpty then []
  else
    [registration domain
      [(Key.listSinks, sinks), (Key.listSources, sources), (Key.listGateways, gateways)]]

/-- Whether a gateway is complete now that its end of the given kind is registered. -/
def isCompletedBy (graph : Graph) (kind : ElementKind) (name : String) (g : Gateway) : Bool :=
  g.registration == .controller && graph.isRegistered .domain g.controlDomain &&
    match kind with
    | .sink => g.sink == name && graph.isRegistered .source g.source
    | .source => g.source == name && graph.isRegistered .sink g.sink
    | _ => false

/-- The gateways that have to be registered when one of their ends arrives, with one
    action for each control domain. -/
def registerGateways (store : Store) (graph : Graph) (kind : ElementKind) (name : String) :
    List Action :=
  let completed := (store.gateways.filter (isCompletedBy graph kind name)).filter
    fun g => !graph.isRegistered .gateway g.name
  (sorted (completed.map (·.controlDomain)).eraseDups).map fun domain =>
    registration domain
      [(Key.listGateways,
        sorted ((completed.filter fun g => g.controlDomain == domain).map (·.name)))]

/-! ## All triggers -/

/-- The actions that follow from a trigger. -/
def actions (store : Store) (graph : Graph) : Trigger → List Action
  | .systemDeregisterDomain domain => disconnectAll graph (domainMembers store graph domain)
  | .systemDeregisterSink sink => disconnectAll graph [sink]
  | .systemDeregisterSource source => disconnectAll graph [source]
  | .systemDeregisterGateway gateway => disconnectAll graph (gatewayMembers store gateway)
  | .systemRegisterDomain domain => registerForDomain store graph domain
  | .systemRegisterSink sink => registerGateways store graph .sink sink
  | .systemRegisterSource source => registerGateways store graph .source source
  | _ => []

/-! ## Restoring properties -/

/-- The requests for the stored properties of one element: first all of them together,
    then each by itself. -/
def restoreElement (together : String → List Property → Trigger)
    (single : String → Property → Trigger) (e : String) (ps : List Property) : List Trigger :=
  if ps.isEmpty then [] else together e ps :: ps.map (single e)

/-- The requests for the stored properties of a domain's sinks and sources. -/
def restoreTriggers (graph : Graph) (domain : String) : List Trigger :=
  ((graph.namesInDomain domain .sink).flatMap fun sink =>
      restoreElement .userSetSinkMainSoundProperties .userSetSinkMainSoundProperty sink
        (graph.mainSoundProperties .sink sink))
    ++ (graph.namesInDomain domain .source).flatMap fun source =>
      restoreElement .userSetSourceMainSoundProperties .userSetSourceMainSoundProperty source
        (graph.mainSoundProperties .source source)

end AudioPolicy.Implied

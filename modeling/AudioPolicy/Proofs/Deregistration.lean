-- SUMMARY: Deregistration ends exactly the connections that touch what goes away.
import AudioPolicy.Graph.Apply
import AudioPolicy.Implied
import AudioPolicy.Proofs.Params
import AudioPolicy.Proofs.Store

/-! # Deregistration

`Affected` says which names go away with a deregistered element, without regard to the
order in which the implied actions enumerate them or to how often. In a graph whose
connections have distinct names there is then one disconnect for each connection that
touches an affected name. Applying the disconnects removes these connections and nothing
else. -/

namespace AudioPolicy

/-! ## What goes away -/

/-- What goes away with a gateway: the gateway and, where it is declared, its two ends. -/
inductive GoesWith (store : Store) (gateway : String) : String → Prop
  | itself : GoesWith store gateway gateway
  | sink {g : Gateway} : g ∈ store.gateways → g.name = gateway → GoesWith store gateway g.sink
  | source {g : Gateway} : g ∈ store.gateways → g.name = gateway → GoesWith store gateway g.source

/-- A gateway is under the control of a domain if it is registered in it or declared so. -/
def Controls (store : Store) (graph : Graph) (domain gateway : String) : Prop :=
  (∃ e ∈ graph.gateways, e.name = gateway ∧ e.domain = domain) ∨
    ∃ g ∈ store.gateways, g.name = gateway ∧ g.controlDomain = domain

/-- A sink or source is in a domain if it is registered in it or declared so. No
    declaration puts an element into the domain without a name. -/
def Owns (store : Store) (graph : Graph) (domain : String) (kind : ElementKind)
    (name : String) : Prop :=
  (∃ e ∈ graph.elements kind, e.name = name ∧ e.domain = domain) ∨
    ∃ d ∈ store.endpoints kind, d.name = name ∧ d.domain = domain ∧ domain ≠ ""

/-- The names that go away with a deregistered element. -/
inductive Affected (store : Store) (graph : Graph) : Trigger → String → Prop
  | sink {name : String} : Affected store graph (.systemDeregisterSink name) name
  | source {name : String} : Affected store graph (.systemDeregisterSource name) name
  | gateway {gateway name : String} : GoesWith store gateway name →
      Affected store graph (.systemDeregisterGateway gateway) name
  | gatewayOfDomain {domain gateway name : String} : Controls store graph domain gateway →
      GoesWith store gateway name → Affected store graph (.systemDeregisterDomain domain) name
  | sinkOfDomain {domain name : String} : Owns store graph domain .sink name →
      Affected store graph (.systemDeregisterDomain domain) name
  | sourceOfDomain {domain name : String} : Owns store graph domain .source name →
      Affected store graph (.systemDeregisterDomain domain) name

/-- The trigger reports that an element was deregistered. -/
def Trigger.Deregisters : Trigger → Prop
  | .systemDeregisterDomain _ | .systemDeregisterSource _ | .systemDeregisterSink _
  | .systemDeregisterGateway _ => True
  | _ => False

namespace Implied

theorem mem_gatewayMembers_iff {store : Store} {gateway name : String} :
    name ∈ gatewayMembers store gateway ↔ GoesWith store gateway name := by
  rw [gatewayMembers, List.mem_cons]
  constructor
  · rintro (rfl | h)
    · exact .itself
    · split at h
      next g hg =>
        obtain ⟨hmem, hname⟩ := Store.gateway?_eq_some_iff.1 hg
        rcases List.mem_pair.1 h with rfl | rfl
        · exact .sink hmem hname
        · exact .source hmem hname
      next => exact absurd h List.not_mem_nil
  · rintro (_ | ⟨hmem, hname⟩ | ⟨hmem, hname⟩)
    · exact Or.inl rfl
    · rw [Store.gateway?_eq_some_iff.2 ⟨hmem, hname⟩]
      exact Or.inr (List.mem_pair.2 (Or.inl rfl))
    · rw [Store.gateway?_eq_some_iff.2 ⟨hmem, hname⟩]
      exact Or.inr (List.mem_pair.2 (Or.inr rfl))

theorem mem_namesInDomain_iff {graph : Graph} {domain name : String} {kind : ElementKind} :
    name ∈ graph.namesInDomain domain kind ↔
      ∃ e ∈ graph.elements kind, e.name = name ∧ e.domain = domain := by
  simp only [Graph.namesInDomain, List.mem_map, List.mem_filter, beq_iff_eq, and_assoc]
  exact exists_congr fun e => and_congr_right fun _ => and_comm

theorem mem_gatewaysOf_iff {store : Store} {graph : Graph} {domain gateway : String} :
    gateway ∈ gatewaysOf store graph domain ↔ Controls store graph domain gateway := by
  rw [gatewaysOf, List.mem_append, mem_namesInDomain_iff, mem_sorted, Controls]
  refine or_congr Iff.rfl ?_
  simp only [List.mem_map, List.mem_filter, beq_iff_eq, and_assoc]
  exact exists_congr fun g => and_congr_right fun _ => and_comm

theorem mem_ownedBy_iff {store : Store} {graph : Graph} {domain name : String}
    {kind : ElementKind} (hkind : kind = .sink ∨ kind = .source) :
    name ∈ ownedBy store graph domain kind ↔ Owns store graph domain kind name := by
  rw [ownedBy, List.mem_append, mem_namesInDomain_iff, mem_sorted, List.mem_filter, beq_iff_eq,
    Store.mem_names_domainOf?_iff hkind, Owns]

theorem mem_domainMembers_iff {store : Store} {graph : Graph} {domain name : String} :
    name ∈ domainMembers store graph domain ↔
      Affected store graph (.systemDeregisterDomain domain) name := by
  simp only [domainMembers, List.mem_eraseDups, List.mem_append, List.mem_flatMap,
    mem_gatewaysOf_iff, mem_gatewayMembers_iff, mem_ownedBy_iff (Or.inl rfl),
    mem_ownedBy_iff (Or.inr rfl)]
  constructor
  · rintro ((⟨gateway, hcontrols, hgoes⟩ | howns) | howns)
    · exact .gatewayOfDomain hcontrols hgoes
    · exact .sinkOfDomain howns
    · exact .sourceOfDomain howns
  · rintro (_ | _ | _ | ⟨hcontrols, hgoes⟩ | howns | howns)
    · exact Or.inl (Or.inl ⟨_, hcontrols, hgoes⟩)
    · exact Or.inl (Or.inr howns)
    · exact Or.inr howns

/-- The implied actions of a deregistration end what touches the affected names. -/
theorem actions_eq_disconnectAll (store : Store) (graph : Graph) {t : Trigger}
    (h : t.Deregisters) :
    ∃ names : List String, actions store graph t = disconnectAll graph names ∧
      ∀ name, name ∈ names ↔ Affected store graph t name := by
  cases t
  case systemDeregisterDomain domain =>
    exact ⟨domainMembers store graph domain, rfl, fun name => mem_domainMembers_iff⟩
  case systemDeregisterSink sink =>
    refine ⟨[sink], rfl, fun name => ?_⟩
    rw [List.mem_singleton]
    exact ⟨fun hname => hname ▸ .sink, fun haffected => by cases haffected; rfl⟩
  case systemDeregisterSource source =>
    refine ⟨[source], rfl, fun name => ?_⟩
    rw [List.mem_singleton]
    exact ⟨fun hname => hname ▸ .source, fun haffected => by cases haffected; rfl⟩
  case systemDeregisterGateway gateway =>
    refine ⟨gatewayMembers store gateway, rfl, fun name => ?_⟩
    rw [mem_gatewayMembers_iff]
    exact ⟨.gateway, fun haffected => by cases haffected; assumption⟩
  all_goals exact h.elim

/-! ## Disconnects -/

/-- An action that ends a connection and says which class, source, sink and name it has. -/
structure Ends (action : Action) (c : Connection) : Prop where
  kind : action.kind = .disconnect
  className : action.param? Action.Key.className = some c.class_
  sourceName : action.param? Action.Key.sourceName = some c.source
  sinkName : action.param? Action.Key.sinkName = some c.sink
  connectionName : action.param? Action.Key.connectionName = some c.name

theorem param?_disconnect {c : Connection} {key value : String}
    (h : (key, value) ∈ [(Action.Key.className, c.class_), (Action.Key.sourceName, c.source),
      (Action.Key.sinkName, c.sink), (Action.Key.connectionName, c.name)]) :
    (disconnect c).param? key = some value := by
  have hkeys : [Action.Key.className, Action.Key.sourceName, Action.Key.sinkName,
      Action.Key.connectionName].Nodup := by decide
  exact Action.param?_ofPairs_of_mem .disconnect (by exact hkeys) h

theorem disconnect_ends (c : Connection) : Ends (disconnect c) c where
  kind := rfl
  className := param?_disconnect (by simp)
  sourceName := param?_disconnect (by simp)
  sinkName := param?_disconnect (by simp)
  connectionName := param?_disconnect (by simp)

theorem mem_of_mem_firstOfName {seen : List String} {cs : List Connection} {c : Connection}
    (h : c ∈ firstOfName seen cs) : c ∈ cs ∧ c.name ∉ seen := by
  induction cs generalizing seen with
  | nil => exact absurd h List.not_mem_nil
  | cons first cs ih =>
    rw [firstOfName] at h
    split at h
    next => exact (ih h).imp_left (List.mem_cons_of_mem _)
    next hseen =>
      rcases List.mem_cons.1 h with rfl | h
      · exact ⟨List.mem_cons_self, by simpa using hseen⟩
      · obtain ⟨hmem, hnot⟩ := ih h
        exact ⟨List.mem_cons_of_mem _ hmem, fun hs => hnot (List.mem_cons_of_mem _ hs)⟩

/-- Of every name that was not seen before one connection is kept. -/
theorem exists_mem_firstOfName {seen : List String} {cs : List Connection} {c : Connection}
    (hc : c ∈ cs) (hseen : c.name ∉ seen) : ∃ d ∈ firstOfName seen cs, d.name = c.name := by
  induction cs generalizing seen with
  | nil => exact absurd hc List.not_mem_nil
  | cons first cs ih =>
    rw [firstOfName]
    rcases List.mem_cons.1 hc with rfl | hc
    · rw [if_neg (by simpa using hseen)]
      exact ⟨c, List.mem_cons_self, rfl⟩
    · split
      next => exact ih hc hseen
      next =>
        by_cases hfirst : first.name = c.name
        · exact ⟨first, List.mem_cons_self, hfirst⟩
        · have hseen' : c.name ∉ first.name :: seen := by
            simp [hseen, Ne.symm hfirst]
          obtain ⟨d, hd, hname⟩ := ih hc hseen'
          exact ⟨d, List.mem_cons_of_mem _ hd, hname⟩

theorem nodup_firstOfName (seen : List String) (cs : List Connection) :
    ((firstOfName seen cs).map (·.name)).Nodup := by
  induction cs generalizing seen with
  | nil => exact List.nodup_nil
  | cons c cs ih =>
    rw [firstOfName]
    split
    next => exact ih seen
    next =>
      rw [List.map_cons, List.nodup_cons]
      refine ⟨fun hmem => ?_, ih _⟩
      obtain ⟨d, hd, hname⟩ := List.mem_map.1 hmem
      exact (mem_of_mem_firstOfName hd).2 (hname ▸ List.mem_cons_self)

/-- Under distinct names every connection that touches one of the elements is ended once. -/
theorem disconnectAll_eq_map {graph : Graph} (h : (graph.connections.map (·.name)).Nodup)
    (names : List String) :
    ∃ ended : List Connection, disconnectAll graph names = ended.map disconnect ∧
      ended.Nodup ∧
      ∀ c, c ∈ ended ↔ c ∈ graph.connections ∧ ∃ name ∈ names, c.touches name = true := by
  have hlisted : ∀ c : Connection,
      c ∈ names.flatMap (fun e => graph.connectionsBy (.element e) .unordered) ↔
        c ∈ graph.connections ∧ ∃ name ∈ names, c.touches name = true := by
    intro c
    simp only [List.mem_flatMap, Graph.connectionsBy, Connection.Order.arrange, List.mem_filter,
      Connection.Filter.selects]
    exact ⟨fun ⟨name, hname, hc, htouches⟩ => ⟨hc, name, hname, htouches⟩,
      fun ⟨hc, name, hname, htouches⟩ => ⟨name, hname, hc, htouches⟩⟩
  refine ⟨firstOfName [] _, rfl, (nodup_firstOfName [] _).of_map _, fun c => ?_⟩
  rw [← hlisted]
  constructor
  · intro hc
    exact (mem_of_mem_firstOfName hc).1
  · intro hc
    obtain ⟨d, hd, hname⟩ := exists_mem_firstOfName hc List.not_mem_nil
    have hd' := (hlisted d).1 (mem_of_mem_firstOfName hd).1
    rwa [← List.inj_on_of_nodup_map h hd'.1 ((hlisted c).1 hc).1 hname]

/-! ## Applying disconnects -/

theorem apply_disconnect (graph : Graph) (c : Connection) :
    graph.apply (disconnect c) = graph.disconnect c.name := by
  have hname : Graph.disconnected? (disconnect c) = some c.name := by
    rw [Graph.disconnected?, (disconnect_ends c).connectionName]
  rw [Graph.apply, (disconnect_ends c).kind]
  simp only [hname]

theorem applyAll_disconnect (graph : Graph) (cs : List Connection) :
    graph.applyAll (cs.map disconnect) =
      { graph with connections := graph.connections.filter fun c => c.name ∉ cs.map (·.name) } := by
  induction cs generalizing graph with
  | nil => simp [Graph.applyAll]
  | cons c cs ih =>
    have happly : graph.applyAll ((c :: cs).map disconnect) =
        (graph.disconnect c.name).applyAll (cs.map disconnect) :=
      congrArg (fun g : Graph => g.applyAll (cs.map disconnect)) (apply_disconnect graph c)
    rw [happly, ih]
    simp only [Graph.disconnect, List.filter_filter]
    refine congrArg (fun connections => { graph with connections })
      (List.filter_congr fun d _ => ?_)
    by_cases hname : d.name = c.name <;> simp [hname]

/-! ## Deregistration -/

/-- Deregistering an element implies one disconnect for each connection that starts at,
    ends at or passes through an affected name, and applying them removes just these. -/
theorem deregistration_disconnects (store : Store) {graph : Graph} {t : Trigger}
    (hderegisters : t.Deregisters) (hnames : (graph.connections.map (·.name)).Nodup) :
    ∃ ended : List Connection,
      ended.Nodup ∧
      (∀ c, c ∈ ended ↔ c ∈ graph.connections ∧
        ∃ name, Affected store graph t name ∧
          (c.source = name ∨ c.sink = name ∨ name ∈ c.route)) ∧
      List.Forall₂ Ends (actions store graph t) ended ∧
      graph.applyAll (actions store graph t) =
        { graph with connections := graph.connections.filter fun c => c ∉ ended } := by
  obtain ⟨names, hactions, haffected⟩ := actions_eq_disconnectAll store graph hderegisters
  obtain ⟨ended, hended, hnodup, hmem⟩ := disconnectAll_eq_map hnames names
  refine ⟨ended, hnodup, fun c => ?_, ?_, ?_⟩
  · rw [hmem]
    refine and_congr_right fun _ => exists_congr fun name => ?_
    rw [haffected]
    simp [Connection.touches, or_assoc]
  · rw [hactions, hended, List.forall₂_map_left_iff]
    exact List.forall₂_same.2 fun c _ => disconnect_ends c
  · rw [hactions, hended, applyAll_disconnect]
    refine congrArg (fun connections => { graph with connections })
      (List.filter_congr fun c hc => ?_)
    have hname : c.name ∈ ended.map (·.name) ↔ c ∈ ended := by
      refine ⟨fun h => ?_, List.mem_map_of_mem⟩
      obtain ⟨d, hd, hdc⟩ := List.mem_map.1 h
      rwa [← List.inj_on_of_nodup_map hnames ((hmem d).1 hd).1 hc hdc]
    simp only [hname]

/-- A domain goes away. One connection is reached twice, through its sink and through a
    gateway on its route, one through the gateway only, and one is not reached. -/
theorem deregistration_disconnects_around_gateway :
    let store : Store := .loaded
      { sinks := [{ name := "Speaker", domain := "Cabin" }]
        gateways := [{ name := "Bridge", sink := "BridgeIn", source := "BridgeOut",
                       controlDomain := "Cabin" }] } rfl
    let graph : Graph :=
      { sinks := [{ name := "Speaker", domain := "Cabin" }]
        connections :=
          [{ name := "near", source := "Radio", sink := "Speaker", route := ["BridgeOut"] },
           { name := "far", source := "Radio", sink := "Phone", route := ["BridgeIn"] },
           { name := "other", source := "Radio", sink := "Headset" }] }
    let t : Trigger := .systemDeregisterDomain "Cabin"
    t.Deregisters ∧ (graph.connections.map (·.name)).Nodup ∧
      ∃ ended : List Connection,
        ended.Nodup ∧
        (∀ c, c ∈ ended ↔ c ∈ graph.connections ∧
          ∃ name, Affected store graph t name ∧
            (c.source = name ∨ c.sink = name ∨ name ∈ c.route)) ∧
        List.Forall₂ Ends (actions store graph t) ended ∧
        graph.applyAll (actions store graph t) =
          { graph with connections := graph.connections.filter fun c => c ∉ ended } := by
  intro store graph t
  have hnames : (graph.connections.map (·.name)).Nodup := by decide
  exact ⟨trivial, hnames, deregistration_disconnects store trivial hnames⟩

end Implied
end AudioPolicy

-- SUMMARY: The implied registrations list what is due, sorted, once, under the right domain.
import AudioPolicy.Proofs.Convergence
import AudioPolicy.Proofs.Reordering

/-! # Lists of implied registrations

A domain that arrives implies at most one registration. An end of gateways that arrives
implies one for each domain that controls a gateway which is complete now. What a registration
lists is determined by what is due: each name is listed once, and the names are in increasing
order, as are the domains. -/

namespace AudioPolicy

namespace Store

theorem nodup_endpoints (s : Store) (kind : ElementKind) :
    ((s.endpoints kind).map (·.name)).Nodup := by
  cases kind with
  | sink => exact s.nodup_names .sink
  | source => exact s.nodup_names .source
  | domain | gateway | class_ | connection => exact List.nodup_nil

theorem nodup_gateways (s : Store) : (s.gateways.map (·.name)).Nodup := s.nodup_names .gateway

end Store

namespace Implied

/-! ## Sorted lists -/

/-- The list holds the texts with a property, each once and in increasing order. -/
structure Lists (names : List String) (P : String → Prop) : Prop where
  increasing : names.Pairwise (· < ·)
  mem_iff : ∀ name, name ∈ names ↔ P name

theorem Lists.congr {names : List String} {P Q : String → Prop} (h : Lists names P)
    (hiff : ∀ name, P name ↔ Q name) : Lists names Q :=
  ⟨h.increasing, fun name => (h.mem_iff name).trans (hiff name)⟩

theorem lists_sorted {names : List String} (h : names.Nodup) :
    Lists (sorted names) (· ∈ names) := by
  refine ⟨?_, fun _ => mem_sorted⟩
  have hsorted : (sorted names).Pairwise (· ≤ ·) :=
    List.pairwise_mergeSort' (fun a b => a ≤ b) names
  have hnodup : (sorted names).Nodup := (List.mergeSort_perm names _).nodup_iff.2 h
  exact (hsorted.and hnodup).imp fun ⟨hle, hne⟩ => Std.lt_of_le_of_ne hle hne

theorem lists_pending {graph : Graph} {kind : ElementKind} {names : List String}
    (h : names.Nodup) :
    Lists (pending graph kind names) fun name =>
      name ∈ names ∧ graph.isRegistered kind name = false := by
  refine (lists_sorted (h.sublist List.filter_sublist)).congr fun name => ?_
  rw [List.mem_filter, Bool.not_eq_true']

/-! ## Registrations -/

/-- The action registers these lists under a domain, leaves empty lists out and says nothing
    else. -/
structure RegistersLists (action : Action) (domain : String)
    (sinks sources gateways : List String) : Prop where
  kind : action.kind = .register
  domainName : action.param? Action.Key.domainName = some domain
  listSinks : action.param? Action.Key.listSinks = listed? sinks
  listSources : action.param? Action.Key.listSources = listed? sources
  listGateways : action.param? Action.Key.listGateways = listed? gateways
  nothingElse : ∀ key, key ∉ [Action.Key.domainName, Action.Key.listSinks,
    Action.Key.listSources, Action.Key.listGateways] → action.param? key = none

theorem registration_registersLists (domain : String) (sinks sources gateways : List String) :
    RegistersLists
      (registration domain
        [(Action.Key.listSinks, sinks), (Action.Key.listSources, sources),
          (Action.Key.listGateways, gateways)])
      domain sinks sources gateways := by
  have hkeys : [Action.Key.domainName, Action.Key.listSinks, Action.Key.listSources,
      Action.Key.listGateways].Nodup := by
    decide
  exact
    { kind := rfl
      domainName := param?_registration_domainName hkeys
      listSinks := param?_registration hkeys (by simp)
      listSources := param?_registration hkeys (by simp)
      listGateways := param?_registration hkeys (by simp)
      nothingElse := fun key hkey => param?_registration_eq_none hkey }

/-- A registration of gateways alone has no other lists. -/
theorem registration_registersGateways (domain : String) (gateways : List String) :
    RegistersLists (registration domain [(Action.Key.listGateways, gateways)]) domain [] []
      gateways :=
  registration_registersLists domain [] [] gateways

/-! ## Arrival of a domain -/

section
variable {store : Store} {graph : Graph} {domain : String}

theorem lists_arrivingEndpoints (kind : ElementKind) :
    Lists (arrivingEndpoints store graph domain kind)
      (DueEndpoint store graph domain kind) := by
  refine ⟨(lists_pending ?_).increasing, fun _ => mem_arrivingEndpoints_iff⟩
  exact (store.nodup_endpoints kind).sublist (List.filter_sublist.map _)

theorem lists_arrivingGateways :
    Lists (arrivingGateways store graph domain) (DueGateway store graph domain) := by
  refine ⟨(lists_pending ?_).increasing, fun _ => mem_arrivingGateways_iff⟩
  exact store.nodup_gateways.sublist (List.filter_sublist.map _)

/-- A domain that arrives implies one registration of all that is due, or none if nothing is. -/
theorem registerDomain_registersLists (store : Store) (graph : Graph) (domain : String) :
    ∃ sinks sources gateways action,
      Lists sinks (DueEndpoint store graph domain .sink) ∧
      Lists sources (DueEndpoint store graph domain .source) ∧
      Lists gateways (DueGateway store graph domain) ∧
      RegistersLists action domain sinks sources gateways ∧
      actions store graph (.systemRegisterDomain domain) =
        if sinks = [] ∧ sources = [] ∧ gateways = [] then [] else [action] := by
  refine ⟨_, _, _, _, lists_arrivingEndpoints .sink, lists_arrivingEndpoints .source,
    lists_arrivingGateways, registration_registersLists domain _ _ _, ?_⟩
  rw [actions_registerDomain_eq]
  simp only [Bool.and_eq_true, List.isEmpty_iff, and_assoc]
  rfl

end

/-! ## Arrival of an end -/

/-- A gateway that the controller has yet to register and whose parts are registered: the end
    that arrives, its domain and the end on the other side. -/
structure CompletedBy (store : Store) (graph : Graph) (arrived opposite : Gateway.Part)
    (name : String) (g : Gateway) : Prop where
  declared : g ∈ store.gateways
  entrusted : g.registration = .controller
  unregistered : graph.isRegistered .gateway g.name = false
  joins : g.part arrived = name
  domain : g.HasPart graph .domain
  opposite : g.HasPart graph opposite

/-- The groups hold the gateways with a property by the domains that control them. The domains
    are in increasing order, the names in each group too, and no gateway is in two groups. -/
structure Groups (groups : List (String × List String)) (P : Gateway → Prop) : Prop where
  domains : Lists (groups.map Prod.fst) fun domain => ∃ g, P g ∧ g.controlDomain = domain
  names : ∀ group ∈ groups,
    Lists group.2 fun name => ∃ g, P g ∧ g.controlDomain = group.1 ∧ g.name = name
  once : (groups.flatMap Prod.snd).Nodup

/-- The names of gateways by the domains that control them. -/
def groupsOf (gateways : List Gateway) : List (String × List String) :=
  (sorted (gateways.map (·.controlDomain)).eraseDups).map fun domain =>
    (domain, sorted ((gateways.filter fun g => g.controlDomain == domain).map (·.name)))

section
variable {gateways : List Gateway}

theorem lists_groupsOf (h : (gateways.map (·.name)).Nodup) (domain : String) :
    Lists (sorted ((gateways.filter fun g => g.controlDomain == domain).map (·.name)))
      fun name => ∃ g, g ∈ gateways ∧ g.controlDomain = domain ∧ g.name = name := by
  refine (lists_sorted (h.sublist (List.filter_sublist.map _))).congr fun name => ?_
  simp only [List.mem_map, List.mem_filter, beq_iff_eq, and_assoc]

theorem groups_groupsOf (h : (gateways.map (·.name)).Nodup) :
    Groups (groupsOf gateways) (· ∈ gateways) := by
  have hfst : (groupsOf gateways).map Prod.fst =
      sorted (gateways.map (·.controlDomain)).eraseDups := by
    simp [groupsOf, Function.comp_def]
  have hdomains : Lists ((groupsOf gateways).map Prod.fst) fun domain =>
      ∃ g, g ∈ gateways ∧ g.controlDomain = domain := by
    rw [hfst]
    refine (lists_sorted (nodup_eraseDups _)).congr fun domain => ?_
    rw [List.mem_eraseDups, List.mem_map]
  have hnames : ∀ group ∈ groupsOf gateways,
      Lists group.2 fun name => ∃ g, g ∈ gateways ∧ g.controlDomain = group.1 ∧ g.name = name := by
    intro group hgroup
    obtain ⟨domain, -, rfl⟩ := List.mem_map.1 hgroup
    exact lists_groupsOf h domain
  refine ⟨hdomains, hnames, List.nodup_flatMap.2 ⟨fun group hgroup => ?_, ?_⟩⟩
  · exact (hnames group hgroup).increasing.imp String.ne_of_lt
  · -- A name that is in two groups belongs to one gateway, and that has one domain.
    have hdistinct := List.pairwise_map.1 hdomains.increasing
    refine hdistinct.imp_of_mem fun {first second} hfirst hsecond hlt name hname hname' => ?_
    obtain ⟨g, hg, hdomain, rfl⟩ := ((hnames first hfirst).mem_iff name).1 hname
    obtain ⟨g', hg', hdomain', hsame⟩ := ((hnames second hsecond).mem_iff _).1 hname'
    obtain rfl := List.inj_on_of_nodup_map h hg' hg hsame
    exact absurd (hdomain.symm.trans hdomain') (String.ne_of_lt hlt)

end

section
variable {store : Store} {graph : Graph} {kind : ElementKind} {name : String}

/-- The gateways that are complete when an end arrives. -/
def completed (store : Store) (graph : Graph) (kind : ElementKind) (name : String) :
    List Gateway :=
  (store.gateways.filter (isCompletedBy graph kind name)).filter
    fun g => !graph.isRegistered .gateway g.name

theorem registerGateways_eq :
    registerGateways store graph kind name =
      (groupsOf (completed store graph kind name)).map fun group =>
        registration group.1 [(Action.Key.listGateways, group.2)] := by
  simp only [registerGateways, groupsOf, completed, List.map_map, Function.comp_def]

theorem mem_completed_iff {arrived opposite : Gateway.Part}
    (hends : arrived = .sink ∧ opposite = .source ∨ arrived = .source ∧ opposite = .sink)
    {g : Gateway} :
    g ∈ completed store graph arrived.kind name ↔
      CompletedBy store graph arrived opposite name g := by
  have hcompleted : isCompletedBy graph arrived.kind name g = true ↔
      g.registration = .controller ∧ g.HasPart graph .domain ∧ g.part arrived = name ∧
        g.HasPart graph opposite := by
    rcases hends with ⟨rfl, rfl⟩ | ⟨rfl, rfl⟩
    all_goals simp [isCompletedBy, Gateway.Part.kind, Gateway.part, Gateway.HasPart, and_assoc]
  simp only [completed, List.mem_filter, hcompleted, Bool.not_eq_true']
  constructor
  · rintro ⟨⟨hdeclared, hentrusted, hdomain, hjoins, hopposite⟩, hunregistered⟩
    exact ⟨hdeclared, hentrusted, hunregistered, hjoins, hdomain, hopposite⟩
  · rintro ⟨hdeclared, hentrusted, hunregistered, hjoins, hdomain, hopposite⟩
    exact ⟨⟨hdeclared, hentrusted, hdomain, hjoins, hopposite⟩, hunregistered⟩

/-- An end that arrives implies one registration for each group of gateways that it completes. -/
theorem registerGateways_registersLists {arrived opposite : Gateway.Part}
    (hends : arrived = .sink ∧ opposite = .source ∨ arrived = .source ∧ opposite = .sink) :
    ∃ groups, Groups groups (CompletedBy store graph arrived opposite name) ∧
      List.Forall₂ (fun action group => RegistersLists action group.1 [] [] group.2)
        (registerGateways store graph arrived.kind name) groups := by
  have hnodup : ((completed store graph arrived.kind name).map (·.name)).Nodup :=
    store.nodup_gateways.sublist ((List.filter_sublist.trans List.filter_sublist).map _)
  have hgroups := groups_groupsOf hnodup
  simp only [mem_completed_iff hends] at hgroups
  refine ⟨_, hgroups, ?_⟩
  rw [registerGateways_eq, List.forall₂_map_left_iff, List.forall₂_same]
  exact fun group _ => registration_registersGateways group.1 group.2

end

/-! ## All registrations -/

/-- The registrations that the arrival of a domain, a sink or a source implies list exactly
what is due, in increasing order and each name once. Those for a domain are at most one, and
those for an end are one for each domain that controls a gateway which the end completes. -/
theorem registrations_list_what_is_due (store : Store) (graph : Graph) :
    (∀ domain, ∃ sinks sources gateways action,
      Lists sinks (DueEndpoint store graph domain .sink) ∧
      Lists sources (DueEndpoint store graph domain .source) ∧
      Lists gateways (DueGateway store graph domain) ∧
      RegistersLists action domain sinks sources gateways ∧
      actions store graph (.systemRegisterDomain domain) =
        if sinks = [] ∧ sources = [] ∧ gateways = [] then [] else [action]) ∧
    (∀ sink, ∃ groups, Groups groups (CompletedBy store graph .sink .source sink) ∧
      List.Forall₂ (fun action group => RegistersLists action group.1 [] [] group.2)
        (actions store graph (.systemRegisterSink sink)) groups) ∧
    ∀ source, ∃ groups, Groups groups (CompletedBy store graph .source .sink source) ∧
      List.Forall₂ (fun action group => RegistersLists action group.1 [] [] group.2)
        (actions store graph (.systemRegisterSource source)) groups := by
  refine ⟨registerDomain_registersLists store graph, fun sink => ?_, fun source => ?_⟩
  · exact registerGateways_registersLists (Or.inl ⟨rfl, rfl⟩)
  · exact registerGateways_registersLists (Or.inr ⟨rfl, rfl⟩)

/-- A sink completes three gateways, of which one domain controls two. -/
example :
    let gateway (name domain : String) : Gateway :=
      { name, sink := "In", source := "Out", controlDomain := domain, registration := .controller }
    let store : Store := .loaded
      { gateways := [gateway "West" "Cabin", gateway "South" "Amp", gateway "East" "Cabin"] } rfl
    let graph : Graph :=
      { domains := [{ name := "Cabin" }, { name := "Amp" }]
        sinks := [{ name := "In" }]
        sources := [{ name := "Out" }] }
    (actions store graph (.systemRegisterSink "In")).map Action.text =
      ["register domainName=Amp listGateways=South",
        "register domainName=Cabin listGateways=East West"] := by
  cbv

end Implied
end AudioPolicy

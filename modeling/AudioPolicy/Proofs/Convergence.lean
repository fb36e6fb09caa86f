-- SUMMARY: One round of registration is enough for an arriving domain whose names are words.
import AudioPolicy.Graph.Apply
import AudioPolicy.Proofs.Registration
import AudioPolicy.Proofs.Store
import AudioPolicy.Proofs.Words

/-! # Convergence of registration

A domain that arrives implies one registration of everything that is due in it. The names
travel in written lists, one list for each kind. Names that are words come out of the list
as they went in. After the registration nothing is due any more, and nothing is registered
that was not due. A name that is no word never comes out of a list, so it stays due. -/

namespace AudioPolicy

/-! ## What is due -/

/-- A declared element of a domain that the controller has to register. For a gateway the
    domain is the one that controls it. -/
inductive Entrusted (store : Store) (domain : String) : ElementKind → String → Prop
  | endpoint {kind : ElementKind} {d : Endpoint} : d ∈ store.endpoints kind →
      d.registration = .controller → d.domain = domain → Entrusted store domain kind d.name
  | gateway {g : Gateway} : g ∈ store.gateways → g.registration = .controller →
      g.controlDomain = domain → Entrusted store domain .gateway g.name

/-- A sink or source of a domain that the controller has yet to register. -/
structure DueEndpoint (store : Store) (graph : Graph) (domain : String) (kind : ElementKind)
    (name : String) : Prop where
  declared : ∃ d ∈ store.endpoints kind, d.registration = .controller ∧ d.domain = domain ∧
    d.name = name
  unregistered : graph.isRegistered kind name = false

/-- A sink or source that is registered or about to be. -/
def Present (store : Store) (graph : Graph) (domain : String) (kind : ElementKind)
    (name : String) : Prop :=
  graph.isRegistered kind name = true ∨ DueEndpoint store graph domain kind name

/-- A gateway that the controller has yet to register and that has both its ends. -/
structure DueGateway (store : Store) (graph : Graph) (domain name : String) : Prop where
  declared : ∃ g ∈ store.gateways, g.registration = .controller ∧ g.controlDomain = domain ∧
    Present store graph domain .sink g.sink ∧ Present store graph domain .source g.source ∧
    g.name = name
  unregistered : graph.isRegistered .gateway name = false

/-- What has to be registered when a domain arrives. -/
inductive Due (store : Store) (graph : Graph) (domain : String) : ElementKind → String → Prop
  | endpoint {kind : ElementKind} {name : String} :
      DueEndpoint store graph domain kind name → Due store graph domain kind name
  | gateway {name : String} :
      DueGateway store graph domain name → Due store graph domain .gateway name

section
variable {store : Store} {graph after : Graph} {domain name : String} {kind : ElementKind}

theorem Due.unregistered (h : Due store graph domain kind name) :
    graph.isRegistered kind name = false := by
  cases h with
  | endpoint h => exact h.unregistered
  | gateway h => exact h.unregistered

theorem Due.entrusted (h : Due store graph domain kind name) :
    Entrusted store domain kind name := by
  cases h with
  | endpoint h =>
    obtain ⟨d, hd, hcontroller, hdomain, rfl⟩ := h.declared
    exact .endpoint hd hcontroller hdomain
  | gateway h =>
    obtain ⟨g, hg, hcontroller, hdomain, -, -, rfl⟩ := h.declared
    exact .gateway hg hcontroller hdomain

/-- A sink or source of the domain is registered or due. -/
theorem Entrusted.present (h : Entrusted store domain kind name)
    (hkind : kind = .sink ∨ kind = .source) : Present store graph domain kind name := by
  cases h with
  | @endpoint _ d hd hcontroller hdomain =>
    cases hregistered : graph.isRegistered kind d.name with
    | true => exact Or.inl hregistered
    | false => exact Or.inr ⟨⟨d, hd, hcontroller, hdomain, rfl⟩, hregistered⟩
  | gateway => simp at hkind

/-! ## What stays due -/

theorem DueEndpoint.stays (h : DueEndpoint store graph domain kind name)
    (hafter : after.isRegistered kind name = false) :
    DueEndpoint store after domain kind name :=
  ⟨h.declared, hafter⟩

theorem Present.stays (h : Present store graph domain kind name)
    (hgrows : graph.isRegistered kind name = true → after.isRegistered kind name = true) :
    Present store after domain kind name := by
  rcases h with h | h
  · exact Or.inl (hgrows h)
  · cases hafter : after.isRegistered kind name with
    | true => exact Or.inl hafter
    | false => exact Or.inr (h.stays hafter)

/-- What is due stays due until it is registered itself. -/
theorem Due.stays (h : Due store graph domain kind name)
    (hgrows : ∀ kind name, graph.isRegistered kind name = true →
      after.isRegistered kind name = true)
    (hafter : after.isRegistered kind name = false) : Due store after domain kind name := by
  cases h with
  | endpoint h => exact .endpoint (h.stays hafter)
  | gateway h =>
    obtain ⟨g, hg, hcontroller, hdomain, hsink, hsource, rfl⟩ := h.declared
    exact .gateway ⟨⟨g, hg, hcontroller, hdomain, hsink.stays (hgrows _ _),
      hsource.stays (hgrows _ _), rfl⟩, hafter⟩

/-- Where exactly what was due got registered, nothing is due any more. -/
theorem not_due_of_registered
    (hafter : ∀ kind name, after.isRegistered kind name = true ↔
      graph.isRegistered kind name = true ∨ Due store graph domain kind name) :
    ¬ Due store after domain kind name := by
  have hunregistered : ∀ kind name, after.isRegistered kind name = false →
      graph.isRegistered kind name = false ∧ ¬ Due store graph domain kind name := by
    intro kind name hnone
    have hnot := mt (hafter kind name).2 (by simp [hnone])
    rw [not_or, Bool.not_eq_true] at hnot
    exact hnot
  have hendpoint : ∀ kind name, ¬ DueEndpoint store after domain kind name := by
    intro kind name h
    obtain ⟨hgraph, hnot⟩ := hunregistered kind name h.unregistered
    exact hnot (.endpoint ⟨h.declared, hgraph⟩)
  have hpresent : ∀ kind name, (kind = .sink ∨ kind = .source) →
      Present store after domain kind name → Present store graph domain kind name := by
    rintro kind name hkind (h | h)
    · rcases (hafter kind name).1 h with h | h
      · exact Or.inl h
      · cases h with
        | endpoint h => exact Or.inr h
        | gateway => simp at hkind
    · exact absurd h (hendpoint kind name)
  intro h
  cases h with
  | endpoint h => exact hendpoint kind name h
  | gateway h =>
    obtain ⟨hgraph, hnot⟩ := hunregistered .gateway name h.unregistered
    obtain ⟨g, hg, hcontroller, hdomain, hsink, hsource, rfl⟩ := h.declared
    exact hnot (.gateway ⟨⟨g, hg, hcontroller, hdomain, hpresent _ _ (Or.inl rfl) hsink,
      hpresent _ _ (Or.inr rfl) hsource, rfl⟩, hgraph⟩)

end

/-! ## Written lists -/

namespace Graph

/-- The key of the list in which the names of a kind are written. -/
def listKey? : ElementKind → Option String
  | .sink => some Action.Key.listSinks
  | .source => some Action.Key.listSources
  | .gateway => some Action.Key.listGateways
  | .domain | .class_ | .connection => none

theorem mem_map_name_addElements {domain name : String} {names : List String}
    {es : List Element} :
    name ∈ (addElements domain names es).map (·.name) ↔ name ∈ es.map (·.name) ∨ name ∈ names := by
  unfold addElements
  induction names generalizing es with
  | nil => simp
  | cons first names ih =>
    rw [List.foldl_cons, ih, List.mem_cons]
    split
    next hknown =>
      have hfirst : first ∈ es.map (·.name) := by simpa using hknown
      constructor
      · rintro (h | h)
        · exact Or.inl h
        · exact Or.inr (Or.inr h)
      · rintro (h | rfl | h)
        · exact Or.inl h
        · exact Or.inl hfirst
        · exact Or.inr h
    next => simp [or_assoc]

theorem isRegistered_register {g : Graph} {action : Action} {kind : ElementKind}
    {name : String} :
    (g.register action).isRegistered kind name = true ↔
      g.isRegistered kind name = true ∨
        ∃ key ∈ listKey? kind, name ∈ Text.words (action.paramOrEmpty key) := by
  unfold isRegistered
  rw [List.contains_iff_mem, List.contains_iff_mem]
  cases kind
  case domain | class_ | connection => simp [listKey?, register, names]
  all_goals
    refine mem_map_name_addElements.trans (or_congr Iff.rfl ?_)
    simp [listKey?]

end Graph

namespace Implied

/-! ## The registration of a domain -/

/-- An empty list is left out, and reads like one that is written. -/
theorem paramOrEmpty_registration {domain key : String} {names : List String}
    {lists : List (String × List String)}
    (hkeys : (Action.Key.domainName :: lists.map Prod.fst).Nodup) (hmem : (key, names) ∈ lists) :
    (registration domain lists).paramOrEmpty key = Text.unwords names := by
  rw [Action.paramOrEmpty, param?_registration hkeys hmem]
  cases names <;> rfl

/-- The sinks or sources that are listed when a domain arrives. -/
def arrivingEndpoints (store : Store) (graph : Graph) (domain : String) (kind : ElementKind) :
    List String :=
  pendingEndpoints graph kind (store.endpoints kind) domain

/-- The gateways that are listed when a domain arrives. -/
def arrivingGateways (store : Store) (graph : Graph) (domain : String) : List String :=
  pending graph .gateway
    ((store.gateways.filter fun g =>
      g.registration == .controller && g.controlDomain == domain
        && (graph.isRegistered .sink g.sink
          || (arrivingEndpoints store graph domain .sink).contains g.sink)
        && (graph.isRegistered .source g.source
          || (arrivingEndpoints store graph domain .source).contains g.source)).map (·.name))

/-- The names of a kind that are listed when a domain arrives. -/
def arriving (store : Store) (graph : Graph) (domain : String) : ElementKind → List String
  | .gateway => arrivingGateways store graph domain
  | kind => arrivingEndpoints store graph domain kind

/-- The registration that lists what arrives with a domain. -/
def arrival (store : Store) (graph : Graph) (domain : String) : Action :=
  registration domain
    [(Action.Key.listSinks, arriving store graph domain .sink),
      (Action.Key.listSources, arriving store graph domain .source),
      (Action.Key.listGateways, arriving store graph domain .gateway)]

section
variable {store : Store} {graph : Graph} {domain name : String} {kind : ElementKind}

theorem mem_arrivingEndpoints_iff :
    name ∈ arrivingEndpoints store graph domain kind ↔
      DueEndpoint store graph domain kind name := by
  simp only [arrivingEndpoints, pendingEndpoints, mem_pending_iff, List.mem_map, List.mem_filter,
    Bool.and_eq_true, beq_iff_eq, and_assoc]
  exact ⟨fun h => ⟨h.1, h.2⟩, fun h => ⟨h.declared, h.unregistered⟩⟩

theorem mem_arrivingGateways_iff :
    name ∈ arrivingGateways store graph domain ↔ DueGateway store graph domain name := by
  simp only [arrivingGateways, mem_pending_iff, List.mem_map, List.mem_filter, Bool.and_eq_true,
    Bool.or_eq_true, beq_iff_eq, List.contains_iff_mem, mem_arrivingEndpoints_iff, and_assoc]
  exact ⟨fun h => ⟨h.1, h.2⟩, fun h => ⟨h.declared, h.unregistered⟩⟩

/-- The lists hold what is due. -/
theorem mem_arriving_iff :
    name ∈ arriving store graph domain kind ↔ Due store graph domain kind name := by
  cases kind
  case gateway =>
    refine mem_arrivingGateways_iff.trans ⟨.gateway, fun h => ?_⟩
    cases h with
    | endpoint h =>
      obtain ⟨d, hd, -⟩ := h.declared
      exact absurd hd List.not_mem_nil
    | gateway h => exact h
  all_goals
    refine mem_arrivingEndpoints_iff.trans ⟨.endpoint, fun h => ?_⟩
    cases h with | endpoint h => exact h

/-- Kinds that have no list have nothing to put into one. -/
theorem arriving_eq_nil (h : Graph.listKey? kind = none) :
    arriving store graph domain kind = [] := by
  have hendpoints : arrivingEndpoints store graph domain kind = [] := by
    refine List.eq_nil_iff_forall_not_mem.2 fun name hname => ?_
    obtain ⟨d, hd, -⟩ := (mem_arrivingEndpoints_iff.1 hname).declared
    cases kind with
    | sink | source | gateway => exact absurd h (Option.some_ne_none _)
    | domain | class_ | connection => exact absurd hd List.not_mem_nil
  cases kind with
  | gateway => exact absurd h (Option.some_ne_none _)
  | sink | source | domain | class_ | connection => exact hendpoints

theorem arriving_eq_nil_iff :
    (∀ kind, arriving store graph domain kind = []) ↔
      ∀ kind name, ¬ Due store graph domain kind name := by
  simp only [List.eq_nil_iff_forall_not_mem, mem_arriving_iff]

/-- One registration lists all that arrives, unless nothing does. -/
theorem actions_registerDomain_eq (store : Store) (graph : Graph) (domain : String) :
    actions store graph (.systemRegisterDomain domain) =
      if (arriving store graph domain .sink).isEmpty
          && (arriving store graph domain .source).isEmpty
          && (arriving store graph domain .gateway).isEmpty then []
      else [arrival store graph domain] := rfl

/-- Nothing is done when nothing is due, and else there is one registration. -/
theorem actions_registerDomain_cases (store : Store) (graph : Graph) (domain : String) :
    ((∀ kind name, ¬ Due store graph domain kind name) ∧
        actions store graph (.systemRegisterDomain domain) = []) ∨
      ((∃ kind name, Due store graph domain kind name) ∧
        actions store graph (.systemRegisterDomain domain) = [arrival store graph domain]) := by
  rw [actions_registerDomain_eq]
  split
  next hempty =>
    simp only [Bool.and_eq_true, List.isEmpty_iff, and_assoc] at hempty
    obtain ⟨hsinks, hsources, hgateways⟩ := hempty
    refine Or.inl ⟨arriving_eq_nil_iff.1 fun kind => ?_, rfl⟩
    cases kind with
    | sink => exact hsinks
    | source => exact hsources
    | gateway => exact hgateways
    | domain | class_ | connection => exact arriving_eq_nil rfl
  next hsome =>
    refine Or.inr ⟨?_, rfl⟩
    by_contra hnone
    push Not at hnone
    have hnil := arriving_eq_nil_iff.2 hnone
    simp [hnil] at hsome

theorem paramOrEmpty_arrival {key : String} (h : Graph.listKey? kind = some key) :
    (arrival store graph domain).paramOrEmpty key =
      Text.unwords (arriving store graph domain kind) := by
  refine paramOrEmpty_registration ?_ ?_
  · exact (by decide : [Action.Key.domainName, Action.Key.listSinks, Action.Key.listSources,
      Action.Key.listGateways].Nodup)
  · cases kind <;> cases h <;> simp

/-- Behind the arrival of a domain the names are registered that were so before or that come
    out of a list. -/
theorem isRegistered_arrived :
    (graph.applyAll (actions store graph (.systemRegisterDomain domain))).isRegistered kind name =
        true ↔
      graph.isRegistered kind name = true ∨
        name ∈ Text.words (Text.unwords (arriving store graph domain kind)) := by
  rcases actions_registerDomain_cases store graph domain with
    ⟨hnone, hactions⟩ | ⟨-, hactions⟩
  · rw [hactions, arriving_eq_nil_iff.2 hnone kind]
    exact (or_iff_left List.not_mem_nil).symm
  · have happly : graph.applyAll [arrival store graph domain] =
        graph.register (arrival store graph domain) := rfl
    rw [hactions, happly, Graph.isRegistered_register]
    refine or_congr Iff.rfl ?_
    cases hkey : Graph.listKey? kind with
    | none =>
      rw [arriving_eq_nil hkey]
      exact ⟨fun ⟨_, hkey, _⟩ => (Option.not_mem_none _ hkey).elim,
        fun h => absurd h List.not_mem_nil⟩
    | some key => simp [paramOrEmpty_arrival hkey]

/-! ## Convergence -/

/-- Where all that is due are words, just that is registered. -/
theorem isRegistered_arrived_of_words
    (hwords : ∀ kind name, Due store graph domain kind name → Text.IsWord name) :
    (graph.applyAll (actions store graph (.systemRegisterDomain domain))).isRegistered kind name =
        true ↔
      graph.isRegistered kind name = true ∨ Due store graph domain kind name := by
  have hnames : ∀ name ∈ arriving store graph domain kind, Text.IsWord name := fun name hname =>
    hwords kind name (mem_arriving_iff.1 hname)
  rw [isRegistered_arrived, Text.words_unwords hnames, mem_arriving_iff]

/-- A name that is no word stays due. -/
theorem due_arrived_of_not_isWord (h : Due store graph domain kind name)
    (hword : ¬ Text.IsWord name) :
    Due store (graph.applyAll (actions store graph (.systemRegisterDomain domain))) domain kind
      name := by
  refine h.stays (fun kind name hname => isRegistered_arrived.2 (Or.inl hname)) ?_
  rw [← Bool.not_eq_true, isRegistered_arrived, not_or, Bool.not_eq_true]
  exact ⟨h.unregistered, fun hmem => hword (Text.isWord_of_mem_words hmem)⟩

/-- The registration that the arrival of a domain implies brings in all sinks and sources of
    the domain that are the controller's to register, brings in nothing else but what is the
    controller's to register, and leaves nothing to do, if and only if all names that are due
    are words. -/
theorem registration_converges_iff (store : Store) (graph : Graph) (domain : String) :
    let arrived := graph.applyAll (actions store graph (.systemRegisterDomain domain))
    ((∀ kind name, (kind = .sink ∨ kind = .source) → Entrusted store domain kind name →
          arrived.isRegistered kind name = true) ∧
        (∀ kind name, arrived.isRegistered kind name = true →
          graph.isRegistered kind name = true ∨ Entrusted store domain kind name) ∧
        actions store arrived (.systemRegisterDomain domain) = []) ↔
      ∀ kind name, Due store graph domain kind name → Text.IsWord name := by
  intro arrived
  constructor
  · rintro ⟨-, -, hnil⟩ kind name hdue
    by_contra hword
    have hstays : Due store arrived domain kind name := due_arrived_of_not_isWord hdue hword
    rcases actions_registerDomain_cases store arrived domain with
      ⟨hnone, -⟩ | ⟨-, hactions⟩
    · exact hnone kind name hstays
    · exact absurd (hactions.symm.trans hnil) (List.cons_ne_nil _ _)
  · intro hwords
    have harrived : ∀ kind name, arrived.isRegistered kind name = true ↔
        graph.isRegistered kind name = true ∨ Due store graph domain kind name :=
      fun kind name => isRegistered_arrived_of_words hwords
    refine ⟨fun kind name hkind hentrusted => ?_, fun kind name hregistered => ?_, ?_⟩
    · exact (harrived kind name).2 ((hentrusted.present hkind).imp_right .endpoint)
    · exact ((harrived kind name).1 hregistered).imp_right Due.entrusted
    · rcases actions_registerDomain_cases store arrived domain
        with ⟨-, hactions⟩ | ⟨⟨kind, name, hdue⟩, -⟩
      · exact hactions
      · exact absurd hdue (not_due_of_registered harrived)

/-- A sink with a space in its name is registered under two other names. -/
theorem registration_splits_spaced_name :
    ¬ ∀ (store : Store) (graph : Graph) (domain : String),
      let arrived := graph.applyAll (actions store graph (.systemRegisterDomain domain))
      (∀ kind name, (kind = .sink ∨ kind = .source) → Entrusted store domain kind name →
          arrived.isRegistered kind name = true) ∧
        (∀ kind name, arrived.isRegistered kind name = true →
          graph.isRegistered kind name = true ∨ Entrusted store domain kind name) ∧
        actions store arrived (.systemRegisterDomain domain) = [] := by
  intro h
  let speaker : Endpoint :=
    { name := "Rear Speaker", domain := "Amp", registration := .controller }
  let store : Store := .loaded { sinks := [speaker] } rfl
  obtain ⟨hregistered, -, -⟩ := h store {} "Amp"
  have hspeaker : speaker ∈ store.endpoints .sink := by decide
  have hentrusted : Entrusted store "Amp" .sink "Rear Speaker" := .endpoint hspeaker rfl rfl
  have hdue : Due store {} "Amp" .sink "Rear Speaker" :=
    .endpoint ⟨⟨speaker, hspeaker, rfl, rfl, rfl⟩, rfl⟩
  have hstays := due_arrived_of_not_isWord hdue (by decide)
  have hnot := hstays.unregistered
  rw [hregistered .sink "Rear Speaker" (Or.inl rfl) hentrusted] at hnot
  cases hnot

end
end Implied
end AudioPolicy

-- SUMMARY: A domain that completes its registration has its stored properties requested again.
import AudioPolicy.Proofs.Lifecycle
import AudioPolicy.Proofs.Store

/-! # Restoring stored properties

When a domain completes its registration, the rules are run for the trigger itself and then for
one request after the other. The requests can be read off the graph: each element of the domain
that has stored properties has them requested, first together and then one by one. A request
that is rejected adds nothing, and no request implies anything further. -/

namespace AudioPolicy

/-! ## Requests -/

/-- The requests for what an element has stored: all of it together, then each property. -/
def Element.requests (e : Element) (together : String → List Property → Trigger)
    (single : String → Property → Trigger) : List Trigger :=
  together e.name e.mainSoundProperties :: e.mainSoundProperties.map (single e.name)

/-- The elements of a domain that have something stored. -/
def holders (domain : String) (es : List Element) : List Element :=
  es.filter fun e => e.domain = domain ∧ e.mainSoundProperties ≠ []

/-- The requests for what the elements of a domain have stored, sinks first. -/
def restoreRequests (graph : Graph) (domain : String) : List Trigger :=
  ((holders domain graph.sinks).flatMap
      (·.requests .userSetSinkMainSoundProperties .userSetSinkMainSoundProperty))
    ++ (holders domain graph.sources).flatMap
      (·.requests .userSetSourceMainSoundProperties .userSetSourceMainSoundProperty)

theorem holders_cons (domain : String) (e : Element) (es : List Element) :
    holders domain (e :: es) =
      if e.domain = domain ∧ e.mainSoundProperties ≠ [] then e :: holders domain es
      else holders domain es := by
  simp only [holders, List.filter_cons, decide_eq_true_eq]

/-- An element of the domain that has nothing stored requests nothing. -/
theorem flatMap_holders (domain : String) (es : List Element) (f : Element → List Trigger) :
    ((es.filter fun e => e.domain == domain).flatMap fun e =>
        if e.mainSoundProperties = [] then [] else f e) = (holders domain es).flatMap f := by
  induction es with
  | nil => rfl
  | cons e es ih =>
    by_cases hdomain : e.domain = domain
    · by_cases hstored : e.mainSoundProperties = [] <;> simp [holders_cons, hdomain, hstored, ih]
    · simp [holders_cons, hdomain, ih]

namespace Implied

variable {graph : Graph}

/-- Under distinct names a lookup finds the properties that an element has stored. -/
theorem restoreElement_of_mem {kind : ElementKind}
    (h : ((graph.elements kind).map (·.name)).Nodup) (together : String → List Property → Trigger)
    (single : String → Property → Trigger) {e : Element} (he : e ∈ graph.elements kind) :
    restoreElement together single e.name (graph.mainSoundProperties kind e.name) =
      if e.mainSoundProperties = [] then [] else e.requests together single := by
  have hfound : graph.element? kind e.name = some e := (find?_name_eq_some_iff h).2 ⟨he, rfl⟩
  simp [Graph.mainSoundProperties, hfound, restoreElement, Element.requests]

theorem flatMap_restoreElement (kind : ElementKind)
    (h : ((graph.elements kind).map (·.name)).Nodup) (domain : String)
    (together : String → List Property → Trigger) (single : String → Property → Trigger) :
    ((graph.namesInDomain domain kind).flatMap fun name =>
        restoreElement together single name (graph.mainSoundProperties kind name)) =
      (holders domain (graph.elements kind)).flatMap (·.requests together single) := by
  simp only [Graph.namesInDomain, List.flatMap_map, ← flatMap_holders]
  exact List.flatMap_congr fun e he =>
    restoreElement_of_mem h together single (List.mem_of_mem_filter he)

theorem restoreTriggers_eq_restoreRequests (hsinks : (graph.sinks.map (·.name)).Nodup)
    (hsources : (graph.sources.map (·.name)).Nodup) (domain : String) :
    restoreTriggers graph domain = restoreRequests graph domain := by
  simp only [restoreTriggers, restoreRequests, flatMap_restoreElement .sink hsinks,
    flatMap_restoreElement .source hsources, Graph.elements]

end Implied

/-! ## Rules for requests -/

namespace Engine

variable {store : Store} {graph : Graph}

/-- What a request adds to the answer: its rule actions, or nothing if its lookup is rejected. -/
inductive Adds (store : Store) (graph : Graph) (request : Trigger) : List Action → Prop
  | accepted {actions : List Action} :
      (ruleActions { store, graph, trigger := request }).value = .ok actions →
      Adds store graph request actions
  | rejected : LookupRejected store request → Adds store graph request []

theorem value_ruleActions_cases (h : store.reason? = none) (graph : Graph) (t : Trigger) :
    (LookupRejected store t ∧
        (ruleActions { store, graph, trigger := t }).value = .error (.noPolicy t.kind)) ∨
      (¬ LookupRejected store t ∧
        ∃ actions, (ruleActions { store, graph, trigger := t }).value = .ok actions) := by
  simp only [value_ruleActions, candidates_loaded h]
  split
  next hrejected => exact .inl ⟨hrejected, rfl⟩
  next haccepted => exact .inr ⟨haccepted, _, rfl⟩

/-- Restored requests are answered one after the other, whatever becomes of the others. -/
theorem exists_restoreAll (h : store.reason? = none) (graph : Graph) (t : Trigger)
    (requests : List Trigger) :
    ∃ answers, List.Forall₂ (Adds store graph) requests answers ∧
      (restoreAll { store, graph, trigger := t } requests).value = answers.flatten := by
  induction requests with
  | nil => exact ⟨[], .nil, rfl⟩
  | cons request requests ih =>
    obtain ⟨answers, hadds, hanswers⟩ := ih
    rcases value_ruleActions_cases h graph request with
      ⟨hrejected, hrules⟩ | ⟨-, actions, hrules⟩
    · refine ⟨[] :: answers, .cons (.rejected hrejected) hadds, ?_⟩
      simp [restoreAll, hrules, hanswers]
    · refine ⟨actions :: answers, .cons (.accepted hrules) hadds, ?_⟩
      simp [restoreAll, hrules, hanswers]

/-- The trigger implies no actions and restores nothing. -/
def Final (store : Store) (graph : Graph) (t : Trigger) : Prop :=
  Implied.actions store graph t = [] ∧ restoreActions { store, graph, trigger := t } = pure []

theorem final_of_mem_restoreRequests {domain : String} {request : Trigger}
    (h : request ∈ restoreRequests graph domain) : Final store graph request := by
  simp only [restoreRequests, Element.requests, List.mem_append, List.mem_flatMap, List.mem_cons,
    List.mem_map] at h
  rcases h with ⟨e, -, rfl | ⟨p, -, rfl⟩⟩ | ⟨e, -, rfl | ⟨p, -, rfl⟩⟩
  all_goals exact ⟨rfl, rfl⟩

/-! ## Completed domains -/

/-- When a domain completes its registration, the answer is made of the rule actions for that
    trigger and for the requests of what is stored in the domain, in this order. -/
theorem evaluate_complete_restores {domain : String} (hloaded : store.reason? = none)
    (hrestore : store.options.restoreOnComplete = true)
    (hsinks : (graph.sinks.map (·.name)).Nodup) (hsources : (graph.sources.map (·.name)).Nodup)
    (haccepted : ¬ LookupRejected store (.systemDomainRegistrationComplete domain)) :
    let complete : Trigger := .systemDomainRegistrationComplete domain
    ∃ own answers,
      (ruleActions { store, graph, trigger := complete }).value = .ok own ∧
      List.Forall₂ (Adds store graph) (restoreRequests graph domain) answers ∧
      (evaluate { store, started := true } graph complete).value = .ok (own ++ answers.flatten) ∧
      ∀ request ∈ restoreRequests graph domain, Final store graph request := by
  intro complete
  obtain ⟨own, hown⟩ : ∃ own, (ruleActions { store, graph, trigger := complete }).value = .ok own :=
    (value_ruleActions_cases hloaded graph complete).elim (fun h => absurd h.1 haccepted) And.right
  obtain ⟨answers, hadds, hanswers⟩ :=
    exists_restoreAll hloaded graph complete (restoreRequests graph domain)
  have hrestored : (restoreActions { store, graph, trigger := complete }).value =
      answers.flatten := by
    simp only [restoreActions, complete, hrestore, if_true,
      Implied.restoreTriggers_eq_restoreRequests hsinks hsources]
    exact hanswers
  refine ⟨own, answers, hown, hadds, ?_, fun request => final_of_mem_restoreRequests⟩
  have hscope : scopeOf store graph complete = { store, graph, trigger := complete } := rfl
  have himplied : Implied.actions store graph complete = [] := rfl
  simp [evaluate, answer, hscope, hown, himplied, hrestored]

/-- The lookup is strict and finds a policy for the completed domain and for properties that are
    set together, but none for a single property. One sink of the domain has two properties
    stored, one has none, and a sink of another domain has one. -/
theorem evaluate_complete_restores_of_rejected_singles :
    let store : Store := .loaded
      { policies :=
          [{ name := "complete", triggers := [.systemDomainRegistrationComplete],
             actions := [{ kind := .push }] },
           { name := "restore", triggers := [.userSetSinkMainSoundProperties],
             actions := [{ kind := .setProperties }] }]
        options := { strictLookup := true } } rfl
    let graph : Graph :=
      { sinks :=
          [{ name := "Speaker", domain := "Amp", mainSoundProperties := [⟨1, 3⟩, ⟨2, 7⟩] },
           { name := "Headset", domain := "Amp" },
           { name := "Phone", domain := "Cabin", mainSoundProperties := [⟨1, 5⟩] }] }
    let complete : Trigger := .systemDomainRegistrationComplete "Amp"
    store.reason? = none ∧ store.options.restoreOnComplete = true ∧
      (graph.sinks.map (·.name)).Nodup ∧ (graph.sources.map (·.name)).Nodup ∧
      ¬ LookupRejected store complete ∧
      restoreRequests graph "Amp" =
        [.userSetSinkMainSoundProperties "Speaker" [⟨1, 3⟩, ⟨2, 7⟩],
          .userSetSinkMainSoundProperty "Speaker" ⟨1, 3⟩,
          .userSetSinkMainSoundProperty "Speaker" ⟨2, 7⟩] ∧
      ∃ own answers,
        (ruleActions { store, graph, trigger := complete }).value = .ok own ∧
        List.Forall₂ (Adds store graph) (restoreRequests graph "Amp") answers ∧
        (evaluate { store, started := true } graph complete).value =
          .ok (own ++ answers.flatten) ∧
        ∀ request ∈ restoreRequests graph "Amp", Final store graph request := by
  intro store graph complete
  have hsinks : (graph.sinks.map (·.name)).Nodup := by decide
  have hsources : (graph.sources.map (·.name)).Nodup := by decide
  have haccepted : ¬ LookupRejected store complete := by decide
  exact ⟨rfl, rfl, hsinks, hsources, haccepted, rfl,
    evaluate_complete_restores rfl rfl hsinks hsources haccepted⟩

end Engine
end AudioPolicy

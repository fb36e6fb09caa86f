-- SUMMARY: What a trigger implies does not depend on the order of the declarations.
import AudioPolicy.Proofs.RegistrationLists

/-! # Implied actions and the order of the declarations

The implied actions follow the graph where they list what is registered. Where they list what
is declared, they look it up by name or sort it first. So two configurations that declare the
same elements in another order imply the same actions. -/

namespace AudioPolicy

open Implied

/-! ## Sorted declarations -/

namespace Implied

variable {gateways gateways' : List Gateway} (h : gateways.Perm gateways')

include h

/-- The names of the gateways that a domain controls, in increasing order. -/
theorem sorted_controlled_eq_of_perm (domain : String) :
    sorted ((gateways.filter fun g => g.controlDomain == domain).map (·.name)) =
      sorted ((gateways'.filter fun g => g.controlDomain == domain).map (·.name)) :=
  mergeSort_eq_of_perm ((h.filter _).map _)

theorem groupsOf_eq_of_perm : groupsOf gateways = groupsOf gateways' := by
  have hdomains : sorted (gateways.map (·.controlDomain)).eraseDups =
      sorted (gateways'.map (·.controlDomain)).eraseDups :=
    mergeSort_eq_of_perm (perm_eraseDups (h.map _))
  simp only [groupsOf, hdomains, sorted_controlled_eq_of_perm h]

end Implied

namespace Store.Permuted

variable {s s' : Store} (h : s.Permuted s') (graph : Graph)

include h

theorem endpoints_perm (kind : ElementKind) : (s.endpoints kind).Perm (s'.endpoints kind) := by
  cases kind with
  | sink => exact h.sinks_perm
  | source => exact h.sources_perm
  | domain | gateway | class_ | connection => exact .refl _

theorem gateways_perm : s.gateways.Perm s'.gateways := h.gateways.filter _

/-! ## Deregistration -/

theorem gatewayMembers_eq : gatewayMembers s = gatewayMembers s' := by
  funext gateway
  simp only [gatewayMembers, h.gateway?_eq]

theorem domainMembers_eq : domainMembers s graph = domainMembers s' graph := by
  funext domain
  have hgateways : gatewaysOf s graph domain = gatewaysOf s' graph domain := by
    simp only [gatewaysOf, sorted_controlled_eq_of_perm h.gateways_perm]
  have howned (kind : ElementKind) :
      ownedBy s graph domain kind = ownedBy s' graph domain kind := by
    have hnames := (h.names_perm kind).filter fun name => s'.domainOf? kind name == some domain
    simp only [ownedBy, h.domainOf?_eq, sorted, mergeSort_eq_of_perm hnames]
  simp only [domainMembers, hgateways, h.gatewayMembers_eq, howned]

/-! ## Registration -/

theorem arriving_eq (domain : String) : arriving s graph domain = arriving s' graph domain := by
  have hendpoints : arrivingEndpoints s graph domain = arrivingEndpoints s' graph domain := by
    funext kind
    exact mergeSort_eq_of_perm ((((h.endpoints_perm kind).filter _).map _).filter _)
  funext kind
  cases kind with
  | gateway =>
    simp only [arriving, arrivingGateways, hendpoints]
    exact mergeSort_eq_of_perm (((h.gateways_perm.filter _).map _).filter _)
  | sink | source | domain | class_ | connection => exact congrFun hendpoints _

theorem registerGateways_eq (kind : ElementKind) (name : String) :
    registerGateways s graph kind name = registerGateways s' graph kind name := by
  have hcompleted : (completed s graph kind name).Perm (completed s' graph kind name) :=
    (h.gateways_perm.filter _).filter _
  simp only [Implied.registerGateways_eq, groupsOf_eq_of_perm hcompleted]

end Store.Permuted

/-! ## Configurations -/

/-- Configurations with the same declarations in another order give such stores, too. -/
theorem Configuration.Permuted.store {c c' : Configuration} (h : c.Permuted c') :
    (Store.ofConfiguration c).value.Permuted (Store.ofConfiguration c').value := by
  cases hduplicate : c.duplicate? with
  | none =>
    rw [Store.ofConfiguration_of_valid hduplicate,
      Store.ofConfiguration_of_valid (h.duplicate?_eq_none hduplicate)]
    exact h
  | some found =>
    cases hduplicate' : c'.duplicate? with
    | none => simp [h.symm.duplicate?_eq_none hduplicate'] at hduplicate
    | some found' =>
      rw [Store.ofConfiguration_of_duplicate hduplicate,
        Store.ofConfiguration_of_duplicate hduplicate']
      exact Store.Permuted.refl _

namespace Implied

/-- Configurations that declare the same elements in another order imply the same actions in
    the same order, whatever is registered and whatever the trigger is. -/
theorem actions_eq_of_permuted {c c' : Configuration} (h : c.Permuted c') (graph : Graph)
    (t : Trigger) :
    actions (Store.ofConfiguration c).value graph t =
      actions (Store.ofConfiguration c').value graph t := by
  have hstore := h.store
  cases t with
  | systemDeregisterDomain domain => simp only [actions, hstore.domainMembers_eq]
  | systemDeregisterGateway gateway => simp only [actions, hstore.gatewayMembers_eq]
  | systemRegisterDomain domain =>
    simp only [actions_registerDomain_eq, arrival, hstore.arriving_eq]
  | systemRegisterSink sink => exact hstore.registerGateways_eq graph .sink sink
  | systemRegisterSource source => exact hstore.registerGateways_eq graph .source source
  | _ => rfl -- What is left reads no declaration: an end by itself, or no implied action.

/-- Two sinks and three gateways of two domains, which a source completes, stand in the
    configuration in one order and in the reverse order. -/
theorem actions_eq_of_permuted_of_reversed :
    let gateway (name domain : String) : Gateway :=
      { name, sink := "In", source := "Out", controlDomain := domain, registration := .controller }
    let c : Configuration :=
      { sinks := [{ name := "In" }, { name := "Speaker" }]
        gateways := [gateway "West" "Cabin", gateway "South" "Amp", gateway "East" "Cabin"] }
    let graph : Graph :=
      { domains := [{ name := "Cabin" }, { name := "Amp" }], sinks := [{ name := "In" }] }
    let t : Trigger := .systemRegisterSource "Out"
    c.Permuted c.reversed ∧ c.gateways ≠ c.reversed.gateways ∧
      actions (Store.ofConfiguration c).value graph t =
        actions (Store.ofConfiguration c.reversed).value graph t := by
  intro gateway c graph t
  exact ⟨c.permuted_reversed, by decide, actions_eq_of_permuted c.permuted_reversed graph t⟩

end Implied
end AudioPolicy

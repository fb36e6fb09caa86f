-- SUMMARY: Names are unique in a store, so a lookup by name finds the one declaration there is.
import AudioPolicy.Store
import Mathlib.Data.List.Nodup

/-! # Lookups in a store

A configuration gets into a store only without repeated names. That makes every lookup
by name exact: it finds a declaration if and only if that is declared under the name. -/

namespace AudioPolicy

/-! ## Repeated names -/

namespace Configuration

theorem firstRepeated?_eq_none_iff {seen names : List String} :
    firstRepeated? seen names = none ↔ names.Nodup ∧ ∀ name ∈ names, name ∉ seen := by
  induction names generalizing seen with
  | nil => simp [firstRepeated?]
  | cons name names ih =>
    rw [firstRepeated?, List.nodup_cons, List.forall_mem_cons]
    by_cases hseen : name ∈ seen
    · simp [hseen]
    · rw [if_neg (by simpa using hseen), ih]
      constructor
      · rintro ⟨hnodup, hnot⟩
        have hname : name ∉ names := fun h => hnot name h List.mem_cons_self
        exact ⟨⟨hname, hnodup⟩, hseen, fun n hn hs => hnot n hn (List.mem_cons_of_mem _ hs)⟩
      · rintro ⟨⟨hname, hnodup⟩, -, hnot⟩
        refine ⟨hnodup, fun n hn hs => ?_⟩
        rcases List.mem_cons.1 hs with rfl | hs
        · exact hname hn
        · exact hnot n hn hs

/-- In a valid configuration no two declarations of a kind share a name. -/
theorem nodup_declaredNames {c : Configuration} (h : c.duplicate? = none) (kind : ElementKind) :
    (c.declaredNames kind).Nodup := by
  have hkind : kind ∈ [ElementKind.source, .sink, .domain, .gateway, .class_] →
      (c.declaredNames kind).Nodup := by
    intro hmem
    have hnone := List.findSome?_eq_none_iff.1 h kind hmem
    rw [Option.map_eq_none_iff, firstRepeated?_eq_none_iff] at hnone
    exact hnone.1
  cases kind
  case connection => exact List.nodup_nil
  all_goals exact hkind (by decide)

end Configuration

/-! ## Declared elements -/

/-- Among things with distinct names a search by name is exact. -/
theorem find?_name_eq_some_iff {α : Type} {name : α → String} {as : List α}
    (h : (as.map name).Nodup) {n : String} {a : α} :
    as.find? (fun a => name a == n) = some a ↔ a ∈ as ∧ name a = n := by
  constructor
  · intro hfind
    exact ⟨List.mem_of_find?_eq_some hfind, by simpa using List.find?_some hfind⟩
  · rintro ⟨ha, rfl⟩
    cases hfind : as.find? fun b => name b == name a with
    | none => exact absurd (beq_self_eq_true (name a)) (List.find?_eq_none.1 hfind a ha)
    | some b =>
      have hname : name b = name a := by simpa using List.find?_some hfind
      rw [List.inj_on_of_nodup_map h (List.mem_of_find?_eq_some hfind) ha hname]

namespace Store

theorem nodup_declaredNames (s : Store) (kind : ElementKind) :
    (s.configuration.declaredNames kind).Nodup := by
  cases s with
  | loaded c distinct => exact Configuration.nodup_declaredNames distinct kind
  | unavailable reason => cases kind <;> exact List.nodup_nil

theorem nodup_names (s : Store) (kind : ElementKind) : (s.names kind).Nodup := by
  have h := s.nodup_declaredNames kind
  cases kind
  case connection => exact List.nodup_nil
  all_goals exact h.sublist (List.filter_sublist.map _)

theorem ofConfiguration_of_valid {c : Configuration} (h : c.duplicate? = none) :
    (ofConfiguration c).value = .loaded c h := by
  unfold ofConfiguration
  split
  next kind name hduplicate => simp [h] at hduplicate
  next => rfl

theorem ofConfiguration_of_duplicate {c : Configuration} {kind : ElementKind} {name : String}
    (h : c.duplicate? = some (kind, name)) :
    (ofConfiguration c).value = .unavailable (Error.duplicateName kind name).message := by
  unfold ofConfiguration
  split
  next hduplicate =>
    obtain ⟨rfl, rfl⟩ : _ ∧ _ := by simpa [h] using hduplicate
    rfl
  next hvalid => simp [h] at hvalid

theorem gateway?_eq_some_iff {s : Store} {n : String} {g : Gateway} :
    s.gateway? n = some g ↔ g ∈ s.gateways ∧ g.name = n :=
  find?_name_eq_some_iff (s.nodup_names .gateway)

/-! ## Owning domains -/

theorem nonEmpty_eq_some_iff {text d : String} : nonEmpty text = some d ↔ text = d ∧ d ≠ "" := by
  rw [nonEmpty]
  split
  next h => exact ⟨nofun, fun ⟨htext, hd⟩ => absurd (htext ▸ h) hd⟩
  next h =>
    rw [Option.some.injEq]
    exact ⟨fun htext => ⟨htext, htext ▸ h⟩, And.left⟩

/-- The declared sinks or sources. Other kinds have none. -/
def endpoints (s : Store) : ElementKind → List Endpoint
  | .sink => s.sinks
  | .source => s.sources
  | .domain | .gateway | .class_ | .connection => []

theorem names_eq_endpoints {s : Store} {kind : ElementKind}
    (hkind : kind = .sink ∨ kind = .source) :
    s.names kind = (s.endpoints kind).map (·.name) := by
  rcases hkind with rfl | rfl <;> rfl

theorem domainOf?_eq_endpoints {s : Store} {kind : ElementKind}
    (hkind : kind = .sink ∨ kind = .source) (name : String) :
    s.domainOf? kind name =
      ((s.endpoints kind).find? fun d => d.name == name).bind fun d => nonEmpty d.domain := by
  rcases hkind with rfl | rfl <;> rfl

/-- The domain of a sink or source is the one of its declaration, unless that is empty. -/
theorem mem_names_domainOf?_iff {s : Store} {kind : ElementKind}
    (hkind : kind = .sink ∨ kind = .source) {name domain : String} :
    (name ∈ s.names kind ∧ s.domainOf? kind name = some domain) ↔
      ∃ d ∈ s.endpoints kind, d.name = name ∧ d.domain = domain ∧ domain ≠ "" := by
  have hnodup := s.nodup_names kind
  rw [names_eq_endpoints hkind] at hnodup ⊢
  simp only [domainOf?_eq_endpoints hkind, Option.bind_eq_some_iff,
    find?_name_eq_some_iff hnodup, nonEmpty_eq_some_iff]
  constructor
  · rintro ⟨-, d, ⟨hd, hname⟩, hdomain⟩
    exact ⟨d, hd, hname, hdomain⟩
  · rintro ⟨d, hd, hname, hdomain⟩
    exact ⟨hname ▸ List.mem_map_of_mem hd, d, ⟨hd, hname⟩, hdomain⟩

end Store
end AudioPolicy

-- SUMMARY: A store is loaded iff declared names are distinct, and then each of its tables is exact.
import AudioPolicy.Proofs.Reordering

/-! # The tables of a store

A store has a table for each kind of declared element. Names have to be distinct before the
templates are left out. Then every table lists the names of the elements that are declared, each
once, and leads from such a name to the declaration and to no other. A store without a
configuration has nothing in its tables and no answer to the lookup of policies. -/

namespace AudioPolicy

/-! ## Distinct names -/

namespace Configuration

/-- No two entries of a list share a name, templates included. -/
structure Distinct (c : Configuration) : Prop where
  sources : (c.sources.map (·.name)).Nodup
  sinks : (c.sinks.map (·.name)).Nodup
  domains : (c.domains.map (·.name)).Nodup
  gateways : (c.gateways.map (·.name)).Nodup
  classes : (c.classes.map (·.name)).Nodup

theorem duplicate?_eq_none_iff_distinct {c : Configuration} :
    c.duplicate? = none ↔ c.Distinct := by
  refine duplicate?_eq_none_iff.trans ⟨fun h => ?_, fun h kind => ?_⟩
  · exact ⟨h .source, h .sink, h .domain, h .gateway, h .class_⟩
  · cases kind with
    | source => exact h.sources
    | sink => exact h.sinks
    | domain => exact h.domains
    | gateway => exact h.gateways
    | class_ => exact h.classes
    | connection => exact List.nodup_nil

end Configuration

namespace Store

/-! ## Tables -/

/-- The names and the lookup of a table are those of the entries that are no templates. -/
structure Tabulates {α : Type} (name : α → String) (template : α → Bool) (entries : List α)
    (names : List String) (find? : String → Option α) : Prop where
  nodup : names.Nodup
  mem_names_iff : ∀ n, n ∈ names ↔ ∃ d ∈ entries, template d = false ∧ name d = n
  found_iff : ∀ n, (find? n).isSome = true ↔ n ∈ names
  find?_eq_some_iff : ∀ n d, find? n = some d ↔ d ∈ entries ∧ template d = false ∧ name d = n

theorem tabulates_of_nodup {α : Type} {name : α → String} (template : α → Bool)
    {entries : List α} (h : (entries.map name).Nodup) :
    Tabulates name template entries ((entries.filter fun d => !template d).map name)
      fun n => (entries.filter fun d => !template d).find? fun d => name d == n := by
  have hkept : ((entries.filter fun d => !template d).map name).Nodup :=
    h.sublist (List.filter_sublist.map name)
  refine ⟨hkept, fun n => ?_, fun n => ?_, fun n d => ?_⟩
  · simp only [List.mem_map, List.mem_filter, Bool.not_eq_true', and_assoc]
  · simp only [Option.isSome_iff_exists, find?_name_eq_some_iff hkept, List.mem_map]
  · simp only [find?_name_eq_some_iff hkept, List.mem_filter, Bool.not_eq_true', and_assoc]

/-- A lookup gives a field of the entry with a name, unless there is no entry or the field is
    empty. -/
def ReadsField {α : Type} (find? : String → Option α) (field : α → String)
    (lookup? : String → Option String) : Prop :=
  ∀ n text, lookup? n = some text ↔ ∃ d, find? n = some d ∧ field d = text ∧ text ≠ ""

theorem readsField_nonEmpty {α : Type} (find? : String → Option α) (field : α → String) :
    ReadsField find? field fun n => (find? n).bind fun d => nonEmpty (field d) := by
  intro n text
  simp only [Option.bind_eq_some_iff, nonEmpty_eq_some_iff]

/-! ## Loaded and unavailable stores -/

/-- What is in a store with a configuration. -/
structure Holds (s : Store) (c : Configuration) : Prop where
  sources : Tabulates (·.name) (·.template) c.sources (s.names .source) s.source?
  sinks : Tabulates (·.name) (·.template) c.sinks (s.names .sink) s.sink?
  domains : Tabulates (·.name) (·.template) c.domains (s.names .domain) s.domain?
  gateways : Tabulates (·.name) (·.template) c.gateways (s.names .gateway) s.gateway?
  classes : Tabulates (·.name) (·.template) c.classes (s.names .class_) s.declaredClass?
  classOfSource : ReadsField s.source? (·.class_) (s.classOf? .source)
  classOfSink : ReadsField s.sink? (·.class_) (s.classOf? .sink)
  classOfOther : ∀ kind, kind ≠ .source → kind ≠ .sink → ∀ n, s.classOf? kind n = none
  domainOfSource : ReadsField s.source? (·.domain) (s.domainOf? .source)
  domainOfSink : ReadsField s.sink? (·.domain) (s.domainOf? .sink)
  domainOfGateway : ReadsField s.gateway? (·.controlDomain) (s.domainOf? .gateway)
  domainOfOther : ∀ kind, kind ≠ .source → kind ≠ .sink → kind ≠ .gateway →
    ∀ n, s.domainOf? kind n = none
  policies : s.policies = c.policies

theorem holds_loaded {c : Configuration} (h : c.duplicate? = none) : (loaded c h).Holds c := by
  have hdistinct := Configuration.duplicate?_eq_none_iff_distinct.1 h
  exact
    { sources := tabulates_of_nodup _ hdistinct.sources
      sinks := tabulates_of_nodup _ hdistinct.sinks
      domains := tabulates_of_nodup _ hdistinct.domains
      gateways := tabulates_of_nodup _ hdistinct.gateways
      classes := tabulates_of_nodup _ hdistinct.classes
      classOfSource := readsField_nonEmpty _ _
      classOfSink := readsField_nonEmpty _ _
      classOfOther := fun kind hsource hsink _ => by
        cases kind with
        | source => exact absurd rfl hsource
        | sink => exact absurd rfl hsink
        | domain | gateway | class_ | connection => rfl
      domainOfSource := readsField_nonEmpty _ _
      domainOfSink := readsField_nonEmpty _ _
      domainOfGateway := readsField_nonEmpty _ _
      domainOfOther := fun kind hsource hsink hgateway _ => by
        cases kind with
        | source => exact absurd rfl hsource
        | sink => exact absurd rfl hsink
        | gateway => exact absurd rfl hgateway
        | domain | class_ | connection => rfl
      policies := rfl }

/-- Nothing is in a store without a configuration, and the lookup of policies is an error. -/
structure Vacant (s : Store) : Prop where
  source? : ∀ n, s.source? n = none
  sink? : ∀ n, s.sink? n = none
  domain? : ∀ n, s.domain? n = none
  gateway? : ∀ n, s.gateway? n = none
  declaredClass? : ∀ n, s.declaredClass? n = none
  classOf? : ∀ kind n, s.classOf? kind n = none
  domainOf? : ∀ kind n, s.domainOf? kind n = none
  names : ∀ kind, s.names kind = []
  policies : s.policies = []
  candidates : ∀ kind, ∃ e, s.candidates kind = .error e ∧ e.area = .configuration

theorem vacant_unavailable (reason : String) : (unavailable reason).Vacant where
  source? _ := rfl
  sink? _ := rfl
  domain? _ := rfl
  gateway? _ := rfl
  declaredClass? _ := rfl
  classOf? kind _ := by cases kind <;> rfl
  domainOf? kind _ := by cases kind <;> rfl
  names kind := by cases kind <;> rfl
  policies := rfl
  candidates _ := ⟨_, rfl, rfl⟩

/-! ## The store of a configuration -/

/-- The store of a configuration is loaded if and only if declared names are distinct. It is then
    exact for the configuration, and else nothing is in it. -/
theorem ofConfiguration_holds_or_vacant (c : Configuration) :
    let s := (ofConfiguration c).value
    (s.reason? = none ↔ c.Distinct) ∧
      ((s.reason? = none ∧ s.Holds c) ∨ (s.reason? ≠ none ∧ s.Vacant)) := by
  intro s
  cases hduplicate : c.duplicate? with
  | none =>
    have hs : s = loaded c hduplicate := ofConfiguration_of_valid hduplicate
    have hdistinct := Configuration.duplicate?_eq_none_iff_distinct.1 hduplicate
    simp only [hs]
    exact ⟨⟨fun _ => hdistinct, fun _ => rfl⟩, .inl ⟨rfl, holds_loaded hduplicate⟩⟩
  | some found =>
    have hs : s = unavailable _ := ofConfiguration_of_duplicate hduplicate
    have hrepeated : ¬ c.Distinct := by
      simp [← Configuration.duplicate?_eq_none_iff_distinct, hduplicate]
    have hreason : s.reason? ≠ none := by
      rw [hs]
      exact Option.some_ne_none _
    have hvacant : s.Vacant := hs ▸ vacant_unavailable _
    exact ⟨⟨fun h => absurd h hreason, fun h => absurd h hrepeated⟩, .inr ⟨hreason, hvacant⟩⟩

/-- A template counts for the names that have to be distinct, although it is in no table. -/
example :
    let c : Configuration := { sinks := [{ name := "A" }, { name := "A", template := true }] }
    (ofConfiguration c).value.reason? = some "configuration error: duplicate sink name 'A'" := by
  decide

end Store
end AudioPolicy

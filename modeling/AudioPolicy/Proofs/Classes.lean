-- SUMMARY: Class and members agree unless the class comes from registration.
import AudioPolicy.Proofs.Selection
import AudioPolicy.Proofs.Store

/-! # Classes and their members

The class of a sink or source is the declared one, or else the one that it registered with.
The members of a class are found among the declarations alone. So the two ways to read the
relation agree on each element that has a declared class or none at all. -/

namespace AudioPolicy

/-! ## Declared classes -/

namespace Store

theorem classOf?_eq_endpoints {s : Store} {kind : ElementKind}
    (hkind : kind = .sink ∨ kind = .source) (name : String) :
    s.classOf? kind name =
      ((s.endpoints kind).find? fun d => d.name == name).bind fun d => nonEmpty d.class_ := by
  rcases hkind with rfl | rfl <;> rfl

/-- The declared class of a sink or source is the one of its declaration, unless that is
    empty. -/
theorem classOf?_eq_some_iff {s : Store} {kind : ElementKind}
    (hkind : kind = .sink ∨ kind = .source) {name class_ : String} :
    s.classOf? kind name = some class_ ↔
      ∃ d ∈ s.endpoints kind, d.name = name ∧ d.class_ = class_ ∧ class_ ≠ "" := by
  have hnodup := s.nodup_names kind
  simp only [names_eq_endpoints hkind] at hnodup
  simp only [classOf?_eq_endpoints hkind, Option.bind_eq_some_iff,
    find?_name_eq_some_iff hnodup, nonEmpty_eq_some_iff, and_assoc]

end Store

/-- The category that leads from an element of a kind to its class, and the one that leads from
    a class to such elements. -/
inductive Category.ToClassAndBack : ElementKind → Category → Category → Prop
  | sink : ToClassAndBack .sink .classOfSink .sinkOfClass
  | source : ToClassAndBack .source .classOfSource .sourceOfClass

/-- The element has no declared class and registered with this one. -/
def ClassedByRegistration (scope : Scope) (kind : ElementKind) (name class_ : String) : Prop :=
  scope.store.classOf? kind name = none ∧ scope.graph.classOf? kind name = some class_

instance (scope : Scope) (kind : ElementKind) (name class_ : String) :
    Decidable (ClassedByRegistration scope kind name class_) :=
  inferInstanceAs (Decidable (_ ∧ _))

namespace Query

/-- A class is the declared one or comes from registration. -/
theorem elementClass?_eq_some_iff {scope : Scope} {kind : ElementKind} {name class_ : String} :
    elementClass? scope kind name = some class_ ↔
      scope.store.classOf? kind name = some class_ ∨
        ClassedByRegistration scope kind name class_ := by
  unfold elementClass? ClassedByRegistration
  cases scope.store.classOf? kind name <;> simp

/-- The declared class is the whole class, unless registration gives one. -/
theorem elementClass?_declared_iff {scope : Scope} {kind : ElementKind} {name class_ : String} :
    (elementClass? scope kind name = some class_ ↔
        scope.store.classOf? kind name = some class_) ↔
      ¬ ClassedByRegistration scope kind name class_ := by
  rw [elementClass?_eq_some_iff]
  constructor
  · rintro h ⟨hdeclared, hregistered⟩
    have hsome := h.1 (Or.inr ⟨hdeclared, hregistered⟩)
    simp [hdeclared] at hsome
  · intro h
    exact or_iff_left h

/-- A relation from one subject finds its counterpart alone. -/
theorem related_singleton (q : Query) (subject : String)
    (counterpart : String → Option String) :
    q.related [subject] counterpart =
      match counterpart subject with
      | some found => .ok [found]
      | none => .error (.unrelated q.category [subject]) := by
  cases hfound : counterpart subject with
  | none => simp [related, hfound]
  | some found =>
    simp only [related, List.filterMap_cons, hfound, List.filterMap_nil]
    rfl

theorem mem_related_singleton_iff {q : Query} {subject v : String}
    {counterpart : String → Option String} :
    (∃ vs, q.related [subject] counterpart = .ok vs ∧ v ∈ vs) ↔ counterpart subject = some v := by
  simp only [related_singleton]
  cases counterpart subject <;> simp [eq_comm]

theorem mem_members_singleton_iff {declared : List Endpoint} {name class_ : String} :
    name ∈ members declared [class_] ↔ ∃ d ∈ declared, d.name = name ∧ d.class_ = class_ := by
  simp only [members, List.mem_mergeSort, List.mem_map, List.mem_filter, List.contains_iff_mem,
    List.mem_singleton]
  grind

end Query

namespace Evaluation

/-! ## Calls of `name` -/

/-- The call of `name` for one subject in quotes. -/
def nameCall (category : Category) (subject : String) : Call :=
  { function := Spelled.word Function.name
    category := Spelled.word category
    mandatory := ⟨subject, true⟩ }

/-- The values of a call. One that fails has none. -/
def listed (scope : Scope) (call : Call) : List String :=
  match outcome (values scope call) with
  | .ok values => values
  | .error _ => []

theorem outcome_nameCall (scope : Scope) (category : Category) (subject : String) :
    outcome (values scope (nameCall category subject)) =
      Query.answer scope { function := .name, category, selector := .name subject } := by
  have hmandatory : mandatoryText scope (nameCall category subject) = .ok subject :=
    outcome_resolve_of_quoted rfl
  rw [outcome_values_of_words .name category rfl rfl hmandatory]
  rfl

section
variable {scope : Scope} {name class_ : String}

theorem mem_listed_iff {call : Call} {v : String} :
    v ∈ listed scope call ↔ ∃ vs, outcome (values scope call) = .ok vs ∧ v ∈ vs := by
  unfold listed
  cases outcome (values scope call) <;> simp

variable {kind : ElementKind} {toClass back : Category}

/-- The call for the class of an element lists that class alone. -/
theorem mem_listed_class_iff (h : Category.ToClassAndBack kind toClass back) :
    class_ ∈ listed scope (nameCall toClass name) ↔
      Query.elementClass? scope kind name = some class_ := by
  have hanswer : Query.answer scope
      { function := .name, category := toClass, selector := .name name } =
        Query.related { function := .name, category := toClass, selector := .name name } [name]
          (Query.elementClass? scope kind) := by
    cases h <;> rfl
  simp only [mem_listed_iff, outcome_nameCall, hanswer]
  exact Query.mem_related_singleton_iff

/-- The call for the elements of a class lists those that are declared in it. -/
theorem mem_listed_member_iff (h : Category.ToClassAndBack kind toClass back)
    (hclass : class_ ≠ "") :
    name ∈ listed scope (nameCall back class_) ↔
      scope.store.classOf? kind name = some class_ := by
  have hkind : kind = .sink ∨ kind = .source := by cases h <;> simp
  have hanswer : Query.answer scope
      { function := .name, category := back, selector := .name class_ } =
        .ok (Query.members (scope.store.endpoints kind) [class_]) := by
    cases h <;> rfl
  simp [mem_listed_iff, outcome_nameCall, hanswer, Query.mem_members_singleton_iff,
    Store.classOf?_eq_some_iff hkind, hclass]

/-- Either direction lists what the other does, unless the class comes from registration. -/
theorem mem_listed_iff_mem_listed (h : Category.ToClassAndBack kind toClass back)
    (hclass : class_ ≠ "") :
    (class_ ∈ listed scope (nameCall toClass name) ↔
        name ∈ listed scope (nameCall back class_)) ↔
      ¬ ClassedByRegistration scope kind name class_ := by
  rw [mem_listed_class_iff h, mem_listed_member_iff h hclass]
  exact Query.elementClass?_declared_iff

end

/-! ## Both directions -/

/-- A class is listed for a sink just where the sink is listed for the class, unless the sink
    has no declared class and registered with this one. The same holds for a source. -/
theorem listed_class_iff_listed_member (scope : Scope) (name : String) {class_ : String}
    (hclass : class_ ≠ "") :
    ((class_ ∈ listed scope (nameCall .classOfSink name) ↔
          name ∈ listed scope (nameCall .sinkOfClass class_)) ↔
        ¬ ClassedByRegistration scope .sink name class_) ∧
      ((class_ ∈ listed scope (nameCall .classOfSource name) ↔
          name ∈ listed scope (nameCall .sourceOfClass class_)) ↔
        ¬ ClassedByRegistration scope .source name class_) := by
  constructor
  · exact mem_listed_iff_mem_listed .sink hclass
  · exact mem_listed_iff_mem_listed .source hclass

/-- One sink registered with another class than the declared one, and one registered without
    a declaration. -/
theorem listed_class_iff_listed_member_of_two_sinks :
    let scope : Scope :=
      { store := .loaded { sinks := [{ name := "Speaker", class_ := "Entertainment" }] } rfl
        graph := { sinks := [{ name := "Speaker", class_ := "Navigation" },
                             { name := "Headset", class_ := "Entertainment" }] }
        trigger := .systemRegisterSink "Headset" }
    "Entertainment" ≠ "" ∧
      ("Entertainment" ∈ listed scope (nameCall .classOfSink "Speaker") ↔
        "Speaker" ∈ listed scope (nameCall .sinkOfClass "Entertainment")) ∧
      ¬ ("Entertainment" ∈ listed scope (nameCall .classOfSink "Headset") ↔
        "Headset" ∈ listed scope (nameCall .sinkOfClass "Entertainment")) := by
  intro scope
  have hclass : "Entertainment" ≠ "" := by decide
  obtain ⟨hspeaker, -⟩ := listed_class_iff_listed_member scope "Speaker" hclass
  obtain ⟨hheadset, -⟩ := listed_class_iff_listed_member scope "Headset" hclass
  exact ⟨hclass, hspeaker.2 (by decide), fun h => absurd (hheadset.1 h) (by decide)⟩

/-- A sink that is only registered has a class without being among its members. -/
theorem registered_sink_missing_among_members :
    ¬ ∀ (scope : Scope) (name class_ : String), class_ ≠ "" →
      (name ∈ scope.store.names .sink ∨ scope.graph.isRegistered .sink name = true →
        (class_ ∈ listed scope (nameCall .classOfSink name) ↔
          name ∈ listed scope (nameCall .sinkOfClass class_))) ∧
      (name ∈ scope.store.names .source ∨ scope.graph.isRegistered .source name = true →
        (class_ ∈ listed scope (nameCall .classOfSource name) ↔
          name ∈ listed scope (nameCall .sourceOfClass class_))) := by
  intro h
  let scope : Scope :=
    { store := .empty
      graph := { sinks := [{ name := "Headset", class_ := "Entertainment" }] }
      trigger := .systemRegisterSink "Headset" }
  have hclass : "Entertainment" ≠ "" := by decide
  obtain ⟨hsink, -⟩ := h scope "Headset" "Entertainment" hclass
  have hregistered : scope.graph.isRegistered .sink "Headset" = true := rfl
  have hlisted : "Entertainment" ∈ listed scope (nameCall .classOfSink "Headset") :=
    (mem_listed_class_iff .sink).2 rfl
  have hmember := (mem_listed_member_iff .sink hclass).1 ((hsink (Or.inr hregistered)).1 hlisted)
  exact absurd hmember (by decide)

end Evaluation
end AudioPolicy

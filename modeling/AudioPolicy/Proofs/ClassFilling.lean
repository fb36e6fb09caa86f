-- SUMMARY: The class that an availability trigger gets is the one that a call lists.
import AudioPolicy.Proofs.Classes
import AudioPolicy.Proofs.Lifecycle

/-! # Filling in the class

A trigger that reports the availability of a sink or source may come without a class. The engine
then looks for the class of the element before any rule sees the trigger. Conditions can ask for
that class with a call. Both find the same class, and where the call finds none the trigger stays
without one. No other trigger is changed. -/

namespace AudioPolicy

/-- The report that an element has become available or not, for each class it may come with, and
    the category that leads from the element to its class. -/
inductive Trigger.ReportsAvailability : Category → (Option String → Trigger) → Prop
  | sink (name : String) (availability : Availability) :
      ReportsAvailability .classOfSink (systemSinkAvailabilityChanged name availability)
  | source (name : String) (availability : Availability) :
      ReportsAvailability .classOfSource (systemSourceAvailabilityChanged name availability)

theorem Trigger.ReportsAvailability.inj {category : Category} {report : Option String → Trigger}
    (h : ReportsAvailability category report) {found found' : Option String} :
    report found = report found' ↔ found = found' := by
  cases h with
  | sink name availability => simp
  | source name availability => simp

/-! ## The listed class -/

namespace Evaluation

/-- The call of `name` for what the element of the trigger leads to. -/
def requestingCall (category : Category) : Call :=
  { function := Spelled.word Function.name
    category := Spelled.word category
    mandatory := ⟨"REQUESTING", false⟩ }

theorem outcome_requestingCall (scope : Scope) (category : Category) :
    outcome (values scope (requestingCall category)) =
      Query.answer scope { function := .name, category, selector := .requesting } := by
  have hmandatory : mandatoryText scope (requestingCall category) = .ok "REQUESTING" :=
    mandatoryText_of_mem_words rfl List.mem_cons_self
  rw [outcome_values_of_words .name category rfl rfl hmandatory]
  rfl

end Evaluation

/-! ## The filled-in class -/

namespace Engine

open Evaluation (outcome values requestingCall outcome_requestingCall)

variable {store : Store} {graph : Graph}

/-- The answer to the trigger of a scope as it stands: the actions of the rules, then the implied
    ones, and then those for what is restored. -/
def answerAsIs (scope : Scope) : Logged (Except Error (List Action)) := do
  match ← ruleActions scope with
  | .error e => return .error e
  | .ok actions =>
    let implied := Implied.actions scope.store scope.graph scope.trigger
    return .ok (actions ++ implied ++ (← restoreActions scope))

theorem scopeOf_eq (store : Store) (graph : Graph) (t : Trigger) :
    scopeOf store graph t = { store, graph, trigger := (scopeOf store graph t).trigger } := by
  rw [scopeOf]
  split
  · rfl
  · split <;> rfl

theorem answer_eq_answerAsIs (store : Store) (graph : Graph) (t : Trigger) :
    answer store graph t =
      answerAsIs { store, graph, trigger := (scopeOf store graph t).trigger } := by
  rw [answer, scopeOf_eq]
  rfl

theorem scopeOf_of_classless?_eq_none {t : Trigger} (h : classless? t = none) :
    scopeOf store graph t = { store, graph, trigger := t } := by
  rw [scopeOf, h]

/-- A report without a class gets the class that the call lists, if the call finds one. -/
theorem exists_scopeOf_report (store : Store) (graph : Graph) {category : Category}
    {report : Option String → Trigger} (h : Trigger.ReportsAvailability category report) :
    ∃ (found : Option String) (f : Failure), f.reason = .notFound ∧
      scopeOf store graph (report none) = { store, graph, trigger := report found } ∧
      outcome (values { store, graph, trigger := report none } (requestingCall category)) =
        match found with
        | some c => .ok [c]
        | none => .error f := by
  simp only [outcome_requestingCall]
  cases h with
  | sink name availability =>
    let asked : Scope :=
      { store, graph, trigger := .systemSinkAvailabilityChanged name availability none }
    refine ⟨Query.elementClass? asked .sink name, .unrelated .classOfSink [name], rfl, ?_,
      Query.related_singleton _ name _⟩
    simp only [scopeOf, classless?]
    cases Query.elementClass? asked .sink name <;> rfl
  | source name availability =>
    let asked : Scope :=
      { store, graph, trigger := .systemSourceAvailabilityChanged name availability none }
    refine ⟨Query.elementClass? asked .source name, .unrelated .classOfSource [name], rfl, ?_,
      Query.related_singleton _ name _⟩
    simp only [scopeOf, classless?]
    cases Query.elementClass? asked .source name <;> rfl

/-- Only a report without a class lacks one. -/
theorem classless?_eq_none {t : Trigger}
    (h : ∀ category report, Trigger.ReportsAvailability category report → t ≠ report none) :
    classless? t = none := by
  unfold classless?
  split
  next sink availability => exact absurd rfl (h _ _ (.sink sink availability))
  next source availability => exact absurd rfl (h _ _ (.source source availability))
  next => rfl

/-- The rules see a report with the class that the call lists for its element, and they see it
    without a class if and only if the call finds none. Every other trigger they see as it is. -/
theorem filled_class_iff_listed (store : Store) (graph : Graph) (t : Trigger) :
    let asked : Scope := { store, graph, trigger := t }
    ∃ evaluated : Trigger,
      evaluate { store, started := true } graph t =
        answerAsIs { store, graph, trigger := evaluated } ∧
      (∀ category report, Trigger.ReportsAvailability category report → t = report none →
        (∀ c, evaluated = report (some c) ↔
          outcome (values asked (requestingCall category)) = .ok [c]) ∧
        (evaluated = report none ↔ ∃ f, f.reason = .notFound ∧
          outcome (values asked (requestingCall category)) = .error f)) ∧
      ((∀ category report, Trigger.ReportsAvailability category report → t ≠ report none) →
        evaluated = t) := by
  intro asked
  refine ⟨(scopeOf store graph t).trigger, ?_, ?_, ?_⟩
  · rw [evaluate, if_pos rfl, answer_eq_answerAsIs]
  · rintro category report hreport rfl
    obtain ⟨found, f, hreason, hscope, hlisted⟩ := exists_scopeOf_report store graph hreport
    simp only [asked, hscope, hlisted, hreport.inj]
    cases found with
    | some c =>
      refine ⟨fun c' => by simp, iff_of_false (by simp) ?_⟩
      rintro ⟨f, -, hfailed⟩
      cases hfailed
    | none => exact ⟨fun c => by simp, iff_of_true rfl ⟨f, hreason, rfl⟩⟩
  · intro hother
    rw [scopeOf_of_classless?_eq_none (classless?_eq_none hother)]

/-- A declared sink has its class from registration only, and the rules see its report with that
    class. -/
theorem filled_class_iff_listed_of_registered_class :
    let store : Store := .loaded { sinks := [{ name := "Headset" }] } rfl
    let graph : Graph := { sinks := [{ name := "Headset", class_ := "Voice" }] }
    let report := Trigger.systemSinkAvailabilityChanged "Headset" { state := .available }
    outcome (values { store, graph, trigger := report none } (requestingCall .classOfSink)) =
        .ok ["Voice"] ∧
      evaluate { store, started := true } graph (report none) =
        answerAsIs { store, graph, trigger := report (some "Voice") } := by
  intro store graph report
  have hlisted : outcome (values { store, graph, trigger := report none }
      (requestingCall .classOfSink)) = .ok ["Voice"] := by
    rw [outcome_requestingCall]
    decide
  have hreport : Trigger.ReportsAvailability .classOfSink report := .sink _ _
  obtain ⟨evaluated, hanswer, hfilled, -⟩ := filled_class_iff_listed store graph (report none)
  have hclass : evaluated = report (some "Voice") :=
    ((hfilled .classOfSink report hreport rfl).1 "Voice").2 hlisted
  exact ⟨hlisted, hclass ▸ hanswer⟩

end Engine
end AudioPolicy

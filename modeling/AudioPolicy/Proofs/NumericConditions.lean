-- SUMMARY: No condition fails because its left value is not a number.
import AudioPolicy.Proofs.NumericValues
import AudioPolicy.Proofs.Reports
import AudioPolicy.Proofs.Selection

/-! # Conditions on numeric functions

A comparison of numbers fails if its left value is not a number. The values of a numeric
function are written numbers, and nothing else in the evaluation of a condition fails that
way. So no condition ever does. -/

namespace AudioPolicy

open Numeral (Canonical)
open Query (Yields Settles yields_bind yields_map settles_mapM yields_answer)

/-! ## Comparing -/

/-- A comparison of canonical numbers refuses no left value. -/
theorem Operator.settles_compare {op : Operator} {type : ValueType} {left : List String}
    {right : String} (h : type = .numeric → ∀ v ∈ left, Canonical v) :
    Settles (op.compare type left right) := by
  have horder : ∀ first ∈ left, Settles (type.order first right) := by
    intro first hfirst
    cases type with
    | text => trivial
    | numeric =>
      obtain ⟨n, hnumber, _⟩ := h rfl first hfirst
      simp only [ValueType.order, hnumber]
      split
      · contradiction
      · rfl
      · trivial
  unfold compare
  split
  · trivial
  · trivial
  · split
    · trivial
    · exact yields_map (horder _ List.mem_cons_self) fun _ _ => trivial

namespace Evaluation

variable {scope : Scope} {call : Call} {c : Condition}

/-! ## Calls -/

theorem settles_functionOf : Settles (functionOf call) := by
  unfold functionOf
  split
  · trivial
  · rfl

theorem settles_categoryOf : Settles (categoryOf call) := by
  unfold categoryOf
  split
  · trivial
  · rfl

theorem settles_resolve {inner : Call → Evaluation (List String)}
    (hinner : ∀ call, Settles (outcome (inner call))) (t : Trigger) (a : Argument) :
    Settles (outcome (resolve inner t a)) := by
  cases hquoted : a.quoted with
  | true => simp [outcome_resolve_of_quoted hquoted]
  | false =>
    cases hcall : Call.isWrittenAs a.text with
    | false => simp [outcome_resolve_of_plain hquoted hcall]
    | true =>
      rw [outcome_resolve_of_call hquoted hcall]
      cases Call.ofText a.text with
      | ok call => exact yields_map (hinner call) fun _ _ => trivial
      | error e => rfl

/-- A call never fails because of a left value, on every level of nesting. -/
theorem settles_valuesWithin (scope : Scope) (levels : Nat) (call : Call) :
    Settles (outcome (valuesWithin scope levels call)) := by
  induction levels generalizing call with
  | zero => rfl
  | succ levels ih =>
    rw [outcome_valuesWithin_succ]
    apply yields_bind settles_functionOf
    intro function _
    apply yields_bind settles_categoryOf
    intro category _
    apply yields_bind (settles_resolve ih scope.trigger call.mandatory)
    intro mandatory _
    apply yields_bind (settles_mapM (settles_resolve ih scope.trigger) call.optional)
    intro optional _
    exact yields_answer.mono fun _ _ _ => trivial

/-! ## Queries -/

/-- The query that a call comes to. -/
def queryOf (scope : Scope) (call : Call) : Except Failure Query := do
  let function ← functionOf call
  let category ← categoryOf call
  let mandatory ← mandatoryText scope call
  let optional ← call.optional.mapM fun a =>
    outcome (resolve (valuesWithin scope Failure.maxDepth) scope.trigger a)
  return { function, category, optional,
           selector := Selector.ofText mandatory call.mandatory.quoted }

/-- The values of a call are the answer to its query. -/
theorem outcome_values_eq_answer :
    outcome (values scope call) = queryOf scope call >>= Query.answer scope := by
  unfold values queryOf mandatoryText
  rw [outcome_valuesWithin_succ]
  simp only [bind_assoc, pure_bind]

theorem yields_queryOf :
    Yields (fun q => functionOf call = .ok q.function) (queryOf scope call) := by
  apply yields_bind (settles_functionOf.mono fun _ hfunction _ => hfunction)
  intro function hfunction
  apply yields_bind settles_categoryOf
  intro category _
  apply yields_bind (settles_resolve (settles_valuesWithin scope _) scope.trigger _)
  intro mandatory _
  apply yields_bind (settles_mapM (settles_resolve (settles_valuesWithin scope _) _) _)
  intro optional _
  exact hfunction

/-- The values of a call to a numeric function are canonical. -/
theorem yields_values (hbounded : ∀ q, queryOf scope call = .ok q → q.Bounded scope) :
    Yields (fun values =>
        ∀ function, functionOf call = .ok function → function.valueType = .numeric →
          ∀ v ∈ values, Canonical v)
      (outcome (values scope call)) := by
  rw [outcome_values_eq_answer]
  apply yields_bind (yields_queryOf.mono fun q hq hfunction => And.intro hq hfunction)
  rintro q ⟨hq, hcalled⟩
  apply yields_answer.mono
  intro values _ hvalues function hfunction hnumeric
  obtain rfl : function = q.function := by simpa [hcalled] using hfunction.symm
  exact hvalues hnumeric (hbounded q hq)

/-! ## Conditions -/

theorem settles_rightValue (scope : Scope) (right : Operand) :
    Settles (outcome (rightValue scope right)) := by
  cases right with
  | literal a =>
    simp only [rightValue]
    split
    · trivial
    · trivial
  | call call =>
    simp only [rightValue, outcome_bind]
    exact yields_bind (settles_valuesWithin scope _ call) fun _ _ => trivial

theorem settles_decide (hbounded : ∀ q, queryOf scope c.left = .ok q → q.Bounded scope) :
    Settles (outcome (decide scope c)) := by
  rw [outcome_decide]
  apply yields_bind (yields_values hbounded)
  intro left hleft
  apply yields_bind (settles_rightValue scope c.right)
  intro right _
  cases right with
  | none => trivial
  | some right =>
    apply yields_bind (settles_functionOf.mono fun _ hfunction _ => hfunction)
    intro function hfunction
    exact Operator.settles_compare (hleft function hfunction)

/-- Nothing reports a left value that is not a number. -/
theorem reports_holds_of_settles {text : String} (h : Settles (outcome (decide scope c)))
    (d : Condition) :
    (holds scope c).Reports (· ≠ .warning (.conditionFailed d (.leftNotNumeric text))) := by
  unfold holds
  apply Logged.reports_bind_value
  · refine (reports_decide scope c).mono ?_
    rintro e he rfl
    contradiction
  · unfold outcome at h
    cases hdecided : (decide scope c).run.value with
    | ok result => exact Logged.reports_pure result
    | error f =>
      have hf : f.ofLeftValue = false := by simpa [hdecided] using h
      refine Logged.reports_bind (reports_reportFailure ?_ ?_) fun _ => Logged.reports_pure false
      · rintro ⟨⟩
        contradiction
      · simp

/-- Each value of a numeric function is canonical. And a condition neither fails because its
left value is not a number, nor is that ever reported. -/
theorem numeric_values_canonical (scope : Scope) :
    (∀ (q : Query) (values : List String),
        q.function.valueType = .numeric → q.Bounded scope → q.answer scope = .ok values →
          ∀ v ∈ values, Canonical v) ∧
      ∀ (c : Condition) (text : String),
        (∀ q, queryOf scope c.left = .ok q → q.Bounded scope) →
          outcome (decide scope c) ≠ .error (.leftNotNumeric text) ∧
            ∀ d, .warning (.conditionFailed d (.leftNotNumeric text)) ∉
              (holds scope c).events := by
  refine ⟨?_, fun c text hbounded => ?_⟩
  · intro q values hnumeric hbounded hanswer
    exact yields_answer.of_eq_ok hanswer hnumeric hbounded
  · have hsettles := settles_decide hbounded
    refine ⟨?_, fun d hmem => reports_holds_of_settles hsettles d _ hmem rfl⟩
    intro hfailed
    rw [hfailed] at hsettles
    contradiction

/-- Two volumes are read, and their count is compared with a text that is no number. -/
theorem numeric_values_canonical_of_two_sinks :
    let scope : Scope :=
      { store := .empty
        graph := { sinks := [{ name := "Speaker", mainVolume := -5 },
                             { name := "Headset", mainVolume := 30 }] }
        trigger := .userSetSinkMuteState "Headset" .muted }
    let q : Query := { function := .mainVolume, category := .sink, selector := .all }
    let c : Condition :=
      { left := { function := "count", category := "SINK", mandatory := ⟨"ALL", false⟩ }
        operator := .greater
        right := .literal ⟨"loud", true⟩ }
    (q.function.valueType = .numeric ∧ q.Bounded scope ∧ q.answer scope = .ok ["-5", "30"] ∧
        ∀ v ∈ ["-5", "30"], Canonical v) ∧
      (∀ q, queryOf scope c.left = .ok q → q.Bounded scope) ∧
        outcome (decide scope c) = .error (.rightNotNumeric "loud") ∧
        outcome (decide scope c) ≠ .error (.leftNotNumeric "2") ∧
          ∀ d, .warning (.conditionFailed d (.leftNotNumeric "2")) ∉ (holds scope c).events := by
  intro scope q c
  have hbounded (f : Function) : Query.Bounded scope { q with function := f } :=
    Query.bounded_of_targets ["Speaker", "Headset"] rfl rfl
  have hmandatory : mandatoryText scope c.left = .ok "ALL" := by
    have hword : "ALL" ∈ Selector.words := by decide
    have hcall := Call.not_isWrittenAs (Selector.isWordChar_of_mem_words hword)
    have hresolved :
        mandatoryText scope c.left = .ok (Placeholder.substitute scope.trigger "ALL") :=
      outcome_resolve_of_plain rfl hcall
    rw [hresolved, Selector.substitute_of_mem_words hword]
  have hquery : queryOf scope c.left = .ok { q with function := .count } := by
    unfold queryOf
    rw [hmandatory]
    rfl
  have hcount : ∀ q, queryOf scope c.left = .ok q → q.Bounded scope := by
    intro asked hasked
    obtain rfl : { q with function := .count } = asked := by simpa [hquery] using hasked
    exact hbounded .count
  have hanswer : q.answer scope = .ok ["-5", "30"] := by
    rfl
  have hcanonical := numeric_values_canonical scope
  have hfailed : outcome (decide scope c) = .error (.rightNotNumeric "loud") := by
    unfold decide
    rw [outcome_bind, outcome_values_eq_answer, hquery]
    decide +kernel
  exact ⟨⟨rfl, hbounded _, hanswer, hcanonical.1 q _ rfl (hbounded _) hanswer⟩, hcount, hfailed,
    hcanonical.2 c "2" hcount⟩

end Evaluation
end AudioPolicy

-- SUMMARY: The results of evaluations, apart from what they report.
import AudioPolicy.Evaluation

/-! # Outcomes

An evaluation reports warnings and has a result or fails. Its outcome is the result or the
failure alone. Outcomes of composed evaluations are composed of outcomes, and so the
outcome of a call is determined by the outcomes of its arguments. -/

namespace AudioPolicy.Evaluation

/-- The result of an evaluation or its failure. -/
def outcome {α : Type} (e : Evaluation α) : Except Failure α := e.run.value

section
variable {α β : Type}

@[simp] theorem outcome_pure (a : α) : outcome (pure a) = .ok a := rfl

@[simp] theorem outcome_lift (x : Logged α) : outcome (liftM x : Evaluation α) = .ok x.value := rfl

@[simp] theorem outcome_ofExcept (x : Except Failure α) :
    outcome (liftM x : Evaluation α) = x := by
  cases x <;> rfl

theorem outcome_bind (e : Evaluation α) (f : α → Evaluation β) :
    outcome (e >>= f) = outcome e >>= fun a => outcome (f a) := by
  unfold outcome
  rw [ExceptT.run_bind, Logged.value_bind]
  cases e.run.value <;> rfl

theorem outcome_mapM (f : α → Evaluation β) (as : List α) :
    outcome (as.mapM f) = as.mapM fun a => outcome (f a) := by
  induction as with
  | nil => rfl
  | cons a as ih => simp only [List.mapM_cons, outcome_bind, outcome_pure, ih]; rfl

end

/-! ## Arguments and calls -/

section
variable {inner : Call → Evaluation (List String)} {t : Trigger} {a : Argument}

theorem outcome_resolve_of_quoted (h : a.quoted = true) :
    outcome (resolve inner t a) = .ok a.text := by
  rw [resolve, if_pos h, outcome_pure]

/-- An argument that is written as a call stands for the values of that call. -/
theorem outcome_resolve_of_call (h : a.quoted = false) (hcall : Call.isWrittenAs a.text = true) :
    outcome (resolve inner t a) =
      match Call.ofText a.text with
      | .ok call => (outcome (inner call)).map Text.unwords
      | .error e => .error (.malformed e) := by
  rw [resolve, h, hcall, if_neg Bool.false_ne_true, if_pos rfl]
  cases Call.ofText a.text with
  | error e => rfl
  | ok call =>
    dsimp only
    rw [outcome_bind]
    cases outcome (inner call) <;> rfl

theorem outcome_resolve_of_plain (h : a.quoted = false)
    (hcall : Call.isWrittenAs a.text = false) :
    outcome (resolve inner t a) = .ok (Placeholder.substitute t a.text) := by
  rw [resolve, h, hcall, if_neg Bool.false_ne_true, if_neg Bool.false_ne_true, outcome_lift]
  rfl

end

/-- The outcome of a call comes from the outcomes of its arguments. -/
theorem outcome_valuesWithin_succ (scope : Scope) (levels : Nat) (call : Call) :
    outcome (valuesWithin scope (levels + 1) call) = (do
      let function ← functionOf call
      let category ← categoryOf call
      let mandatory ← outcome (resolve (valuesWithin scope levels) scope.trigger call.mandatory)
      let optional ← call.optional.mapM fun a =>
        outcome (resolve (valuesWithin scope levels) scope.trigger a)
      Query.answer scope
        { function, category, optional,
          selector := Selector.ofText mandatory call.mandatory.quoted }) := by
  rw [valuesWithin]
  simp only [outcome_bind, outcome_mapM, outcome_ofExcept]

/-! ## Conditions -/

section
variable {scope : Scope} {c : Condition}

theorem outcome_decide :
    outcome (decide scope c) = (do
      let left ← outcome (values scope c.left)
      match ← outcome (rightValue scope c.right) with
      | none => return false
      | some right => do
        let function ← functionOf c.left
        c.operator.compare function.valueType left right) := by
  unfold decide
  rw [outcome_bind]
  congr 1
  funext left
  rw [outcome_bind]
  congr 1
  funext right
  cases right with
  | none => rfl
  | some right => simp only [outcome_bind, outcome_ofExcept]

/-- A condition that cannot be decided does not hold. -/
theorem value_holds :
    (holds scope c).value = (outcome (decide scope c)).toOption.getD false := by
  unfold holds outcome
  simp only [Logged.value_bind]
  cases (decide scope c).run.value <;> rfl

theorem value_holds_iff :
    (holds scope c).value = true ↔ outcome (decide scope c) = .ok true := by
  rw [value_holds]
  cases outcome (decide scope c) with
  | ok result => simp [Except.toOption]
  | error f => simp [Except.toOption]

end

end AudioPolicy.Evaluation

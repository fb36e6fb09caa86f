-- SUMMARY: What the evaluation of rules can report.
import AudioPolicy.Engine

/-! # Reports

The events of a composed evaluation are those of its parts. So what an evaluation can report
follows from what its parts can: a call reports only placeholders, a condition or a
parameter also its failure, and a rule also that it matched. -/

namespace AudioPolicy

/-! ## Kinds of events -/

namespace Event

/-- A placeholder stayed as it was written. -/
inductive OfPlaceholder : Event → Prop
  | unavailable (p : Placeholder) (t : Trigger.Kind) :
      OfPlaceholder (.warning (.unavailablePlaceholder p t))
  | unknown (word : String) : OfPlaceholder (.warning (.unknownPlaceholder word))

/-- A warning, a policy that matched or a failure that was counted. -/
inductive OfRules : Event → Prop
  | warning (w : Warning) : OfRules (.warning w)
  | matched (amount : Nat) : OfRules (.count .matched amount)
  | failed (reason : Failure.Reason) (amount : Nat) : OfRules (.count (.failures reason) amount)

theorem OfPlaceholder.ofRules {e : Event} (h : e.OfPlaceholder) : e.OfRules := by
  cases h <;> exact .warning _

end Event

/-! ## Composition -/

namespace Logged

/-- Every event that is reported has a property. -/
def Reports {α : Type} (P : Event → Prop) (x : Logged α) : Prop := ∀ e ∈ x.events, P e

section
variable {α β : Type} {P Q : Event → Prop}

theorem Reports.mono {x : Logged α} (h : ∀ e, P e → Q e) (hx : x.Reports P) : x.Reports Q :=
  fun e he => h e (hx e he)

@[simp] theorem reports_pure (a : α) : (pure a : Logged α).Reports P := by
  simp [Reports]

theorem reports_bind_value {x : Logged α} {f : α → Logged β} (hx : x.Reports P)
    (hf : (f x.value).Reports P) : (x >>= f).Reports P := by
  intro e he
  simp only [events_bind, List.mem_append] at he
  rcases he with he | he
  · exact hx e he
  · exact hf e he

theorem reports_bind {x : Logged α} {f : α → Logged β} (hx : x.Reports P)
    (hf : ∀ a, (f a).Reports P) : (x >>= f).Reports P :=
  reports_bind_value hx (hf x.value)

theorem reports_warn {w : Warning} (h : P (.warning w)) : (warn w).Reports P := by
  simpa [Reports, warn] using h

theorem reports_warnAll {ws : List Warning} (h : ∀ w ∈ ws, P (.warning w)) :
    (warnAll ws).Reports P := by
  simpa [Reports, warnAll] using h

theorem reports_count {c : Counter} {amount : Nat} (h : P (.count c amount)) :
    (count c amount).Reports P := by
  simpa [Reports, count] using h

end
end Logged

namespace Evaluation

/-- Every event that is reported has a property, also before a failure. -/
def Reports {α : Type} (P : Event → Prop) (e : Evaluation α) : Prop := e.run.Reports P

section
variable {α β : Type} {P : Event → Prop}

@[simp] theorem reports_pure (a : α) : Reports P (pure a) := Logged.reports_pure _

@[simp] theorem reports_throw (f : Failure) : Reports P (throw f : Evaluation α) :=
  Logged.reports_pure _

@[simp] theorem reports_ofExcept (x : Except Failure α) :
    Reports P (liftM x : Evaluation α) := by
  cases x with
  | ok a => exact reports_pure a
  | error f => exact reports_throw f

theorem reports_lift {x : Logged α} (h : x.Reports P) : Reports P (liftM x : Evaluation α) :=
  Logged.reports_bind h fun _ => Logged.reports_pure _

theorem reports_bind {e : Evaluation α} {f : α → Evaluation β} (he : Reports P e)
    (hf : ∀ a, Reports P (f a)) : Reports P (e >>= f) := by
  unfold Reports
  rw [ExceptT.run_bind]
  apply Logged.reports_bind he
  rintro (failure | a)
  · exact Logged.reports_pure _
  · exact hf a

theorem reports_mapM {f : α → Evaluation β} (hf : ∀ a, Reports P (f a)) (as : List α) :
    Reports P (as.mapM f) := by
  induction as with
  | nil => exact reports_pure []
  | cons a as ih =>
    rw [List.mapM_cons]
    apply reports_bind (hf a)
    intro b
    apply reports_bind ih
    intro bs
    exact reports_pure _

end

/-! ## Calls and conditions -/

theorem reports_expand (t : Trigger) (text : String) :
    (expand t text).Reports Event.OfPlaceholder := by
  unfold expand
  apply Logged.reports_bind
  · apply Logged.reports_warnAll
    rw [List.forall_mem_map]
    intro p hp
    exact .unavailable p t.kind
  intro _
  apply Logged.reports_bind
  · apply Logged.reports_warnAll
    rw [List.forall_mem_map]
    intro word hword
    exact .unknown word
  intro _
  exact Logged.reports_pure _

theorem reports_resolve {inner : Call → Evaluation (List String)}
    (hinner : ∀ call, Reports Event.OfPlaceholder (inner call)) (t : Trigger) (a : Argument) :
    Reports Event.OfPlaceholder (resolve inner t a) := by
  unfold resolve
  split
  · exact reports_pure _
  split
  · split
    · exact reports_bind (hinner _) fun _ => reports_pure _
    · exact reports_throw _
  · exact reports_lift (reports_expand t a.text)

/-- A call reports nothing but what its arguments report, on every level of nesting. -/
theorem reports_valuesWithin (scope : Scope) (levels : Nat) (call : Call) :
    Reports Event.OfPlaceholder (valuesWithin scope levels call) := by
  induction levels generalizing call with
  | zero => exact reports_throw _
  | succ levels ih =>
    unfold valuesWithin
    refine reports_bind (reports_ofExcept (functionOf call)) fun function => ?_
    refine reports_bind (reports_ofExcept (categoryOf call)) fun category => ?_
    apply reports_bind (reports_resolve ih scope.trigger call.mandatory)
    intro mandatory
    apply reports_bind (reports_mapM (reports_resolve ih scope.trigger) call.optional)
    intro optional
    exact reports_ofExcept _

theorem reports_rightValue (scope : Scope) (right : Operand) :
    Reports Event.OfPlaceholder (rightValue scope right) := by
  cases right with
  | literal a =>
    simp only [rightValue]
    split
    · exact reports_pure _
    · exact reports_bind (reports_lift (reports_expand scope.trigger a.text)) fun _ =>
        reports_pure _
  | call call => exact reports_bind (reports_valuesWithin scope _ call) fun _ => reports_pure _

theorem reports_decide (scope : Scope) (c : Condition) :
    Reports Event.OfPlaceholder (decide scope c) := by
  unfold decide
  apply reports_bind (reports_valuesWithin scope _ c.left)
  intro left
  apply reports_bind (reports_rightValue scope c.right)
  intro right
  cases right with
  | none => exact reports_pure false
  | some right => exact reports_bind (reports_ofExcept _) fun _ => reports_ofExcept _

theorem reports_reportFailure {P : Event → Prop} {c : Condition} {f : Failure}
    (hwarn : P (.warning (.conditionFailed c f))) (hcount : P (.count (.failures f.reason) 1)) :
    (reportFailure c f).Reports P := by
  have hcounted := Logged.reports_count hcount
  unfold reportFailure
  dsimp only
  split
  · exact Logged.reports_bind (Logged.reports_warn hwarn) fun _ => hcounted
  · exact hcounted

theorem reports_holds (scope : Scope) (c : Condition) :
    (holds scope c).Reports Event.OfRules := by
  unfold holds
  apply Logged.reports_bind ((reports_decide scope c).mono fun _ => Event.OfPlaceholder.ofRules)
  intro outcome
  cases outcome with
  | ok result => exact Logged.reports_pure _
  | error f =>
    refine Logged.reports_bind (reports_reportFailure ?_ ?_) fun _ => Logged.reports_pure _
    · exact .warning _
    · exact .failed _ _

theorem reports_allHold (scope : Scope) (cs : List Condition) :
    (allHold scope cs).Reports Event.OfRules := by
  induction cs with
  | nil => exact Logged.reports_pure true
  | cons c cs ih =>
    unfold allHold
    apply Logged.reports_bind (reports_holds scope c)
    intro holds
    cases holds with
    | true => exact ih
    | false => exact Logged.reports_pure false

theorem reports_callText (scope : Scope) (text : String) :
    Reports Event.OfPlaceholder (callText scope text) := by
  unfold callText
  split
  · exact reports_bind (reports_valuesWithin scope _ _) fun _ => reports_pure _
  · exact reports_throw _

theorem reports_parameter (scope : Scope) (text : String) :
    (parameter scope text).Reports Event.OfRules := by
  unfold parameter
  split
  · apply Logged.reports_bind
      ((reports_callText scope text).mono fun _ => Event.OfPlaceholder.ofRules)
    intro outcome
    cases outcome with
    | ok value => exact Logged.reports_pure value
    | error f =>
      dsimp only
      apply Logged.reports_bind (Logged.reports_warn (Event.OfRules.warning _))
      intro _
      exact Logged.reports_bind (Logged.reports_count (.failed _ _)) fun _ => Logged.reports_pure _
  · exact (reports_expand scope.trigger text).mono fun _ => Event.OfPlaceholder.ofRules

end Evaluation

/-! ## Templates -/

namespace Template

theorem reports_resolveParam {expand : String → Logged String}
    (hexpand : ∀ text, (expand text).Reports Event.OfRules) (kind : Action.Kind) (t : Trigger)
    (key text : String) : (resolveParam kind t expand key text).Reports Event.OfRules := by
  unfold resolveParam
  split
  · exact Logged.reports_pure _
  · split
    · exact Logged.reports_pure _
    · exact Logged.reports_bind (Logged.reports_warn (.warning _)) fun _ => Logged.reports_pure _
  · exact hexpand _

theorem reports_resolveEntries {expand : String → Logged String}
    (hexpand : ∀ text, (expand text).Reports Event.OfRules) (kind : Action.Kind) (t : Trigger)
    (entries : List (String × String)) :
    (resolveEntries kind t expand entries).Reports Event.OfRules := by
  induction entries with
  | nil => exact Logged.reports_pure _
  | cons entry entries ih =>
    unfold resolveEntries
    apply Logged.reports_bind (reports_resolveParam hexpand kind t entry.1 entry.2)
    intro value
    exact Logged.reports_bind ih fun _ => Logged.reports_pure _

theorem reports_resolve {expand : String → Logged String}
    (hexpand : ∀ text, (expand text).Reports Event.OfRules) (t : Trigger) (template : Template) :
    (template.resolve t expand).Reports Event.OfRules :=
  Logged.reports_bind (reports_resolveEntries hexpand _ t _) fun _ => Logged.reports_pure _

end Template

/-! ## Rules -/

namespace Engine

theorem reports_policyActions (scope : Scope) (templates : List Template) :
    (policyActions scope templates).Reports Event.OfRules := by
  induction templates with
  | nil => exact Logged.reports_pure []
  | cons template templates ih =>
    unfold policyActions
    apply Logged.reports_bind
      (Template.reports_resolve (Evaluation.reports_parameter scope) scope.trigger template)
    intro action
    exact Logged.reports_bind ih fun _ => Logged.reports_pure _

theorem reports_matchAll (scope : Scope) (ps : List Policy) :
    (matchAll scope ps).Reports Event.OfRules := by
  induction ps with
  | nil => exact Logged.reports_pure []
  | cons p ps ih =>
    unfold matchAll
    apply Logged.reports_bind (Evaluation.reports_allHold scope p.conditions)
    intro matched
    cases matched with
    | false => exact ih
    | true =>
      rw [if_pos rfl]
      apply Logged.reports_bind (Logged.reports_count (Event.OfRules.matched 1))
      intro _
      apply Logged.reports_bind (reports_policyActions scope p.actions)
      intro actions
      split
      · exact Logged.reports_pure _
      · exact Logged.reports_bind ih fun _ => Logged.reports_pure _

theorem reports_ruleActions (scope : Scope) : (ruleActions scope).Reports Event.OfRules := by
  unfold ruleActions
  split
  · exact Logged.reports_pure _
  · exact Logged.reports_bind (reports_matchAll scope _) fun _ => Logged.reports_pure _

theorem reports_restoreAll (scope : Scope) (ts : List Trigger) :
    (restoreAll scope ts).Reports Event.OfRules := by
  induction ts with
  | nil => exact Logged.reports_pure []
  | cons t ts ih =>
    unfold restoreAll
    apply Logged.reports_bind (reports_ruleActions { scope with trigger := t })
    intro result
    have hothers (actions : List Action) :
        (do return actions ++ (← restoreAll scope ts) : Logged (List Action)).Reports
          Event.OfRules :=
      Logged.reports_bind ih fun _ => Logged.reports_pure _
    cases result with
    | ok actions => exact Logged.reports_bind (Logged.reports_pure actions) hothers
    | error e => exact Logged.reports_bind (Logged.reports_pure []) hothers

theorem reports_restoreActions (scope : Scope) :
    (restoreActions scope).Reports Event.OfRules := by
  unfold restoreActions
  split
  · split
    · exact reports_restoreAll scope _
    · exact Logged.reports_pure _
  · exact Logged.reports_pure _

/-- The evaluation of a trigger counts nothing but matches and failures. -/
theorem reports_evaluate (e : Engine) (graph : Graph) (t : Trigger) :
    (e.evaluate graph t).Reports Event.OfRules := by
  unfold evaluate
  split
  · unfold answer
    apply Logged.reports_bind (reports_ruleActions _)
    intro result
    cases result with
    | error e => exact Logged.reports_pure _
    | ok actions =>
      exact Logged.reports_bind (reports_restoreActions _) fun _ => Logged.reports_pure _
  · exact Logged.reports_pure _

end Engine
end AudioPolicy

-- SUMMARY: Which policies contribute to the rule actions of a trigger, said without the search.
import AudioPolicy.Proofs.Candidates

/-! # Rule actions

The search runs through the candidates, emits the actions of those that match and ends
behind the first match that stops it. What it finds depends on ranks only: a matching
policy contributes unless a matching policy of lower rank stops the search. -/

namespace AudioPolicy

/-! ## Matching -/

/-- A policy matches in a scope if it reacts to the trigger and all its conditions hold. -/
structure Policy.Matches (scope : Scope) (p : Policy) : Prop where
  reacts : p.Reacts scope.trigger
  conditions : ∀ c ∈ p.conditions, (Evaluation.holds scope c).value = true

/-- Evaluation up to the first condition that does not hold decides about all of them. -/
theorem Evaluation.value_allHold_iff (scope : Scope) (cs : List Condition) :
    (allHold scope cs).value = true ↔ ∀ c ∈ cs, (holds scope c).value = true := by
  induction cs with
  | nil => simp [allHold]
  | cons c cs ih =>
    rw [allHold, Logged.value_bind, List.forall_mem_cons]
    cases hc : (holds scope c).value with
    | false => simp
    | true => simp [ih]

/-- The actions of a policy, its templates resolved one by one. -/
def resolvedActions (scope : Scope) (p : Policy) : List Action :=
  p.actions.map fun template =>
    (template.resolve scope.trigger (Evaluation.parameter scope)).value

theorem Engine.value_policyActions (scope : Scope) (templates : List Template) :
    (policyActions scope templates).value =
      templates.map fun template =>
        (template.resolve scope.trigger (Evaluation.parameter scope)).value := by
  induction templates with
  | nil => rfl
  | cons template templates ih => simp [policyActions, ih]

/-! ## Stopping -/

/-- The part of a list up to and including the first element that stops. -/
def throughFirst {α : Type} (stops : α → Bool) : List α → List α
  | [] => []
  | a :: as => if stops a then [a] else a :: throughFirst stops as

theorem throughFirst_sublist {α : Type} (stops : α → Bool) (as : List α) :
    (throughFirst stops as).Sublist as := by
  induction as with
  | nil => exact List.Sublist.refl _
  | cons a as ih =>
    rw [throughFirst]
    split
    · exact (List.nil_sublist as).cons_cons a
    · exact ih.cons_cons a

/-- In an increasing list the part through the first stop holds what no smaller element
    stops. -/
theorem mem_throughFirst_iff {α β : Type} [Preorder β] {stops : α → Bool} {key : α → β}
    {as : List α} (h : as.Pairwise fun a b => key a < key b) {a : α} :
    a ∈ throughFirst stops as ↔
      a ∈ as ∧ ∀ b ∈ as, stops b = true → ¬ key b < key a := by
  induction as with
  | nil => simp [throughFirst]
  | cons first as ih =>
    obtain ⟨hfirst, has⟩ := List.pairwise_cons.1 h
    rw [throughFirst, List.forall_mem_cons]
    cases hstop : stops first with
    | true =>
      rw [if_pos rfl, List.mem_singleton, List.mem_cons]
      constructor
      · rintro rfl
        exact ⟨Or.inl rfl, fun _ => lt_irrefl _, fun b hb _ => lt_asymm (hfirst b hb)⟩
      · rintro ⟨rfl | ha, hnot, -⟩
        · rfl
        · exact absurd (hfirst a ha) (hnot rfl)
    | false =>
      simp only [Bool.false_eq_true, if_false, List.mem_cons, ih has, false_implies, true_and]
      constructor
      · rintro (rfl | ⟨ha, hnot⟩)
        · exact ⟨Or.inl rfl, fun b hb _ => lt_asymm (hfirst b hb)⟩
        · exact ⟨Or.inr ha, hnot⟩
      · rintro ⟨rfl | ha, hnot⟩
        · exact Or.inl rfl
        · exact Or.inr ⟨ha, hnot⟩

/-! ## The search -/

/-- The indexed policies among the candidates whose actions the search emits. -/
def emitting (scope : Scope) (xs : List (Policy × Nat)) : List (Policy × Nat) :=
  throughFirst (fun x => x.1.stop)
    (xs.filter fun x => (Evaluation.allHold scope x.1.conditions).value)

theorem Engine.value_matchAll (scope : Scope) (xs : List (Policy × Nat)) :
    (matchAll scope (xs.map Prod.fst)).value =
      (emitting scope xs).flatMap fun x => resolvedActions scope x.1 := by
  induction xs with
  | nil => rfl
  | cons x xs ih =>
    have hactions : (policyActions scope x.1.actions).value = resolvedActions scope x.1 :=
      value_policyActions scope x.1.actions
    rw [emitting] at ih
    rw [List.map_cons, matchAll, Logged.value_bind, emitting]
    cases hold : (Evaluation.allHold scope x.1.conditions).value with
    | false =>
      rw [List.filter_cons, hold]
      exact ih
    | true =>
      rw [List.filter_cons, hold, if_pos rfl, if_pos rfl, throughFirst]
      cases x.1.stop with
      | true => simp [hactions]
      | false => simp [hactions, ih]

/-- The policy with an index contributes to the rule actions: it matches, and no matching
    policy of lower rank stops the search. -/
structure Contributes (scope : Scope) (x : Policy × Nat) : Prop where
  declared : scope.store.policies[x.2]? = some x.1
  matching : x.1.Matches scope
  unstopped : ∀ y : Policy × Nat, scope.store.policies[y.2]? = some y.1 → y.1.Matches scope →
    y.1.stop = true → ¬ rank y < rank x

theorem mem_emitting_iff {scope : Scope} {x : Policy × Nat} :
    x ∈ emitting scope (ranked scope.store.policies scope.trigger) ↔ Contributes scope x := by
  have hmatches : ∀ y : Policy × Nat,
      y ∈ (ranked scope.store.policies scope.trigger).filter
          (fun y => (Evaluation.allHold scope y.1.conditions).value) ↔
        scope.store.policies[y.2]? = some y.1 ∧ y.1.Matches scope := by
    intro y
    rw [List.mem_filter, mem_ranked_iff, Evaluation.value_allHold_iff, and_assoc]
    exact and_congr_right fun _ => ⟨fun ⟨hr, hc⟩ => ⟨hr, hc⟩, fun h => ⟨h.reacts, h.conditions⟩⟩
  rw [emitting, mem_throughFirst_iff ((ranked_increasing _ _).filter _), hmatches]
  constructor
  · rintro ⟨⟨hdeclared, hmatching⟩, hunstopped⟩
    exact ⟨hdeclared, hmatching, fun y hy hy' => hunstopped y ((hmatches y).2 ⟨hy, hy'⟩)⟩
  · rintro ⟨hdeclared, hmatching, hunstopped⟩
    refine ⟨⟨hdeclared, hmatching⟩, fun y hy => ?_⟩
    obtain ⟨hy, hy'⟩ := (hmatches y).1 hy
    exact hunstopped y hy hy'

/-! ## The rule actions -/

/-- The rule actions of a trigger are the resolved actions of the contributing policies,
    each once and in increasing rank. -/
theorem Engine.ruleActions_eq_contributions {scope : Scope} (hloaded : scope.store.reason? = none)
    (haccepted : ¬ LookupRejected scope.store scope.trigger) :
    ∃ chosen : List (Policy × Nat),
      chosen.Pairwise (fun x y => rank x < rank y) ∧
      (∀ x, x ∈ chosen ↔ Contributes scope x) ∧
      (ruleActions scope).value =
        .ok (chosen.flatMap fun x => resolvedActions scope x.1) := by
  refine ⟨emitting scope (ranked scope.store.policies scope.trigger), ?_, fun x => mem_emitting_iff,
    ?_⟩
  · exact ((ranked_increasing _ _).filter _).sublist (throughFirst_sublist _ _)
  · rw [ruleActions, candidates_loaded hloaded, if_neg haccepted]
    exact congrArg Except.ok (value_matchAll scope _)

/-- The lookup is strict, the two policies that react have the same priority, and the
    earlier one stops the search. -/
theorem Engine.ruleActions_eq_contributions_of_tied_stop :
    let store : Store := .loaded
      { policies :=
          [{ name := "disabled", triggers := [.any], priority := -2, stop := true,
             enabled := false },
           { name := "first", triggers := [.systemAll], priority := -1, stop := true,
             actions := [{ kind := .mute }] },
           { name := "second", triggers := [.systemRegisterSink], priority := -1,
             actions := [{ kind := .unmute }] }]
        options := { strictLookup := true } } rfl
    let scope : Scope := { store, graph := {}, trigger := .systemRegisterSink "Speaker" }
    store.reason? = none ∧ ¬ LookupRejected store scope.trigger ∧
      ∃ chosen : List (Policy × Nat),
        chosen.Pairwise (fun x y => rank x < rank y) ∧
        (∀ x, x ∈ chosen ↔ Contributes scope x) ∧
        (ruleActions scope).value = .ok (chosen.flatMap fun x => resolvedActions scope x.1) := by
  intro store scope
  have haccepted : ¬ LookupRejected store scope.trigger := by decide
  exact ⟨rfl, haccepted, ruleActions_eq_contributions rfl haccepted⟩

end AudioPolicy

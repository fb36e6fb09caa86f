-- SUMMARY: The order of the declarations shows only where ALL lists several unregistered names.
import AudioPolicy.Proofs.Selection
import AudioPolicy.Proofs.SteadyQueries

/-! # The order of the declarations

A condition looks at its left values one by one if it asks about membership, and at the first
of them otherwise. It looks at the first value of a call on its right side, and a call in an
argument counts with all its values in their order. So the order of the declarations does not
matter to a condition whose queries are steady wherever an order is looked at. -/

namespace AudioPolicy.Evaluation

open Query (toOption_bind rel_refl rel_bind)

/-! ## Calls -/

/-- The values of a call, unless it fails. -/
def values? (scope : Scope) (levels : Nat) (call : Call) : Option (List String) :=
  (outcome (valuesWithin scope levels call)).toOption

/-- The text that an argument stands for, unless it fails. -/
def text? (scope : Scope) (levels : Nat) (a : Argument) : Option String :=
  (outcome (resolve (valuesWithin scope levels) scope.trigger a)).toOption

/-- The query that a call comes to, unless one of its arguments fails. -/
def query? (scope : Scope) (levels : Nat) (call : Call) : Option Query := do
  let function ← (functionOf call).toOption
  let category ← (categoryOf call).toOption
  let mandatory ← text? scope levels call.mandatory
  let optional ← call.optional.mapM (text? scope levels)
  return { function, category, optional,
           selector := Selector.ofText mandatory call.mandatory.quoted }

theorem toOption_mapM {α β : Type} (f : α → Except Failure β) (as : List α) :
    (as.mapM f).toOption = as.mapM fun a => (f a).toOption := by
  induction as with
  | nil => rfl
  | cons a as ih =>
    simp only [List.mapM_cons, toOption_bind, ih]
    rfl

theorem mapM_congr {α β : Type} {f g : α → Option β} {as : List α} (h : ∀ a ∈ as, f a = g a) :
    as.mapM f = as.mapM g := by
  induction as with
  | nil => rfl
  | cons a as ih =>
    simp only [List.forall_mem_cons] at h
    simp only [List.mapM_cons, h.1, ih h.2]

theorem values?_succ (scope : Scope) (levels : Nat) (call : Call) :
    values? scope (levels + 1) call =
      (query? scope levels call).bind fun q => (q.answer scope).toOption := by
  simp only [values?, outcome_valuesWithin_succ, toOption_bind, toOption_mapM]
  unfold query? text?
  simp only [Option.bind_eq_bind, Option.bind_assoc]
  rfl

/-! ## Steady calls -/

/-- The argument is written as the call. -/
structure IsCall (a : Argument) (inner : Call) : Prop where
  plain : a.quoted = false
  written : Call.isWrittenAs a.text = true
  reads : Call.ofText a.text = .ok inner

/-- The order of the declarations cannot show in the values of a call, nor in those of the
    calls in its arguments. -/
def Steady (scope : Scope) : Nat → Call → Prop
  | 0, _ => True
  | levels + 1, call =>
    (∀ a ∈ call.mandatory :: call.optional, ∀ inner, IsCall a inner →
        Steady scope levels inner) ∧
      ∀ q, query? scope levels call = some q → q.Steady scope

/-- The order of the declarations cannot show in the arguments of a call. -/
def SteadyArguments (scope : Scope) (levels : Nat) (call : Call) : Prop :=
  ∀ a ∈ call.mandatory :: call.optional, ∀ inner, IsCall a inner → Steady scope levels inner

section
variable {scope : Scope} {store : Store} {levels : Nat}

theorem text?_eq {a : Argument}
    (h : ∀ inner, IsCall a inner →
      values? { scope with store } levels inner = values? scope levels inner) :
    text? { scope with store } levels a = text? scope levels a := by
  unfold text?
  cases hplain : a.quoted with
  | true => simp only [outcome_resolve_of_quoted hplain]
  | false =>
    cases hwritten : Call.isWrittenAs a.text with
    | false => simp only [outcome_resolve_of_plain hplain hwritten]
    | true =>
      simp only [outcome_resolve_of_call hplain hwritten]
      cases hreads : Call.ofText a.text with
      | error e => rfl
      | ok inner =>
        have hmap (x : Except Failure (List String)) :
            (x.map Text.unwords).toOption = x.toOption.map Text.unwords := by
          cases x <;> rfl
        have hvalues := h inner ⟨hplain, hwritten, hreads⟩
        simp only [values?] at hvalues
        simp only [hmap, hvalues]

theorem query?_eq {call : Call}
    (h : ∀ a ∈ call.mandatory :: call.optional,
      text? { scope with store } levels a = text? scope levels a) :
    query? { scope with store } levels call = query? scope levels call := by
  simp only [List.forall_mem_cons] at h
  unfold query?
  simp only [h.1, mapM_congr h.2]

section
variable (hstore : scope.store.Permuted store)

include hstore

/-- A steady call has the same values in all orders of the declarations. -/
theorem values?_eq_of_steady {call : Call} (h : Steady scope levels call) :
    values? { scope with store } levels call = values? scope levels call := by
  induction levels generalizing call with
  | zero => rfl
  | succ levels ih =>
    obtain ⟨harguments, hquery⟩ := h
    have hsame : query? { scope with store } levels call = query? scope levels call :=
      query?_eq fun a ha => text?_eq fun inner hinner => ih (harguments a ha inner hinner)
    simp only [values?_succ, hsame]
    cases hq : query? scope levels call with
    | none => rfl
    | some q => exact (hquery q hq).answer_eq hstore

/-- The arguments of a call need no more for it to have the same values in another order. -/
theorem rel_values? {call : Call} (h : SteadyArguments scope levels call) :
    Option.Rel List.Perm (values? scope (levels + 1) call)
      (values? { scope with store } (levels + 1) call) := by
  have hsame : query? { scope with store } levels call = query? scope levels call :=
    query?_eq fun a ha => text?_eq fun inner hinner =>
      values?_eq_of_steady hstore (h a ha inner hinner)
  simp only [values?_succ, hsame]
  cases query? scope levels call with
  | none => exact .none
  | some q => exact Query.rel_answer hstore

end
end

/-! ## Conditions -/

/-- The verdict of a condition on given values, if it has one. -/
def verdict? (c : Condition) (left : List String) (right : Option String) : Option Bool :=
  match right with
  | none => some false
  | some right => do
    let function ← (functionOf c.left).toOption
    (c.operator.compare function.valueType left right).toOption

/-- The right value of a condition. -/
def right? (scope : Scope) (c : Condition) : Option (Option String) :=
  (outcome (rightValue scope c.right)).toOption

theorem toOption_decide (scope : Scope) (c : Condition) :
    (outcome (decide scope c)).toOption =
      (values? scope (Failure.maxDepth + 1) c.left).bind fun left =>
        (right? scope c).bind (verdict? c left) := by
  rw [outcome_decide]
  simp only [toOption_bind]
  congr 1
  funext left
  congr 1
  funext right
  cases right with
  | none => rfl
  | some right =>
    simp only [toOption_bind]
    rfl

theorem verdict?_of_perm {c : Condition} (h : c.operator.isMembership = true)
    {left left' : List String} (hleft : left.Perm left') :
    verdict? c left = verdict? c left' := by
  funext right
  cases right with
  | none => rfl
  | some right =>
    simp only [verdict?]
    congr 1
    funext function
    cases hoperator : c.operator with
    | includes | excludes => simp only [Operator.compare, hleft.contains_eq]
    | _ => simp [Operator.isMembership, hoperator] at h

/-- The order of the declarations cannot show in a condition: its right side is steady, and so
    is its left side, or that is only asked about membership and its arguments are steady. -/
structure OrderFree (scope : Scope) (c : Condition) : Prop where
  left : Steady scope (Failure.maxDepth + 1) c.left ∨
    c.operator.isMembership = true ∧ SteadyArguments scope Failure.maxDepth c.left
  right : ∀ call, c.right = .call call → Steady scope (Failure.maxDepth + 1) call

section
variable {scope : Scope} {store : Store} {c : Condition}

theorem OrderFree.right?_eq (h : OrderFree scope c) (hstore : scope.store.Permuted store) :
    right? { scope with store } c = right? scope c := by
  cases hright : c.right with
  | literal a =>
    simp only [right?, rightValue, hright]
  | call call =>
    have hvalues := values?_eq_of_steady hstore (h.right call hright)
    simp only [values?] at hvalues
    simp only [right?, rightValue, hright, values, outcome_bind, toOption_bind, hvalues]

/-- An order-free condition has the same verdict in all orders of the declarations. -/
theorem OrderFree.value_holds_eq (h : OrderFree scope c) (hstore : scope.store.Permuted store) :
    (holds { scope with store } c).value = (holds scope c).value := by
  simp only [value_holds, toOption_decide, h.right?_eq hstore]
  rcases h.left with hleft | ⟨hmembership, harguments⟩
  · simp only [values?_eq_of_steady hstore hleft]
  · have hrel := rel_values? hstore harguments
    generalize values? scope _ c.left = left at hrel ⊢
    generalize values? { scope with store } _ c.left = left' at hrel ⊢
    cases hrel with
    | none => rfl
    | some hperm => simp only [Option.bind_some, verdict?_of_perm hmembership hperm]

end

/-! ## Settled configurations -/

theorem steady_of_settled {scope : Scope}
    (h : ∀ category : Category, ∀ kind, category.subject? = some kind → Query.Settled scope kind)
    (levels : Nat) (call : Call) : Steady scope levels call := by
  induction levels generalizing call with
  | zero => trivial
  | succ levels ih => exact ⟨fun _ _ inner _ => ih inner, fun q _ => .settled (h q.category)⟩

/-- The condition that a text is the first of all names. -/
def firstName (category : Category) (first : String) : Condition where
  left :=
    { function := Spelled.word Function.name
      category := Spelled.word category
      mandatory := ⟨"ALL", false⟩ }
  operator := .equal
  right := .literal ⟨first, true⟩

/-- The kinds of elements that a configuration can declare and a category can list. -/
def listable : List ElementKind := [.sink, .source, .class_, .domain]

/-- The names of such a kind are listed by a category of its own. -/
theorem exists_outcome_firstName {kind : ElementKind} (hkind : kind ∈ listable) :
    ∃ category, ∀ (scope : Scope) (first : String),
      outcome (values scope (firstName category first).left) =
        .ok (scope.graph.names kind ++ scope.store.names kind).eraseDups := by
  have hword : "ALL" ∈ Selector.words := by simp [Selector.words]
  have hmandatory (scope : Scope) (category : Category) (first : String) :
      mandatoryText scope (firstName category first).left = .ok "ALL" :=
    mandatoryText_of_mem_words rfl hword
  simp only [listable, List.mem_cons, List.not_mem_nil, or_false] at hkind
  rcases hkind with rfl | rfl | rfl | rfl
  · exact ⟨.sink, fun scope first => outcome_values (hmandatory scope .sink first)⟩
  · exact ⟨.source, fun scope first => outcome_values (hmandatory scope .source first)⟩
  · exact ⟨.class_, fun scope first => outcome_values (hmandatory scope .class_ first)⟩
  · exact ⟨.domain, fun scope first => outcome_values (hmandatory scope .domain first)⟩

theorem verdict?_firstName (category : Category) (first : String) (left : List String) :
    verdict? (firstName category first) left (some first) = some true ↔
      left.head? = some first := by
  have hfunction : functionOf (firstName category first).left = .ok .name := rfl
  simp only [verdict?, hfunction]
  cases left with
  | nil => simp [firstName, Operator.compare, Except.toOption]
  | cons name names =>
    simp [firstName, Operator.compare, Except.toOption, Function.valueType, ValueType.order,
      Operator.accepts, Except.map]

/-- If nothing is registered, then a condition can ask which declaration comes first. -/
theorem exists_holds_firstName {kind : ElementKind} (hkind : kind ∈ listable) :
    ∃ category, ∀ (store : Store) (trigger : Trigger) (first : String),
      (holds { store, graph := {}, trigger } (firstName category first)).value = true ↔
        (store.names kind).head? = some first := by
  obtain ⟨category, houtcome⟩ := exists_outcome_firstName hkind
  refine ⟨category, fun store trigger first => ?_⟩
  have hgraph : Graph.names {} kind = [] := by cases kind <;> rfl
  have hvalues : values? { store, graph := {}, trigger } (Failure.maxDepth + 1)
      (firstName category first).left = some (store.names kind).eraseDups := by
    have hnames := houtcome { store, graph := {}, trigger } first
    simp only [values] at hnames
    simp only [values?, hnames, hgraph]
    rfl
  have hright : right? { store, graph := {}, trigger } (firstName category first) =
      some (some first) := rfl
  have hhead : (store.names kind).eraseDups.head? = (store.names kind).head? := by
    cases store.names kind <;> simp [List.eraseDups_cons]
  have hverdict := verdict?_firstName category first (store.names kind).eraseDups
  simp only [value_holds, toOption_decide, hvalues, hright, Option.bind_some, ← hhead, ← hverdict]
  cases verdict? (firstName category first) (store.names kind).eraseDups (some first) with
  | none => simp
  | some verdict => simp

/-! ## Valid configurations -/

/-- Whether a condition holds under a valid configuration. -/
def holdsUnder (c : Configuration) (valid : c.duplicate? = none) (graph : Graph)
    (trigger : Trigger) (cond : Condition) : Bool :=
  (holds { store := .loaded c valid, graph, trigger } cond).value

section
variable {c : Configuration} (valid : c.duplicate? = none)

/-- With at most one declaration of each kind there is only one order. -/
theorem orderFree_of_single
    (h : ∀ kind ∈ listable, ((Store.loaded c valid).names kind).length ≤ 1) (graph : Graph)
    (trigger : Trigger) (cond : Condition) :
    OrderFree { store := .loaded c valid, graph, trigger } cond := by
  have hsteady (call : Call) : Steady { store := .loaded c valid, graph, trigger }
      (Failure.maxDepth + 1) call := by
    refine steady_of_settled (fun category kind hkind => ?_) _ call
    have hlength : ((Store.loaded c valid).names kind).length ≤ 1 := by
      by_cases hlistable : kind ∈ listable
      · exact h kind hlistable
      · cases kind with
        | connection => exact Nat.zero_le 1
        | gateway => cases category <;> simp [Category.subject?] at hkind
        | _ => simp [listable] at hlistable
    intro t ht u hu _ _
    cases hnames : (Store.loaded c valid).names kind with
    | nil => simp [hnames] at ht
    | cons name names =>
      have hnil : names = [] := by simpa [hnames] using hlength
      simp only [hnames, hnil, List.mem_singleton] at ht hu
      exact ht.trans hu.symm
  exact ⟨Or.inl (hsteady cond.left), fun call _ => hsteady call⟩

/-- Two declarations of a kind can be told apart from the same two in reverse order. -/
theorem exists_holdsUnder_reversed_ne {kind : ElementKind} (hkind : kind ∈ listable)
    (h : 1 < ((Store.loaded c valid).names kind).length) (trigger : Trigger) :
    ∃ (valid' : c.reversed.duplicate? = none) (cond : Condition),
      holdsUnder c.reversed valid' {} trigger cond ≠ holdsUnder c valid {} trigger cond := by
  have valid' := c.permuted_reversed.duplicate?_eq_none valid
  obtain ⟨category, hholds⟩ := exists_holds_firstName hkind
  have hnodup := (Store.loaded c valid).nodup_names kind
  have hreversed := Store.names_reversed valid valid' kind
  cases hnames : (Store.loaded c valid).names kind with
  | nil => simp [hnames] at h
  | cons name names =>
    refine ⟨valid', firstName category name, fun hsame => ?_⟩
    have hfirst : holdsUnder c valid {} trigger (firstName category name) = true :=
      (hholds _ trigger name).2 (by simp [hnames])
    have hlast : ((Store.loaded c.reversed valid').names kind).head? = some name :=
      (hholds _ trigger name).1 (hsame.trans hfirst)
    simp only [hnames] at h hnodup hreversed
    simp only [hreversed, List.head?_reverse] at hlast
    grind

end

/-- Under a valid configuration an order-free condition has the same verdict in all orders of
    the declarations. All conditions have, if and only if there is at most one declaration of
    each kind that a call can list. -/
theorem conditions_order_free (c : Configuration) (valid : c.duplicate? = none) :
    (∀ (c' : Configuration) (valid' : c'.duplicate? = none), c.Permuted c' →
      ∀ (graph : Graph) (trigger : Trigger) (cond : Condition),
        OrderFree { store := .loaded c valid, graph, trigger } cond →
          holdsUnder c' valid' graph trigger cond = holdsUnder c valid graph trigger cond) ∧
      ((∀ (c' : Configuration) (valid' : c'.duplicate? = none), c.Permuted c' →
          ∀ (graph : Graph) (trigger : Trigger) (cond : Condition),
            holdsUnder c' valid' graph trigger cond = holdsUnder c valid graph trigger cond) ↔
        ∀ kind ∈ listable, ((Store.loaded c valid).names kind).length ≤ 1) := by
  have hfree (c' : Configuration) (valid' : c'.duplicate? = none) (hpermuted : c.Permuted c')
      (graph : Graph) (trigger : Trigger) (cond : Condition)
      (h : OrderFree { store := .loaded c valid, graph, trigger } cond) :
      holdsUnder c' valid' graph trigger cond = holdsUnder c valid graph trigger cond := by
    have hstore : (Store.loaded c valid).Permuted (.loaded c' valid') := hpermuted
    exact h.value_holds_eq hstore
  refine ⟨hfree, fun hall kind hkind => ?_,
    fun hsingle c' valid' hpermuted graph trigger cond => ?_⟩
  · by_contra hlength
    obtain ⟨valid', cond, hne⟩ := exists_holdsUnder_reversed_ne valid hkind
      (Nat.lt_of_not_le hlength) (.systemRegisterSink "")
    exact hne (hall c.reversed valid' c.permuted_reversed {} (.systemRegisterSink "") cond)
  · exact hfree c' valid' hpermuted graph trigger cond
      (orderFree_of_single valid hsingle graph trigger cond)

/-- Membership among all names is order-free, and which name comes first is not. -/
theorem conditions_order_free_of_two_sinks :
    let c : Configuration := { sinks := [{ name := "Speaker" }, { name := "Headset" }] }
    let trigger : Trigger := .systemRegisterSink "Speaker"
    let cond : Condition :=
      { left := { function := "name", category := "SINK", mandatory := ⟨"ALL", false⟩ }
        operator := .includes
        right := .literal ⟨"Headset", true⟩ }
    ∃ (valid : c.duplicate? = none) (valid' : c.reversed.duplicate? = none),
      c.Permuted c.reversed ∧
        OrderFree { store := .loaded c valid, graph := {}, trigger } cond ∧
        holdsUnder c.reversed valid' {} trigger cond = holdsUnder c valid {} trigger cond ∧
        ¬ ∀ (c' : Configuration) (valid' : c'.duplicate? = none), c.Permuted c' →
          ∀ (graph : Graph) (trigger : Trigger) (cond : Condition),
            holdsUnder c' valid' graph trigger cond = holdsUnder c valid graph trigger cond := by
  intro c trigger cond
  have valid : c.duplicate? = none := rfl
  have valid' : c.reversed.duplicate? = none := rfl
  have hfree : OrderFree { store := .loaded c valid, graph := {}, trigger } cond := by
    refine ⟨Or.inr ⟨rfl, fun a ha inner hinner => ?_⟩, nofun⟩
    obtain rfl : a = ⟨"ALL", false⟩ := by simpa [cond] using ha
    exact absurd hinner.written (by decide)
  obtain ⟨hsame, hall⟩ := conditions_order_free c valid
  refine ⟨valid, valid', c.permuted_reversed, hfree,
    hsame c.reversed valid' c.permuted_reversed {} trigger cond hfree, fun h => ?_⟩
  have hlength : ((Store.loaded c valid).names .sink).length = 2 := rfl
  have hsingle := hall.1 h .sink (by simp [listable])
  omega

/-- A condition on the first of all names holds in one order of two sinks only. -/
theorem first_name_depends_on_order :
    ¬ ∀ (c c' : Configuration) (valid : c.duplicate? = none) (valid' : c'.duplicate? = none),
      c.Permuted c' → ∀ (graph : Graph) (trigger : Trigger) (cond : Condition),
        holdsUnder c' valid' graph trigger cond = holdsUnder c valid graph trigger cond := by
  intro h
  let c : Configuration := { sinks := [{ name := "Speaker" }, { name := "Headset" }] }
  have valid : c.duplicate? = none := rfl
  have hkind : ElementKind.sink ∈ listable := by simp [listable]
  have hlength : 1 < ((Store.loaded c valid).names .sink).length := Nat.lt_succ_self 1
  obtain ⟨valid', cond, hne⟩ :=
    exists_holdsUnder_reversed_ne valid hkind hlength (.systemRegisterSink "")
  exact hne (h c c.reversed valid valid' c.permuted_reversed {} (.systemRegisterSink "") cond)

end AudioPolicy.Evaluation

-- SUMMARY: The queries whose values do not depend on the order of the declarations.
import AudioPolicy.Proofs.Readings

/-! # Steady queries

The order of the declarations reaches a query through the selector `ALL` alone: declared
elements that are not registered are listed as they were declared, behind the registered
ones. The answer then has the same values in another order. For many queries it is even the
same answer, because what is listed in another order cannot be told apart. -/

namespace AudioPolicy.Query

variable {scope : Scope} {q : Query} {store : Store}

/-! ## Subjects -/

/-- At most one declared element of a kind is not registered. -/
def Settled (scope : Scope) (kind : ElementKind) : Prop :=
  ∀ t ∈ scope.store.names kind, ∀ u ∈ scope.store.names kind,
    scope.graph.isRegistered kind t = false → scope.graph.isRegistered kind u = false → t = u

/-- How the subjects of a query change with the order of the declarations: not at all, or
    the names behind the registered ones change places. -/
inductive Rearranged (scope : Scope) (q : Query) (store : Store) : Prop
  | same (h : q.subjects { scope with store } = q.subjects scope)
  | behind {kind : ElementKind} {registered others others' : List String}
      (hall : q.selector = .all) (hkind : q.category.subject? = some kind)
      (hsubjects : q.subjects scope = .ok (registered ++ others))
      (hsubjects' : q.subjects { scope with store } = .ok (registered ++ others'))
      (hothers : others.Perm others')
      (hmem : ∀ t ∈ others, t ∈ scope.store.names kind ∧
        scope.graph.isRegistered kind t = false)

theorem rearranged_subjects (scope : Scope) (q : Query) (h : scope.store.Permuted store) :
    Rearranged scope q store := by
  cases hkind : q.category.subject? with
  | none => exact .same (by simp only [subjects, hkind])
  | some kind =>
    cases hselector : q.selector with
    | requesting => exact .same (by simp only [subjects, hkind, hselector])
    | name text => exact .same (by simp only [subjects, hkind, hselector])
    | all =>
      have hsubjects (store : Store) : q.subjects { scope with store } =
          .ok ((scope.graph.names kind).eraseDups ++
            ((store.names kind).removeAll (scope.graph.names kind)).eraseDups) := by
        simp only [subjects, hkind, hselector, List.eraseDups_append]
      refine .behind hselector hkind (hsubjects scope.store) (hsubjects store)
        (perm_eraseDups ((h.names_perm kind).filter _)) fun t ht => ?_
      simpa [List.removeAll, Graph.isRegistered] using ht

/-! ## Targets -/

/-- Whether the targets of a category are its subjects themselves. -/
def isDirect (q : Query) : Prop := q.category.target? = q.category.subject?

/-- Whether the targets of a category are sorted by name. -/
def isSorted (q : Query) : Prop := q.category = .sinkOfClass ∨ q.category = .sourceOfClass

/-- In all orders of the declarations the targets come from the subjects in one way. -/
structure Follows (scope : Scope) (q : Query) (follow : List String → Option (List String)) :
    Prop where
  targets : ∀ store, scope.store.Permuted store →
    (q.targets { scope with store }).toOption =
      (q.subjects { scope with store }).toOption.bind follow
  rel : ∀ {ts ts' : List String}, ts.Perm ts' → Option.Rel List.Perm (follow ts) (follow ts')
  direct : q.isDirect → follow = some
  sorted : q.isSorted → ∀ {ts ts' : List String}, ts.Perm ts' → follow ts = follow ts'

theorem toOption_related (counterpart : String → Option String) (ts : List String) :
    (q.related ts counterpart).toOption =
      Reading.apply ⟨.related, fun t => (counterpart t).toList⟩ ts := by
  simp only [related, Reading.apply, Combination.apply, flatten_map_toList, List.isEmpty_map]
  split <;> rfl

theorem toOption_connectionsOf (filter : String → Connection.Filter) (ts : List String) :
    some (connectionsOf scope q filter ts) =
      Reading.apply ⟨.distinct, fun t =>
        (scope.graph.connectionsBy (filter t) q.order).map (·.name)⟩ ts := by
  simp only [connectionsOf, Reading.apply, Combination.apply, List.flatMap_def]

theorem elementClass?_eq (h : scope.store.Permuted store) (kind : ElementKind) :
    elementClass? { scope with store } kind = elementClass? scope kind := by
  funext name
  simp only [elementClass?, h.classOf?_eq]

/-- The members of classes are sorted, so no order of the declarations shows in them. -/
theorem members_eq {declared declared' : List Endpoint} {classes classes' : List String}
    (h : declared.Perm declared') (hclasses : classes.Perm classes') :
    members declared classes = members declared' classes' := by
  simp only [members, hclasses.contains_eq]
  exact mergeSort_eq_of_perm ((h.filter _).map _)

namespace Follows

theorem here {follow : List String → Option (List String)} (h : Follows scope q follow) :
    (q.targets scope).toOption = (q.subjects scope).toOption.bind follow :=
  h.targets scope.store (.refl scope.store)

theorem of_reading (r : Reading) (hplain : ¬ q.isDirect ∧ ¬ q.isSorted)
    (h : ∀ store, scope.store.Permuted store →
      (q.targets { scope with store }).toOption =
        (q.subjects { scope with store }).toOption.bind r.apply) :
    Follows scope q r.apply :=
  ⟨h, r.rel_apply, fun h => absurd h hplain.1, fun h => absurd h hplain.2⟩

theorem of_related (counterpart : Scope → String → Option String)
    (hcounterpart : ∀ store, scope.store.Permuted store →
      counterpart { scope with store } = counterpart scope)
    (hplain : ¬ q.isDirect ∧ ¬ q.isSorted)
    (h : ∀ scope, q.targets scope =
      q.subjects scope >>= fun ts => q.related ts (counterpart scope)) :
    Follows scope q (Reading.apply ⟨.related, fun t => (counterpart scope t).toList⟩) := by
  refine of_reading _ hplain fun store hstore => ?_
  simp only [h, toOption_bind, hcounterpart store hstore, toOption_related]

theorem of_connectionsOf (filter : String → Connection.Filter)
    (hplain : ¬ q.isDirect ∧ ¬ q.isSorted)
    (h : ∀ scope, q.targets scope =
      q.subjects scope >>= fun ts => .ok (connectionsOf scope q filter ts)) :
    Follows scope q (Reading.apply ⟨.distinct, fun t =>
      (scope.graph.connectionsBy (filter t) q.order).map (·.name)⟩) := by
  refine of_reading _ hplain fun store _ => ?_
  simp only [h, toOption_bind, ← toOption_connectionsOf]
  rfl

theorem of_members (declared : Store → List Endpoint) (hdirect : ¬ q.isDirect)
    (hdeclared : ∀ store, scope.store.Permuted store →
      (declared scope.store).Perm (declared store))
    (h : ∀ scope, q.targets scope =
      q.subjects scope >>= fun classes => .ok (members (declared scope.store) classes)) :
    Follows scope q fun classes => some (members (declared scope.store) classes) where
  targets store hstore := by
    simp only [h, toOption_bind, ← members_eq (hdeclared store hstore) (.refl _)]
    rfl
  rel hts := by
    simp only [members_eq (.refl _) hts]
    exact .some (.refl _)
  direct h := absurd h hdirect
  sorted _ _ _ hts := congrArg some (members_eq (.refl _) hts)

end Follows

/-- The targets are the subjects, or they are read from the subjects one by one, or they are
    sorted. -/
theorem exists_follows (scope : Scope) (q : Query) : ∃ follow, Follows scope q follow := by
  cases hcategory : q.category with
  | sink | source | class_ | domain | connection =>
    refine ⟨some, fun store _ => ?_, fun h => .some h, fun _ => rfl, fun h => ?_⟩
    · simp only [targets, hcategory, toOption_bind]
      rfl
    · simp [isSorted, hcategory] at h
  | user | system =>
    refine ⟨some, fun store _ => ?_, fun h => .some h, fun _ => rfl, fun h => ?_⟩
    · simp only [targets, subjects, hcategory]
      rfl
    · simp [isSorted, hcategory] at h
  | classOfSink =>
    exact ⟨_, .of_related (elementClass? · .sink) (fun _ h => elementClass?_eq h .sink)
      (by simp [isDirect, isSorted, hcategory, Category.target?, Category.subject?])
      fun scope => by simp only [targets, hcategory]⟩
  | classOfSource =>
    exact ⟨_, .of_related (elementClass? · .source) (fun _ h => elementClass?_eq h .source)
      (by simp [isDirect, isSorted, hcategory, Category.target?, Category.subject?])
      fun scope => by simp only [targets, hcategory]⟩
  | domainOfSink =>
    exact ⟨_, .of_related (fun scope => scope.store.domainOf? .sink)
      (fun _ h => congrFun h.domainOf?_eq.symm .sink)
      (by simp [isDirect, isSorted, hcategory, Category.target?, Category.subject?])
      fun scope => by simp only [targets, hcategory]⟩
  | domainOfSource =>
    exact ⟨_, .of_related (fun scope => scope.store.domainOf? .source)
      (fun _ h => congrFun h.domainOf?_eq.symm .source)
      (by simp [isDirect, isSorted, hcategory, Category.target?, Category.subject?])
      fun scope => by simp only [targets, hcategory]⟩
  | connectionOfClass =>
    exact ⟨_, .of_connectionsOf .class_
      (by simp [isDirect, isSorted, hcategory, Category.target?, Category.subject?])
      fun scope => by simp only [targets, hcategory]; rfl⟩
  | connectionOfSource =>
    exact ⟨_, .of_connectionsOf .source
      (by simp [isDirect, isSorted, hcategory, Category.target?, Category.subject?])
      fun scope => by simp only [targets, hcategory]; rfl⟩
  | connectionOfSink =>
    exact ⟨_, .of_connectionsOf .sink
      (by simp [isDirect, isSorted, hcategory, Category.target?, Category.subject?])
      fun scope => by simp only [targets, hcategory]; rfl⟩
  | sinkOfClass =>
    exact ⟨_, .of_members Store.sinks
      (by simp [isDirect, hcategory, Category.target?, Category.subject?])
      (fun _ h => h.sinks_perm) fun scope => by simp only [targets, hcategory]; rfl⟩
  | sourceOfClass =>
    exact ⟨_, .of_members Store.sources
      (by simp [isDirect, hcategory, Category.target?, Category.subject?])
      (fun _ h => h.sources_perm) fun scope => by simp only [targets, hcategory]; rfl⟩

/-! ## Answers -/

theorem rel_refl {α : Type} (x : Option (List α)) : Option.Rel List.Perm x x := by
  cases x with
  | none => exact .none
  | some as => exact .some (.refl as)

theorem rel_bind {α β γ δ : Type} {R : α → β → Prop} {S : γ → δ → Prop} {x : Option α}
    {y : Option β} {f : α → Option γ} {g : β → Option δ} (h : Option.Rel R x y)
    (hf : ∀ {a b}, R a b → Option.Rel S (f a) (g b)) : Option.Rel S (x.bind f) (y.bind g) := by
  cases h with
  | none => exact .none
  | some hab => exact hf hab

theorem answer_of_read {r : Reading}
    (hread : ∀ store, scope.store.Permuted store →
      (q.answer { scope with store }).toOption =
        (q.targets { scope with store }).toOption.bind r.apply) :
    (q.answer scope).toOption = (q.targets scope).toOption.bind r.apply :=
  hread scope.store (.refl scope.store)

section
variable (hstore : scope.store.Permuted store)

include hstore

theorem rel_targets :
    Option.Rel List.Perm (q.targets scope).toOption (q.targets { scope with store }).toOption := by
  obtain ⟨follow, hfollow⟩ := exists_follows scope q
  simp only [hfollow.here, hfollow.targets store hstore]
  cases rearranged_subjects scope q hstore with
  | same h =>
    simp only [h]
    exact rel_refl _
  | behind _ _ hsubjects hsubjects' hothers _ =>
    simp only [hsubjects, hsubjects']
    exact hfollow.rel (hothers.append_left _)

/-- In another order of the declarations the answer has the same values in another order. -/
theorem rel_answer :
    Option.Rel List.Perm (q.answer scope).toOption (q.answer { scope with store }).toOption := by
  cases reads_answer scope q with
  | fixed hfixed =>
    simp only [hfixed store hstore]
    exact rel_refl _
  | targets r hread _ =>
    simp only [answer_of_read hread, hread store hstore]
    exact rel_bind (rel_targets hstore) r.rel_apply

/-- Equal targets give equal answers, whatever the order of the declarations is. -/
theorem answer_eq_of_targets
    (h : (q.targets { scope with store }).toOption = (q.targets scope).toOption) :
    (q.answer { scope with store }).toOption = (q.answer scope).toOption := by
  cases reads_answer scope q with
  | fixed hfixed => exact hfixed store hstore
  | targets r hread _ =>
    simp only [answer_of_read hread, hread store hstore, h]

theorem answer_eq_of_subjects (h : q.subjects { scope with store } = q.subjects scope) :
    (q.answer { scope with store }).toOption = (q.answer scope).toOption := by
  obtain ⟨follow, hfollow⟩ := exists_follows scope q
  apply answer_eq_of_targets hstore
  simp only [hfollow.here, hfollow.targets store hstore, h]

/-- Equal values give the same answer in every order. -/
theorem answer_eq_of_constant
    (h : ∀ values, q.answer scope = .ok values → ∀ v ∈ values, ∀ w ∈ values, v = w) :
    (q.answer { scope with store }).toOption = (q.answer scope).toOption := by
  have hrel := rel_answer (q := q) hstore
  generalize (q.answer { scope with store }).toOption = answer' at hrel ⊢
  cases hanswer : q.answer scope with
  | error e =>
    simp only [hanswer] at hrel
    cases hrel
    rfl
  | ok values =>
    simp only [hanswer] at hrel
    cases hrel with
    | some hperm =>
      have hsame := eq_of_perm_of_same hperm (h values hanswer)
      exact congrArg some hsame.symm

end

/-! ## Steady queries -/

/-- The order of the declarations cannot show in the values of the query. -/
inductive Steady (scope : Scope) (q : Query) : Prop
  /-- The argument does not select all elements. -/
  | named (h : q.selector ≠ .all)
  /-- There is only one order in which the selected names can be listed. -/
  | settled (h : ∀ kind, q.category.subject? = some kind → Settled scope kind)
  /-- The targets are sorted. -/
  | sorted (h : q.isSorted)
  /-- The function cannot tell apart the names that may be listed in another order. -/
  | blind (hdirect : q.isDirect) (hfunction : q.function ∉ distinguishing)
  /-- All values are the same. -/
  | constant (h : ∀ values, q.answer scope = .ok values → ∀ v ∈ values, ∀ w ∈ values, v = w)

theorem Reading.apply_eq_of_blind {r : Reading} {graph : Graph} {kind : ElementKind}
    (h : r.Blind graph kind) (registered : List String) {others others' : List String}
    (hothers : others.Perm others') (hmem : ∀ t ∈ others, graph.isRegistered kind t = false) :
    r.apply (registered ++ others') = r.apply (registered ++ others) := by
  have hmap : others.map r.read = others'.map r.read := by
    refine eq_of_perm_of_same (hothers.map r.read) ?_
    simp only [List.forall_mem_map]
    exact fun t ht u hu => h t u (hmem t ht) (hmem u hu)
  simp only [apply, List.map_append, hmap]

/-- A steady query has the same answer in all orders of the declarations. -/
theorem Steady.answer_eq (h : q.Steady scope) (hstore : scope.store.Permuted store) :
    (q.answer { scope with store }).toOption = (q.answer scope).toOption := by
  cases rearranged_subjects scope q hstore with
  | same hsame => exact answer_eq_of_subjects hstore hsame
  | @behind kind registered others others' hall hkind hsubjects hsubjects' hothers hmem =>
    cases h with
    | named hnamed => exact absurd hall hnamed
    | settled hsettled =>
      have hsame : others = others' := eq_of_perm_of_same hothers fun t ht u hu =>
        hsettled kind hkind t (hmem t ht).1 u (hmem u hu).1 (hmem t ht).2 (hmem u hu).2
      apply answer_eq_of_subjects hstore
      simp only [hsubjects, hsubjects', hsame]
    | sorted hsorted =>
      obtain ⟨follow, hfollow⟩ := exists_follows scope q
      apply answer_eq_of_targets hstore
      simp only [hfollow.here, hfollow.targets store hstore, hsubjects, hsubjects']
      exact (hfollow.sorted hsorted (hothers.append_left _)).symm
    | blind hdirect hfunction =>
      cases reads_answer scope q with
      | fixed hfixed => exact hfixed store hstore
      | targets r hread hblind =>
        have hreading := hblind.resolve_left hfunction kind (hdirect.trans hkind)
        obtain ⟨follow, hfollow⟩ := exists_follows scope q
        simp only [answer_of_read hread, hread store hstore, hfollow.here,
          hfollow.targets store hstore, hsubjects, hsubjects', hfollow.direct hdirect]
        exact Reading.apply_eq_of_blind hreading registered hothers fun t ht => (hmem t ht).2
    | constant hconstant => exact answer_eq_of_constant hstore hconstant

end AudioPolicy.Query

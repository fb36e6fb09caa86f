-- SUMMARY: The functions that select elements describe one list of targets without repetition.
import AudioPolicy.Proofs.ConnectionQueries
import AudioPolicy.Proofs.Grammar
import AudioPolicy.Proofs.Store

/-! # Lists of targets

Four functions tell which elements a query selects: what they are called, how many there are,
whether each is registered, and which ones are. All four go by the same list of targets. It
does not depend on the function, it has no repetition on any of the ways from subjects to
targets, and if it cannot be found, all four functions fail for the same reason. -/

namespace AudioPolicy.Query

variable {scope : Scope} {q : Query} {kind : ElementKind}

/-- The query with another function. -/
def asking (q : Query) (f : Function) : Query := { q with function := f }

/-! ## Targets -/

/-- The targets do not depend on the function, and their names are the targets themselves. -/
theorem targets_of_target (hkind : q.category.target? = some kind) :
    (∀ f, (q.asking f).targets scope = q.targets scope) ∧ q.name scope = q.targets scope := by
  obtain ⟨function, category, selector, optional⟩ := q
  cases category with
  | user | system => cases hkind
  | _ => exact ⟨fun _ => rfl, rfl⟩

theorem selection_of_target (hkind : q.category.target? = some kind) :
    q.selection scope = (q.targets scope).map fun targets => (kind, targets) := by
  simp only [selection, hkind]

/-- Two subjects may have one counterpart, which is then a target once. -/
theorem nodup_related {subjects targets : List String} {counterpart : String → Option String}
    (h : q.related subjects counterpart = .ok targets) : targets.Nodup := by
  simp only [related] at h
  split at h
  · cases h
  · rw [← Except.ok.inj h]
    exact nodup_eraseDups _

/-- Members of classes are distinct because declared names are. -/
theorem nodup_members {declared : List Endpoint} (h : (declared.map (·.name)).Nodup)
    (classes : List String) : (members declared classes).Nodup := by
  refine (List.mergeSort_perm _ _).nodup_iff.2 ?_
  exact h.sublist (List.filter_sublist.map _)

theorem nodup_connectionsOf (filter : String → Connection.Filter) (subjects : List String) :
    (connectionsOf scope q filter subjects).Nodup :=
  nodup_eraseDups _

theorem nodup_targets {targets : List String} (h : q.targets scope = .ok targets) :
    targets.Nodup := by
  unfold Query.targets at h
  obtain ⟨subjects, hsubjects, h⟩ := Expression.bind_eq_ok_iff.1 h
  cases hcategory : q.category with
  | sink | source | class_ | domain | connection =>
    simp only [hcategory] at h
    exact Except.ok.inj h ▸ nodup_subjects hsubjects
  | classOfSink | classOfSource | domainOfSink | domainOfSource =>
    simp only [hcategory] at h
    exact nodup_related h
  | sinkOfClass =>
    simp only [hcategory] at h
    exact Except.ok.inj h ▸ nodup_members (scope.store.nodup_names .sink) subjects
  | sourceOfClass =>
    simp only [hcategory] at h
    exact Except.ok.inj h ▸ nodup_members (scope.store.nodup_names .source) subjects
  | connectionOfClass | connectionOfSource | connectionOfSink =>
    simp only [hcategory] at h
    exact Except.ok.inj h ▸ nodup_connectionsOf _ subjects
  | user | system =>
    simp only [hcategory] at h
    cases h

/-! ## Four functions -/

/-- The texts that have a one in the other list at the same place. -/
def marked (names flags : List String) : List String :=
  ((names.zip flags).filter fun entry => entry.2 == "1").map Prod.fst

theorem marked_map_flag (names : List String) (holds : String → Bool) :
    marked names (names.map fun name => Numeral.flag (holds name)) = names.filter holds := by
  have hflag (b : Bool) : (Numeral.flag b == "1") = b := by cases b <;> rfl
  induction names with
  | nil => rfl
  | cons name names ih =>
    unfold marked at ih ⊢
    rw [List.map_cons, List.zip_cons_cons, List.filter_cons, List.filter_cons, hflag]
    cases holds name with
    | false => exact ih
    | true => exact congrArg (name :: ·) ih

/-- What the four functions answer about a list of targets, or why there is none. -/
theorem answer_asking (scope : Scope) (hkind : q.category.target? = some kind) :
    (q.asking .name).answer scope = q.targets scope ∧
      (q.asking .count).answer scope =
        (q.targets scope).map (fun names => [toString names.length]) ∧
      (q.asking .isRegistered).answer scope =
        (q.targets scope).map
          (fun names => names.map fun name => Numeral.flag (scope.graph.isRegistered kind name)) ∧
      (q.asking .elements).answer scope =
        (q.targets scope).map (fun names => names.filter (scope.graph.isRegistered kind)) := by
  obtain ⟨htargets, -⟩ := targets_of_target hkind
  have hname : (q.asking .name).name scope = (q.asking .name).targets scope :=
    (targets_of_target (q := q.asking .name) hkind).2
  have hselection (f : Function) : (q.asking f).selection scope =
      (q.targets scope).map fun targets => (kind, targets) := by
    rw [selection_of_target (q := q.asking f) hkind, htargets]
  refine ⟨hname.trans (htargets .name), ?_, ?_, ?_⟩
  · change (q.asking .count).count scope = _
    rw [count, hselection]
    cases q.targets scope <;> rfl
  · change (q.asking .isRegistered).isRegistered scope = _
    rw [isRegistered, hselection]
    cases q.targets scope <;> rfl
  · change (q.asking .elements).elements scope = _
    rw [elements, hselection]
    cases q.targets scope <;> rfl

/-- For a category with targets the four functions all fail for one reason, or they describe
    one list of names. No name is in it twice, and the functions tell its length, whether each
    name is registered, and at which places one is. -/
theorem selections_describe_targets (scope : Scope) {q : Query} {kind : ElementKind}
    (hkind : q.category.target? = some kind) :
    (∃ f, (q.asking .name).answer scope = .error f ∧
        (q.asking .count).answer scope = .error f ∧
        (q.asking .isRegistered).answer scope = .error f ∧
        (q.asking .elements).answer scope = .error f) ∨
      ∃ names flags : List String,
        names.Nodup ∧
        flags = names.map (fun name => if name ∈ scope.graph.names kind then "1" else "0") ∧
        (q.asking .name).answer scope = .ok names ∧
        (q.asking .count).answer scope = .ok [toString names.length] ∧
        (q.asking .isRegistered).answer scope = .ok flags ∧
        (q.asking .elements).answer scope = .ok (marked names flags) := by
  obtain ⟨hname, hcount, hregistered, helements⟩ := answer_asking scope hkind
  cases htargets : q.targets scope with
  | error f =>
    simp only [htargets, Except.map] at hname hcount hregistered helements
    exact .inl ⟨f, hname, hcount, hregistered, helements⟩
  | ok names =>
    simp only [htargets, Except.map] at hname hcount hregistered helements
    rw [← marked_map_flag] at helements
    refine .inr ⟨names, _, nodup_targets htargets, ?_, hname, hcount, hregistered, helements⟩
    simp only [Graph.isRegistered, Numeral.flag, List.contains_iff_mem]

/-- Three sinks are in two classes, of which one is registered. -/
theorem selections_describe_targets_of_shared_class :
    let scope : Scope :=
      { store := .loaded
          { sinks := [{ name := "Speaker", class_ := "Music" },
                      { name := "Headset", class_ := "Voice" },
                      { name := "Phone", class_ := "Music" }] } rfl
        graph := { classes := ["Voice"] }
        trigger := .systemRegisterSink "Speaker" }
    let q : Query := { function := .name, category := .classOfSink, selector := .all }
    q.category.target? = some .class_ ∧
      (q.asking .elements).answer scope = .ok ["Voice"] ∧
      ((∃ f, (q.asking .name).answer scope = .error f ∧
          (q.asking .count).answer scope = .error f ∧
          (q.asking .isRegistered).answer scope = .error f ∧
          (q.asking .elements).answer scope = .error f) ∨
        ∃ names flags : List String,
          names.Nodup ∧
          flags = names.map (fun name => if name ∈ scope.graph.names .class_ then "1" else "0") ∧
          (q.asking .name).answer scope = .ok names ∧
          (q.asking .count).answer scope = .ok [toString names.length] ∧
          (q.asking .isRegistered).answer scope = .ok flags ∧
          (q.asking .elements).answer scope = .ok (marked names flags)) := by
  intro scope q
  exact ⟨rfl, by decide, selections_describe_targets scope rfl⟩

end AudioPolicy.Query

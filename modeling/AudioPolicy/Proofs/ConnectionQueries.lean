-- SUMMARY: A query about connections reads each of them once, in the order asked for.
import AudioPolicy.Proofs.Listings
import AudioPolicy.Proofs.Naming
import AudioPolicy.Proofs.Reordering
import AudioPolicy.Query.Answer

/-! # Queries about connections

Some categories lead from sinks, sources or classes to their connections. The targets of such a
query are names, and a function looks each name up again. Since the names of connections are
distinct, nothing gets lost or doubled on this detour: the function reads exactly the connections
of each subject, one subject after the other. -/

namespace AudioPolicy

/-- Lists of actions, applied one after the other, keep names distinct. -/
theorem Graph.nodup_names_applyLists {g : Graph} {kind : ElementKind} (h : (g.names kind).Nodup)
    (lists : List (List Action)) : ((lists.foldl applyAll g).names kind).Nodup := by
  induction lists generalizing g with
  | nil => exact h
  | cons actions lists ih => exact ih (nodup_names_applyAll h actions)

/-! ## What is asked for -/

/-- The category leads from elements of a kind to the connections that have them as this part. -/
inductive Category.LeadsBy : Category → (Connection → String) → Prop
  | sink : LeadsBy .connectionOfSink (·.sink)
  | source : LeadsBy .connectionOfSource (·.source)
  | class_ : LeadsBy .connectionOfClass (·.class_)

/-- The function reads this field of a connection. -/
inductive Function.ReadsField : Function → (Connection → String) → Prop
  | state : ReadsField .connectionState fun c => codeText c.state
  | priority : ReadsField .priority fun c => Numeral.text32 c.priority
  | format : ReadsField .connectionFormat fun c => Numeral.text16 c.format

namespace Query

variable {scope : Scope} {q : Query}

/-- The tokens that ask for an order. -/
def orderTokens : List String :=
  ["O_UNORDERED", "O_HIGH_PRIORITY", "O_LOW_PRIORITY", "O_NEWEST", "O_OLDEST"]

/-- The first token among the optional arguments of a query. Without one it is as if no order
    was asked for. -/
def orderToken (q : Query) : String :=
  (q.optional.find? fun text => text ∈ orderTokens).getD "O_UNORDERED"

/-- A text spells an order just in case it is one of the tokens. -/
theorem mem_orderTokens_iff (text : String) :
    text ∈ orderTokens ↔ ∃ order : Connection.Order, Spelled.word order = text := by
  constructor
  · simp only [orderTokens, List.mem_cons, List.not_mem_nil, or_false]
    rintro (rfl | rfl | rfl | rfl | rfl)
    exacts [⟨.unordered, rfl⟩, ⟨.highPriority, rfl⟩, ⟨.lowPriority, rfl⟩, ⟨.newest, rfl⟩,
      ⟨.oldest, rfl⟩]
  · rintro ⟨order, rfl⟩
    cases order <;> decide

theorem word_order (q : Query) : Spelled.word q.order = q.orderToken := by
  unfold order orderToken
  induction q.optional with
  | nil => rfl
  | cons text texts ih =>
    rw [List.findSome?_cons, List.find?_cons]
    cases hword : Spelled.ofWord? (α := Connection.Order) text with
    | some order =>
      have htext : Spelled.word order = text := by simpa using List.find?_some hword
      have htoken : text ∈ orderTokens := (mem_orderTokens_iff text).2 ⟨order, htext⟩
      rw [decide_eq_true htoken]
      exact htext
    | none =>
      have hother : text ∉ orderTokens := by
        rw [mem_orderTokens_iff]
        rintro ⟨order, htext⟩
        have hunspelled := List.find?_eq_none.1 hword order (by cases order <;> decide)
        exact hunspelled (beq_iff_eq.2 htext)
      rw [decide_eq_false hother]
      exact ih

/-- No element is selected twice. -/
theorem nodup_subjects {subjects : List String} (h : q.subjects scope = .ok subjects) :
    subjects.Nodup := by
  unfold Query.subjects at h
  cases hkind : q.category.subject? with
  | none => simp [hkind] at h
  | some kind =>
    simp only [hkind] at h
    cases hselector : q.selector with
    | requesting =>
      simp only [hselector] at h
      cases hname : scope.trigger.name? kind with
      | none => simp [hname] at h
      | some name =>
        simp only [hname, Except.ok.injEq] at h
        exact h ▸ List.nodup_singleton name
    | all =>
      simp only [hselector, Except.ok.injEq] at h
      exact h ▸ nodup_eraseDups _
    | name name =>
      simp only [hselector, Except.ok.injEq] at h
      exact h ▸ List.nodup_singleton name

/-! ## From subjects to connections -/

theorem exists_targets_eq (scope : Scope) {part : Connection → String}
    (h : q.category.LeadsBy part) :
    ∃ filter : String → Connection.Filter,
      (∀ s c, (filter s).selects c = true ↔ part c = s) ∧
      q.targets scope =
        q.subjects scope >>= fun subjects => .ok (connectionsOf scope q filter subjects) := by
  obtain ⟨function, category, selector, optional⟩ := q
  cases h with
  | sink => exact ⟨.sink, fun s c => beq_iff_eq, rfl⟩
  | source => exact ⟨.source, fun s c => beq_iff_eq, rfl⟩
  | class_ => exact ⟨.class_, fun s c => beq_iff_eq, rfl⟩

theorem exists_answer_eq (scope : Scope) {part field : Connection → String}
    (hcategory : q.category.LeadsBy part) (hfunction : q.function.ReadsField field) :
    ∃ what, q.answer scope =
      q.targets scope >>= readEach what fun t => (scope.graph.connection? t).map field := by
  obtain ⟨function, category, selector, optional⟩ := q
  cases hfunction with
  | state => exact ⟨"connection state", by cases hcategory <;> rfl⟩
  | format => exact ⟨"connection format", by cases hcategory <;> rfl⟩
  | priority =>
    let q : Query := ⟨.priority, category, selector, optional⟩
    have hselection : q.selection scope =
        (q.targets scope).map fun targets => (.connection, targets) := by
      cases hcategory <;> rfl
    refine ⟨"priority", ?_⟩
    change q.priority scope = q.targets scope >>= _
    rw [priority, hselection]
    cases q.targets scope with
    | error e => rfl
    | ok targets => simp [Except.map, bind, Except.bind, priorityOf?, Function.comp_def]

/-- What is looked up by the names of connections of the graph is read from themselves. -/
theorem readEach_map_name {field : Connection → String} {g : Graph}
    (h : (g.connections.map (·.name)).Nodup) (what : String) {cs : List Connection}
    (hcs : ∀ c ∈ cs, c ∈ g.connections) :
    readEach what (fun t => (g.connection? t).map field) (cs.map (·.name)) =
      .ok (cs.map field) := by
  have hread : (cs.map (·.name)).filterMap (fun t => (g.connection? t).map field) =
      cs.map field := by
    rw [List.filterMap_map, ← List.filterMap_eq_map]
    refine List.filterMap_congr fun c hc => ?_
    have hfound : g.connection? c.name = some c :=
      (find?_name_eq_some_iff h).2 ⟨hcs c hc, rfl⟩
    simp only [Function.comp_apply, hfound, Option.map_some]
  simp only [readEach, hread, List.isEmpty_map, Bool.and_not_self, Bool.false_eq_true, if_false]

/-- The listings of different subjects have no connection in common. -/
theorem nodup_flatMap_listing {g : Graph} {token : String} {part : Connection → String}
    {listing : String → List Connection} {subjects : List String} (h : subjects.Nodup)
    (hlisting : ∀ s, g.Listing token (fun c => part c = s) (listing s)) :
    (subjects.flatMap listing).Nodup := by
  refine List.nodup_flatMap.2 ⟨fun s _ => (hlisting s).once, h.imp fun {s s'} hne => ?_⟩
  intro c hc hc'
  exact hne ((((hlisting s).mem_iff c).1 hc).2.symm.trans (((hlisting s').mem_iff c).1 hc').2)

/-- A query from sinks, sources or classes to their connections reads the connections of each
    subject, one subject after the other, each connection once and in the order asked for. With no
    connections its answer is empty. This holds of any graph that actions lead to from one with
    distinct names. -/
theorem answer_eq_flatMap_listing {start : Graph}
    (hnames : (start.connections.map (·.name)).Nodup) (lists : List (List Action))
    (hgraph : scope.graph = lists.foldl Graph.applyAll start)
    {part field : Connection → String} (hcategory : q.category.LeadsBy part)
    (hfunction : q.function.ReadsField field) {subjects : List String}
    (hsubjects : q.subjects scope = .ok subjects) :
    subjects.Nodup ∧ ∃ listing : String → List Connection,
      (∀ s, scope.graph.Listing q.orderToken (fun c => part c = s) (listing s)) ∧
      (subjects.flatMap listing).Nodup ∧
      q.answer scope = .ok ((subjects.flatMap listing).map field) := by
  have hstart : (start.names .connection).Nodup := hnames
  have hdistinct : (scope.graph.connections.map (·.name)).Nodup :=
    hgraph ▸ Graph.nodup_names_applyLists hstart lists
  obtain ⟨filter, hfilter, htargets⟩ := exists_targets_eq scope hcategory
  obtain ⟨what, hanswer⟩ := exists_answer_eq scope hcategory hfunction
  let listing (s : String) : List Connection := scope.graph.connectionsBy (filter s) q.order
  have hlisting (s : String) :
      scope.graph.Listing q.orderToken (fun c => part c = s) (listing s) :=
    word_order q ▸ (Graph.listing_connectionsBy hdistinct (filter s) q.order).congr (hfilter s)
  have honce := nodup_flatMap_listing (nodup_subjects hsubjects) hlisting
  have hmem : ∀ c ∈ subjects.flatMap listing, c ∈ scope.graph.connections := by
    intro c hc
    obtain ⟨s, -, hc⟩ := List.mem_flatMap.1 hc
    exact (((hlisting s).mem_iff c).1 hc).1
  -- The names are as distinct as the connections, so no duplicate is there to be erased.
  have hnodup : ((subjects.flatMap listing).map (·.name)).Nodup :=
    honce.map_on fun c hc c' hc' =>
      List.inj_on_of_nodup_map hdistinct (hmem c hc) (hmem c' hc')
  have hconnections : connectionsOf scope q filter subjects =
      (subjects.flatMap listing).map (·.name) := by
    rw [connectionsOf, ← List.map_flatMap]
    exact eraseDups_eq_self hnodup
  refine ⟨nodup_subjects hsubjects, listing, hlisting, honce, ?_⟩
  rw [hanswer, htargets, hsubjects]
  exact (congrArg _ hconnections).trans (readEach_map_name hdistinct what hmem)

/-- Three connections lead to the first of two sinks, two of them with the same priority, and none
    leads to the second. The youngest of them was made by an action. -/
theorem answer_eq_flatMap_listing_of_tied_priorities :
    let start : Graph :=
      { sinks := [{ name := "Amp" }, { name := "Headset" }]
        connections :=
          [{ name := "Phone:Amp", source := "Phone", sink := "Amp", format := 2 },
           { name := "Tuner:Amp", source := "Tuner", sink := "Amp", priority := 5, format := 1 }] }
    let lists : List (List Action) :=
      [[.ofPairs .connect [(Action.Key.sourceName, "Player"), (Action.Key.sinkName, "Amp")]]]
    let scope : Scope :=
      { store := .unavailable "unread", graph := lists.foldl Graph.applyAll start,
        trigger := .systemDomainRegistrationComplete "Cabin" }
    let q : Query :=
      { function := .connectionFormat, category := .connectionOfSink, selector := .all,
        optional := ["O_LOW_PRIORITY"] }
    (start.connections.map (·.name)).Nodup ∧
      q.subjects scope = .ok ["Amp", "Headset"] ∧ q.orderToken = "O_LOW_PRIORITY" ∧
      ["Amp", "Headset"].Nodup ∧ ∃ listing : String → List Connection,
        (∀ s, scope.graph.Listing q.orderToken (fun c => c.sink = s) (listing s)) ∧
        (["Amp", "Headset"].flatMap listing).Nodup ∧
        q.answer scope =
          .ok ((["Amp", "Headset"].flatMap listing).map fun c => Numeral.text16 c.format) := by
  intro start lists scope q
  have hnames : (start.connections.map (·.name)).Nodup := by decide
  have hsubjects : q.subjects scope = .ok ["Amp", "Headset"] := by decide
  exact ⟨hnames, hsubjects, rfl,
    answer_eq_flatMap_listing hnames lists rfl .sink .format hsubjects⟩

end Query
end AudioPolicy

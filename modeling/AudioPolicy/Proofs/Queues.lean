-- SUMMARY: A peek at an index finds the connection there in the queue that the name call lists.
import AudioPolicy.Proofs.Classes
import AudioPolicy.Proofs.Numerals
import AudioPolicy.Proofs.TargetLists
import AudioPolicy.Proofs.WholeWords

/-! # Priority queues

The connections of a sink, source or class stand in a queue, those with the lowest priority value
first and the older one of two with the same value first. One call lists the whole queue and
another one peeks at a place of it. They choose and sort the connections apart from each other, but
it is the same queue. An index is a number that a call can carry, so it fits 64 bits, and it must
not be negative. -/

namespace AudioPolicy

/-- The queue of an element that the first category selects is made of the connections that the
    second category leads to, those that have the element as this part. -/
inductive Category.QueuesBy : Category → Category → (Connection → String) → Prop
  | sink : QueuesBy .sink .connectionOfSink (·.sink)
  | source : QueuesBy .source .connectionOfSource (·.source)
  | class_ : QueuesBy .class_ .connectionOfClass (·.class_)

/-! ## Bare arguments -/

namespace Placeholder

theorem mem_of_mentioned {text : String} (h : mentioned text = true) : 'R' ∈ text.toList :=
  (occurs_iff.1 h).subset (List.mem_cons_self : 'R' ∈ "REQ_".toList)

theorem substitute_of_not_mentioned {text : String} (h : mentioned text = false) (t : Trigger) :
    substitute t text = text := by
  rw [substitute, h, if_neg Bool.false_ne_true]

end Placeholder

theorem Call.mem_of_isWrittenAs {text : String} (h : isWrittenAs text = true) :
    '(' ∈ text.toList := by
  obtain ⟨word, blanks, inside, -, -, -, hrest⟩ := Expression.atCall_iff.1 h
  have hopen : '(' ∈ (Expression.Cursor.start text).skipBlanks.rest := by simp [hrest]
  rw [Expression.skipBlanks_rest] at hopen
  exact (List.dropWhile_sublist _).mem hopen

namespace Numeral

/-- A written integer is made of digits and perhaps a minus. -/
theorem isDigit_or_minus {n : Int} {c : Char} (h : c ∈ (toString n).toList) :
    c.isDigit = true ∨ c = '-' := by
  rw [toList_toString] at h
  split at h
  · exact .inl (isDigit_of_mem_toDigits h)
  · exact (List.mem_cons.1 h).elim .inr fun h => .inl (isDigit_of_mem_toDigits h)

theorem fits64_iff_of_nonneg {n : Int} (h : 0 ≤ n) :
    fits64 n = true ↔ n ≤ 9223372036854775807 := by
  simp only [fits64, Bool.and_eq_true, decide_eq_true_eq]
  omega

end Numeral

namespace Evaluation

/-- A bare text that mentions no placeholder and has no parenthesis stands for itself. -/
theorem outcome_resolve_of_bare {inner : Call → Evaluation (List String)} {text : String}
    (hopen : '(' ∉ text.toList) (hmentioned : Placeholder.mentioned text = false) (t : Trigger) :
    outcome (resolve inner t ⟨text, false⟩) = .ok text := by
  have hcall : Call.isWrittenAs text = false :=
    Bool.eq_false_iff.2 fun h => hopen (Call.mem_of_isWrittenAs h)
  have hplain : outcome (resolve inner t ⟨text, false⟩) = .ok (Placeholder.substitute t text) :=
    outcome_resolve_of_plain rfl hcall
  rw [hplain, Placeholder.substitute_of_not_mentioned hmentioned]

theorem outcome_resolve_toString {inner : Call → Evaluation (List String)} (n : Int)
    (t : Trigger) : outcome (resolve inner t ⟨toString n, false⟩) = .ok (toString n) := by
  have hopen : '(' ∉ (toString n).toList := fun h => by
    rcases Numeral.isDigit_or_minus h with h | h <;> exact absurd h (by decide)
  have hbegin : 'R' ∉ (toString n).toList := fun h => by
    rcases Numeral.isDigit_or_minus h with h | h <;> exact absurd h (by decide)
  exact outcome_resolve_of_bare hopen
    (Bool.eq_false_iff.2 fun h => hbegin (Placeholder.mem_of_mentioned h)) t

/-- The call of a function for one name in quotes, with one bare argument behind it. -/
def callWith (function : Function) (category : Category) (name text : String) : Call :=
  { function := Spelled.word function
    category := Spelled.word category
    mandatory := ⟨name, true⟩
    optional := [⟨text, false⟩] }

theorem outcome_callWith {scope : Scope} {text : String} (function : Function)
    (category : Category) (name : String)
    (h : outcome (resolve (valuesWithin scope Failure.maxDepth) scope.trigger ⟨text, false⟩) =
      .ok text) :
    outcome (values scope (callWith function category name text)) =
      Query.answer scope { function, category, selector := .name name, optional := [text] } := by
  have hmandatory : mandatoryText scope (callWith function category name text) = .ok name :=
    outcome_resolve_of_quoted rfl
  rw [outcome_values_of_words function category rfl rfl hmandatory]
  simp only [callWith, List.mapM_cons, h]
  rfl

end Evaluation

/-! ## Indices -/

namespace Symbol

/-- A written number is no symbol. -/
theorem code?_toString (n : Int) : code? (toString n) = none := by
  have hletter : ∀ entry ∈ table,
      entry.1.toList.all (fun c => c.isDigit || c == '-') = false := by
    decide +kernel
  rw [code?, List.lookup_eq_none_iff]
  intro entry hentry
  have hne : toString n ≠ entry.1 := by
    intro heq
    have hall : (toString n).toList.all (fun c => c.isDigit || c == '-') = true := by
      simpa using fun c => Numeral.isDigit_or_minus
    rw [heq, hletter entry hentry] at hall
    cases hall
  simpa using hne

/-- A number that does not fit 64 bits is not read. -/
theorem number?_toString_eq_none {n : Int} (h : Numeral.fits64 n = false) :
    number? (toString n) = none := by
  have htrim : Text.trim (toString n) = toString n :=
    Text.trim_eq_self (Numeral.isDecimal_toString n).unblank
  have hread : Numeral.int64? (toString n) = none := by
    simp only [Numeral.int64?, Numeral.integer?_toString, Option.filter, h, Bool.false_eq_true,
      if_false]
  simp only [number?, htrim, hread, code?_toString]

end Symbol

namespace Query

variable {scope : Scope} {q : Query} {n : Int}

theorem optional?_toString (h : q.optional = [toString n]) : q.optional? 0 = some (toString n) := by
  have hne : toString n ≠ "" := by
    intro hempty
    have hread := Numeral.integer?_toString n
    rw [hempty] at hread
    cases hread
  simp only [optional?, h, List.getElem?_cons_zero, Option.filter, bne_iff_ne.2 hne, if_true]

theorem number?_of_fits (h : q.optional = [toString n]) (hfits : Numeral.fits64 n = true) :
    q.number? = .ok (some n) := by
  simp only [number?, optional?_toString h, Symbol.number?_toString hfits]

theorem number?_of_not_fits (h : q.optional = [toString n]) (hfits : Numeral.fits64 n = false) :
    q.number? = .error (.notNumeric (toString n)) := by
  simp only [number?, optional?_toString h, Symbol.number?_toString_eq_none hfits]

/-! ## Two ways to the queue -/

/-- Both ways choose connections with one filter. On the first way it is applied to the target,
    on the second way it leads from the subject to the targets. -/
theorem exists_filter {category related : Category} {part : Connection → String}
    (h : category.QueuesBy related part) (scope : Scope) (name : String) :
    ∃ filter : String → Connection.Filter,
      (∀ s c, (filter s).selects c = true ↔ part c = s) ∧
      queue? category = some filter ∧
      (∀ function optional,
        targets scope { function, category, selector := .name name, optional } = .ok [name]) ∧
      ∀ function optional,
        let q : Query := { function, category := related, selector := .name name, optional }
        q.targets scope = .ok (connectionsOf scope q filter [name]) := by
  cases h with
  | sink =>
    exact ⟨.sink, fun s c => beq_iff_eq, rfl, fun function optional => rfl,
      fun function optional => rfl⟩
  | source =>
    exact ⟨.source, fun s c => beq_iff_eq, rfl, fun function optional => rfl,
      fun function optional => rfl⟩
  | class_ =>
    exact ⟨.class_, fun s c => beq_iff_eq, rfl, fun function optional => rfl,
      fun function optional => rfl⟩

/-- Under distinct names nothing is erased from the connections of one subject. -/
theorem connectionsOf_singleton (hnames : (scope.graph.connections.map (·.name)).Nodup)
    (filter : String → Connection.Filter) (name : String) :
    connectionsOf scope q filter [name] =
      (scope.graph.connectionsBy (filter name) q.order).map (·.name) := by
  have hlisting := Graph.listing_connectionsBy hnames (filter name) q.order
  have hnodup : ((scope.graph.connectionsBy (filter name) q.order).map (·.name)).Nodup :=
    hlisting.once.map_on fun c hc c' hc' =>
      List.inj_on_of_nodup_map hnames ((hlisting.mem_iff c).1 hc).1 ((hlisting.mem_iff c').1 hc').1
  rw [connectionsOf, List.flatMap_singleton, eraseDups_eq_self hnodup]

section
variable {filter : String → Connection.Filter} {name : String}

theorem peek_of_not_number (hqueue : queue? q.category = some filter) {f : Failure}
    (hnumber : q.number? = .error f) : q.peek scope = .error f := by
  simp only [peek, hqueue, hnumber]
  rfl

theorem peek_of_negative (hqueue : queue? q.category = some filter)
    (hnumber : q.number? = .ok (some n)) (hnegative : n < 0) :
    q.peek scope = .error (.negativeIndex n) := by
  simp only [peek, hqueue, hnumber]
  exact if_pos hnegative

theorem peek_of_index (hqueue : queue? q.category = some filter)
    (htargets : q.targets scope = .ok [name]) (hnumber : q.number? = .ok (some n))
    (hindex : 0 ≤ n) :
    q.peek scope =
      .ok ((scope.graph.connectionsBy (filter name) .highPriority).map
        (·.name))[n.toNat]?.toList := by
  have hnot : ¬ (some n).getD 0 < 0 := Int.not_lt.2 hindex
  simp only [peek, hqueue, hnumber, htargets]
  refine (if_neg hnot).trans ?_
  rw [List.getElem?_map]
  change Except.ok (List.filterMap (fun t =>
    (scope.graph.connectionsBy (filter t) .highPriority)[n.toNat]?.map (·.name)) [name]) = _
  cases hplace : (scope.graph.connectionsBy (filter name) .highPriority)[n.toNat]? <;>
    simp [hplace]

end
end Query

/-! ## Walking the queue -/

/-- The query for a place in the queue of an element. -/
def Query.peekAt (category : Category) (name : String) (index : Int) : Query :=
  { function := .peek, category, selector := .name name, optional := [toString index] }

/-- The places of a list, one after the other, hold what the list begins with. -/
theorem flatMap_range_getElem? {α : Type} (as : List α) (n : Nat) :
    ((List.range n).flatMap fun i => as[i]?.toList) = as.take n := by
  induction n with
  | zero => rfl
  | succ n ih =>
    rw [List.range_succ, List.flatMap_append, ih, List.flatMap_singleton, List.take_add_one]

namespace Evaluation

/-- The call that lists the queue of an element, by the category of its connections. -/
def queueCall (related : Category) (name : String) : Call :=
  callWith .name related name "O_HIGH_PRIORITY"

/-- The call that peeks at a place in the queue of an element. -/
def peekCall (category : Category) (name : String) (index : Int) : Call :=
  callWith .peek category name (toString index)

theorem outcome_queueCall (scope : Scope) (related : Category) (name : String) :
    outcome (values scope (queueCall related name)) = Query.answer scope
      { function := .name, category := related, selector := .name name,
        optional := ["O_HIGH_PRIORITY"] } :=
  outcome_callWith .name related name
    (outcome_resolve_of_bare (by decide) (by decide) scope.trigger)

theorem outcome_peekCall (scope : Scope) (category : Category) (name : String) (index : Int) :
    outcome (values scope (peekCall category name index)) =
      (Query.peekAt category name index).peek scope :=
  outcome_callWith .peek category name (outcome_resolve_toString index scope.trigger)

section
variable {scope : Scope} {category related : Category} {part : Connection → String}

/-- The queue of an element as a whole, and a place of it, as the calls find them. -/
theorem exists_queue (hnames : (scope.graph.connections.map (·.name)).Nodup)
    (h : category.QueuesBy related part) (name : String) :
    ∃ queue : List Connection,
      scope.graph.Listing "O_HIGH_PRIORITY" (fun c => part c = name) queue ∧
      outcome (values scope (queueCall related name)) = .ok (queue.map (·.name)) ∧
      ∀ index : Int, 0 ≤ index → index ≤ 9223372036854775807 →
        outcome (values scope (peekCall category name index)) =
          .ok (queue.map (·.name))[index.toNat]?.toList := by
  obtain ⟨filter, hfilter, hqueue, htargets, hrelated⟩ := Query.exists_filter h scope name
  refine ⟨scope.graph.connectionsBy (filter name) .highPriority, ?_, ?_, ?_⟩
  · exact (Graph.listing_connectionsBy hnames (filter name) .highPriority).congr (hfilter name)
  · have htarget : related.target? = some .connection := by cases h <;> rfl
    rw [outcome_queueCall]
    refine (Query.targets_of_target htarget).2.trans ((hrelated .name ["O_HIGH_PRIORITY"]).trans ?_)
    exact congrArg _ (Query.connectionsOf_singleton hnames filter name)
  · intro index hindex hbound
    let q : Query := .peekAt category name index
    have hfits : Numeral.fits64 index = true := (Numeral.fits64_iff_of_nonneg hindex).2 hbound
    have hnumber : q.number? = .ok (some index) := Query.number?_of_fits rfl hfits
    rw [outcome_peekCall]
    exact Query.peek_of_index hqueue (htargets .peek _) hnumber hindex

theorem peekCall_mismatches (h : category.QueuesBy related part) (name : String) {index : Int}
    (hindex : index < 0 ∨ 9223372036854775807 < index) :
    ∃ f, outcome (values scope (peekCall category name index)) = .error f ∧
      f.reason = .typeMismatch := by
  obtain ⟨filter, -, hqueue, -, -⟩ := Query.exists_filter h scope name
  let q : Query := .peekAt category name index
  rw [outcome_peekCall]
  cases hfits : Numeral.fits64 index with
  | false =>
    have hnumber : q.number? = .error (.notNumeric (toString index)) :=
      Query.number?_of_not_fits rfl hfits
    exact ⟨.notNumeric (toString index), Query.peek_of_not_number hqueue hnumber, rfl⟩
  | true =>
    have hnegative : index < 0 := hindex.resolve_right fun hbound =>
      absurd ((Numeral.fits64_iff_of_nonneg (by omega)).1 hfits) (Int.not_le.2 hbound)
    have hnumber : q.number? = .ok (some index) := Query.number?_of_fits rfl hfits
    exact ⟨.negativeIndex index, Query.peek_of_negative hqueue hnumber hnegative, rfl⟩

/-- Peeks at the indices from zero on list the queue of an element from its start: by priority
    values, the older one of two equals first, each connection once, and nothing behind the end.
    A negative index is a mismatch, and so is one that does not fit 64 bits. -/
theorem peek_walks_queue (hnames : (scope.graph.connections.map (·.name)).Nodup)
    (h : category.QueuesBy related part) (name : String) :
    ∃ queue : List Connection,
      scope.graph.Listing "O_HIGH_PRIORITY" (fun c => part c = name) queue ∧
      outcome (values scope (queueCall related name)) = .ok (queue.map (·.name)) ∧
      (∀ index : Int, 0 ≤ index → index ≤ 9223372036854775807 →
        outcome (values scope (peekCall category name index)) =
          .ok (queue.map (·.name))[index.toNat]?.toList) ∧
      (∀ n : Nat, n ≤ 9223372036854775808 →
        ((List.range n).flatMap fun index : Nat => listed scope (peekCall category name index)) =
          (queue.map (·.name)).take n) ∧
      ∀ index : Int, index < 0 ∨ 9223372036854775807 < index →
        ∃ f, outcome (values scope (peekCall category name index)) = .error f ∧
          f.reason = .typeMismatch := by
  obtain ⟨queue, hlisting, hlisted, hpeeked⟩ := exists_queue hnames h name
  refine ⟨queue, hlisting, hlisted, hpeeked, ?_, fun index => peekCall_mismatches h name⟩
  intro n hn
  rw [← flatMap_range_getElem?]
  refine List.flatMap_congr fun index hindex => ?_
  have hbound : index < n := List.mem_range.1 hindex
  rw [listed, hpeeked index (Int.natCast_nonneg index) (by omega), Int.toNat_natCast]

end

/-- Two connections of one class have the same priority. They were made after one of the class
    that stands behind them, and one of another class is not in the queue. -/
theorem peek_walks_queue_of_tied_priorities :
    let phone : Connection :=
      { name := "Phone:Amp", source := "Phone", sink := "Amp", class_ := "Music", priority := 5 }
    let guide : Connection :=
      { name := "Guide:Amp", source := "Guide", sink := "Amp", class_ := "Navigation" }
    let tuner : Connection :=
      { name := "Tuner:Amp", source := "Tuner", sink := "Amp", class_ := "Music", priority := 2 }
    let player : Connection :=
      { name := "Player:Amp", source := "Player", sink := "Amp", class_ := "Music", priority := 2 }
    let scope : Scope :=
      { store := .empty, graph := { connections := [phone, guide, tuner, player] },
        trigger := .systemRegisterSink "Amp" }
    let queue : List String := ["Tuner:Amp", "Player:Amp", "Phone:Amp"]
    (scope.graph.connections.map (·.name)).Nodup ∧
      (∀ index : Int, 0 ≤ index → index ≤ 9223372036854775807 →
        outcome (values scope (peekCall .class_ "Music" index)) =
          .ok queue[index.toNat]?.toList) ∧
      ((List.range 3).flatMap fun index : Nat => listed scope (peekCall .class_ "Music" index)) =
        queue := by
  intro phone guide tuner player scope queue
  have hnames : (scope.graph.connections.map (·.name)).Nodup := by decide
  obtain ⟨listing, -, hlisted, hpeeked, hwalk, -⟩ := peek_walks_queue hnames .class_ "Music"
  have hsorted : scope.graph.connectionsBy (.class_ "Music") .highPriority =
      [tuner, player, phone] := by
    have hselected : scope.graph.connections.filter (Connection.Filter.class_ "Music").selects =
        [phone, tuner, player] := by decide
    rw [Graph.connectionsBy, hselected, Connection.Order.arrange]
    simp [List.mergeSort, phone, tuner, player]
  have hqueue : listing.map (·.name) = queue := by
    let q : Query :=
      { function := .name, category := .connectionOfClass, selector := .name "Music",
        optional := ["O_HIGH_PRIORITY"] }
    have hconnections : Query.connectionsOf scope q .class_ ["Music"] = queue :=
      (Query.connectionsOf_singleton hnames .class_ "Music").trans
        (congrArg (List.map (·.name)) hsorted)
    rw [outcome_queueCall] at hlisted
    exact Except.ok.inj (hlisted.symm.trans (congrArg Except.ok hconnections))
  rw [hqueue] at hpeeked hwalk
  exact ⟨hnames, hpeeked, hwalk 3 (by decide)⟩

/-- Not every index behind the end finds an empty place. The first one that does not fit 64 bits
    is a mismatch already. -/
theorem oversized_index_mismatches :
    ¬ ∀ (scope : Scope) (name : String) (index : Int),
      (scope.graph.connections.map (·.name)).Nodup → 0 ≤ index →
      ∃ queue, outcome (values scope (queueCall .connectionOfClass name)) = .ok queue ∧
        outcome (values scope (peekCall .class_ name index)) = .ok queue[index.toNat]?.toList := by
  intro h
  let scope : Scope :=
    { store := .empty
      graph := { connections :=
        [{ name := "Tuner:Amp", source := "Tuner", sink := "Amp", class_ := "Music" }] }
      trigger := .systemRegisterSink "Amp" }
  let index : Int := 9223372036854775808
  obtain ⟨queue, -, hplace⟩ := h scope "Music" index (by decide) (by decide)
  have hoversized : index < 0 ∨ 9223372036854775807 < index := .inr (by decide)
  obtain ⟨f, hmismatch, -⟩ := peekCall_mismatches .class_ "Music" hoversized
  exact absurd (hplace.symm.trans hmismatch) nofun

end Evaluation
end AudioPolicy

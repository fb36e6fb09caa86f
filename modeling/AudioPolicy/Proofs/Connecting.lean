-- SUMMARY: A connect is lost if and only if a connection between other ends has the name already.
import AudioPolicy.Graph.Apply
import Mathlib.Data.List.Nodup

/-! # Connecting

In a graph that only actions have made, every connection has the name that is composed of
its ends, and no two connections share a name. A connect looks for the composed name and
not for the ends. The name does not say which of its colons stands between the ends, so
another connection may have it. Then nothing is connected. -/

namespace AudioPolicy

/-! ## Names of connections -/

namespace Connection

/-- The connection leads from `source` to `sink`. -/
def Joins (c : Connection) (source sink : String) : Prop := c.source = source ∧ c.sink = sink

instance (c : Connection) (source sink : String) : Decidable (c.Joins source sink) :=
  inferInstanceAs (Decidable (_ ∧ _))

/-- The first source and a colon begin the second one, and what follows them there begins
    the first sink. -/
def Shifted (source sink source' sink' : String) : Prop :=
  ∃ middle, source' = source ++ ":" ++ middle ∧ sink = middle ++ ":" ++ sink'

/-- The connection has other ends than `source` and `sink`, out of which the same name is
    composed. -/
def Shadows (c : Connection) (source sink : String) : Prop :=
  Shifted source sink c.source c.sink ∨ Shifted c.source c.sink source sink

theorem nameFor_eq_of_shifted {source sink source' sink' : String}
    (h : Shifted source sink source' sink') : nameFor source sink = nameFor source' sink' := by
  obtain ⟨middle, rfl, rfl⟩ := h
  simp only [nameFor, String.append_assoc]

theorem not_shifted_self (source sink : String) : ¬ Shifted source sink source sink := by
  rintro ⟨middle, hsource, -⟩
  have hlength := congrArg String.length hsource
  simp only [String.length_append] at hlength
  have hcolon : ":".length = 1 := rfl
  omega

/-- Where one source begins the other, two pairs of ends with one name are equal or shifted. -/
theorem eq_or_shifted_of_append {source sink source' sink' : String} {rest : List Char}
    (hsource : source'.toList = source.toList ++ rest)
    (hsink : ':' :: sink.toList = rest ++ ':' :: sink'.toList) :
    (source = source' ∧ sink = sink') ∨ Shifted source sink source' sink' := by
  cases rest with
  | nil =>
    refine Or.inl ⟨?_, ?_⟩
    · exact String.toList_inj.1 (by simpa using hsource.symm)
    · exact String.toList_inj.1 (by simpa using hsink)
  | cons c middle =>
    obtain ⟨rfl, hsink⟩ := List.cons.inj hsink
    refine Or.inr ⟨String.ofList middle, ?_, ?_⟩
    · exact String.toList_inj.1 (by simpa using hsource)
    · exact String.toList_inj.1 (by simpa using hsink)

/-- Two pairs of ends have one name only if they are equal or shifted. -/
theorem eq_or_shifted_of_nameFor_eq {source sink source' sink' : String}
    (h : nameFor source sink = nameFor source' sink') :
    (source = source' ∧ sink = sink') ∨ Shifted source sink source' sink' ∨
      Shifted source' sink' source sink := by
  have hchars : source.toList ++ ':' :: sink.toList = source'.toList ++ ':' :: sink'.toList := by
    simpa [nameFor] using congrArg String.toList h
  rcases List.append_eq_append_iff.1 hchars with ⟨rest, hsource, hsink⟩ | ⟨rest, hsource, hsink⟩
  · exact (eq_or_shifted_of_append hsource hsink).imp_right Or.inl
  · rcases eq_or_shifted_of_append hsource hsink with ⟨rfl, rfl⟩ | hshifted
    · exact Or.inl ⟨rfl, rfl⟩
    · exact Or.inr (Or.inr hshifted)

theorem nameFor_eq_iff_joins_or_shadows {c : Connection} {source sink : String} :
    nameFor c.source c.sink = nameFor source sink ↔
      c.Joins source sink ∨ c.Shadows source sink := by
  constructor
  · intro h
    rcases eq_or_shifted_of_nameFor_eq h with hjoins | hshifted | hshifted
    · exact Or.inl hjoins
    · exact Or.inr (Or.inr hshifted)
    · exact Or.inr (Or.inl hshifted)
  · rintro (⟨rfl, rfl⟩ | hshifted | hshifted)
    · rfl
    · exact (nameFor_eq_of_shifted hshifted).symm
    · exact nameFor_eq_of_shifted hshifted

theorem not_shadows_of_joins {c : Connection} {source sink : String} (h : c.Joins source sink) :
    ¬ c.Shadows source sink := by
  obtain ⟨rfl, rfl⟩ := h
  rintro (hshifted | hshifted) <;> exact not_shifted_self _ _ hshifted

end Connection

namespace Graph

/-! ## What an action does to the connections -/

/-- The ways in which an action can change the connections. -/
inductive Reconnects (cs : List Connection) : List Connection → Prop
  | kept : Reconnects cs cs
  | made {source sink class_ : String} : (∀ c ∈ cs, c.name ≠ Connection.nameFor source sink) →
      Reconnects cs (cs ++ [Connection.made source sink class_])
  | ended (name : String) : Reconnects cs (cs.filter fun c => c.name != name)
  | marked (name : String) (state : ConnectionState) :
      Reconnects cs (cs.map fun c => if c.name = name then { c with state } else c)

theorem connect_reconnects (g : Graph) (source sink class_ : String) :
    Reconnects g.connections (g.connect source sink class_).connections := by
  unfold connect
  split
  next => exact .kept
  next hnew => exact .made (by simpa using hnew)

theorem setConnectionState_reconnects (g : Graph) (action : Action) (state : ConnectionState) :
    Reconnects g.connections (g.setConnectionState action state).connections := by
  unfold setConnectionState
  split
  next name _ => exact .marked name state
  next => exact .kept

@[simp] theorem connections_updateSink (g : Graph) (action : Action)
    (change : Element → Element) :
    (g.updateSink action change).connections = g.connections := by
  unfold updateSink
  split <;> rfl

theorem apply_reconnects (g : Graph) (action : Action) :
    Reconnects g.connections (g.apply action).connections := by
  unfold apply
  split
  case h_1 =>
    split
    next => exact connect_reconnects g _ _ _
    next => exact .kept
  case h_2 =>
    split
    next name _ => exact .ended name
    next => exact .kept
  case h_3 => exact setConnectionState_reconnects g action _
  case h_4 => exact setConnectionState_reconnects g action _
  all_goals first
    | exact .kept
    | (rw [connections_updateSink]; exact .kept)

/-! ## Reachable graphs -/

/-- A graph that lists of actions make out of the empty one. -/
inductive Reachable : Graph → Prop
  | empty : Reachable {}
  | applyAll {g : Graph} (actions : List Action) : Reachable g → Reachable (g.applyAll actions)

/-- The connections have the names that are composed of their ends, each a name of its own. -/
structure Named (cs : List Connection) : Prop where
  composed : ∀ c ∈ cs, c.name = Connection.nameFor c.source c.sink
  distinct : (cs.map (·.name)).Nodup

theorem nodup_names_of_reconnects {cs after : List Connection} (h : Reconnects cs after)
    (hcs : (cs.map (·.name)).Nodup) : (after.map (·.name)).Nodup := by
  cases h with
  | kept => exact hcs
  | made hnew =>
    rw [List.map_append, List.nodup_append]
    refine ⟨hcs, List.nodup_singleton _, ?_⟩
    simpa [Connection.made] using hnew
  | ended name => exact hcs.sublist (List.filter_sublist.map _)
  | marked name state =>
    have hname : ∀ c : Connection,
        (if c.name = name then { c with state } else c).name = c.name := by
      intro c
      split <;> rfl
    rw [List.map_map]
    simpa only [Function.comp_def, hname] using hcs

theorem composed_of_reconnects {cs after : List Connection} (h : Reconnects cs after)
    (hcs : ∀ c ∈ cs, c.name = Connection.nameFor c.source c.sink) :
    ∀ c ∈ after, c.name = Connection.nameFor c.source c.sink := by
  cases h with
  | kept => exact hcs
  | made hnew =>
    rw [List.forall_mem_append]
    exact ⟨hcs, by simp [Connection.made]⟩
  | ended name => exact fun c hc => hcs c (List.mem_of_mem_filter hc)
  | marked name state =>
    rw [List.forall_mem_map]
    intro c hc
    split <;> exact hcs c hc

theorem named_of_reconnects {cs after : List Connection} (h : Reconnects cs after)
    (hcs : Named cs) : Named after :=
  ⟨composed_of_reconnects h hcs.composed, nodup_names_of_reconnects h hcs.distinct⟩

theorem named_applyAll {g : Graph} (h : Named g.connections) (actions : List Action) :
    Named (g.applyAll actions).connections := by
  induction actions generalizing g with
  | nil => exact h
  | cons action actions ih => exact ih (named_of_reconnects (apply_reconnects g action) h)

theorem named_of_reachable {g : Graph} (h : g.Reachable) : Named g.connections := by
  induction h with
  | empty => exact ⟨by simp, List.nodup_nil⟩
  | applyAll actions _ ih => exact named_applyAll ih actions

/-! ## Connects -/

theorem apply_connect {g : Graph} {action : Action} {source sink : String}
    (hkind : action.kind = .connect)
    (hsource : action.param? Action.Key.sourceName = some source)
    (hsink : action.param? Action.Key.sinkName = some sink) :
    g.apply action = g.connect source sink (action.paramOrEmpty Action.Key.className) := by
  have hends : ends? action = some (source, sink) := by simp [ends?, hsource, hsink]
  simp [apply, hkind, hends]

/-- In a reachable graph a connect leaves the connections as they are and in their order.
    Behind it there is a connection between the ends if and only if none between other ends
    had their name. -/
theorem connect_joins_iff {g : Graph} (hg : g.Reachable) {action : Action}
    {source sink : String} (hkind : action.kind = .connect)
    (hsource : action.param? Action.Key.sourceName = some source)
    (hsink : action.param? Action.Key.sinkName = some sink) :
    g.connections <+: (g.apply action).connections ∧
      ((∃ c ∈ (g.apply action).connections, c.Joins source sink) ↔
        ∀ c ∈ g.connections, ¬ c.Shadows source sink) := by
  obtain ⟨hcomposed, hdistinct⟩ := named_of_reachable hg
  have hname : ∀ c ∈ g.connections,
      c.name = Connection.nameFor source sink ↔ c.Joins source sink ∨ c.Shadows source sink := by
    intro c hc
    rw [hcomposed c hc, Connection.nameFor_eq_iff_joins_or_shadows]
  rw [apply_connect hkind hsource hsink]
  unfold connect
  split
  next hknown =>
    obtain ⟨known, hknown, hsame⟩ :
        ∃ c ∈ g.connections, c.name = Connection.nameFor source sink := by
      simpa using hknown
    refine ⟨List.prefix_rfl, fun ⟨c, hc, hjoins⟩ d hd hshadows => ?_, fun hnone => ?_⟩
    · -- Both have the name, so they are one connection, and it has one pair of ends.
      have heq : c.name = d.name :=
        ((hname c hc).2 (Or.inl hjoins)).trans ((hname d hd).2 (Or.inr hshadows)).symm
      obtain rfl := List.inj_on_of_nodup_map hdistinct hc hd heq
      exact Connection.not_shadows_of_joins hjoins hshadows
    · exact ⟨known, hknown, ((hname known hknown).1 hsame).resolve_right (hnone known hknown)⟩
  next hnew =>
    have hnew : ∀ c ∈ g.connections, c.name ≠ Connection.nameFor source sink := by
      simpa using hnew
    refine ⟨List.prefix_append _ _, fun _ c hc hshadows => ?_, fun _ => ?_⟩
    · exact hnew c hc ((hname c hc).2 (Or.inr hshadows))
    · exact ⟨_, List.mem_append_right _ (List.mem_singleton_self _), rfl, rfl⟩

/-- A connection between the ends of the composed name is there, and one between its first
    two parts has ended again. -/
theorem connect_joins_iff_behind_colon :
    let connect (source sink : String) : Action :=
      .ofPairs .connect [(Action.Key.sourceName, source), (Action.Key.sinkName, sink)]
    let g : Graph := Graph.applyAll {}
      [connect "Radio" "Amp:Left", connect "Radio" "Amp",
        .ofPairs .disconnect [(Action.Key.connectionName, "Radio:Amp")]]
    let action := connect "Radio:Amp" "Left"
    g.Reachable ∧ action.kind = .connect ∧
      action.param? Action.Key.sourceName = some "Radio:Amp" ∧
      action.param? Action.Key.sinkName = some "Left" ∧
      g.connections <+: (g.apply action).connections ∧
      ((∃ c ∈ (g.apply action).connections, c.Joins "Radio:Amp" "Left") ↔
        ∀ c ∈ g.connections, ¬ c.Shadows "Radio:Amp" "Left") := by
  intro connect g action
  have hg : g.Reachable := .applyAll _ .empty
  exact ⟨hg, rfl, rfl, rfl, connect_joins_iff hg rfl rfl rfl⟩

/-- A connect gets lost where another connection moved the colon. -/
theorem connect_lost_behind_colon :
    ¬ ∀ (g : Graph) (action : Action) (source sink : String), g.Reachable →
      action.kind = .connect → action.param? Action.Key.sourceName = some source →
      action.param? Action.Key.sinkName = some sink →
        (∃ c ∈ (g.apply action).connections, c.Joins source sink) ∧
          ∀ c ∈ g.connections, c ∈ (g.apply action).connections := by
  intro h
  let connect (source sink : String) : Action :=
    .ofPairs .connect [(Action.Key.sourceName, source), (Action.Key.sinkName, sink)]
  let g : Graph := Graph.applyAll {} [connect "A:B" "C"]
  obtain ⟨hjoins, -⟩ :=
    h g (connect "A" "B:C") "A" "B:C" (.applyAll _ .empty) rfl rfl rfl
  have hnone : ¬ ∃ c ∈ (g.apply (connect "A" "B:C")).connections, c.Joins "A" "B:C" := by
    decide
  exact hnone hjoins

end Graph
end AudioPolicy

-- SUMMARY: Names that are distinct stay distinct, whatever actions are applied.
import AudioPolicy.Proofs.Connecting

/-! # Naming

Every lookup by name finds the first match, so the names of a kind have to be distinct. No
action breaks this. A connect and a registration look for the name before they add
something, also for the names that the same registration has added before. Every other
action keeps the names or drops some of them. -/

namespace AudioPolicy.Graph

/-! ## Elements -/

theorem names_updateSink {change : Element → Element} (hname : ∀ e, (change e).name = e.name)
    (g : Graph) (action : Action) (kind : ElementKind) :
    (g.updateSink action change).names kind = g.names kind := by
  unfold updateSink
  split
  · cases kind with
    | sink => exact map_updateFirst hname _ _
    | source | gateway | domain | class_ | connection => rfl
  · rfl

/-- A name that occurs twice in a list is added once. -/
theorem nodup_map_name_addElements {es : List Element} (h : (es.map (·.name)).Nodup)
    (domain : String) (names : List String) :
    ((addElements domain names es).map (·.name)).Nodup := by
  unfold addElements
  induction names generalizing es with
  | nil => exact h
  | cons name names ih =>
    rw [List.foldl_cons]
    apply ih
    split
    next => exact h
    next hnew =>
      have hnew : name ∉ es.map (·.name) := by simpa using hnew
      rw [List.map_append]
      exact h.append (List.nodup_singleton name) (by simpa using hnew)

theorem nodup_names_register {g : Graph} {kind : ElementKind} (h : (g.names kind).Nodup)
    (action : Action) : ((g.register action).names kind).Nodup := by
  cases kind with
  | sink | source | gateway => exact nodup_map_name_addElements h _ _
  | domain | class_ | connection => exact h

/-! ## Actions -/

/-- Apart from the names of connections, only a registration changes names. -/
theorem names_apply_or_register {kind : ElementKind} (hkind : kind ≠ .connection) (g : Graph)
    (action : Action) :
    (g.apply action).names kind = g.names kind ∨ g.apply action = g.register action := by
  have hconnections (cs : List Connection) :
      ({ g with connections := cs } : Graph).names kind = g.names kind := by
    cases kind with
    | connection => contradiction
    | sink | source | gateway | domain | class_ => rfl
  have hmarked (state : ConnectionState) :
      (g.setConnectionState action state).names kind = g.names kind := by
    unfold setConnectionState
    split
    · exact hconnections _
    · rfl
  unfold apply
  cases action.kind with
  | connect =>
    left
    dsimp only
    split
    · unfold connect
      split
      · rfl
      · exact hconnections _
    · rfl
  | disconnect =>
    left
    dsimp only
    split
    · exact hconnections _
    · rfl
  | suspend | resume => exact Or.inl (hmarked _)
  | mute | unmute | setVolume | limit | unlimit =>
    left
    apply names_updateSink
    intro e
    rfl
  | register => exact Or.inr rfl
  | push | pop | setProperty | setProperties | setSystemProperty | setSystemProperties
  | setNotificationConfiguration | debug => exact Or.inl rfl

theorem nodup_names_apply {g : Graph} {kind : ElementKind} (h : (g.names kind).Nodup)
    (action : Action) : ((g.apply action).names kind).Nodup := by
  by_cases hkind : kind = .connection
  · subst hkind
    exact nodup_names_of_reconnects (apply_reconnects g action) h
  · rcases names_apply_or_register hkind g action with hsame | hregister
    · rw [hsame]
      exact h
    · rw [hregister]
      exact nodup_names_register h action

theorem nodup_names_applyAll {g : Graph} {kind : ElementKind} (h : (g.names kind).Nodup)
    (actions : List Action) : ((g.applyAll actions).names kind).Nodup := by
  induction actions generalizing g with
  | nil => exact h
  | cons action actions ih => exact ih (nodup_names_apply h action)

/-! ## Graphs -/

/-- No two connections, sinks, sources or gateways of the graph share a name. -/
structure DistinctNames (g : Graph) : Prop where
  connections : (g.names .connection).Nodup
  sinks : (g.names .sink).Nodup
  sources : (g.names .source).Nodup
  gateways : (g.names .gateway).Nodup

/-- Lists of actions, applied one after the other, keep names distinct. Each kind of name
    keeps so by itself. -/
theorem distinctNames_applyLists {g : Graph} (h : g.DistinctNames) (lists : List (List Action)) :
    (lists.foldl applyAll g).DistinctNames := by
  induction lists generalizing g with
  | nil => exact h
  | cons actions lists ih =>
    apply ih
    constructor
    · exact nodup_names_applyAll h.connections actions
    · exact nodup_names_applyAll h.sinks actions
    · exact nodup_names_applyAll h.sources actions
    · exact nodup_names_applyAll h.gateways actions

/-- A name is listed twice, under two keys and in two lists, and two connects compose one
    name out of different ends. -/
theorem distinctNames_applyLists_of_repeated_names :
    let connect (source sink : String) : Action :=
      .ofPairs .connect [(Action.Key.sourceName, source), (Action.Key.sinkName, sink)]
    let register : Action :=
      .ofPairs .register [(Action.Key.domainName, "Amp"),
        (Action.Key.listSinks, "Left Right Left"), (Action.Key.listSources, "Left Radio")]
    let g : Graph := { sinks := [{ name := "Left" }], gateways := [{ name := "Left" }] }
    let lists := [[register, connect "Radio:Left" "Amp"], [connect "Radio" "Left:Amp", register]]
    g.DistinctNames ∧ (lists.foldl applyAll g).DistinctNames := by
  intro connect register g lists
  have hg : g.DistinctNames := ⟨by decide, by decide, by decide, by decide⟩
  exact ⟨hg, distinctNames_applyLists hg lists⟩

end AudioPolicy.Graph

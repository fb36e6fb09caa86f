-- SUMMARY: Deregistering a sink ends the connections of a source of the same name, and conversely.
import AudioPolicy.Proofs.Deregistration

/-! # Namesakes

Names are distinct within a kind only, so a sink and a source may share one. A connection
is ended when a deregistered name stands at either of its ends or on its route. So the
connections of a namesake of the other kind end as well, and it is just these that a
deregistration ends without need. -/

namespace AudioPolicy

namespace Connection

/-- The connection ends at the sink or passes through it. -/
def UsesSink (c : Connection) (sink : String) : Prop := c.sink = sink ∨ sink ∈ c.route

/-- The connection starts at the source or passes through it. -/
def UsesSource (c : Connection) (source : String) : Prop := c.source = source ∨ source ∈ c.route

instance (c : Connection) (sink : String) : Decidable (c.UsesSink sink) :=
  inferInstanceAs (Decidable (_ ∨ _))

instance (c : Connection) (source : String) : Decidable (c.UsesSource source) :=
  inferInstanceAs (Decidable (_ ∨ _))

theorem touches_iff_usesSink {c : Connection} {name : String} :
    c.touches name = true ↔ c.UsesSink name ∨ c.source = name := by
  simp only [touches, UsesSink, Bool.or_eq_true, beq_iff_eq, List.contains_iff_mem]
  tauto

theorem touches_iff_usesSource {c : Connection} {name : String} :
    c.touches name = true ↔ c.UsesSource name ∨ c.sink = name := by
  simp only [touches, UsesSource, Bool.or_eq_true, beq_iff_eq, List.contains_iff_mem]
  tauto

end Connection

namespace Implied

/-- The implied actions of a trigger are for connections with a property only: each of them
    ends one of these, and applying them keeps all others. -/
structure ConfinedTo (store : Store) (graph : Graph) (t : Trigger) (P : Connection → Prop) :
    Prop where
  ended : ∀ action ∈ actions store graph t, ∃ c ∈ graph.connections, Ends action c ∧ P c
  kept : ∀ c ∈ graph.connections, ¬ P c →
    c ∈ (graph.applyAll (actions store graph t)).connections

section
variable {store : Store} {graph : Graph} {t : Trigger} {P : Connection → Prop}

/-- Where the implied actions are the disconnects of one name, they are confined to what
    holds of all that touches it. -/
theorem confinedTo_iff {name : String}
    (hactions : actions store graph t = disconnectAll graph [name])
    (hnames : (graph.connections.map (·.name)).Nodup) :
    ConfinedTo store graph t P ↔
      ∀ c ∈ graph.connections, c.touches name = true → P c := by
  obtain ⟨ended, hended, -, hmem⟩ := disconnectAll_eq_map hnames [name]
  simp only [List.mem_singleton, exists_eq_left] at hmem
  have hactions : actions store graph t = ended.map disconnect := hactions.trans hended
  constructor
  · intro h c hc htouches
    have haction : disconnect c ∈ actions store graph t := by
      simpa [hactions] using List.mem_map_of_mem ((hmem c).2 ⟨hc, htouches⟩)
    obtain ⟨d, hd, hends, hP⟩ := h.ended _ haction
    have hname : c.name = d.name := by
      simpa [(disconnect_ends c).connectionName] using hends.connectionName
    obtain rfl := List.inj_on_of_nodup_map hnames hc hd hname
    exact hP
  · intro h
    refine ⟨fun action haction => ?_, fun c hc hP => ?_⟩
    · simp only [hactions, List.mem_map] at haction
      obtain ⟨c, hc, rfl⟩ := haction
      obtain ⟨hc, htouches⟩ := (hmem c).1 hc
      exact ⟨c, hc, disconnect_ends c, h c hc htouches⟩
    · simp only [hactions, applyAll_disconnect, List.mem_filter, decide_eq_true_eq, List.mem_map]
      refine ⟨hc, ?_⟩
      rintro ⟨d, hd, hname⟩
      obtain ⟨hd, htouches⟩ := (hmem d).1 hd
      obtain rfl := List.inj_on_of_nodup_map hnames hd hc hname
      exact hP (h d hd htouches)

end

/-- Deregistering a sink is confined to the connections that use the sink if and only if
    each connection from a source of that name uses the sink too, and likewise for a source. -/
theorem deregistration_confined_iff (store : Store) {graph : Graph}
    (hnames : (graph.connections.map (·.name)).Nodup) (name : String) :
    (ConfinedTo store graph (.systemDeregisterSink name) (·.UsesSink name) ↔
        ∀ c ∈ graph.connections, c.source = name → c.UsesSink name) ∧
      (ConfinedTo store graph (.systemDeregisterSource name) (·.UsesSource name) ↔
        ∀ c ∈ graph.connections, c.sink = name → c.UsesSource name) := by
  have hsink : actions store graph (.systemDeregisterSink name) = disconnectAll graph [name] := rfl
  have hsource : actions store graph (.systemDeregisterSource name) =
      disconnectAll graph [name] := rfl
  constructor
  · simp only [confinedTo_iff hsink hnames, Connection.touches_iff_usesSink, or_imp, imp_self,
      true_and]
  · simp only [confinedTo_iff hsource hnames, Connection.touches_iff_usesSource, or_imp, imp_self,
      true_and]

/-- A source shares its name with a sink on the route of its only connection. Deregistering
    the sink is confined, but deregistering the source is not. -/
theorem deregistration_confined_iff_of_loop :
    let store : Store := .loaded
      { sinks := [{ name := "Bridge" }], sources := [{ name := "Bridge" }] } rfl
    let graph : Graph :=
      { connections :=
          [{ name := "out", source := "Bridge", sink := "Speaker", route := ["Bridge"] },
           { name := "in", source := "Radio", sink := "Bridge" }] }
    (graph.connections.map (·.name)).Nodup ∧
      ConfinedTo store graph (.systemDeregisterSink "Bridge") (·.UsesSink "Bridge") ∧
      ¬ ConfinedTo store graph (.systemDeregisterSource "Bridge") (·.UsesSource "Bridge") := by
  intro store graph
  have hnames : (graph.connections.map (·.name)).Nodup := by decide
  obtain ⟨hsink, hsource⟩ := deregistration_confined_iff store hnames "Bridge"
  exact ⟨hnames, hsink.2 (by decide), fun h => absurd (hsource.1 h) (by decide)⟩

/-- A connection ends when a sink goes away that merely has the name of its source. -/
theorem deregistered_sink_ends_namesake :
    ¬ ∀ (store : Store) (graph : Graph) (name : String),
      (graph.connections.map (·.name)).Nodup →
        ConfinedTo store graph (.systemDeregisterSink name) (·.UsesSink name) ∧
          ConfinedTo store graph (.systemDeregisterSource name) (·.UsesSource name) := by
  intro h
  let store : Store := .loaded
    { sinks := [{ name := "Phone" }], sources := [{ name := "Phone" }] } rfl
  let c : Connection := { name := "Phone:Speaker", source := "Phone", sink := "Speaker" }
  let graph : Graph := { connections := [c] }
  obtain ⟨hsink, -⟩ := h store graph "Phone" (by decide)
  let t : Trigger := .systemDeregisterSink "Phone"
  have hkept : c ∈ (graph.applyAll (actions store graph t)).connections :=
    hsink.kept c (by decide) (by decide)
  have hgone : c ∉ (graph.applyAll (actions store graph t)).connections := by
    decide
  exact hgone hkept

end Implied
end AudioPolicy

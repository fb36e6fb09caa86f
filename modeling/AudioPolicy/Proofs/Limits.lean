-- SUMMARY: A volume action without a number changes nothing, but a limit then ends the limit.
import AudioPolicy.Proofs.Params
import AudioPolicy.Graph.Apply

/-! # Volume actions without a number

A volume action reads its numbers from its parameters. If it finds none that fits 16 bits,
then setting the volume leaves the graph as it is. A limit without a number is one with
nothing to limit to, and the sink ends up without a limit, as after an unlimit. So it has no
effect just on a sink without a limit. -/

namespace AudioPolicy.Graph

open AudioPolicy.Action

/-! ## Changes without an effect -/

section
variable {g : Graph} {action : Action} {change change' : Element → Element}

theorem updateFirst_eq_self_iff {name : String} {es : List Element} :
    updateFirst name change es = es ↔
      ∀ e, (es.find? fun e => e.name == name) = some e → change e = e := by
  induction es with
  | nil => simp [updateFirst]
  | cons e es ih =>
    by_cases hname : e.name = name
    · simp [updateFirst, hname]
    · simp [updateFirst, hname, ih]

/-- A change of a sink has no effect just if it keeps the first sink of the name. -/
theorem updateSink_eq_self_iff :
    g.updateSink action change = g ↔
      ∀ sink, action.param? Key.sinkName = some sink →
        ∀ e, g.element? .sink sink = some e → change e = e := by
  unfold updateSink
  cases action.param? Key.sinkName with
  | none => simp
  | some sink =>
    have hsinks : ({ g with sinks := updateFirst sink change g.sinks } : Graph) = g ↔
        updateFirst sink change g.sinks = g.sinks := by
      constructor
      · exact congrArg sinks
      · intro h
        rw [h]
    simp [hsinks, updateFirst_eq_self_iff, element?, elements]

theorem volumeLimit?_eq_none_iff {kind : ElementKind} {name : String} :
    g.volumeLimit? kind name = none ↔
      ∀ e, g.element? kind name = some e → e.volumeLimit = none := Option.bind_eq_none_iff

end

/-! ## Volume actions -/

/-- The keys of the numbers that a volume action reads. -/
def levelKeys : Action.Kind → List String
  | .setVolume => [Key.mainVolume, Key.mainVolumeStep]
  | .limit => [Key.limitVolume]
  | _ => []

/-- A volume action that reads no number changes nothing, unless it is a limit for a sink with
    a limit in force. Such an action does what an unlimit does. -/
theorem apply_without_level_iff (g : Graph) {action : Action}
    (hkind : action.kind = .setVolume ∨ action.kind = .limit)
    (hlevels : ∀ key ∈ levelKeys action.kind, level? action key = none) :
    (g.apply action = g ↔
        (action.kind = .limit → ∀ sink, action.param? Key.sinkName = some sink →
          g.volumeLimit? .sink sink = none)) ∧
      (action.kind = .limit → g.apply action = g.apply { action with kind := .unlimit }) := by
  rcases hkind with hkind | hkind
  · have habsolute : level? action Key.mainVolume = none := hlevels _ (by simp [hkind, levelKeys])
    have hstep : level? action Key.mainVolumeStep = none := hlevels _ (by simp [hkind, levelKeys])
    have hsame : g.apply action = g := by
      simp [apply, hkind, updateSink_eq_self_iff, newVolume, habsolute, hstep]
    simp [hsame, hkind]
  · have hlevel : level? action Key.limitVolume = none := hlevels _ (by simp [hkind, levelKeys])
    have hunlimit : g.apply action = g.apply { action with kind := .unlimit } := by
      simp [apply, hkind, hlevel, updateSink, Action.param?]
    refine ⟨?_, fun _ => hunlimit⟩
    have hchange (e : Element) : { e with volumeLimit := none } = e ↔ e.volumeLimit = none := by
      constructor
      · intro h
        exact (congrArg Element.volumeLimit h).symm
      · intro h
        rw [← h]
    simp [apply, hkind, hlevel, updateSink_eq_self_iff, volumeLimit?_eq_none_iff, hchange]

/-- A step that is no number on one sink, and a limit for a sink that has one in force. -/
theorem apply_without_level_iff_of_two_sinks :
    let g : Graph :=
      { sinks := [{ name := "Speaker", mainVolume := 9 },
                  { name := "Headset", volumeLimit := some 20 }] }
    let step : Action := .ofPairs .setVolume
      [(Key.sinkName, "Speaker"), (Key.mainVolumeStep, "40000")]
    let limit (sink : String) : Action := .ofPairs .limit
      [(Key.sinkName, sink), (Key.limitVolume, "loud")]
    (∀ key ∈ levelKeys .setVolume, level? step key = none) ∧ g.apply step = g ∧
      (∀ sink ∈ ["Speaker", "Headset"], ∀ key ∈ levelKeys .limit, level? (limit sink) key = none) ∧
      g.apply (limit "Speaker") = g ∧ g.apply (limit "Headset") ≠ g := by
  intro g step limit
  have hstep : ∀ key ∈ levelKeys .setVolume, level? step key = none := by decide
  have hlimit : ∀ sink ∈ ["Speaker", "Headset"], ∀ key ∈ levelKeys .limit,
      level? (limit sink) key = none := by decide
  obtain ⟨hset, -⟩ := @apply_without_level_iff g step (Or.inl rfl) hstep
  obtain ⟨hspeaker, -⟩ :=
    @apply_without_level_iff g (limit "Speaker") (Or.inr rfl) (hlimit _ (by simp))
  obtain ⟨hheadset, -⟩ :=
    @apply_without_level_iff g (limit "Headset") (Or.inr rfl) (hlimit _ (by simp))
  refine ⟨hstep, hset.2 (fun h => nomatch h), hlimit, hspeaker.2 fun _ sink hsink => ?_,
    fun h => ?_⟩
  · obtain rfl : "Speaker" = sink := Option.some.inj hsink
    rfl
  · have hfree := hheadset.1 h rfl "Headset" rfl
    exact absurd hfree (by decide)

/-- A limit that is no number ends the limit in force. -/
theorem unreadable_limit_ends_limit :
    ¬ ∀ (g : Graph) (action : Action),
      action.kind = .setVolume ∨ action.kind = .limit →
        (∀ key ∈ levelKeys action.kind, level? action key = none) → g.apply action = g := by
  intro h
  let g : Graph := { sinks := [{ name := "Speaker", volumeLimit := some 20 }] }
  let limit : Action := .ofPairs .limit [(Key.sinkName, "Speaker"), (Key.limitVolume, "loud")]
  have hsame := h g limit (Or.inr rfl) (by decide)
  exact absurd hsame (by decide)

end AudioPolicy.Graph

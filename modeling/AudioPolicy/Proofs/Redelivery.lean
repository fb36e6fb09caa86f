-- SUMMARY: A second delivery of an action changes nothing, unless the action is a step with room.
import AudioPolicy.Proofs.Connecting
import AudioPolicy.Proofs.Convergence
import AudioPolicy.Proofs.Limits
import AudioPolicy.Proofs.Volume

/-! # Redelivery

An action that arrives a second time finds its work done. The connection has its name, or no
connection has it any more, the setting of the sink has its value, and all names are
registered. Only a volume step adds to what it finds, and so it moves a second time as long as
there is room. A disconnect undoes the connect that came before it, if the connect made a
connection. -/

namespace AudioPolicy

open AudioPolicy.Action

/-- The action sets the volume relative to the one in force. -/
structure Action.Steps (action : Action) (step : Int16) : Prop where
  kind : action.kind = .setVolume
  relative : Graph.level? action Key.mainVolume = none
  step : Graph.level? action Key.mainVolumeStep = some step

/-- A step can be repeated: it moves the volume, and not up to a limit. -/
def HasRoom (volume step : Int16) : Prop :=
  step ≠ 0 ∧ -32768 < volume.toInt + step.toInt ∧ volume.toInt + step.toInt < 32767

instance (volume step : Int16) : Decidable (HasRoom volume step) :=
  inferInstanceAs (Decidable (_ ∧ _))

namespace Graph

section
variable {g : Graph} {action : Action} {change : Element → Element}

/-! ## Settings of sinks -/

theorem find?_updateFirst (hname : ∀ e, (change e).name = e.name) (name : String)
    (es : List Element) :
    (updateFirst name change es).find? (fun e => e.name == name) =
      (es.find? fun e => e.name == name).map change := by
  induction es with
  | nil => rfl
  | cons e es ih =>
    by_cases h : e.name = name
    · simp [updateFirst, h, hname]
    · simp [updateFirst, h, ih]

theorem element?_updateSink (hname : ∀ e, (change e).name = e.name) (g : Graph) {sink : String}
    (hsink : action.param? Key.sinkName = some sink) :
    (g.updateSink action change).element? .sink sink =
      (g.element? .sink sink).map change := by
  simp only [updateSink, hsink]
  exact find?_updateFirst hname sink g.sinks

/-- A change is repeated without an effect just if it has none on the changed sink. -/
theorem updateSink_updateSink_eq_iff (hname : ∀ e, (change e).name = e.name) :
    (g.updateSink action change).updateSink action change = g.updateSink action change ↔
      ∀ sink, action.param? Key.sinkName = some sink →
        ∀ e, g.element? .sink sink = some e → change (change e) = change e := by
  rw [updateSink_eq_self_iff]
  refine forall₂_congr fun sink hsink => ?_
  simp [element?_updateSink hname g hsink]

theorem updateSink_updateSink (hname : ∀ e, (change e).name = e.name)
    (hchange : ∀ e, change (change e) = change e) :
    (g.updateSink action change).updateSink action change = g.updateSink action change :=
  (updateSink_updateSink_eq_iff hname).2 fun _ _ e _ => hchange e

/-! ## Steps -/

theorem stepped_stepped_eq_iff {v step : Int16} :
    stepped (stepped v step) step = stepped v step ↔ ¬ HasRoom v step := by
  have hlow := v.le_toInt
  have hhigh := v.toInt_lt
  have hzero : step = 0 ↔ step.toInt = 0 := by rw [← Int16.toInt_inj]; rfl
  rw [← Int16.toInt_inj, HasRoom, Ne, hzero]
  simp only [toInt_stepped, clamp16]
  omega

theorem newVolume_of_steps {step : Int16} (h : action.Steps step) (v : Int16) :
    newVolume action v = stepped v step := by
  simp only [newVolume, h.relative, h.step, stepped]

/-- Without a step the volume is the one that is given, or it stays. -/
theorem newVolume_newVolume (hkind : action.kind = .setVolume)
    (h : ∀ step, ¬ action.Steps step) (v : Int16) :
    newVolume action (newVolume action v) = newVolume action v := by
  unfold newVolume
  split
  · rfl
  next step hrelative hstep => exact absurd ⟨hkind, hrelative, hstep⟩ (h step)
  · rfl

theorem apply_apply_eq_iff_of_steps {step : Int16} (h : action.Steps step) :
    (g.apply action).apply action = g.apply action ↔
      ∀ sink volume, action.param? Key.sinkName = some sink →
        g.mainVolume? sink = some volume → ¬ HasRoom volume step := by
  have happly (g : Graph) : g.apply action =
      g.updateSink action fun sink => { sink with mainVolume := stepped sink.mainVolume step } := by
    simp only [apply, h.kind, newVolume_of_steps h]
  have hname (e : Element) :
      ({ e with mainVolume := stepped e.mainVolume step } : Element).name = e.name := rfl
  rw [happly, happly]
  refine (updateSink_updateSink_eq_iff hname).trans (forall_congr' fun sink => ?_)
  simp only [Element.mk.injEq, true_and, and_true, stepped_stepped_eq_iff, mainVolume?,
    Option.map_eq_some_iff]
  constructor
  · rintro h _ hsink ⟨e, he, rfl⟩
    exact h hsink e he
  · intro h hsink e he
    exact h e.mainVolume hsink ⟨e, he, rfl⟩

/-! ## Connections -/

theorem connect_connect (g : Graph) (source sink class_ : String) :
    (g.connect source sink class_).connect source sink class_ = g.connect source sink class_ := by
  have hknown : ∀ g' : Graph, g' = g.connect source sink class_ →
      (g'.connections.any fun c => c.name == Connection.nameFor source sink) = true := by
    rintro _ rfl
    unfold connect
    split
    next h => exact h
    next => simp [Connection.made]
  exact if_pos (hknown _ rfl)

theorem disconnect_disconnect (g : Graph) (name : String) :
    (g.disconnect name).disconnect name = g.disconnect name := by
  simp [disconnect]

theorem setConnectionState_setConnectionState (g : Graph) (action : Action)
    (state : ConnectionState) :
    (g.setConnectionState action state).setConnectionState action state =
      g.setConnectionState action state := by
  unfold setConnectionState
  cases action.param? Key.connectionName with
  | none => rfl
  | some name =>
    simp only [List.map_map, Graph.mk.injEq, true_and, and_true]
    refine List.map_congr_left fun c _ => ?_
    by_cases h : c.name = name <;> simp [h]

/-- Where there is no connection of the name, connecting makes one. -/
theorem connect_of_notMem {source sink : String}
    (hnew : Connection.nameFor source sink ∉ g.names .connection) (class_ : String) :
    g.connect source sink class_ =
      { g with connections := g.connections ++ [Connection.made source sink class_] } := by
  refine if_neg ?_
  simpa [names] using hnew

/-- Where there is no connection of the name, disconnecting changes nothing. -/
theorem filter_name_of_notMem {name : String} (hnew : name ∉ g.names .connection) :
    (g.connections.filter fun c => c.name != name) = g.connections := by
  simpa [names, List.filter_eq_self] using hnew

theorem disconnect_connect {source sink : String}
    (hnew : Connection.nameFor source sink ∉ g.names .connection) (class_ : String) :
    (g.connect source sink class_).disconnect (Connection.nameFor source sink) = g := by
  simp [connect_of_notMem hnew, disconnect, filter_name_of_notMem hnew, Connection.made]

/-! ## Registrations -/

theorem addElements_eq_self {domain : String} {names : List String} {es : List Element}
    (h : ∀ name ∈ names, name ∈ es.map (·.name)) : addElements domain names es = es := by
  unfold addElements
  induction names with
  | nil => rfl
  | cons name names ih =>
    obtain ⟨hname, hnames⟩ := List.forall_mem_cons.1 h
    have hknown : (es.any fun e => e.name == name) = true := by simpa using hname
    rw [List.foldl_cons, if_pos hknown]
    exact ih hnames

theorem addElements_addElements (domain : String) (names : List String) (es : List Element) :
    addElements domain names (addElements domain names es) = addElements domain names es :=
  addElements_eq_self fun _ hname => mem_map_name_addElements.2 (.inr hname)

theorem register_register (g : Graph) (action : Action) :
    (g.register action).register action = g.register action := by
  simp only [register, addElements_addElements]

/-! ## Actions -/

theorem apply_apply_of_not_steps (g : Graph) (h : ∀ step, ¬ action.Steps step) :
    (g.apply action).apply action = g.apply action := by
  unfold apply
  cases hkind : action.kind with
  | connect =>
    dsimp only
    split
    · exact connect_connect g _ _ _
    · rfl
  | disconnect =>
    dsimp only
    split
    · exact disconnect_disconnect g _
    · rfl
  | suspend | resume => exact setConnectionState_setConnectionState g action _
  | mute | unmute | limit | unlimit => exact updateSink_updateSink (fun _ => rfl) fun _ => rfl
  | setVolume =>
    refine updateSink_updateSink (fun _ => rfl) fun e => ?_
    simp only [newVolume_newVolume hkind h]
  | register => exact register_register g action
  | push | pop | setProperty | setProperties | setSystemProperty | setSystemProperties
  | setNotificationConfiguration | debug => rfl

end

/-- An action that is no step has no effect when it is delivered again. A step has none just if
    its sink is missing, or if it does not move the volume or moves it up to a limit. And a
    disconnect takes back a connect, if no connection had the name before. -/
theorem redelivery_harmless_iff (g : Graph) :
    (∀ action : Action, (∀ step, ¬ action.Steps step) →
        (g.apply action).apply action = g.apply action) ∧
      (∀ (action : Action) (step : Int16), action.Steps step →
        ((g.apply action).apply action = g.apply action ↔
          ∀ sink volume, action.param? Key.sinkName = some sink →
            g.mainVolume? sink = some volume → ¬ HasRoom volume step)) ∧
      ∀ (connecting disconnecting : Action) (source sink : String),
        connecting.kind = .connect → ends? connecting = some (source, sink) →
        disconnecting.kind = .disconnect →
        disconnected? disconnecting = some (Connection.nameFor source sink) →
        Connection.nameFor source sink ∉ g.names .connection →
          (∃ c : Connection, c.Joins source sink ∧
            (g.apply connecting).connections = g.connections ++ [c]) ∧
          (g.apply connecting).apply disconnecting = g := by
  refine ⟨fun action h => apply_apply_of_not_steps g h,
    fun action step h => apply_apply_eq_iff_of_steps h, ?_⟩
  intro connecting disconnecting source sink hconnect hends hdisconnect hname hnew
  have hconnected : g.apply connecting =
      g.connect source sink (connecting.paramOrEmpty Key.className) := by
    simp only [apply, hconnect, hends]
  have hdisconnected (g : Graph) : g.apply disconnecting =
      g.disconnect (Connection.nameFor source sink) := by
    simp only [apply, hdisconnect, hname]
  rw [hdisconnected, hconnected, disconnect_connect hnew, connect_of_notMem hnew]
  exact ⟨⟨Connection.made source sink _, ⟨rfl, rfl⟩, rfl⟩, rfl⟩

/-- Of two sinks with one name the first is set. A step of three can be repeated just below the
    upper limit, a step of five reaches it. -/
theorem redelivery_harmless_iff_of_namesakes :
    let g : Graph :=
      { sinks := [{ name := "Amp", mainVolume := 32763 }, { name := "Amp" }]
        connections := [.made "Radio" "Phones" ""] }
    let limiting := ofPairs .limit [(Key.sinkName, "Amp"), (Key.limitVolume, "loud")]
    let stepping (step : String) := ofPairs .setVolume
      [(Key.sinkName, "Amp"), (Key.mainVolume, "loud"), (Key.mainVolumeStep, step)]
    let connecting := ofPairs .connect [(Key.sourceName, "Radio"), (Key.sinkName, "Amp")]
    let disconnecting := ofPairs .disconnect [(Key.connectionName, "Radio:Amp")]
    (g.apply limiting).apply limiting = g.apply limiting ∧
      (g.apply (stepping "+3")).apply (stepping "+3") ≠ g.apply (stepping "+3") ∧
      (g.apply (stepping "5")).apply (stepping "5") = g.apply (stepping "5") ∧
      (g.apply connecting).apply disconnecting = g := by
  intro g limiting stepping connecting disconnecting
  obtain ⟨hunstepped, hstepped, hconnected⟩ := redelivery_harmless_iff g
  have hthree : (stepping "+3").Steps 3 := ⟨rfl, by decide, by decide⟩
  have hfive : (stepping "5").Steps 5 := ⟨rfl, by decide, by decide⟩
  have hvolume : g.mainVolume? "Amp" = some 32763 := by decide
  refine ⟨hunstepped limiting fun step hstep => (nomatch hstep.kind), fun hsame => ?_, ?_, ?_⟩
  · exact (hstepped _ 3 hthree).1 hsame "Amp" 32763 (by decide) hvolume (by decide)
  · refine (hstepped _ 5 hfive).2 fun sink volume hsink hat => ?_
    obtain rfl : "Amp" = sink := Option.some.inj hsink
    obtain rfl : 32763 = volume := Option.some.inj (hvolume.symm.trans hat)
    decide
  · exact (hconnected connecting disconnecting "Radio" "Amp" rfl (by decide) rfl (by decide)
      (by decide)).2

end Graph
end AudioPolicy

-- SUMMARY: What a list of actions leaves alone in the graph, and what it can add.
import AudioPolicy.Proofs.Convergence

/-! # Frames

An action writes to few places. It registers elements behind those that are there, sets the
mute state, the main volume or the volume limit of a sink, makes a connection behind those that
are there, ends connections or sets their state. What it leaves alone is stated once for one
action. Frames of two lists of actions compose, so the same holds of every list. Elements stay
in their places whatever their names are, also where two have one name. -/

namespace AudioPolicy

open AudioPolicy.Action

/-- The element apart from the settings that actions make. -/
def Element.unset (e : Element) : Element :=
  { e with muteState := .unknown, mainVolume := 0, volumeLimit := none }

/-- The connection apart from its state. -/
def Connection.unstated (c : Connection) : Connection := { c with state := .unknown }

namespace Graph

/-! ## Growing lists -/

/-- Apart from what `view` leaves out, the list is as before, and behind it stands what is new. -/
def Appended {α : Type} (view : α → α) (New : α → Prop) (before after : List α) : Prop :=
  ∃ new, after.map view = before.map view ++ new ∧ ∀ a ∈ new, New a

section
variable {α : Type} {view : α → α} {New New' : α → Prop} {before middle after : List α}

theorem appended_of_map_eq (h : after.map view = before.map view) :
    Appended view New before after :=
  ⟨[], by simpa using h, List.forall_mem_nil _⟩

theorem Appended.mono (h : Appended view New before after) (hnew : ∀ a, New a → New' a) :
    Appended view New' before after := by
  obtain ⟨new, happend, hmem⟩ := h
  exact ⟨new, happend, fun a ha => hnew a (hmem a ha)⟩

theorem Appended.trans (h : Appended view New before middle)
    (h' : Appended view New' middle after) :
    Appended view (fun a => New a ∨ New' a) before after := by
  obtain ⟨new, happend, hmem⟩ := h
  obtain ⟨new', happend', hmem'⟩ := h'
  refine ⟨new ++ new', by rw [happend', happend, List.append_assoc], ?_⟩
  exact List.forall_mem_append.2 ⟨fun a ha => .inl (hmem a ha), fun a ha => .inr (hmem' a ha)⟩

/-- What is dropped for something that `view` shows is dropped from the old and from the new. -/
theorem Appended.filter (h : Appended view New before after) (keeps : α → Bool)
    (hkeeps : ∀ a, keeps (view a) = keeps a) :
    Appended view New (before.filter keeps) (after.filter keeps) := by
  obtain ⟨new, happend, hmem⟩ := h
  have hview (as : List α) : (as.filter keeps).map view = (as.map view).filter keeps := by
    rw [List.filter_map]
    exact congrArg _ (List.filter_congr fun a _ => (hkeeps a).symm)
  refine ⟨new.filter keeps, ?_, fun a ha => hmem a (List.mem_of_mem_filter ha)⟩
  rw [hview, hview, happend, List.filter_append]

end

/-! ## What actions write -/

/-- One of the actions registers the element, as it is when it is new. -/
def Registers (actions : List Action) (kind : ElementKind) (e : Element) : Prop :=
  ∃ action ∈ actions, action.kind = .register ∧
    ∃ key ∈ listKey? kind, ∃ name ∈ Text.words (action.paramOrEmpty key),
      e = { name, domain := action.paramOrEmpty Key.domainName }

/-- One of the actions makes the connection, whose state does not count. -/
def Connects (actions : List Action) (c : Connection) : Prop :=
  ∃ action ∈ actions, action.kind = .connect ∧
    ∃ source sink, ends? action = some (source, sink) ∧
      c = (Connection.made source sink (action.paramOrEmpty Key.className)).unstated

/-- Whether one of the actions ends the connections with a name. -/
def isEnded (actions : List Action) (name : String) : Bool :=
  actions.any fun action => action.kind == .disconnect && disconnected? action == some name

/-- What a list of actions can make of a graph. -/
structure Framed (actions : List Action) (g after : Graph) : Prop where
  domains : after.domains = g.domains
  classes : after.classes = g.classes
  systemProperties : after.systemProperties = g.systemProperties
  sinks : Appended Element.unset (Registers actions .sink) g.sinks after.sinks
  sources : Appended id (Registers actions .source) g.sources after.sources
  gateways : Appended id (Registers actions .gateway) g.gateways after.gateways
  /-- Nothing that is listed is left out. -/
  listed : ∀ kind e, Registers actions kind e → after.isRegistered kind e.name = true
  /-- Of the old connections just those stay that no action ends. -/
  connections : Appended Connection.unstated (Connects actions)
    (g.connections.filter fun c => !isEnded actions c.name) after.connections

section
variable {actions others : List Action} {action : Action} {g middle after : Graph}
  {kind : ElementKind}

/-! ## Composition -/

theorem registers_append_iff {e : Element} :
    Registers (actions ++ others) kind e ↔ Registers actions kind e ∨ Registers others kind e := by
  simp only [Registers, List.mem_append, or_and_right, exists_or]

theorem connects_append_iff {c : Connection} :
    Connects (actions ++ others) c ↔ Connects actions c ∨ Connects others c := by
  simp only [Connects, List.mem_append, or_and_right, exists_or]

theorem not_registers_connection {e : Element} : ¬ Registers actions .connection e := by
  simp [Registers, listKey?]

/-- A list that grows keeps its names. -/
theorem Appended.map_name_subset {view : Element → Element} {New : Element → Prop}
    {before after : List Element} (h : Appended view New before after)
    (hview : ∀ e, (view e).name = e.name) : before.map (·.name) ⊆ after.map (·.name) := by
  obtain ⟨new, happend, -⟩ := h
  have hnames (es : List Element) : (es.map view).map (·.name) = es.map (·.name) := by
    simp [hview]
  rw [← hnames before, ← hnames after, happend, List.map_append]
  exact List.subset_append_left _ _

theorem Framed.names_subset (h : Framed actions g after) (hkind : kind ≠ .connection) :
    g.names kind ⊆ after.names kind := by
  cases kind with
  | connection => contradiction
  | sink => exact h.sinks.map_name_subset fun _ => rfl
  | source => exact h.sources.map_name_subset fun _ => rfl
  | gateway => exact h.gateways.map_name_subset fun _ => rfl
  | domain => simp [names, h.domains]
  | class_ => simp [names, h.classes]

theorem framed_nil (g : Graph) : Framed [] g g where
  domains := rfl
  classes := rfl
  systemProperties := rfl
  sinks := appended_of_map_eq rfl
  sources := appended_of_map_eq rfl
  gateways := appended_of_map_eq rfl
  listed := by simp [Registers]
  connections := appended_of_map_eq (by simp [isEnded])

theorem Framed.trans (h : Framed actions g middle) (h' : Framed others middle after) :
    Framed (actions ++ others) g after where
  domains := h'.domains.trans h.domains
  classes := h'.classes.trans h.classes
  systemProperties := h'.systemProperties.trans h.systemProperties
  sinks := (h.sinks.trans h'.sinks).mono fun _ => registers_append_iff.2
  sources := (h.sources.trans h'.sources).mono fun _ => registers_append_iff.2
  gateways := (h.gateways.trans h'.gateways).mono fun _ => registers_append_iff.2
  listed kind e hlisted := by
    rcases registers_append_iff.1 hlisted with hlisted | hlisted
    · have hkind : kind ≠ .connection := by
        rintro rfl
        exact not_registers_connection hlisted
      have hmem := List.contains_iff_mem.1 (h.listed kind e hlisted)
      exact List.contains_iff_mem.2 (h'.names_subset hkind hmem)
    · exact h'.listed kind e hlisted
  connections := by
    -- The later actions end old connections as well as those that the first ones made.
    have hfirst := h.connections.filter (fun c => !isEnded others c.name) fun _ => rfl
    have hkeeps (c : Connection) : (!isEnded others c.name && !isEnded actions c.name) =
        !isEnded (actions ++ others) c.name := by
      simp only [isEnded, List.any_append, Bool.not_or, Bool.and_comm]
    simp only [List.filter_filter, hkeeps] at hfirst
    exact (hfirst.trans h'.connections).mono fun _ => connects_append_iff.2

/-! ## One action -/

theorem isEnded_singleton_eq_false (h : action.kind ≠ .disconnect) (name : String) :
    isEnded [action] name = false := by
  simp [isEnded, h]

theorem not_registers_singleton (h : action.kind ≠ .register) (e : Element) :
    ¬ Registers [action] kind e := by
  simp [Registers, h]

/-- An action that only changes connections. -/
theorem framed_of_connections (hkind : action.kind ≠ .register) {cs : List Connection}
    (h : Appended Connection.unstated (Connects [action])
      (g.connections.filter fun c => !isEnded [action] c.name) cs) :
    Framed [action] g { g with connections := cs } where
  domains := rfl
  classes := rfl
  systemProperties := rfl
  sinks := appended_of_map_eq rfl
  sources := appended_of_map_eq rfl
  gateways := appended_of_map_eq rfl
  listed _ e hlisted := absurd hlisted (not_registers_singleton hkind e)
  connections := h

/-- An action that only changes settings of sinks. -/
theorem framed_of_sinks (hkind : action.kind ≠ .register ∧ action.kind ≠ .disconnect)
    {es : List Element} (h : es.map Element.unset = g.sinks.map Element.unset) :
    Framed [action] g { g with sinks := es } where
  domains := rfl
  classes := rfl
  systemProperties := rfl
  sinks := appended_of_map_eq h
  sources := appended_of_map_eq rfl
  gateways := appended_of_map_eq rfl
  listed _ e hlisted := absurd hlisted (not_registers_singleton hkind.1 e)
  connections := appended_of_map_eq (by simp [isEnded_singleton_eq_false hkind.2])

theorem framed_self (hkind : action.kind ≠ .register ∧ action.kind ≠ .disconnect) (g : Graph) :
    Framed [action] g g :=
  framed_of_sinks hkind rfl

theorem framed_updateSink (hkind : action.kind ≠ .register ∧ action.kind ≠ .disconnect)
    {change : Element → Element} (hchange : ∀ e, (change e).unset = e.unset) (g : Graph) :
    Framed [action] g (g.updateSink action change) := by
  unfold updateSink
  split
  next name _ => exact framed_of_sinks hkind (map_updateFirst hchange name g.sinks)
  next => exact framed_self hkind g

theorem framed_setConnectionState (hkind : action.kind ≠ .register ∧ action.kind ≠ .disconnect)
    (g : Graph) (state : ConnectionState) :
    Framed [action] g (g.setConnectionState action state) := by
  unfold setConnectionState
  split
  next name _ =>
    refine framed_of_connections hkind.1 (appended_of_map_eq ?_)
    have hunstated (c : Connection) :
        (if c.name = name then { c with state } else c).unstated = c.unstated := by
      split <;> rfl
    simp [isEnded_singleton_eq_false hkind.2, hunstated]
  next => exact framed_self hkind g

theorem framed_connect {source sink : String} (hkind : action.kind = .connect)
    (hends : ends? action = some (source, sink)) (g : Graph) :
    Framed [action] g (g.connect source sink (action.paramOrEmpty Key.className)) := by
  have hother : action.kind ≠ .register ∧ action.kind ≠ .disconnect := by simp [hkind]
  unfold connect
  split
  · exact framed_self hother g
  · refine framed_of_connections hother.1
      ⟨[(Connection.made source sink (action.paramOrEmpty Key.className)).unstated], ?_, ?_⟩
    · simp [isEnded_singleton_eq_false hother.2]
    · simp only [List.mem_singleton, forall_eq]
      exact ⟨action, List.mem_singleton_self _, hkind, source, sink, hends, rfl⟩

theorem framed_disconnect {name : String} (hkind : action.kind = .disconnect)
    (hname : disconnected? action = some name) (g : Graph) :
    Framed [action] g (g.disconnect name) := by
  refine framed_of_connections (by simp [hkind]) (appended_of_map_eq ?_)
  have hended (c : Connection) : (c.name != name) = !isEnded [action] c.name := by
    simp [isEnded, hkind, hname, bne, Bool.beq_comm]
  simp only [hended]

/-- What has the form of a new element looks the same when it has its settings. -/
theorem appended_addElements {view : Element → Element} {domain : String}
    (hview : ∀ name, view { name, domain } = { name, domain }) (names : List String)
    (es : List Element) :
    Appended view (fun e => ∃ name ∈ names, e = { name, domain }) es
      (addElements domain names es) := by
  unfold addElements
  induction names generalizing es with
  | nil => exact appended_of_map_eq rfl
  | cons first names ih =>
    have hfirst : Appended view (fun e => ∃ name ∈ first :: names, e = { name, domain }) es
        (if es.any fun e => e.name == first then es
          else es ++ [{ name := first, domain : Element }]) := by
      split
      · exact appended_of_map_eq rfl
      · exact ⟨[{ name := first, domain }], by simp [hview], by simp⟩
    refine (hfirst.trans (ih _)).mono ?_
    rintro e (hnew | ⟨name, hname, rfl⟩)
    · exact hnew
    · exact ⟨name, List.mem_cons_of_mem _ hname, rfl⟩

theorem registers_singleton (hkind : action.kind = .register) {key : String}
    (hkey : listKey? kind = some key) {e : Element}
    (h : ∃ name ∈ Text.words (action.paramOrEmpty key),
      e = { name, domain := action.paramOrEmpty Key.domainName }) :
    Registers [action] kind e :=
  ⟨action, List.mem_singleton_self _, hkind, key, hkey, h⟩

theorem framed_register (hkind : action.kind = .register) (g : Graph) :
    Framed [action] g (g.register action) where
  domains := rfl
  classes := rfl
  systemProperties := rfl
  sinks := (appended_addElements (fun _ => rfl) _ _).mono fun _ => registers_singleton hkind rfl
  sources := (appended_addElements (fun _ => rfl) _ _).mono fun _ => registers_singleton hkind rfl
  gateways := (appended_addElements (fun _ => rfl) _ _).mono fun _ => registers_singleton hkind rfl
  listed kind e hlisted := by
    obtain ⟨listing, hlisting, -, key, hkey, name, hname, rfl⟩ := hlisted
    obtain rfl := List.mem_singleton.1 hlisting
    exact isRegistered_register.2 (.inr ⟨key, hkey, hname⟩)
  connections := by
    have hended := isEnded_singleton_eq_false (by simp [hkind] : action.kind ≠ .disconnect)
    exact appended_of_map_eq (by simp [hended, register])

theorem framed_apply (g : Graph) (action : Action) : Framed [action] g (g.apply action) := by
  unfold apply
  cases hkind : action.kind with
  | connect =>
    dsimp only
    split
    next hends => exact framed_connect hkind hends g
    next => exact framed_self (by simp [hkind]) g
  | disconnect =>
    dsimp only
    split
    next hname => exact framed_disconnect hkind hname g
    next hnone =>
      refine framed_of_connections (by simp [hkind]) (appended_of_map_eq ?_)
      simp [isEnded, hnone]
  | suspend | resume => exact framed_setConnectionState (by simp [hkind]) g _
  | mute | unmute | setVolume | limit | unlimit =>
    have hother : action.kind ≠ .register ∧ action.kind ≠ .disconnect := by simp [hkind]
    apply framed_updateSink hother
    intro e
    rfl
  | register => exact framed_register hkind g
  | push | pop | setProperty | setProperties | setSystemProperty | setSystemProperties
  | setNotificationConfiguration | debug => exact framed_self (by simp [hkind]) g

end

/-! ## Lists of actions -/

/-- Whatever actions are applied in whatever order: domains, classes and system properties stay.
    Elements stay where they are, sinks apart from their settings, and behind them stand new
    ones, which an action lists and which are new as that action makes them. All that is listed
    is there. Of the old connections those stay that no action ends, in their order and apart
    from their state, and behind them stand connections that an action makes. -/
theorem framed_applyAll (g : Graph) (actions : List Action) :
    Framed actions g (g.applyAll actions) := by
  induction actions generalizing g with
  | nil => exact framed_nil g
  | cons action actions ih => exact (framed_apply g action).trans (ih (g.apply action))

end Graph
end AudioPolicy

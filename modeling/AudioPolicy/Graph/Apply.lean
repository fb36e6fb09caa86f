-- SUMMARY: What each action does to the audio graph.
import AudioPolicy.Action
import AudioPolicy.Graph

/-! # Applying actions

Only some actions change the graph. They make and end connections, suspend and
resume them, set the mute state, the main volume and the volume limit of a sink,
and register elements. Every other action leaves the graph as it is, and so does
an action whose target does not exist. -/

namespace AudioPolicy.Graph

/-! ## Targets -/

/-- Changes the first element with a name. -/
def updateFirst (name : String) (change : Element → Element) : List Element → List Element
  | [] => []
  | e :: es => if e.name = name then change e :: es else e :: updateFirst name change es

/-- A change shows in nothing that it keeps of each element. -/
theorem map_updateFirst {α : Type} {part : Element → α} {change : Element → Element}
    (hpart : ∀ e, part (change e) = part e) (name : String) (es : List Element) :
    (updateFirst name change es).map part = es.map part := by
  induction es with
  | nil => rfl
  | cons e es ih =>
    simp only [updateFirst]
    split
    · simp [hpart]
    · simp [ih]

/-- Changes the sink that an action names. -/
def updateSink (g : Graph) (action : Action) (change : Element → Element) : Graph :=
  match action.param? Action.Key.sinkName with
  | some name => { g with sinks := updateFirst name change g.sinks }
  | none => g

/-- Sets the state of every connection that an action names. -/
def setConnectionState (g : Graph) (action : Action) (state : ConnectionState) : Graph :=
  match action.param? Action.Key.connectionName with
  | some name =>
    { g with connections :=
        g.connections.map fun c => if c.name = name then { c with state } else c }
  | none => g

/-- The source and the sink that an action names. -/
def ends? (action : Action) : Option (String × String) :=
  match action.param? Action.Key.sourceName, action.param? Action.Key.sinkName with
  | some source, some sink => some (source, sink)
  | _, _ => none

/-! ## Connections -/

/-- Adds a connection, unless one of that name exists. -/
def connect (g : Graph) (source sink class_ : String) : Graph :=
  if g.connections.any fun c => c.name == Connection.nameFor source sink then g
  else { g with connections := g.connections ++ [Connection.made source sink class_] }

/-- Removes every connection with a name. -/
def disconnect (g : Graph) (name : String) : Graph :=
  { g with connections := g.connections.filter fun c => c.name != name }

/-- The connection that a disconnect is about: the one it names, else the one
    between its two ends. -/
def disconnected? (action : Action) : Option String :=
  match action.param? Action.Key.connectionName with
  | some name => some name
  | none => (ends? action).map fun (source, sink) => Connection.nameFor source sink

/-! ## Volumes -/

/-- The parameter `key` as a number of 16 bits. -/
def level? (action : Action) (key : String) : Option Int16 :=
  (action.param? key).bind Numeral.int16?

/-- The main volume after a volume action. An absolute volume goes before a step,
    and a step stops at the limits of 16 bits. -/
def newVolume (action : Action) (old : Int16) : Int16 :=
  match level? action Action.Key.mainVolume, level? action Action.Key.mainVolumeStep with
  | some volume, _ => volume
  | none, some step => Int16.ofIntClamp (old.toInt + step.toInt)
  | none, none => old

/-! ## Registration -/

/-- Appends an element in `domain` for each name that is not there yet. -/
def addElements (domain : String) (names : List String) (es : List Element) : List Element :=
  names.foldl
    (fun es name =>
      if es.any fun e => e.name == name then es else es ++ [{ name, domain : Element }])
    es

/-- Registers the elements that an action lists. -/
def register (g : Graph) (action : Action) : Graph :=
  let domain := action.paramOrEmpty Action.Key.domainName
  let listed (key : String) := Text.words (action.paramOrEmpty key)
  { g with
    sinks := addElements domain (listed Action.Key.listSinks) g.sinks
    sources := addElements domain (listed Action.Key.listSources) g.sources
    gateways := addElements domain (listed Action.Key.listGateways) g.gateways }

/-! ## Actions -/

/-- The graph after an action. -/
def apply (g : Graph) (action : Action) : Graph :=
  match action.kind with
  | .connect =>
    match ends? action with
    | some (source, sink) => g.connect source sink (action.paramOrEmpty Action.Key.className)
    | none => g
  | .disconnect =>
    match disconnected? action with
    | some name => g.disconnect name
    | none => g
  | .suspend => g.setConnectionState action .suspended
  | .resume => g.setConnectionState action .connected
  | .mute => g.updateSink action fun sink => { sink with muteState := .muted }
  | .unmute => g.updateSink action fun sink => { sink with muteState := .unmuted }
  | .setVolume =>
    g.updateSink action fun sink => { sink with mainVolume := newVolume action sink.mainVolume }
  | .limit =>
    g.updateSink action fun sink =>
      { sink with volumeLimit := level? action Action.Key.limitVolume }
  | .unlimit => g.updateSink action fun sink => { sink with volumeLimit := none }
  | .register => g.register action
  | .push | .pop | .setProperty | .setProperties | .setSystemProperty | .setSystemProperties
  | .setNotificationConfiguration | .debug => g

/-- The graph after a list of actions, applied in order. -/
def applyAll (g : Graph) (actions : List Action) : Graph := actions.foldl apply g

/-- Whether an action asks for a connection without naming both ends. -/
def lacksEnds (action : Action) : Bool :=
  action.kind == .connect && (ends? action).isNone

end AudioPolicy.Graph

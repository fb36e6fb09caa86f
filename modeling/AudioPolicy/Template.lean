-- SUMMARY: Action templates as policies declare them, and resolving one for a trigger.
import AudioPolicy.Action
import AudioPolicy.Trigger

/-! # Action templates

A template is an action whose parameters are still expressions. For a trigger it
becomes an action in two steps. First each written parameter gets its value. Then
parameters that the operation needs and the policy left out are filled in from the
trigger. The second step never replaces what a policy wrote. The mute and limit
states are an exception, since the operation itself decides them. -/

namespace AudioPolicy

/-- An operation with unresolved parameters. -/
structure Template where
  kind : Action.Kind
  params : Params := .empty
  deriving DecidableEq, Repr

namespace Template

open AudioPolicy.Action

/-! ## Written parameters -/

/-- The text between two quotes that enclose it. -/
def unquoted? (text : String) : Option String :=
  match text.toList with
  | '"' :: rest =>
    if rest.getLast? = some '"' then some (String.ofList rest.dropLast) else none
  | _ => none

/-- The written list of the properties, if there are any. -/
def listText? (ps : List Property) : Option String :=
  if ps.isEmpty then none else some (Property.listText ps)

/-- What the word `REQUESTING` stands for under a key. -/
def requesting? (t : Trigger) (key : String) : Option String :=
  if key = Key.sinkName ∨ key = Key.exceptSink then t.sink?
  else if key = Key.sourceName ∨ key = Key.exceptSource then t.source?
  else if key = Key.className then t.class?
  else if key = Key.domainName then t.domain?
  else if key = Key.gatewayName then t.gateway?
  else if key = Key.connectionName then t.connection?
  else if key = Key.listMainSoundProperties then listText? t.mainSoundProperties
  else if key = Key.listSystemProperties then listText? t.systemProperties
  else none

/-- What a written parameter is. -/
inductive Written
  /-- A quoted text, which is taken as it stands. -/
  | literal (text : String)
  /-- The word `REQUESTING`. -/
  | requesting
  /-- An expression. -/
  | expression (text : String)
  deriving DecidableEq, Repr

/-- Classifies a written parameter. Blanks around it do not count. -/
def Written.ofText (text : String) : Written :=
  let text := Text.trim text
  match unquoted? text with
  | some inner => .literal inner
  | none => if text = "REQUESTING" then .requesting else .expression text

/-! ## Defaults -/

/-- The keys that say which sink, source or class an action is for. -/
def targetKeys : List String := [Key.sinkName, Key.sourceName, Key.className]

/-- Fills in a parameter that the trigger may carry. -/
def fill (key : String) (value : Option String) (ps : Params) : Params :=
  match value with
  | some value => ps.insertIfNew key value
  | none => ps

/-- Fills in the sink of the trigger, unless the action has a target. -/
def fillSink (t : Trigger) (ps : Params) : Params :=
  if ps.hasAny targetKeys then ps else fill Key.sinkName t.sink? ps

/-- Fills in the sink or else the source of the trigger, unless the action has one. -/
def fillEndpoint (t : Trigger) (ps : Params) : Params :=
  if ps.hasAny [Key.sinkName, Key.sourceName] then ps
  else
    match t.sink? with
    | some sink => ps.insertIfNew Key.sinkName sink
    | none => fill Key.sourceName t.source? ps

/-- Fills in the volume of the trigger, unless the action has one. -/
def fillVolume (t : Trigger) (ps : Params) : Params :=
  if ps.hasAny [Key.mainVolume, Key.mainVolumeStep, Key.volume] then ps
  else
    let key := if t.isVolumeStep? = some true then Key.mainVolumeStep else Key.mainVolume
    fill key (t.mainVolume?.map Numeral.text16) ps

/-- Fills in the ends and the class of the trigger, unless the action says which
    connection it is about. -/
def fillConnection (t : Trigger) (ps : Params) : Params :=
  if ps.hasAny [Key.sinkName, Key.sourceName, Key.connectionName] then ps
  else fill Key.className t.class? (fill Key.sinkName t.sink? (fill Key.sourceName t.source? ps))

/-- Fills in the type and the value of a property. -/
def fillProperty (property : Option Property) (ps : Params) : Params :=
  fill Key.propertyValue (property.map fun p => Numeral.text16 p.value)
    (fill Key.propertyType (property.map fun p => Numeral.text16 p.type) ps)

/-- Fills in the parts of the notification configuration of the trigger. -/
def fillNotification (t : Trigger) (ps : Params) : Params :=
  let configuration := t.notificationConfiguration?
  fill Key.notificationParam (configuration.map fun c => Numeral.text16 c.parameter)
    (fill Key.notificationStatus (configuration.map fun c => codeText c.status)
      (fill Key.notificationType (configuration.map fun c => Numeral.text16 c.type) ps))

/-- Fills in what an operation needs and its parameters leave out. -/
def fillDefaults (kind : Action.Kind) (t : Trigger) (ps : Params) : Params :=
  match kind with
  | .mute => fillSink t (ps.insert Key.muteState (codeText MuteState.muted))
  | .unmute => fillSink t (ps.insert Key.muteState (codeText MuteState.unmuted))
  | .limit => fillSink t (ps.insert Key.limitState (codeText LimitState.limited))
  | .unlimit => fillSink t (ps.insert Key.limitState (codeText LimitState.unlimited))
  | .setVolume => fillVolume t (fillSink t ps)
  | .connect | .disconnect => fillConnection t ps
  | .setProperty => fillProperty t.mainSoundProperties.head? (fillEndpoint t ps)
  | .setProperties =>
    fill Key.listMainSoundProperties (listText? t.mainSoundProperties) (fillEndpoint t ps)
  | .setSystemProperty => fillProperty t.systemProperties.head? ps
  | .setSystemProperties => fill Key.listSystemProperties (listText? t.systemProperties) ps
  | .setNotificationConfiguration => fillNotification t (fillEndpoint t ps)
  | .push | .pop | .suspend | .resume | .register | .debug => ps

end Template
end AudioPolicy

-- SUMMARY: The written form of triggers.
import AudioPolicy.Schema.Graph
import AudioPolicy.Trigger

/-! # Trigger documents

A trigger is an object whose field `kind` tells which other fields it has. Written as a
list it starts with its kind, and the fields follow in order. Plain scalars get their types
before the fields are read, so a name that looks like a number has to be quoted. -/

namespace AudioPolicy.Trigger

/-- The fields of a trigger besides its kind. -/
def fields : Trigger → List (String × Document)
  | userConnectionRequest source sink class_ | userDisconnectionRequest source sink class_ =>
    [("source_name", encode source), ("sink_name", encode sink), ("class_name", encode class_)]
  | userSetSinkMuteState sink state | systemSinkMuteStateChanged sink state =>
    [("sink_name", encode sink), ("mute_state", encode state)]
  | userSetVolume sink volume isStep =>
    [("sink_name", encode sink), ("volume", encode volume), ("is_step", encode isStep)]
  | userSetSinkMainSoundProperty sink property
  | systemSinkMainSoundPropertyChanged sink property =>
    [("sink_name", encode sink), ("property", encode property)]
  | userSetSourceMainSoundProperty source property
  | systemSourceMainSoundPropertyChanged source property =>
    [("source_name", encode source), ("property", encode property)]
  | userSetSinkMainSoundProperties sink properties =>
    [("sink_name", encode sink), ("properties", encode properties)]
  | userSetSourceMainSoundProperties source properties =>
    [("source_name", encode source), ("properties", encode properties)]
  | userSetSystemProperty property => [("property", encode property)]
  | userSetSystemProperties properties => [("properties", encode properties)]
  | userSetSinkMainNotificationConfiguration sink configuration =>
    [("sink_name", encode sink), ("configuration", encode configuration)]
  | userSetSourceMainNotificationConfiguration source configuration =>
    [("source_name", encode source), ("configuration", encode configuration)]
  | systemSourceAvailabilityChanged source availability class_ =>
    [("source_name", encode source), ("availability", encode availability),
      ("class_name", encode class_)]
  | systemSinkAvailabilityChanged sink availability class_ =>
    [("sink_name", encode sink), ("availability", encode availability),
      ("class_name", encode class_)]
  | systemInterruptStateChanged source state =>
    [("source_name", encode source), ("interrupt_state", encode state)]
  | systemSinkVolumeChanged sink volume =>
    [("sink_name", encode sink), ("volume", encode volume)]
  | systemRegisterDomain domain | systemDeregisterDomain domain
  | systemDomainRegistrationComplete domain => [("domain_name", encode domain)]
  | systemRegisterSource source | systemDeregisterSource source =>
    [("source_name", encode source)]
  | systemRegisterSink sink | systemDeregisterSink sink => [("sink_name", encode sink)]
  | systemRegisterGateway gateway | systemDeregisterGateway gateway =>
    [("gateway_name", encode gateway)]
  | systemConnectionStateChange connection state status =>
    [("connection_name", encode connection), ("connection_state", encode state),
      ("status", encode status)]
  | systemSinkNotificationDataChanged sink payload =>
    [("sink_name", encode sink), ("payload", encode payload)]
  | systemSourceNotificationDataChanged source payload =>
    [("source_name", encode source), ("payload", encode payload)]

instance : ToDocument Trigger where
  encode t := .object (("kind", encode t.kind) :: t.fields)

/-! ## Reading

The fields of a trigger are read once plain scalars have their types, so the form of the
document is the resolved one. -/

/-- The fields of a trigger among `names`. -/
def bodyFields (names : List String) (body : Document) : Except Mismatch Fields :=
  Fields.ofDocument .resolved names body

/-- Reads a trigger with one field. -/
def ofOne {α : Type} [OfDocument α] (make : α → Trigger) (name : String) (body : Document) :
    Except Mismatch Trigger := do
  let fields ← bodyFields [name] body
  return make (← fields.required name)

/-- Reads a trigger with two fields. -/
def ofTwo {α β : Type} [OfDocument α] [OfDocument β] (make : α → β → Trigger)
    (first second : String) (body : Document) : Except Mismatch Trigger := do
  let fields ← bodyFields [first, second] body
  return make (← fields.required first) (← fields.required second)

/-- Reads a trigger with three fields, of which the last may be left out. -/
def ofThree {α β γ : Type} [OfDocument α] [OfDocument β] [OfDocument γ]
    (make : α → β → γ → Trigger) (first second third : String) (default_ : γ)
    (body : Document) : Except Mismatch Trigger := do
  let fields ← bodyFields [first, second, third] body
  return make (← fields.required first) (← fields.required second)
    (← fields.withDefault third default_)

/-- Reads the fields of a trigger of a kind. There are no triggers of a catch-all kind. -/
def ofBody : Kind → Document → Except Mismatch Trigger
  | .userConnectionRequest =>
    ofThree userConnectionRequest "source_name" "sink_name" "class_name" none
  | .userDisconnectionRequest =>
    ofThree userDisconnectionRequest "source_name" "sink_name" "class_name" none
  | .userSetSinkMuteState => ofTwo userSetSinkMuteState "sink_name" "mute_state"
  | .userSetVolume => ofThree userSetVolume "sink_name" "volume" "is_step" false
  | .userSetSinkMainSoundProperty =>
    ofTwo userSetSinkMainSoundProperty "sink_name" "property"
  | .userSetSourceMainSoundProperty =>
    ofTwo userSetSourceMainSoundProperty "source_name" "property"
  | .userSetSinkMainSoundProperties =>
    ofTwo userSetSinkMainSoundProperties "sink_name" "properties"
  | .userSetSourceMainSoundProperties =>
    ofTwo userSetSourceMainSoundProperties "source_name" "properties"
  | .userSetSystemProperty => ofOne userSetSystemProperty "property"
  | .userSetSystemProperties => ofOne userSetSystemProperties "properties"
  | .userSetSinkMainNotificationConfiguration =>
    ofTwo userSetSinkMainNotificationConfiguration "sink_name" "configuration"
  | .userSetSourceMainNotificationConfiguration =>
    ofTwo userSetSourceMainNotificationConfiguration "source_name" "configuration"
  | .systemSourceAvailabilityChanged =>
    ofThree systemSourceAvailabilityChanged "source_name" "availability" "class_name" none
  | .systemSinkAvailabilityChanged =>
    ofThree systemSinkAvailabilityChanged "sink_name" "availability" "class_name" none
  | .systemInterruptStateChanged =>
    ofTwo systemInterruptStateChanged "source_name" "interrupt_state"
  | .systemSinkMuteStateChanged => ofTwo systemSinkMuteStateChanged "sink_name" "mute_state"
  | .systemSinkMainSoundPropertyChanged =>
    ofTwo systemSinkMainSoundPropertyChanged "sink_name" "property"
  | .systemSourceMainSoundPropertyChanged =>
    ofTwo systemSourceMainSoundPropertyChanged "source_name" "property"
  | .systemSinkVolumeChanged => ofTwo systemSinkVolumeChanged "sink_name" "volume"
  | .systemRegisterDomain => ofOne systemRegisterDomain "domain_name"
  | .systemRegisterSource => ofOne systemRegisterSource "source_name"
  | .systemRegisterSink => ofOne systemRegisterSink "sink_name"
  | .systemRegisterGateway => ofOne systemRegisterGateway "gateway_name"
  | .systemDeregisterDomain => ofOne systemDeregisterDomain "domain_name"
  | .systemDeregisterSource => ofOne systemDeregisterSource "source_name"
  | .systemDeregisterSink => ofOne systemDeregisterSink "sink_name"
  | .systemDeregisterGateway => ofOne systemDeregisterGateway "gateway_name"
  | .systemDomainRegistrationComplete => ofOne systemDomainRegistrationComplete "domain_name"
  | .systemConnectionStateChange =>
    ofThree systemConnectionStateChange "connection_name" "connection_state" "status" .ok
  | .systemSinkNotificationDataChanged =>
    ofTwo systemSinkNotificationDataChanged "sink_name" "payload"
  | .systemSourceNotificationDataChanged =>
    ofTwo systemSourceNotificationDataChanged "source_name" "payload"
  | .any | .userAll | .systemAll => fun _ => .error (.expected "the kind of a trigger")

/-- Reads the kind of a trigger. It is always a text. -/
def kindOf (d : Document) : Except Mismatch Kind := do
  match Spelled.ofWord? (← d.decodeText) with
  | some kind => return kind
  | none => .error (.expected "the kind of a trigger")

/-- The kind among the fields of a trigger, and the other fields. The kind is given once. -/
def splitFields {κ : Type} (isKind : κ → Bool) (fields : List (κ × Document)) :
    Except Mismatch (Kind × List (κ × Document)) := do
  let (kinds, others) := fields.partition fun (key, _) => isKind key
  match kinds with
  | [(_, d)] => return (← kindOf d, others)
  | [] => .error (.missing "kind")
  | _ => .error (.repeated "kind")

/-- The kind of a written trigger and the rest of it. -/
def split : Document → Except Mismatch (Kind × Document)
  | .object fields => do
    let (kind, others) ← splitFields (fun key => key == "kind") fields
    return (kind, .object others)
  | .mapping fields => do
    let (kind, others) ← splitFields isKindKey fields
    return (kind, .mapping others)
  | .list (d :: items) => do return (← kindOf d, .list items)
  | _ => .error (.expected "a trigger")
where
  /-- Whether a key is the one of the kind. -/
  isKindKey : Document → Bool
    | .text s | .plain s => s == "kind"
    | _ => false

instance : OfDocument Trigger where
  decode _ d := do
    let (kind, body) ← split d
    match body.resolve with
    | some body => ofBody kind body
    | none => .error (.expected "the fields of a trigger")

end AudioPolicy.Trigger

-- SUMMARY: What each function answers to a query.
import AudioPolicy.Query
import AudioPolicy.Scale

/-! # Answers

The answer to a query is a list of texts or a failure. Most functions find the
targets of the query and read one value from each of them. For the category `USER`
they read a value of the trigger instead. -/

namespace AudioPolicy.Query

variable (scope : Scope) (q : Query)

/-! ## Selections -/

/-- The names of the targets. For the trigger it is the text of the argument itself. -/
def name : Except Failure (List String) :=
  match q.category, q.selector with
  | .user, .name value => .ok [value]
  | .user, _ => .error q.unsupported
  | .system, _ => .error q.unsupported
  | _, _ => q.targets scope

/-- The kind and the names of the targets. -/
def selection : Except Failure (ElementKind × List String) :=
  match q.category.target? with
  | none => .error q.unsupported
  | some kind => (q.targets scope).map fun targets => (kind, targets)

/-- The names of the targets that are registered. -/
def elements : Except Failure (List String) := do
  let (kind, targets) ← q.selection scope
  return targets.filter (scope.graph.isRegistered kind)

/-- How many targets there are. -/
def count : Except Failure (List String) := do
  let (_, targets) ← q.selection scope
  return [toString targets.length]

/-- Whether each target is registered. -/
def isRegistered : Except Failure (List String) := do
  let (kind, targets) ← q.selection scope
  return targets.map fun t => Numeral.flag (scope.graph.isRegistered kind t)

/-- Whether each domain has completed its registration. -/
def isRegistrationComplete : Except Failure (List String) :=
  match q.category with
  | .domain => do
    let targets ← q.targets scope
    return targets.map fun t => Numeral.flag (scope.graph.isRegistrationComplete t)
  | _ => .error q.unsupported

/-! ## Declared values -/

/-- The declared priority of an element, or the priority of a connection. -/
def priorityOf? : ElementKind → Option (String → Option Int32)
  | .sink => some fun t => (scope.store.sink? t).map (·.priority)
  | .source => some fun t => (scope.store.source? t).map (·.priority)
  | .class_ => some fun t => (scope.store.declaredClass? t).map (·.priority)
  | .connection => some fun t => (scope.graph.connection? t).map (·.priority)
  | .domain | .gateway => none

/-- The priority of each target. -/
def priority : Except Failure (List String) := do
  let (kind, targets) ← q.selection scope
  match priorityOf? scope kind with
  | some read => readEach "priority" (fun t => (read t).map Numeral.text32) targets
  | none => .error q.unsupported

/-- The formats that the targets declare, or the format of each connection. -/
def connectionFormat : Except Failure (List String) := do
  let targets ← q.targets scope
  let declared (find : String → Option Endpoint) : List String :=
    (targets.filterMap find).flatMap fun d => d.connectionFormats.map Numeral.text16
  match q.category.target? with
  | some .connection =>
    readEach "connection format"
      (fun t => (scope.graph.connection? t).map fun c => Numeral.text16 c.format) targets
  | some .sink => return declared scope.store.sink?
  | some .source => return declared scope.store.source?
  | _ => .error q.unsupported

/-! ## States and volumes -/

/-- For the category `USER`, a value that the trigger carries, and for all others another
    result. -/
def carriedOr (what : String) (value : Option String) (other : Except Failure (List String)) :
    Except Failure (List String) :=
  match q.category with
  | .user => carried what value
  | _ => other

/-- What `read` reads from each target, if the category is one of those given. -/
def fromTargets (categories : List Category) (what : String) (read : String → Option String) :
    Except Failure (List String) :=
  if categories.contains q.category then do
    let targets ← q.targets scope
    readEach what read targets
  else .error q.unsupported

/-- The states of connections. For the category `CONNECTION` the argument does not
    count, and the states of all connections are listed. -/
def connectionState : Except Failure (List String) :=
  match q.category with
  | .user => carried "connection state" (scope.trigger.connectionState?.map codeText)
  | .connection =>
    .ok ((scope.graph.connectionsBy .all q.order).map fun c => codeText c.state)
  | .connectionOfClass | .connectionOfSink | .connectionOfSource => do
    let targets ← q.targets scope
    readEach "connection state"
      (fun t => (scope.graph.connection? t).map fun c => codeText c.state) targets
  | _ => .error q.unsupported

/-- What `read` reads from each sink or source among the targets. -/
def fromEndpoints (what : String) (read : ElementKind → String → Option String) :
    Except Failure (List String) := do
  let kind ← q.endpointKind
  let targets ← q.targets scope
  readEach what (read kind) targets

/-- The volume of each sink or source. -/
def volume : Except Failure (List String) :=
  q.fromEndpoints scope "volume" fun kind t => (scope.graph.volume? kind t).map Numeral.text16

/-- The volume limit of each sink or source. -/
def volumeLimit : Except Failure (List String) :=
  q.fromEndpoints scope "volume limit" fun kind t =>
    (scope.graph.volumeLimit? kind t).map Numeral.text16

/-- The main volume of each sink, or the one that the trigger carries. -/
def mainVolume : Except Failure (List String) :=
  q.carriedOr "main volume" (scope.trigger.mainVolume?.map Numeral.text16)
    (q.fromTargets scope [.sink, .sinkOfClass] "main volume" fun t =>
      (scope.graph.mainVolume? t).map Numeral.text16)

/-- Whether the volume of the trigger is a step. -/
def isMainVolumeStep : Except Failure (List String) :=
  q.carriedOr "volume step flag" (scope.trigger.isVolumeStep?.map Numeral.flag)
    (.error q.unsupported)

/-- The mute state of each sink, or the one that the trigger carries. -/
def muteState : Except Failure (List String) :=
  q.carriedOr "mute state" (scope.trigger.muteState?.map codeText)
    (q.fromTargets scope [.sink, .sinkOfClass] "mute state" fun t =>
      (scope.graph.muteState? t).map codeText)

/-- A part of the availability of each sink or source, or of the one that the trigger
    carries. -/
def availability (part : Availability → String) : Except Failure (List String) :=
  q.carriedOr "availability" (scope.trigger.availability?.map part)
    (q.fromEndpoints scope "availability" fun kind t =>
      (scope.graph.availability? kind t).map part)

/-- The interrupt state of each source, or the one that the trigger carries. -/
def interruptState : Except Failure (List String) :=
  q.carriedOr "interrupt state" (scope.trigger.interruptState?.map codeText)
    (q.fromTargets scope [.source, .sourceOfClass] "interrupt state" fun t =>
      (scope.graph.interruptState? t).map codeText)

/-- The state code of each source or domain. -/
def state : Except Failure (List String) := do
  let kind ←
    match q.category with
    | .source | .sourceOfClass => .ok ElementKind.source
    | .domain | .domainOfSink | .domainOfSource => .ok ElementKind.domain
    | _ => .error q.unsupported
  let targets ← q.targets scope
  readEach "state" (fun t => (scope.graph.stateCode? kind t).map Numeral.text16) targets

/-- The result that the trigger reports. -/
def status : Except Failure (List String) :=
  q.carriedOr "status" (scope.trigger.status?.map codeText) (.error q.unsupported)

/-! ## Properties -/

/-- Whether a type is the wanted one. Every type is, if none is wanted. -/
def isWanted (wanted : Option Int16) (type : Int16) : Bool :=
  match wanted with
  | some w => type == w
  | none => true

/-- One sound property of each sink or source. -/
def soundProperty : Except Failure (List String) := do
  let kind ← q.endpointKind
  match ← q.type? with
  | none => .error (.absent "sound property type parameter")
  | some type =>
    let targets ← q.targets scope
    readEach "sound property"
      (fun t => (scope.graph.soundProperty? kind t type).map Numeral.text16) targets

/-- The main sound property values of each sink or source or of the trigger, of one type
    or of all. -/
def mainSoundPropertyValue : Except Failure (List String) := do
  let wanted ← q.type?
  match q.category with
  | .user =>
    carriedAll "main sound property in trigger"
      ((scope.trigger.mainSoundProperties.filter fun p => isWanted wanted p.type).map
        fun p => Numeral.text16 p.value)
  | _ =>
    let kind ← q.endpointKind
    let targets ← q.targets scope
    match wanted with
    | some type =>
      readEach "main sound property"
        (fun t => (scope.graph.mainSoundProperty? kind t type).map Numeral.text16) targets
    | none =>
      return (targets.flatMap (scope.graph.mainSoundProperties kind)).map
        fun p => Numeral.text16 p.value

/-- The main sound property types of the sinks, the sources or the trigger. -/
def mainSoundPropertyType : Except Failure (List String) :=
  match q.category with
  | .user => .ok (scope.trigger.mainSoundProperties.map fun p => Numeral.text16 p.type)
  | _ => do
    let kind ← q.endpointKind
    let targets ← q.targets scope
    return ((targets.flatMap (scope.graph.mainSoundProperties kind)).map
      fun p => Numeral.text16 p.type).eraseDups

/-- The value of the system property whose type a text denotes. -/
def systemValue? (type : String) : Option String := do
  let type ← (Symbol.number? type).bind Numeral.narrow16?
  return Numeral.text16 (← scope.graph.systemProperty? type)

/-- The system property values of the trigger or of the system. For the system the
    mandatory argument selects the types. -/
def systemPropertyValue : Except Failure (List String) :=
  match q.category with
  | .user => do
    let wanted ← q.type?
    carriedAll "system property in trigger"
      ((scope.trigger.systemProperties.filter fun p => isWanted wanted p.type).map
        fun p => Numeral.text16 p.value)
  | .system =>
    match q.selector with
    | .all => .ok (scope.graph.systemProperties.map fun p => Numeral.text16 p.value)
    | .requesting =>
      readEach "system property" (systemValue? scope)
        (scope.trigger.systemProperties.map fun p => Numeral.text16 p.type)
    | .name type => readEach "system property" (systemValue? scope) [type]
  | _ => .error q.unsupported

/-- The system property types of the trigger or of the system. -/
def systemPropertyType : Except Failure (List String) :=
  match q.category with
  | .user => .ok (scope.trigger.systemProperties.map fun p => Numeral.text16 p.type)
  | .system => .ok (scope.graph.systemProperties.map fun p => Numeral.text16 p.type)
  | _ => .error q.unsupported

/-! ## Notifications -/

/-- A part of the notification configurations of each sink or source, of one type or of
    all. -/
def configurationsOf (configurations : ElementKind → String → List NotificationConfiguration)
    (part : NotificationConfiguration → String) (wanted : Option Int16) :
    Except Failure (List String) := do
  let kind ← q.endpointKind
  let targets ← q.targets scope
  let values := ((targets.flatMap (configurations kind)).filter
    fun c => isWanted wanted c.type).map part
  if values.isEmpty && wanted.isSome then .error (.absent "notification configuration")
  else return values

/-- A part of the notification configurations of sinks and sources. The trigger carries
    none of these. -/
def notificationConfiguration (part : NotificationConfiguration → String) :
    Except Failure (List String) := do
  let wanted ← q.type?
  match q.category with
  | .user => .error q.unsupported
  | _ => q.configurationsOf scope scope.graph.notifications part wanted

/-- A part of the main notification configurations of sinks and sources, or of the one
    that the trigger carries. -/
def mainNotificationConfiguration (part : NotificationConfiguration → String) :
    Except Failure (List String) := do
  let wanted ← q.type?
  match q.category with
  | .user =>
    match scope.trigger.notificationConfiguration?.filter fun c => isWanted wanted c.type with
    | some c => return [part c]
    | none => .error (.absent "notification configuration in trigger")
  | _ => q.configurationsOf scope scope.graph.mainNotifications part wanted

/-- A part of the notification that the trigger reports. -/
def notificationData (part : NotificationPayload → Int16) : Except Failure (List String) :=
  q.carriedOr "notification payload"
    (scope.trigger.notificationPayload?.map fun p => Numeral.text16 (part p))
    (.error q.unsupported)

/-! ## Queues and scales -/

/-- The queue of connections that a category is about. -/
def queue? : Category → Option (String → Connection.Filter)
  | .class_ | .classOfSink | .classOfSource => some .class_
  | .sink => some .sink
  | .source => some .source
  | _ => none

/-- The connection at a place in the priority queue of each target. -/
def peek : Except Failure (List String) := do
  match queue? q.category with
  | none => .error q.unsupported
  | some filter =>
    let index := (← q.number?).getD 0
    if index < 0 then .error (.negativeIndex index)
    else
      let targets ← q.targets scope
      return targets.filterMap fun t =>
        (scope.graph.connectionsBy (filter t) .highPriority)[index.toNat]?.map (·.name)

/-- The value of a written scale at a number. -/
def scale : Except Failure (List String) :=
  match q.selector with
  | .name input =>
    match Symbol.number? input with
    | none => .error (.scaleInput input)
    | some x =>
      match q.optional? 0 with
      | none => .error (.absent "scale anchor table")
      | some table =>
        match Scale.anchors? table with
        | none => .error (.scaleAnchors table)
        | some anchors =>
          match Scale.interpolate? (Int64.ofInt x).toFloat anchors with
          | none => .error (.absent "scale anchors")
          | some y => .ok [toString (Scale.nearest y)]
  | _ => .error q.unsupported

/-! ## All functions -/

/-- The answer to a query. -/
def answer : Except Failure (List String) :=
  match q.function with
  | .name => q.name scope
  | .elements => q.elements scope
  | .count => q.count scope
  | .priority => q.priority scope
  | .connectionState => q.connectionState scope
  | .volume => q.volume scope
  | .mainVolume => q.mainVolume scope
  | .isMainVolumeStep => q.isMainVolumeStep scope
  | .volumeLimit => q.volumeLimit scope
  | .soundProperty => q.soundProperty scope
  | .mainSoundPropertyValue => q.mainSoundPropertyValue scope
  | .mainSoundPropertyType => q.mainSoundPropertyType scope
  | .systemPropertyValue => q.systemPropertyValue scope
  | .systemPropertyType => q.systemPropertyType scope
  | .muteState => q.muteState scope
  | .availability => q.availability scope fun a => codeText a.state
  | .availabilityReason => q.availability scope fun a => Numeral.text16 a.reason
  | .connectionFormat => q.connectionFormat scope
  | .interruptState => q.interruptState scope
  | .isRegistered => q.isRegistered scope
  | .isRegistrationComplete => q.isRegistrationComplete scope
  | .state => q.state scope
  | .peek => q.peek scope
  | .error => q.status scope
  | .notificationConfigurationStatus =>
    q.notificationConfiguration scope fun c => codeText c.status
  | .notificationConfigurationParam =>
    q.notificationConfiguration scope fun c => Numeral.text16 c.parameter
  | .notificationDataValue => q.notificationData scope (·.value)
  | .notificationDataType => q.notificationData scope (·.type)
  | .mainNotificationConfigurationType =>
    q.mainNotificationConfiguration scope fun c => Numeral.text16 c.type
  | .mainNotificationConfigurationStatus =>
    q.mainNotificationConfiguration scope fun c => codeText c.status
  | .mainNotificationConfigurationParam =>
    q.mainNotificationConfiguration scope fun c => Numeral.text16 c.parameter
  | .scale => q.scale

end AudioPolicy.Query

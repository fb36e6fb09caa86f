-- SUMMARY: Triggers: the events that policies react to, and the values each one carries.
import AudioPolicy.Connection
import AudioPolicy.Property
import AudioPolicy.Trigger.Kind

/-! # Triggers

A trigger is one event, raised by a user or by the system. Each constructor
carries what is known for its kind. The functions below read one value out of a
trigger and answer `none` if its kind does not carry that value. -/

namespace AudioPolicy

/-- An event. -/
inductive Trigger
  | userConnectionRequest (source sink : String) (class_ : Option String)
  | userDisconnectionRequest (source sink : String) (class_ : Option String)
  | userSetSinkMuteState (sink : String) (state : MuteState)
  /-- A step is relative to the main volume in force. -/
  | userSetVolume (sink : String) (volume : Int16) (isStep : Bool)
  | userSetSinkMainSoundProperty (sink : String) (property : Property)
  | userSetSourceMainSoundProperty (source : String) (property : Property)
  | userSetSinkMainSoundProperties (sink : String) (properties : List Property)
  | userSetSourceMainSoundProperties (source : String) (properties : List Property)
  | userSetSystemProperty (property : Property)
  | userSetSystemProperties (properties : List Property)
  | userSetSinkMainNotificationConfiguration (sink : String)
      (configuration : NotificationConfiguration)
  | userSetSourceMainNotificationConfiguration (source : String)
      (configuration : NotificationConfiguration)
  | systemSourceAvailabilityChanged (source : String) (availability : Availability)
      (class_ : Option String)
  | systemSinkAvailabilityChanged (sink : String) (availability : Availability)
      (class_ : Option String)
  | systemInterruptStateChanged (source : String) (state : InterruptState)
  | systemSinkMuteStateChanged (sink : String) (state : MuteState)
  | systemSinkMainSoundPropertyChanged (sink : String) (property : Property)
  | systemSourceMainSoundPropertyChanged (source : String) (property : Property)
  | systemSinkVolumeChanged (sink : String) (volume : Int16)
  | systemRegisterDomain (domain : String)
  | systemRegisterSource (source : String)
  | systemRegisterSink (sink : String)
  | systemRegisterGateway (gateway : String)
  | systemDeregisterDomain (domain : String)
  | systemDeregisterSource (source : String)
  | systemDeregisterSink (sink : String)
  | systemDeregisterGateway (gateway : String)
  | systemDomainRegistrationComplete (domain : String)
  | systemConnectionStateChange (connection : String) (state : ConnectionState)
      (status : ResultCode)
  | systemSinkNotificationDataChanged (sink : String) (payload : NotificationPayload)
  | systemSourceNotificationDataChanged (source : String) (payload : NotificationPayload)
  deriving DecidableEq, Repr

namespace Trigger

/-- The kind of a trigger. -/
def kind : Trigger → Kind
  | userConnectionRequest .. => .userConnectionRequest
  | userDisconnectionRequest .. => .userDisconnectionRequest
  | userSetSinkMuteState .. => .userSetSinkMuteState
  | userSetVolume .. => .userSetVolume
  | userSetSinkMainSoundProperty .. => .userSetSinkMainSoundProperty
  | userSetSourceMainSoundProperty .. => .userSetSourceMainSoundProperty
  | userSetSinkMainSoundProperties .. => .userSetSinkMainSoundProperties
  | userSetSourceMainSoundProperties .. => .userSetSourceMainSoundProperties
  | userSetSystemProperty .. => .userSetSystemProperty
  | userSetSystemProperties .. => .userSetSystemProperties
  | userSetSinkMainNotificationConfiguration .. => .userSetSinkMainNotificationConfiguration
  | userSetSourceMainNotificationConfiguration .. => .userSetSourceMainNotificationConfiguration
  | systemSourceAvailabilityChanged .. => .systemSourceAvailabilityChanged
  | systemSinkAvailabilityChanged .. => .systemSinkAvailabilityChanged
  | systemInterruptStateChanged .. => .systemInterruptStateChanged
  | systemSinkMuteStateChanged .. => .systemSinkMuteStateChanged
  | systemSinkMainSoundPropertyChanged .. => .systemSinkMainSoundPropertyChanged
  | systemSourceMainSoundPropertyChanged .. => .systemSourceMainSoundPropertyChanged
  | systemSinkVolumeChanged .. => .systemSinkVolumeChanged
  | systemRegisterDomain .. => .systemRegisterDomain
  | systemRegisterSource .. => .systemRegisterSource
  | systemRegisterSink .. => .systemRegisterSink
  | systemRegisterGateway .. => .systemRegisterGateway
  | systemDeregisterDomain .. => .systemDeregisterDomain
  | systemDeregisterSource .. => .systemDeregisterSource
  | systemDeregisterSink .. => .systemDeregisterSink
  | systemDeregisterGateway .. => .systemDeregisterGateway
  | systemDomainRegistrationComplete .. => .systemDomainRegistrationComplete
  | systemConnectionStateChange .. => .systemConnectionStateChange
  | systemSinkNotificationDataChanged .. => .systemSinkNotificationDataChanged
  | systemSourceNotificationDataChanged .. => .systemSourceNotificationDataChanged

/-- Who raised a trigger. -/
def origin (t : Trigger) : Origin := t.kind.origin?.getD .system

/-! ## Names -/

/-- The sink that a trigger is about. -/
def sink? : Trigger → Option String
  | userConnectionRequest _ sink _ | userDisconnectionRequest _ sink _
  | userSetSinkMuteState sink _ | userSetVolume sink _ _
  | userSetSinkMainSoundProperty sink _ | userSetSinkMainSoundProperties sink _
  | userSetSinkMainNotificationConfiguration sink _ | systemSinkAvailabilityChanged sink _ _
  | systemSinkMuteStateChanged sink _ | systemSinkMainSoundPropertyChanged sink _
  | systemSinkVolumeChanged sink _ | systemRegisterSink sink | systemDeregisterSink sink
  | systemSinkNotificationDataChanged sink _ => some sink
  | _ => none

/-- The source that a trigger is about. -/
def source? : Trigger → Option String
  | userConnectionRequest source _ _ | userDisconnectionRequest source _ _
  | userSetSourceMainSoundProperty source _ | userSetSourceMainSoundProperties source _
  | userSetSourceMainNotificationConfiguration source _
  | systemSourceAvailabilityChanged source _ _ | systemInterruptStateChanged source _
  | systemSourceMainSoundPropertyChanged source _ | systemRegisterSource source
  | systemDeregisterSource source | systemSourceNotificationDataChanged source _ => some source
  | _ => none

/-- The class that a trigger carries. -/
def class? : Trigger → Option String
  | userConnectionRequest _ _ class_ | userDisconnectionRequest _ _ class_
  | systemSourceAvailabilityChanged _ _ class_ | systemSinkAvailabilityChanged _ _ class_ =>
    class_
  | _ => none

/-- The trigger with a class, if its kind has room for one. -/
def withClass (class_ : String) : Trigger → Trigger
  | userConnectionRequest source sink _ => userConnectionRequest source sink (some class_)
  | userDisconnectionRequest source sink _ => userDisconnectionRequest source sink (some class_)
  | systemSourceAvailabilityChanged source availability _ =>
    systemSourceAvailabilityChanged source availability (some class_)
  | systemSinkAvailabilityChanged sink availability _ =>
    systemSinkAvailabilityChanged sink availability (some class_)
  | t => t

/-- The domain that a trigger is about. -/
def domain? : Trigger → Option String
  | systemRegisterDomain domain | systemDeregisterDomain domain
  | systemDomainRegistrationComplete domain => some domain
  | _ => none

/-- The gateway that a trigger is about. -/
def gateway? : Trigger → Option String
  | systemRegisterGateway gateway | systemDeregisterGateway gateway => some gateway
  | _ => none

/-- The connection that a trigger is about. For a request it is the one with the
    conventional name. -/
def connection? : Trigger → Option String
  | systemConnectionStateChange connection _ _ => some connection
  | userConnectionRequest source sink _ | userDisconnectionRequest source sink _ =>
    some (Connection.nameFor source sink)
  | _ => none

/-- The element of a kind that a trigger is about. -/
def name? (t : Trigger) : ElementKind → Option String
  | .sink => t.sink?
  | .source => t.source?
  | .class_ => t.class?
  | .domain => t.domain?
  | .gateway => t.gateway?
  | .connection => t.connection?

/-! ## States and volumes -/

/-- The connection state that a trigger reports. -/
def connectionState? : Trigger → Option ConnectionState
  | systemConnectionStateChange _ state _ => some state
  | _ => none

/-- The result that a trigger reports. -/
def status? : Trigger → Option ResultCode
  | systemConnectionStateChange _ _ status => some status
  | _ => none

/-- The main volume that a trigger requests or reports. -/
def mainVolume? : Trigger → Option Int16
  | userSetVolume _ volume _ | systemSinkVolumeChanged _ volume => some volume
  | _ => none

/-- Whether the main volume of a trigger is a step. -/
def isVolumeStep? : Trigger → Option Bool
  | userSetVolume _ _ isStep => some isStep
  | systemSinkVolumeChanged .. => some false
  | _ => none

/-- The mute state that a trigger requests or reports. -/
def muteState? : Trigger → Option MuteState
  | userSetSinkMuteState _ state | systemSinkMuteStateChanged _ state => some state
  | _ => none

/-- The availability that a trigger reports. -/
def availability? : Trigger → Option Availability
  | systemSourceAvailabilityChanged _ availability _
  | systemSinkAvailabilityChanged _ availability _ => some availability
  | _ => none

/-- The interrupt state that a trigger reports. -/
def interruptState? : Trigger → Option InterruptState
  | systemInterruptStateChanged _ state => some state
  | _ => none

/-! ## Properties and notifications -/

/-- The main sound properties of a trigger, given one by one or as a list. -/
def mainSoundProperties : Trigger → List Property
  | userSetSinkMainSoundProperty _ property | userSetSourceMainSoundProperty _ property
  | systemSinkMainSoundPropertyChanged _ property
  | systemSourceMainSoundPropertyChanged _ property => [property]
  | userSetSinkMainSoundProperties _ properties
  | userSetSourceMainSoundProperties _ properties => properties
  | _ => []

/-- The system properties of a trigger, given one by one or as a list. -/
def systemProperties : Trigger → List Property
  | userSetSystemProperty property => [property]
  | userSetSystemProperties properties => properties
  | _ => []

/-- The notification that a trigger reports. -/
def notificationPayload? : Trigger → Option NotificationPayload
  | systemSinkNotificationDataChanged _ payload
  | systemSourceNotificationDataChanged _ payload => some payload
  | _ => none

/-- The notification configuration that a trigger requests. -/
def notificationConfiguration? : Trigger → Option NotificationConfiguration
  | userSetSinkMainNotificationConfiguration _ configuration
  | userSetSourceMainNotificationConfiguration _ configuration => some configuration
  | _ => none

end Trigger
end AudioPolicy

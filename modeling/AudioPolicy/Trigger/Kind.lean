-- SUMMARY: The kinds of triggers, and which kinds a policy declaration covers.
import AudioPolicy.ElementKind

/-! # Kinds of triggers

A policy declares the kinds it reacts to. Three kinds are catch-alls. They occur
only in declarations, and no trigger is of such a kind. -/

namespace AudioPolicy.Trigger

/-- What a trigger reports or requests. -/
inductive Kind
  | userConnectionRequest
  | userDisconnectionRequest
  | userSetSinkMuteState
  | userSetVolume
  | userSetSinkMainSoundProperty
  | userSetSourceMainSoundProperty
  | userSetSinkMainSoundProperties
  | userSetSourceMainSoundProperties
  | userSetSystemProperty
  | userSetSystemProperties
  | userSetSinkMainNotificationConfiguration
  | userSetSourceMainNotificationConfiguration
  | systemSourceAvailabilityChanged
  | systemSinkAvailabilityChanged
  | systemInterruptStateChanged
  | systemSinkMuteStateChanged
  | systemSinkMainSoundPropertyChanged
  | systemSourceMainSoundPropertyChanged
  | systemSinkVolumeChanged
  | systemRegisterDomain
  | systemRegisterSource
  | systemRegisterSink
  | systemRegisterGateway
  | systemDeregisterDomain
  | systemDeregisterSource
  | systemDeregisterSink
  | systemDeregisterGateway
  | systemDomainRegistrationComplete
  | systemConnectionStateChange
  | systemSinkNotificationDataChanged
  | systemSourceNotificationDataChanged
  /-- Covers every kind. -/
  | any
  /-- Covers every kind that a user raises. -/
  | userAll
  /-- Covers every kind that the system raises. -/
  | systemAll
  deriving DecidableEq, Repr

namespace Kind

instance : Spelled Kind where
  all := [.userConnectionRequest, .userDisconnectionRequest, .userSetSinkMuteState,
    .userSetVolume, .userSetSinkMainSoundProperty, .userSetSourceMainSoundProperty,
    .userSetSinkMainSoundProperties, .userSetSourceMainSoundProperties, .userSetSystemProperty,
    .userSetSystemProperties, .userSetSinkMainNotificationConfiguration,
    .userSetSourceMainNotificationConfiguration, .systemSourceAvailabilityChanged,
    .systemSinkAvailabilityChanged, .systemInterruptStateChanged, .systemSinkMuteStateChanged,
    .systemSinkMainSoundPropertyChanged, .systemSourceMainSoundPropertyChanged,
    .systemSinkVolumeChanged, .systemRegisterDomain, .systemRegisterSource, .systemRegisterSink,
    .systemRegisterGateway, .systemDeregisterDomain, .systemDeregisterSource,
    .systemDeregisterSink, .systemDeregisterGateway, .systemDomainRegistrationComplete,
    .systemConnectionStateChange, .systemSinkNotificationDataChanged,
    .systemSourceNotificationDataChanged, .any, .userAll, .systemAll]
  word
    | .userConnectionRequest => "USER_CONNECTION_REQUEST"
    | .userDisconnectionRequest => "USER_DISCONNECTION_REQUEST"
    | .userSetSinkMuteState => "USER_SET_SINK_MUTE_STATE"
    | .userSetVolume => "USER_SET_VOLUME"
    | .userSetSinkMainSoundProperty => "USER_SET_SINK_MAIN_SOUND_PROPERTY"
    | .userSetSourceMainSoundProperty => "USER_SET_SOURCE_MAIN_SOUND_PROPERTY"
    | .userSetSinkMainSoundProperties => "USER_SET_SINK_MAIN_SOUND_PROPERTIES"
    | .userSetSourceMainSoundProperties => "USER_SET_SOURCE_MAIN_SOUND_PROPERTIES"
    | .userSetSystemProperty => "USER_SET_SYSTEM_PROPERTY"
    | .userSetSystemProperties => "USER_SET_SYSTEM_PROPERTIES"
    | .userSetSinkMainNotificationConfiguration =>
      "USER_SET_SINK_MAIN_NOTIFICATION_CONFIGURATION"
    | .userSetSourceMainNotificationConfiguration =>
      "USER_SET_SOURCE_MAIN_NOTIFICATION_CONFIGURATION"
    | .systemSourceAvailabilityChanged => "SYSTEM_SOURCE_AVAILABILITY_CHANGED"
    | .systemSinkAvailabilityChanged => "SYSTEM_SINK_AVAILABILITY_CHANGED"
    | .systemInterruptStateChanged => "SYSTEM_INTERRUPT_STATE_CHANGED"
    | .systemSinkMuteStateChanged => "SYSTEM_SINK_MUTE_STATE_CHANGED"
    | .systemSinkMainSoundPropertyChanged => "SYSTEM_SINK_MAIN_SOUND_PROPERTY_CHANGED"
    | .systemSourceMainSoundPropertyChanged => "SYSTEM_SOURCE_MAIN_SOUND_PROPERTY_CHANGED"
    | .systemSinkVolumeChanged => "SYSTEM_SINK_VOLUME_CHANGED"
    | .systemRegisterDomain => "SYSTEM_REGISTER_DOMAIN"
    | .systemRegisterSource => "SYSTEM_REGISTER_SOURCE"
    | .systemRegisterSink => "SYSTEM_REGISTER_SINK"
    | .systemRegisterGateway => "SYSTEM_REGISTER_GATEWAY"
    | .systemDeregisterDomain => "SYSTEM_DEREGISTER_DOMAIN"
    | .systemDeregisterSource => "SYSTEM_DEREGISTER_SOURCE"
    | .systemDeregisterSink => "SYSTEM_DEREGISTER_SINK"
    | .systemDeregisterGateway => "SYSTEM_DEREGISTER_GATEWAY"
    | .systemDomainRegistrationComplete => "SYSTEM_DOMAIN_REGISTRATION_COMPLETE"
    | .systemConnectionStateChange => "SYSTEM_CONNECTION_STATE_CHANGE"
    | .systemSinkNotificationDataChanged => "SYSTEM_SINK_NOTIFICATION_DATA_CHANGED"
    | .systemSourceNotificationDataChanged => "SYSTEM_SOURCE_NOTIFICATION_DATA_CHANGED"
    | .any => "ANY"
    | .userAll => "USER_ALL"
    | .systemAll => "SYSTEM_ALL"

/-- The written word of a kind. -/
def text (kind : Kind) : String := Spelled.word kind

/-- Who raises triggers of a kind. Catch-alls have no origin. -/
def origin? : Kind → Option Origin
  | .any | .userAll | .systemAll => none
  | .userConnectionRequest | .userDisconnectionRequest | .userSetSinkMuteState | .userSetVolume
  | .userSetSinkMainSoundProperty | .userSetSourceMainSoundProperty
  | .userSetSinkMainSoundProperties | .userSetSourceMainSoundProperties
  | .userSetSystemProperty | .userSetSystemProperties
  | .userSetSinkMainNotificationConfiguration
  | .userSetSourceMainNotificationConfiguration => some .user
  | _ => some .system

/-- Whether a policy that declares the first kind reacts to the second. -/
def covers : Kind → Kind → Bool
  | .any, _ => true
  | .userAll, kind => kind.origin? == some .user
  | .systemAll, kind => kind.origin? == some .system
  | declared, kind => declared == kind

end Kind
end AudioPolicy.Trigger

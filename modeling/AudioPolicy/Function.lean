-- SUMMARY: The functions that calls can name, and how their values are compared.
import AudioPolicy.Spelling

/-! # Functions

A function reads something from the graph, the configuration or the trigger. Its
values are texts. The values of three functions are names. The values of all the
others are numbers. -/

namespace AudioPolicy

/-- How the values of a function are compared. -/
inductive ValueType
  | text | numeric
  deriving DecidableEq, Repr

/-- A function that a call can name. -/
inductive Function
  | name | elements | count | priority | connectionState | volume | mainVolume
  | isMainVolumeStep | volumeLimit | soundProperty | mainSoundPropertyValue
  | mainSoundPropertyType | systemPropertyValue | systemPropertyType | muteState | availability
  | availabilityReason | connectionFormat | interruptState | isRegistered
  | isRegistrationComplete | state | peek | error | notificationConfigurationStatus
  | notificationConfigurationParam | notificationDataValue | notificationDataType
  | mainNotificationConfigurationType | mainNotificationConfigurationStatus
  | mainNotificationConfigurationParam | scale
  deriving DecidableEq, Repr

namespace Function

instance : Spelled Function where
  all := [.name, .elements, .count, .priority, .connectionState, .volume, .mainVolume,
    .isMainVolumeStep, .volumeLimit, .soundProperty, .mainSoundPropertyValue,
    .mainSoundPropertyType, .systemPropertyValue, .systemPropertyType, .muteState,
    .availability, .availabilityReason, .connectionFormat, .interruptState, .isRegistered,
    .isRegistrationComplete, .state, .peek, .error, .notificationConfigurationStatus,
    .notificationConfigurationParam, .notificationDataValue, .notificationDataType,
    .mainNotificationConfigurationType, .mainNotificationConfigurationStatus,
    .mainNotificationConfigurationParam, .scale]
  word
    | .name => "name"
    | .elements => "elements"
    | .count => "count"
    | .priority => "priority"
    | .connectionState => "connectionState"
    | .volume => "volume"
    | .mainVolume => "mainVolume"
    | .isMainVolumeStep => "isMainVolumeStep"
    | .volumeLimit => "volumeLimit"
    | .soundProperty => "soundProperty"
    | .mainSoundPropertyValue => "mainSoundPropertyValue"
    | .mainSoundPropertyType => "mainSoundPropertyType"
    | .systemPropertyValue => "systemPropertyValue"
    | .systemPropertyType => "systemPropertyType"
    | .muteState => "muteState"
    | .availability => "availability"
    | .availabilityReason => "availabilityReason"
    | .connectionFormat => "connectionFormat"
    | .interruptState => "interruptState"
    | .isRegistered => "isRegistered"
    | .isRegistrationComplete => "isRegistrationComplete"
    | .state => "state"
    | .peek => "peek"
    | .error => "error"
    | .notificationConfigurationStatus => "notificationConfigurationStatus"
    | .notificationConfigurationParam => "notificationConfigurationParam"
    | .notificationDataValue => "notificationDataValue"
    | .notificationDataType => "notificationDataType"
    | .mainNotificationConfigurationType => "mainNotificationConfigurationType"
    | .mainNotificationConfigurationStatus => "mainNotificationConfigurationStatus"
    | .mainNotificationConfigurationParam => "mainNotificationConfigurationParam"
    | .scale => "scale"

/-- How the values of a function are compared. -/
def valueType : Function → ValueType
  | .name | .elements | .peek => .text
  | _ => .numeric

end Function
end AudioPolicy

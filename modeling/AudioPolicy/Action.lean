-- SUMMARY: The actions that the routing side is asked to perform.
import AudioPolicy.Params
import AudioPolicy.Spelling
import AudioPolicy.Text

/-! # Actions

An action is a kind of operation with parameters that are plain text. The keys
that the routing side understands are the definitions in `Action.Key`. -/

namespace AudioPolicy

namespace Action

/-- The operation that an action asks for. -/
inductive Kind
  | connect | disconnect | push | pop | suspend | resume | setVolume | limit | unlimit
  | mute | unmute | setProperty | setProperties | setSystemProperty | setSystemProperties
  | setNotificationConfiguration | register | debug
  deriving DecidableEq, Repr

instance : Spelled Kind where
  all := [.connect, .disconnect, .push, .pop, .suspend, .resume, .setVolume, .limit, .unlimit,
    .mute, .unmute, .setProperty, .setProperties, .setSystemProperty, .setSystemProperties,
    .setNotificationConfiguration, .register, .debug]
  word
    | .connect => "connect"
    | .disconnect => "disconnect"
    | .push => "push"
    | .pop => "pop"
    | .suspend => "suspend"
    | .resume => "resume"
    | .setVolume => "set_volume"
    | .limit => "limit"
    | .unlimit => "unlimit"
    | .mute => "mute"
    | .unmute => "unmute"
    | .setProperty => "set_property"
    | .setProperties => "set_properties"
    | .setSystemProperty => "set_system_property"
    | .setSystemProperties => "set_system_properties"
    | .setNotificationConfiguration => "set_notification_configuration"
    | .register => "register"
    | .debug => "debug"

/-! ## Keys -/

namespace Key

def className : String := "className"
def sourceName : String := "sourceName"
def sinkName : String := "sinkName"
def domainName : String := "domainName"
def gatewayName : String := "gatewayName"
def connectionName : String := "connectionName"
def mainVolume : String := "mainVolume"
def mainVolumeStep : String := "mainVolumeStep"
def volume : String := "volume"
def limitVolume : String := "limitVolume"
def limitState : String := "limitState"
def muteState : String := "muteState"
def propertyType : String := "propertyType"
def propertyValue : String := "propertyValue"
def listMainSoundProperties : String := "listMainSoundProperties"
def listSystemProperties : String := "listSystemProperties"
def notificationType : String := "notificationType"
def notificationStatus : String := "notificationStatus"
def notificationParam : String := "notificationParam"
def listSinks : String := "listSinks"
def listSources : String := "listSources"
def listGateways : String := "listGateways"
def exceptSource : String := "exceptSource"
def exceptSink : String := "exceptSink"

end Key
end Action

/-- An operation with all its parameters. -/
structure Action where
  kind : Action.Kind
  params : Params := .empty
  deriving DecidableEq, Repr

namespace Action

/-- The action of a kind with the given pairs of a key and a value. -/
def ofPairs (kind : Kind) (pairs : List (String × String)) : Action :=
  { kind, params := Params.ofList pairs }

/-- The value of the parameter `key`. -/
def param? (action : Action) (key : String) : Option String := action.params.get? key

/-- The value of the parameter `key`, empty if it is not given. -/
def paramOrEmpty (action : Action) (key : String) : String := (action.param? key).getD ""

/-- The written form: the kind and then each parameter as `key=value`. -/
def text (action : Action) : String :=
  Text.unwords (Spelled.word action.kind :: action.params.entries.map fun (k, v) => k ++ "=" ++ v)

end Action
end AudioPolicy

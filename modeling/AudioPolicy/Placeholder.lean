-- SUMMARY: Placeholders: words in expressions that stand for a value of the current trigger.
import AudioPolicy.Numeral
import AudioPolicy.Trigger

/-! # Placeholders

A placeholder is one of 23 fixed words that begin with `REQ_`. In an expression it
stands for a value of the current trigger. It counts only where it is a whole word:
no word character may stand before or after it.

The search for placeholders goes from left to right. At each place it takes the
longest placeholder that starts there, and it goes on behind the place it took,
whether that place was a whole word or not. A text in which `REQ_` does not occur
is not searched. -/

namespace AudioPolicy

/-- A value of the trigger that expressions can name. -/
inductive Placeholder
  | sinkName | sourceName | domainName | className | gatewayName | connectionName
  | connectionState | status | mainVolume | isVolumeStep | muteState | availability
  | availabilityReason | interruptState | propertyType | propertyValue | systemPropertyType
  | systemPropertyValue | notificationType | notificationValue | notificationConfigType
  | notificationConfigStatus | notificationConfigParam
  deriving DecidableEq, Repr

namespace Placeholder

instance : Spelled Placeholder where
  all := [.sinkName, .sourceName, .domainName, .className, .gatewayName, .connectionName,
    .connectionState, .status, .mainVolume, .isVolumeStep, .muteState, .availability,
    .availabilityReason, .interruptState, .propertyType, .propertyValue, .systemPropertyType,
    .systemPropertyValue, .notificationType, .notificationValue, .notificationConfigType,
    .notificationConfigStatus, .notificationConfigParam]
  word
    | .sinkName => "REQ_SINK_NAME"
    | .sourceName => "REQ_SOURCE_NAME"
    | .domainName => "REQ_DOMAIN_NAME"
    | .className => "REQ_CLASS_NAME"
    | .gatewayName => "REQ_GATEWAY_NAME"
    | .connectionName => "REQ_CONNECTION_NAME"
    | .connectionState => "REQ_CONNECTION_STATE"
    | .status => "REQ_STATUS"
    | .mainVolume => "REQ_MAIN_VOLUME"
    | .isVolumeStep => "REQ_IS_VOLUME_STEP"
    | .muteState => "REQ_MUTE_STATE"
    | .availability => "REQ_AVAILABILITY"
    | .availabilityReason => "REQ_AVAILABILITY_REASON"
    | .interruptState => "REQ_INTERRUPT_STATE"
    | .propertyType => "REQ_PROPERTY_TYPE"
    | .propertyValue => "REQ_PROPERTY_VALUE"
    | .systemPropertyType => "REQ_SYSTEM_PROPERTY_TYPE"
    | .systemPropertyValue => "REQ_SYSTEM_PROPERTY_VALUE"
    | .notificationType => "REQ_NOTIFICATION_TYPE"
    | .notificationValue => "REQ_NOTIFICATION_VALUE"
    | .notificationConfigType => "REQ_NOTIFICATION_CONFIG_TYPE"
    | .notificationConfigStatus => "REQ_NOTIFICATION_CONFIG_STATUS"
    | .notificationConfigParam => "REQ_NOTIFICATION_CONFIG_PARAM"

/-- The characters of the word. -/
def chars (p : Placeholder) : List Char := (Spelled.word p).toList

/-- The text that a placeholder stands for, if the trigger carries it. Of several
    properties the first counts. -/
def value? (t : Trigger) : Placeholder → Option String
  | .sinkName => t.sink?
  | .sourceName => t.source?
  | .domainName => t.domain?
  | .className => t.class?
  | .gatewayName => t.gateway?
  | .connectionName => t.connection?
  | .connectionState => t.connectionState?.map codeText
  | .status => t.status?.map codeText
  | .mainVolume => t.mainVolume?.map Numeral.text16
  | .isVolumeStep => t.isVolumeStep?.map Numeral.flag
  | .muteState => t.muteState?.map codeText
  | .availability => t.availability?.map fun a => codeText a.state
  | .availabilityReason => t.availability?.map fun a => Numeral.text16 a.reason
  | .interruptState => t.interruptState?.map codeText
  | .propertyType => t.mainSoundProperties.head?.map fun p => Numeral.text16 p.type
  | .propertyValue => t.mainSoundProperties.head?.map fun p => Numeral.text16 p.value
  | .systemPropertyType => t.systemProperties.head?.map fun p => Numeral.text16 p.type
  | .systemPropertyValue => t.systemProperties.head?.map fun p => Numeral.text16 p.value
  | .notificationType => t.notificationPayload?.map fun p => Numeral.text16 p.type
  | .notificationValue => t.notificationPayload?.map fun p => Numeral.text16 p.value
  | .notificationConfigType =>
    t.notificationConfiguration?.map fun c => Numeral.text16 c.type
  | .notificationConfigStatus =>
    t.notificationConfiguration?.map fun c => codeText c.status
  | .notificationConfigParam =>
    t.notificationConfiguration?.map fun c => Numeral.text16 c.parameter

/-! ## Searching -/

/-- The longer of two placeholders, the first if they are equally long. -/
def longer (p q : Placeholder) : Placeholder :=
  if p.chars.length < q.chars.length then q else p

/-- The longest placeholder that a text starts with. -/
def longestAt? (cs : List Char) : Option Placeholder :=
  (Spelled.all.filter fun p => p.chars.isPrefixOf cs).foldl
    (fun best p => some ((best.map (longer · p)).getD p)) none

/-- A part of a text: a character of its own, or a placeholder. -/
inductive Part
  | plain (c : Char)
  | word (p : Placeholder)
  deriving DecidableEq, Repr

/-- Whether a word could go on with this character. -/
def extends? : Option Char → Bool
  | some c => Text.isWordChar c
  | none => false

/-- The parts of a text that stands behind `before`. -/
def partsAfter (before : Option Char) (cs : List Char) : List Part :=
  match cs with
  | [] => []
  | c :: rest =>
    match longestAt? (c :: rest) with
    | none => .plain c :: partsAfter (some c) rest
    | some p =>
      let behind := rest.drop (p.chars.length - 1)
      if extends? before || extends? behind.head? then
        p.chars.map .plain ++ partsAfter p.chars.getLast? behind
      else .word p :: partsAfter p.chars.getLast? behind
termination_by cs.length
decreasing_by all_goals simp only [List.length_cons, List.length_drop]; omega

/-- The parts of a text. -/
def parts (text : String) : List Part := partsAfter none text.toList

/-! ## Substituting -/

/-- Whether `wanted` occurs somewhere in a text. -/
def occurs (wanted : List Char) : List Char → Bool
  | [] => wanted.isEmpty
  | c :: cs => wanted.isPrefixOf (c :: cs) || occurs wanted cs

/-- Whether the text mentions the beginning of a placeholder at all. -/
def mentioned (text : String) : Bool := occurs "REQ_".toList text.toList

/-- What a part becomes. A placeholder without a value stays as it is. -/
def Part.replace (t : Trigger) : Part → List Char
  | .plain c => [c]
  | .word p => ((p.value? t).getD (Spelled.word p)).toList

/-- The text with each placeholder replaced by its value. -/
def substitute (t : Trigger) (text : String) : String :=
  if mentioned text then String.ofList ((parts text).flatMap (Part.replace t)) else text

/-- The placeholders of a text for which the trigger has no value, in order. -/
def unavailable (t : Trigger) (text : String) : List Placeholder :=
  if mentioned text then
    (parts text).filterMap fun
      | .word p => if (p.value? t).isNone then some p else none
      | .plain _ => none
  else []

/-- The words of a text that look like a placeholder and are none. -/
def unknownWords (text : String) : List String :=
  ((Text.runs (fun c => !Text.isWordChar c) text.toList).filter fun word =>
      "REQ_".toList.isPrefixOf word
        && (Spelled.ofWord? (α := Placeholder) (String.ofList word)).isNone).map String.ofList

end Placeholder
end AudioPolicy

-- SUMMARY: What a placeholder stands for is what the function of the same value finds for USER.
import AudioPolicy.Proofs.Selection

/-! # Two readings of the trigger

An expression can read a value of the trigger in two ways. It can name a placeholder, or it
can call a function for the category `USER`. Either way has a table of its own. The tables
agree. The placeholder stands for the first value of the function, and for nothing exactly if
the function has no value. Where a trigger carries several properties, the function lists all
of them.

For the names that a trigger carries there are placeholders, but no such functions. -/

namespace AudioPolicy

/-- The function that reads for `USER` what a placeholder stands for. -/
def Placeholder.reader? : Placeholder → Option Function
  | .sinkName | .sourceName | .domainName | .className | .gatewayName | .connectionName => none
  | .connectionState => some .connectionState
  | .status => some .error
  | .mainVolume => some .mainVolume
  | .isVolumeStep => some .isMainVolumeStep
  | .muteState => some .muteState
  | .availability => some .availability
  | .availabilityReason => some .availabilityReason
  | .interruptState => some .interruptState
  | .propertyType => some .mainSoundPropertyType
  | .propertyValue => some .mainSoundPropertyValue
  | .systemPropertyType => some .systemPropertyType
  | .systemPropertyValue => some .systemPropertyValue
  | .notificationType => some .notificationDataType
  | .notificationValue => some .notificationDataValue
  | .notificationConfigType => some .mainNotificationConfigurationType
  | .notificationConfigStatus => some .mainNotificationConfigurationStatus
  | .notificationConfigParam => some .mainNotificationConfigurationParam

namespace Query

/-! ## First values -/

/-- A value is the first one of a result. -/
structure FirstOf (value : Option String) (result : Except Failure (List String)) : Prop where
  some_iff : ∀ v, value = some v ↔ ∃ others, result = .ok (v :: others)
  none_iff : value = none ↔ (∃ f, result = .error f) ∨ result = .ok []

section
variable {α : Type}

theorem firstOf_ok (values : List String) : FirstOf values.head? (.ok values) := by
  cases values with
  | nil => exact ⟨by simp, by simp⟩
  | cons first others => exact ⟨by simp, by simp⟩

theorem firstOf_error (f : Failure) : FirstOf none (.error f) := ⟨by simp, by simp⟩

theorem firstOf_carried (what : String) (value : Option String) :
    FirstOf value (carried what value) := by
  cases value with
  | none => exact firstOf_error _
  | some v => exact firstOf_ok [v]

theorem firstOf_map (as : List α) (text : α → String) :
    FirstOf (as.head?.map text) (.ok (as.map text)) := by
  rw [← List.head?_map]
  exact firstOf_ok _

/-- If no type is wanted, all properties are listed. -/
theorem firstOf_carriedAll (what : String) (ps : List Property) (text : Property → String) :
    FirstOf (ps.head?.map text)
      (carriedAll what ((ps.filter fun p => isWanted none p.type).map text)) := by
  simp only [isWanted, List.filter_true]
  cases ps with
  | nil => exact firstOf_error _
  | cons first others => exact firstOf_map (first :: others) text

end

/-! ## Functions -/

section
variable {scope : Scope} {function : Function} {selector : Selector}

theorem firstOf_mainNotificationConfiguration (part : NotificationConfiguration → String) :
    FirstOf (scope.trigger.notificationConfiguration?.map part)
      (mainNotificationConfiguration scope { function, category := .user, selector } part) := by
  unfold mainNotificationConfiguration
  cases scope.trigger.notificationConfiguration? with
  | none => exact firstOf_error _
  | some c => exact firstOf_ok [part c]

/-- Each function finds first what its placeholder stands for. -/
theorem firstOf_answer {p : Placeholder} (h : p.reader? = some function) :
    FirstOf (p.value? scope.trigger)
      (Query.answer scope { function, category := .user, selector }) := by
  cases p with
  | sinkName | sourceName | domainName | className | gatewayName | connectionName => cases h
  | connectionState | status | mainVolume | isVolumeStep | muteState | availability
  | availabilityReason | interruptState | notificationType | notificationValue =>
    cases h
    exact firstOf_carried _ _
  | propertyType | systemPropertyType =>
    cases h
    exact firstOf_map _ _
  | propertyValue | systemPropertyValue =>
    cases h
    exact firstOf_carriedAll _ _ _
  | notificationConfigType | notificationConfigStatus | notificationConfigParam =>
    cases h
    exact firstOf_mainNotificationConfiguration _

end
end Query

/-! ## Calls -/

namespace Evaluation

/-- The call of a function for `USER` without optional arguments. -/
def userCall (f : Function) (a : Argument) : Call :=
  { function := Spelled.word f, category := "USER", mandatory := a }

/-- Only the failure of its argument comes before the answer to such a call. -/
theorem outcome_values_userCall {scope : Scope} {f : Function} {a : Argument} {text : String}
    (h : mandatoryText scope (userCall f a) = .ok text) :
    outcome (values scope (userCall f a)) =
      Query.answer scope
        { function := f, category := .user, selector := Selector.ofText text a.quoted } := by
  rw [outcome_values_of_words f .user rfl rfl h]
  rfl

/-- The two readings of the trigger agree. What a placeholder stands for is the first value
    that its function has for `USER`, whatever is selected there. It stands for nothing exactly
    if the function fails or has no values. -/
theorem placeholder_reads_first_value (scope : Scope) {p : Placeholder} {f : Function}
    (h : p.reader? = some f) :
    (∀ selector, Query.FirstOf (p.value? scope.trigger)
        (Query.answer scope { function := f, category := .user, selector })) ∧
      ∀ a text, mandatoryText scope (userCall f a) = .ok text →
        Query.FirstOf (p.value? scope.trigger) (outcome (values scope (userCall f a))) := by
  refine ⟨fun selector => Query.firstOf_answer h, fun a text htext => ?_⟩
  rw [outcome_values_userCall htext]
  exact Query.firstOf_answer h

/-- The trigger carries two properties and no mute state. -/
theorem placeholder_reads_first_value_of_properties :
    let scope : Scope :=
      { store := .empty
        graph := {}
        trigger := .userSetSinkMainSoundProperties "Speaker" [⟨3, 7⟩, ⟨4, 9⟩] }
    let a : Argument := ⟨"REQ_SINK_NAME", false⟩
    (Placeholder.reader? .propertyValue = some .mainSoundPropertyValue ∧
        mandatoryText scope (userCall .mainSoundPropertyValue a) = .ok "Speaker" ∧
        Placeholder.value? scope.trigger .propertyValue = some "7" ∧
        (∃ others, outcome (values scope (userCall .mainSoundPropertyValue a)) =
          .ok ("7" :: others))) ∧
      Placeholder.reader? .muteState = some .muteState ∧
        mandatoryText scope (userCall .muteState a) = .ok "Speaker" ∧
        Placeholder.value? scope.trigger .muteState = none ∧
        ((∃ f, outcome (values scope (userCall .muteState a)) = .error f) ∨
          outcome (values scope (userCall .muteState a)) = .ok []) := by
  intro scope a
  have htext (f : Function) : mandatoryText scope (userCall f a) = .ok "Speaker" :=
    mandatoryText_of_word rfl (show _ = Spelled.word Placeholder.sinkName from rfl) rfl
  obtain ⟨-, hproperty⟩ := placeholder_reads_first_value scope (p := .propertyValue) rfl
  obtain ⟨-, hmute⟩ := placeholder_reads_first_value scope (p := .muteState) rfl
  exact ⟨⟨rfl, htext _, rfl, ((hproperty a _ (htext _)).some_iff "7").1 rfl⟩, rfl, htext _, rfl,
    (hmute a _ (htext _)).none_iff.1 rfl⟩

end Evaluation
end AudioPolicy

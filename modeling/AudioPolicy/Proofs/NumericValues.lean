-- SUMMARY: The values of numeric functions are written numbers, so a left value is never refused.
import AudioPolicy.Proofs.Numerals
import AudioPolicy.Query.Answer

/-! # Numeric values

Every function that counts as numeric writes its values from integers of at most 64 bits,
from codes of states or from flags, and copies no other text. So each of its values denotes
a number and is the written form of that number. -/

namespace AudioPolicy

/-- The failure of a comparison whose left value is no number. -/
def Failure.ofLeftValue : Failure → Bool
  | .leftNotNumeric _ => true
  | _ => false

namespace Query

/-! ## Results -/

/-- A result has a property, and a failure is not about a left value. -/
def Yields {α : Type} (P : α → Prop) : Except Failure α → Prop
  | .ok a => P a
  | .error f => f.ofLeftValue = false

section
variable {α β : Type} {P Q : α → Prop} {R : β → Prop}

@[simp] theorem yields_ok {a : α} : Yields P (.ok a) ↔ P a := Iff.rfl

@[simp] theorem yields_pure {a : α} : Yields P (pure a) ↔ P a := Iff.rfl

@[simp] theorem yields_error {f : Failure} :
    Yields P (.error f : Except Failure α) ↔ f.ofLeftValue = false := Iff.rfl

theorem Yields.of_eq_ok {x : Except Failure α} {a : α} (hx : Yields P x) (h : x = .ok a) :
    P a := by
  rwa [h] at hx

theorem Yields.mono {x : Except Failure α} (hx : Yields P x) (h : ∀ a, x = .ok a → P a → Q a) :
    Yields Q x := by
  cases x with
  | ok a => exact h a rfl hx
  | error f => exact hx

theorem yields_bind {x : Except Failure α} {f : α → Except Failure β} (hx : Yields P x)
    (hf : ∀ a, P a → Yields R (f a)) : Yields R (x >>= f) := by
  cases x with
  | ok a => exact hf a hx
  | error f => exact hx

theorem yields_map {x : Except Failure α} {f : α → β} (hx : Yields P x)
    (hf : ∀ a, P a → R (f a)) : Yields R (x.map f) := by
  cases x with
  | ok a => exact hf a hx
  | error f => exact hx

end

/-- Any result is fine, and a failure is not about a left value. -/
abbrev Settles {α : Type} (x : Except Failure α) : Prop := Yields (fun _ => True) x

theorem settles_mapM {α β : Type} {f : α → Except Failure β} (hf : ∀ a, Settles (f a))
    (as : List α) : Settles (as.mapM f) := by
  induction as with
  | nil => trivial
  | cons a as ih =>
    rw [List.mapM_cons]
    apply yields_bind (hf a)
    intro b _
    exact yields_bind ih fun _ _ => trivial

/-- Each text of a result has a property. -/
abbrev YieldsEach (P : String → Prop) (x : Except Failure (List String)) : Prop :=
  Yields (fun values => ∀ v ∈ values, P v) x

variable {scope : Scope} {q : Query} {P : String → Prop}

/-! ## Arguments and targets -/

theorem settles_number? : Settles q.number? := by
  unfold number?
  split
  · simp
  · split <;> simp [Failure.ofLeftValue]

theorem settles_type? : Settles q.type? := yields_map settles_number? fun _ _ => trivial

theorem settles_subjects : Settles (q.subjects scope) := by
  unfold subjects
  split
  · simp [Failure.ofLeftValue, unsupported]
  · split
    · split <;> simp [Failure.ofLeftValue]
    · simp
    · simp

theorem settles_related (subjects : List String) (counterpart : String → Option String) :
    Settles (q.related subjects counterpart) := by
  simp only [related]
  split <;> simp [Failure.ofLeftValue]

theorem settles_targets : Settles (q.targets scope) := by
  apply yields_bind settles_subjects
  intro subjects _
  cases q.category with
  | sink | source | class_ | domain | connection | sinkOfClass | sourceOfClass
  | connectionOfClass | connectionOfSource | connectionOfSink => trivial
  | classOfSink | classOfSource | domainOfSink | domainOfSource => exact settles_related _ _
  | user | system => rfl

theorem settles_endpointKind : Settles q.endpointKind := by
  unfold endpointKind
  split <;> simp [Failure.ofLeftValue, unsupported]

theorem yields_selection : Yields (fun s => q.targets scope = .ok s.2) (q.selection scope) := by
  unfold selection
  split
  · rfl
  · exact yields_map (settles_targets.mono fun _ htargets _ => htargets) fun _ htargets => htargets

/-! ## Values -/

section
variable {α : Type} {write : α → String}

theorem forall_mem_written (h : ∀ a, P (write a)) (value : Option α) :
    ∀ v ∈ value.map write, P v := by
  simpa using fun a _ => h a

theorem forall_mem_allWritten (h : ∀ a, P (write a)) (values : List α) :
    ∀ v ∈ values.map write, P v :=
  List.forall_mem_map.2 fun a _ => h a

theorem yieldsEach_readEach {read : String → Option String} (h : ∀ t, ∀ v ∈ read t, P v)
    (what : String) (targets : List String) : YieldsEach P (readEach what read targets) := by
  simp only [readEach]
  split
  · rfl
  · intro v hv
    simp only [List.mem_filterMap] at hv
    obtain ⟨t, _, hread⟩ := hv
    exact h t v hread

theorem yieldsEach_readTargets {read : String → Option α} (h : ∀ a, P (write a)) (what : String) :
    YieldsEach P (q.targets scope >>= readEach what fun t => (read t).map write) := by
  apply yields_bind settles_targets
  intro targets _
  exact yieldsEach_readEach (fun _ => forall_mem_written h _) what targets

theorem yieldsEach_carried (h : ∀ a, P (write a)) (what : String) (value : Option α) :
    YieldsEach P (carried what (value.map write)) := by
  cases value with
  | none => rfl
  | some a => simpa [carried] using h a

theorem yieldsEach_carriedAll (h : ∀ a, P (write a)) (what : String) (values : List α) :
    YieldsEach P (carriedAll what (values.map write)) := by
  unfold carriedAll
  split
  · rfl
  · exact forall_mem_allWritten h values

theorem yieldsEach_fromEndpoints {read : ElementKind → String → Option α}
    (h : ∀ a, P (write a)) (what : String) :
    YieldsEach P (q.fromEndpoints scope what fun kind t => (read kind t).map write) := by
  apply yields_bind settles_endpointKind
  intro kind _
  exact yieldsEach_readTargets h what

theorem yieldsEach_fromTargets {read : String → Option α} (h : ∀ a, P (write a))
    (categories : List Category) (what : String) :
    YieldsEach P (q.fromTargets scope categories what fun t => (read t).map write) := by
  unfold fromTargets
  split
  · exact yieldsEach_readTargets h what
  · rfl

theorem yieldsEach_unsupported : YieldsEach P (.error q.unsupported) := rfl

theorem yieldsEach_carriedOr {other : Except Failure (List String)} (h : ∀ a, P (write a))
    (hother : YieldsEach P other) (what : String) (value : Option α) :
    YieldsEach P (q.carriedOr what (value.map write) other) := by
  unfold carriedOr
  split
  · exact yieldsEach_carried h what value
  · exact hother

theorem yieldsEach_configurationsOf
    {configurations : ElementKind → String → List NotificationConfiguration}
    {part : NotificationConfiguration → String} (h : ∀ c, P (part c)) (wanted : Option Int16) :
    YieldsEach P (q.configurationsOf scope configurations part wanted) := by
  apply yields_bind settles_endpointKind
  intro kind _
  apply yields_bind settles_targets
  intro targets _
  dsimp only
  split
  · rfl
  · exact forall_mem_allWritten h _

end

/-! ## Functions of the targets -/

open Numeral (Canonical canonical_text16 canonical_text32 canonical_codeText canonical_flag)

/-- The number of targets of a query fits 64 bits. -/
def Bounded (scope : Scope) (q : Query) : Prop :=
  ∀ targets, q.targets scope = .ok targets → Numeral.fits64 targets.length = true

theorem bounded_of_targets (targets : List String) (h : q.targets scope = .ok targets)
    (hlength : Numeral.fits64 targets.length = true) : q.Bounded scope := by
  intro others hothers
  obtain rfl : targets = others := by simpa [h] using hothers
  exact hlength

theorem canonical_count :
    Yields (fun values => q.Bounded scope → ∀ v ∈ values, Canonical v) (q.count scope) := by
  apply yields_bind yields_selection
  rintro ⟨kind, targets⟩ htargets hbounded
  simpa using Numeral.canonical_natural (hbounded targets htargets)

theorem canonical_isRegistered : YieldsEach Canonical (q.isRegistered scope) := by
  apply yields_bind yields_selection
  rintro ⟨kind, targets⟩ _
  exact forall_mem_allWritten (fun _ => canonical_flag _) targets

theorem canonical_isRegistrationComplete :
    YieldsEach Canonical (q.isRegistrationComplete scope) := by
  unfold isRegistrationComplete
  split
  · apply yields_bind settles_targets
    intro targets _
    exact forall_mem_allWritten (fun _ => canonical_flag _) targets
  · rfl

theorem canonical_priority : YieldsEach Canonical (q.priority scope) := by
  apply yields_bind yields_selection
  rintro ⟨kind, targets⟩ _
  dsimp only
  split
  · exact yieldsEach_readEach (fun _ => forall_mem_written canonical_text32 _) _ _
  · rfl

theorem canonical_connectionFormat : YieldsEach Canonical (q.connectionFormat scope) := by
  apply yields_bind settles_targets
  intro targets _
  have hdeclared (declared : List Endpoint) :
      ∀ v ∈ declared.flatMap fun d => d.connectionFormats.map Numeral.text16, Canonical v := by
    intro v hv
    simp only [List.mem_flatMap] at hv
    obtain ⟨d, _, hv⟩ := hv
    exact forall_mem_allWritten canonical_text16 _ v hv
  dsimp only
  split
  · exact yieldsEach_readEach (fun _ => forall_mem_written (fun _ => canonical_text16 _) _) _ _
  · exact hdeclared _
  · exact hdeclared _
  · rfl

theorem canonical_connectionState : YieldsEach Canonical (q.connectionState scope) := by
  unfold connectionState
  split
  · exact yieldsEach_carried canonical_codeText _ _
  · exact forall_mem_allWritten (fun _ => canonical_codeText _) _
  · exact yieldsEach_readTargets (fun _ => canonical_codeText _) _
  · exact yieldsEach_readTargets (fun _ => canonical_codeText _) _
  · exact yieldsEach_readTargets (fun _ => canonical_codeText _) _
  · rfl

/-- A value of the trigger, or one of each target of some categories. -/
theorem canonical_carriedOr_fromTargets {α : Type} {write : α → String} {read : String → Option α}
    {value : Option α} {categories : List Category} {what : String}
    (h : ∀ a, Canonical (write a)) :
    YieldsEach Canonical (q.carriedOr what (value.map write)
      (q.fromTargets scope categories what fun t => (read t).map write)) :=
  yieldsEach_carriedOr h (yieldsEach_fromTargets h _ _) _ _

theorem canonical_availability {part : Availability → String} (h : ∀ a, Canonical (part a)) :
    YieldsEach Canonical (q.availability scope part) :=
  yieldsEach_carriedOr h (yieldsEach_fromEndpoints h _) _ _

theorem canonical_state : YieldsEach Canonical (q.state scope) := by
  have hread (kind : ElementKind) :
      YieldsEach Canonical (q.targets scope >>= readEach "state" fun t =>
        (scope.graph.stateCode? kind t).map Numeral.text16) :=
    yieldsEach_readTargets canonical_text16 _
  unfold state
  dsimp only
  split
  · exact hread .source
  · exact hread .source
  · exact hread .domain
  · exact hread .domain
  · exact hread .domain
  · rfl

/-! ## Functions of properties and notifications -/

theorem canonical_soundProperty : YieldsEach Canonical (q.soundProperty scope) := by
  apply yields_bind settles_endpointKind
  intro kind _
  apply yields_bind settles_type?
  intro wanted _
  cases wanted with
  | none => rfl
  | some type =>
    exact yieldsEach_readTargets canonical_text16 _

theorem canonical_mainSoundPropertyValue :
    YieldsEach Canonical (q.mainSoundPropertyValue scope) := by
  apply yields_bind settles_type?
  intro wanted _
  split
  · exact yieldsEach_carriedAll (fun _ => canonical_text16 _) _ _
  · apply yields_bind settles_endpointKind
    intro kind _
    apply yields_bind settles_targets
    intro targets _
    split
    · exact yieldsEach_readEach (fun _ => forall_mem_written canonical_text16 _) _ _
    · exact forall_mem_allWritten (fun _ => canonical_text16 _) _

theorem canonical_mainSoundPropertyType : YieldsEach Canonical (q.mainSoundPropertyType scope) := by
  unfold mainSoundPropertyType
  split
  · exact forall_mem_allWritten (fun _ => canonical_text16 _) _
  · apply yields_bind settles_endpointKind
    intro kind _
    apply yields_bind settles_targets
    intro targets _ v hv
    rw [List.mem_eraseDups] at hv
    exact forall_mem_allWritten (fun _ => canonical_text16 _) _ v hv

theorem canonical_systemValue? (type : String) : ∀ v ∈ systemValue? scope type, Canonical v := by
  intro v hv
  simp only [systemValue?, Option.mem_def, bind, pure, Option.bind_eq_some_iff] at hv
  obtain ⟨_, _, value, _, hvalue⟩ := hv
  obtain rfl : Numeral.text16 value = v := by simpa using hvalue
  exact canonical_text16 value

theorem canonical_systemPropertyValue : YieldsEach Canonical (q.systemPropertyValue scope) := by
  unfold systemPropertyValue
  split
  · apply yields_bind settles_type?
    intro wanted _
    exact yieldsEach_carriedAll (fun _ => canonical_text16 _) _ _
  · split
    · exact forall_mem_allWritten (fun _ => canonical_text16 _) _
    · exact yieldsEach_readEach canonical_systemValue? _ _
    · exact yieldsEach_readEach canonical_systemValue? _ _
  · rfl

theorem canonical_systemPropertyType : YieldsEach Canonical (q.systemPropertyType scope) := by
  unfold systemPropertyType
  split
  · exact forall_mem_allWritten (fun _ => canonical_text16 _) _
  · exact forall_mem_allWritten (fun _ => canonical_text16 _) _
  · rfl

theorem canonical_notificationConfiguration {part : NotificationConfiguration → String}
    (h : ∀ c, Canonical (part c)) :
    YieldsEach Canonical (q.notificationConfiguration scope part) := by
  apply yields_bind settles_type?
  intro wanted _
  split
  · rfl
  · exact yieldsEach_configurationsOf h wanted

theorem canonical_mainNotificationConfiguration {part : NotificationConfiguration → String}
    (h : ∀ c, Canonical (part c)) :
    YieldsEach Canonical (q.mainNotificationConfiguration scope part) := by
  apply yields_bind settles_type?
  intro wanted _
  split
  · split
    · simpa using h _
    · rfl
  · exact yieldsEach_configurationsOf h wanted

/-- Whatever a scale comes to, it is written as an integer of 64 bits. -/
theorem canonical_scale : YieldsEach Canonical q.scale := by
  unfold scale
  split
  · split
    · rfl
    · split
      · rfl
      · split
        · rfl
        · split
          · rfl
          · simpa [Scale.nearest] using Numeral.canonical_int64 _
  · rfl

/-! ## Functions with texts as values -/

theorem settles_name : Settles (q.name scope) := by
  unfold name
  split
  · trivial
  · rfl
  · rfl
  · exact settles_targets

theorem settles_elements : Settles (q.elements scope) :=
  yields_bind yields_selection fun _ _ => trivial

theorem settles_peek : Settles (q.peek scope) := by
  unfold peek
  split
  · rfl
  · apply yields_bind settles_number?
    intro index _
    dsimp only
    split
    · rfl
    · exact yields_bind settles_targets fun _ _ => trivial

/-! ## All functions -/

/-- An answer never fails because of a left value, and a numeric one is canonical. -/
theorem yields_answer :
    Yields (fun values =>
        q.function.valueType = .numeric → q.Bounded scope → ∀ v ∈ values, Canonical v)
      (q.answer scope) := by
  have htext {x : Except Failure (List String)} (hx : Settles x) :
      Yields (fun values =>
        ValueType.text = .numeric → q.Bounded scope → ∀ v ∈ values, Canonical v) x :=
    hx.mono fun _ _ _ htype => nomatch htype
  have hnumeric {type : ValueType} {x : Except Failure (List String)}
      (hx : YieldsEach Canonical x) :
      Yields (fun values => type = .numeric → q.Bounded scope → ∀ v ∈ values, Canonical v) x :=
    hx.mono fun _ _ hvalues _ _ => hvalues
  unfold answer
  cases q.function with
  | name => exact htext settles_name
  | elements => exact htext settles_elements
  | peek => exact htext settles_peek
  | count => exact canonical_count.mono fun _ _ hvalues _ => hvalues
  | priority => exact hnumeric canonical_priority
  | connectionState => exact hnumeric canonical_connectionState
  | volume | volumeLimit => exact hnumeric (yieldsEach_fromEndpoints canonical_text16 _)
  | mainVolume => exact hnumeric (canonical_carriedOr_fromTargets canonical_text16)
  | muteState | interruptState =>
    exact hnumeric (canonical_carriedOr_fromTargets canonical_codeText)
  | isMainVolumeStep =>
    exact hnumeric (yieldsEach_carriedOr canonical_flag yieldsEach_unsupported _ _)
  | error => exact hnumeric (yieldsEach_carriedOr canonical_codeText yieldsEach_unsupported _ _)
  | soundProperty => exact hnumeric canonical_soundProperty
  | mainSoundPropertyValue => exact hnumeric canonical_mainSoundPropertyValue
  | mainSoundPropertyType => exact hnumeric canonical_mainSoundPropertyType
  | systemPropertyValue => exact hnumeric canonical_systemPropertyValue
  | systemPropertyType => exact hnumeric canonical_systemPropertyType
  | availability => exact hnumeric (canonical_availability fun _ => canonical_codeText _)
  | availabilityReason => exact hnumeric (canonical_availability fun _ => canonical_text16 _)
  | connectionFormat => exact hnumeric canonical_connectionFormat
  | isRegistered => exact hnumeric canonical_isRegistered
  | isRegistrationComplete => exact hnumeric canonical_isRegistrationComplete
  | state => exact hnumeric canonical_state
  | notificationConfigurationStatus =>
    exact hnumeric (canonical_notificationConfiguration fun _ => canonical_codeText _)
  | notificationConfigurationParam =>
    exact hnumeric (canonical_notificationConfiguration fun _ => canonical_text16 _)
  | notificationDataValue | notificationDataType =>
    exact hnumeric (yieldsEach_carriedOr (fun _ => canonical_text16 _) yieldsEach_unsupported _ _)
  | mainNotificationConfigurationType =>
    exact hnumeric (canonical_mainNotificationConfiguration fun _ => canonical_text16 _)
  | mainNotificationConfigurationStatus =>
    exact hnumeric (canonical_mainNotificationConfiguration fun _ => canonical_codeText _)
  | mainNotificationConfigurationParam =>
    exact hnumeric (canonical_mainNotificationConfiguration fun _ => canonical_text16 _)
  | scale => exact hnumeric canonical_scale

end Query
end AudioPolicy

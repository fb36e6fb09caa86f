-- SUMMARY: A function sees the targets of its selector only, and REQUESTING is the own name.
import AudioPolicy.Query.Answer

/-! # From the selector to the answer

The selector of a query picks elements, and the category leads from them to the targets. A
function that asks about elements sees of the selector only these targets. Whatever it looks
at before, such as a number in an optional argument, it sees alike for every selector. So
selectors with the same targets have the same answer, and if the targets cannot be found there
is no answer.

On the way few things can fail. The function may not support the category, something may be
absent, or a text may be no proper number. -/

namespace AudioPolicy.Query

/-! ## Failures -/

/-- Every failure of a result has a property. -/
def FailsOnly {α : Type} (P : Failure → Prop) (x : Except Failure α) : Prop :=
  ∀ f, x = .error f → P f

section
variable {α β : Type} {P : Failure → Prop}

theorem failsOnly_ok (a : α) : FailsOnly P (.ok a) := fun _ h => nomatch h

theorem failsOnly_error {f : Failure} (h : P f) : FailsOnly P (.error f : Except Failure α) := by
  rintro _ ⟨⟩
  exact h

theorem failsOnly_bind {x : Except Failure α} {f : α → Except Failure β} (hx : FailsOnly P x)
    (hf : ∀ a, FailsOnly P (f a)) : FailsOnly P (x >>= f) := by
  cases x with
  | ok a => exact hf a
  | error e => exact failsOnly_error (hx e rfl)

theorem failsOnly_ite {c : Prop} [Decidable c] {f : Failure} (hf : P f) (a : α) :
    FailsOnly P (if c then .error f else .ok a) := by
  split
  · exact failsOnly_error hf
  · exact failsOnly_ok a

theorem failsOnly_map {x : Except Failure α} (hx : FailsOnly P x) (f : α → β) :
    FailsOnly P (x.map f) := by
  cases x with
  | ok a => exact failsOnly_ok (f a)
  | error e => exact failsOnly_error (hx e rfl)

end

/-! ## What may be absent or mistyped -/

section
variable {P : Failure → Prop} {q : Query}

theorem failsOnly_number? (hmistyped : ∀ {f}, f.reason = .typeMismatch → P f) :
    FailsOnly P q.number? := by
  unfold number?
  split
  · exact failsOnly_ok _
  · split
    · exact failsOnly_ok _
    · exact failsOnly_error (hmistyped rfl)

theorem failsOnly_type? (hmistyped : ∀ {f}, f.reason = .typeMismatch → P f) :
    FailsOnly P q.type? :=
  failsOnly_map (failsOnly_number? hmistyped) _

variable (habsent : ∀ {f}, f.reason = .notFound → P f)
include habsent

theorem failsOnly_related (subjects : List String) (counterpart : String → Option String) :
    FailsOnly P (q.related subjects counterpart) :=
  failsOnly_ite (habsent rfl) _

theorem failsOnly_readEach (what : String) (read : String → Option String)
    (targets : List String) : FailsOnly P (readEach what read targets) :=
  failsOnly_ite (habsent rfl) _

theorem failsOnly_carried (what : String) (value : Option String) :
    FailsOnly P (carried what value) := by
  unfold carried
  split
  · exact failsOnly_ok _
  · exact failsOnly_error (habsent rfl)

theorem failsOnly_carriedAll (what : String) (values : List String) :
    FailsOnly P (carriedAll what values) :=
  failsOnly_ite (habsent rfl) _

/-- A number has a value on a scale, unless the scale or the number is no good. -/
theorem failsOnly_scale (hmistyped : ∀ {f}, f.reason = .typeMismatch → P f) {name : String}
    (hname : q.selector = .name name) : FailsOnly P q.scale := by
  simp only [scale, hname]
  split
  · exact failsOnly_error (hmistyped rfl)
  · split
    · exact failsOnly_error (habsent rfl)
    · split
      · exact failsOnly_error (hmistyped rfl)
      · split
        · exact failsOnly_error (habsent rfl)
        · exact failsOnly_ok _

end

/-! ## Failures of answers -/

/-- The failures that an answer may be. -/
inductive MayFail (q : Query) : Failure → Prop
  | unsupported : MayFail q q.unsupported
  | absent {f : Failure} : f.reason = .notFound → MayFail q f
  | mistyped {f : Failure} : f.reason = .typeMismatch → MayFail q f

section
variable {scope : Scope} {q : Query}

theorem failsOnly_unsupported {α : Type} :
    FailsOnly q.MayFail (.error q.unsupported : Except Failure α) :=
  failsOnly_error .unsupported

theorem failsOnly_subjects : FailsOnly q.MayFail (q.subjects scope) := by
  unfold subjects
  split
  · exact failsOnly_unsupported
  · split
    · split
      · exact failsOnly_ok _
      · exact failsOnly_error (.absent rfl)
    · exact failsOnly_ok _
    · exact failsOnly_ok _

theorem failsOnly_targets : FailsOnly q.MayFail (q.targets scope) := by
  refine failsOnly_bind failsOnly_subjects fun subjects => ?_
  cases q.category with
  | sink | source | class_ | domain | connection | sinkOfClass | sourceOfClass
  | connectionOfClass | connectionOfSource | connectionOfSink => exact failsOnly_ok _
  | classOfSink | classOfSource | domainOfSink | domainOfSource =>
    exact failsOnly_related .absent _ _
  | user | system => exact failsOnly_unsupported

theorem failsOnly_endpointKind : FailsOnly q.MayFail q.endpointKind := by
  unfold endpointKind
  split
  · exact failsOnly_ok _
  · exact failsOnly_ok _
  · exact failsOnly_ok _
  · exact failsOnly_ok _
  · exact failsOnly_unsupported

end

/-! ## Selectors -/

/-- The query with another selector. -/
def selecting (q : Query) (s : Selector) : Query := { q with selector := s }

section
variable (q : Query) (s : Selector)

@[simp] theorem category_selecting : (q.selecting s).category = q.category := rfl

@[simp] theorem unsupported_selecting : (q.selecting s).unsupported = q.unsupported := rfl

@[simp] theorem number?_selecting : (q.selecting s).number? = q.number? := rfl

@[simp] theorem order_selecting : (q.selecting s).order = q.order := rfl

end

/-- How a function comes from the selector to its result. -/
inductive GoesBy (scope : Scope) (q : Query) (f : Selector → Except Failure (List String)) : Prop
  /-- The function fails alike for every selector. -/
  | refused (e : Failure) (he : q.MayFail e) (hf : ∀ s, f s = .error e)
  /-- The function goes on from the targets. -/
  | targets (g : List String → Except Failure (List String))
      (hg : ∀ ts, FailsOnly q.MayFail (g ts))
      (hf : ∀ s, f s = (q.selecting s).targets scope >>= g)
  /-- All connections are listed, whichever is selected. -/
  | ignored (values : List String) (hfunction : q.function = .connectionState)
      (hcategory : q.category = .connection) (hf : ∀ s, f s = .ok values)
  /-- Nothing is selected, since the function is not about elements. -/
  | apart (hq : q.category.subject? = none ∨ q.function = .scale)
      (hf : ∀ s, FailsOnly q.MayFail (f s))

section
variable {scope : Scope} {q : Query}

namespace GoesBy

/-- What is the same for every selector may come first. -/
theorem check {α : Type} {f : α → Selector → Except Failure (List String)} (x : Except Failure α)
    (hx : FailsOnly q.MayFail x) (h : ∀ a, GoesBy scope q (f a)) :
    GoesBy scope q fun s => x >>= (f · s) := by
  cases x with
  | ok a => exact h a
  | error e => exact .refused e (hx e rfl) fun _ => rfl

theorem of_unsupported : GoesBy scope q fun _ => .error q.unsupported :=
  .refused _ .unsupported fun _ => rfl

theorem of_values (g : List String → List String) :
    GoesBy scope q fun s => (q.selecting s).targets scope >>= fun ts => .ok (g ts) :=
  .targets _ (fun _ => failsOnly_ok _) fun _ => rfl

theorem of_readEach (what : String) (read : String → Option String) :
    GoesBy scope q fun s => (q.selecting s).targets scope >>= readEach what read :=
  .targets _ (failsOnly_readEach .absent what read) fun _ => rfl

theorem of_selection {g : ElementKind × List String → Except Failure (List String)}
    (hg : ∀ selected, FailsOnly q.MayFail (g selected)) :
    GoesBy scope q fun s => (q.selecting s).selection scope >>= g := by
  cases hkind : q.category.target? with
  | none =>
    refine .refused q.unsupported .unsupported fun s => ?_
    have hselecting : (q.selecting s).category.target? = none := hkind
    rw [selection, hselecting]
    rfl
  | some kind =>
    refine .targets (fun ts => g (kind, ts)) (fun ts => hg _) fun s => ?_
    have hselecting : (q.selecting s).category.target? = some kind := hkind
    rw [selection, hselecting]
    cases (q.selecting s).targets scope <;> rfl

theorem of_user (hcategory : q.category = .user) {f : Selector → Except Failure (List String)}
    (hf : ∀ s, FailsOnly q.MayFail (f s)) : GoesBy scope q f :=
  .apart (.inl (hcategory ▸ rfl)) hf

end GoesBy

/-! ## Functions of the targets -/

theorem goesBy_name : GoesBy scope q fun s => (q.selecting s).name scope := by
  obtain ⟨function, category, selector, optional⟩ := q
  cases category with
  | user =>
    refine .of_user rfl fun s => ?_
    cases s with
    | name text => exact failsOnly_ok _
    | requesting | all => exact failsOnly_unsupported
  | system => exact .of_unsupported
  | _ => exact .targets .ok failsOnly_ok fun s => (bind_pure _).symm

theorem goesBy_elements : GoesBy scope q fun s => (q.selecting s).elements scope :=
  .of_selection fun _ => failsOnly_ok _

theorem goesBy_count : GoesBy scope q fun s => (q.selecting s).count scope :=
  .of_selection fun _ => failsOnly_ok _

theorem goesBy_isRegistered : GoesBy scope q fun s => (q.selecting s).isRegistered scope :=
  .of_selection fun _ => failsOnly_ok _

theorem goesBy_isRegistrationComplete :
    GoesBy scope q fun s => (q.selecting s).isRegistrationComplete scope := by
  obtain ⟨function, category, selector, optional⟩ := q
  cases category with
  | domain => exact .of_values _
  | _ => exact .of_unsupported

theorem goesBy_priority : GoesBy scope q fun s => (q.selecting s).priority scope := by
  simp only [priority, unsupported_selecting]
  refine .of_selection fun selected => ?_
  split
  · exact failsOnly_readEach .absent _ _ _
  · exact failsOnly_unsupported

theorem goesBy_connectionFormat :
    GoesBy scope q fun s => (q.selecting s).connectionFormat scope := by
  simp only [connectionFormat, category_selecting, unsupported_selecting]
  refine .targets _ (fun targets => ?_) fun s => rfl
  split
  · exact failsOnly_readEach .absent _ _ _
  · exact failsOnly_ok _
  · exact failsOnly_ok _
  · exact failsOnly_unsupported

theorem goesBy_connectionState (hfunction : q.function = .connectionState) :
    GoesBy scope q fun s => (q.selecting s).connectionState scope := by
  simp only [connectionState, category_selecting, unsupported_selecting, order_selecting]
  obtain ⟨function, category, selector, optional⟩ := q
  cases category with
  | user => exact .of_user rfl fun _ => failsOnly_carried .absent _ _
  | connection => exact .ignored _ hfunction rfl fun _ => rfl
  | connectionOfClass | connectionOfSink | connectionOfSource => exact .of_readEach _ _
  | _ => exact .of_unsupported

theorem goesBy_fromEndpoints (what : String) (read : ElementKind → String → Option String) :
    GoesBy scope q fun s => (q.selecting s).fromEndpoints scope what read :=
  .check q.endpointKind failsOnly_endpointKind fun kind => .of_readEach what (read kind)

/-- For `USER` nothing is selected. -/
theorem goesBy_carriedOr {what : String} {value : Option String}
    {other : Selector → Except Failure (List String)} (h : GoesBy scope q other) :
    GoesBy scope q fun s => (q.selecting s).carriedOr what value (other s) := by
  obtain ⟨function, category, selector, optional⟩ := q
  cases category with
  | user => exact .of_user rfl fun _ => failsOnly_carried .absent _ _
  | _ => exact h

theorem goesBy_fromTargets (categories : List Category) (what : String)
    (read : String → Option String) :
    GoesBy scope q fun s => (q.selecting s).fromTargets scope categories what read := by
  cases hmem : categories.contains q.category with
  | true =>
    simp only [fromTargets, category_selecting, hmem, if_true]
    exact .of_readEach _ _
  | false =>
    simp only [fromTargets, category_selecting, hmem, Bool.false_eq_true, if_false]
    exact .of_unsupported

theorem goesBy_state : GoesBy scope q fun s => (q.selecting s).state scope := by
  obtain ⟨function, category, selector, optional⟩ := q
  cases category with
  | source | sourceOfClass | domain | domainOfSink | domainOfSource => exact .of_readEach _ _
  | _ => exact .of_unsupported

/-! ## Functions of properties and notifications -/

theorem goesBy_soundProperty : GoesBy scope q fun s => (q.selecting s).soundProperty scope := by
  refine .check q.endpointKind failsOnly_endpointKind fun kind => ?_
  refine .check q.type? (failsOnly_type? .mistyped) fun type => ?_
  cases type with
  | none => exact .refused _ (.absent rfl) fun _ => rfl
  | some type => exact .of_readEach _ _

theorem goesBy_mainSoundPropertyValue :
    GoesBy scope q fun s => (q.selecting s).mainSoundPropertyValue scope := by
  refine .check q.type? (failsOnly_type? .mistyped) fun wanted => ?_
  obtain ⟨function, category, selector, optional⟩ := q
  cases category with
  | user => exact .of_user rfl fun _ => failsOnly_carriedAll .absent _ _
  | _ =>
    refine .check (endpointKind _) failsOnly_endpointKind fun kind => ?_
    cases wanted with
    | some type => exact .of_readEach _ _
    | none => exact .of_values _

theorem goesBy_mainSoundPropertyType :
    GoesBy scope q fun s => (q.selecting s).mainSoundPropertyType scope := by
  obtain ⟨function, category, selector, optional⟩ := q
  cases category with
  | user => exact .of_user rfl fun _ => failsOnly_ok _
  | _ => exact .check (endpointKind _) failsOnly_endpointKind fun kind => .of_values _

theorem goesBy_systemPropertyValue :
    GoesBy scope q fun s => (q.selecting s).systemPropertyValue scope := by
  obtain ⟨function, category, selector, optional⟩ := q
  cases category with
  | user =>
    refine .of_user rfl fun _ => failsOnly_bind (failsOnly_type? .mistyped) fun _ => ?_
    exact failsOnly_carriedAll .absent _ _
  | system =>
    refine .apart (.inl rfl) fun s => ?_
    cases s with
    | all => exact failsOnly_ok _
    | requesting | name type => exact failsOnly_readEach .absent _ _ _
  | _ => exact .of_unsupported

theorem goesBy_systemPropertyType :
    GoesBy scope q fun s => (q.selecting s).systemPropertyType scope := by
  obtain ⟨function, category, selector, optional⟩ := q
  cases category with
  | user | system => exact .apart (.inl rfl) fun _ => failsOnly_ok _
  | _ => exact .of_unsupported

theorem goesBy_configurationsOf
    (configurations : ElementKind → String → List NotificationConfiguration)
    (part : NotificationConfiguration → String) (wanted : Option Int16) :
    GoesBy scope q fun s => (q.selecting s).configurationsOf scope configurations part wanted := by
  refine .check q.endpointKind failsOnly_endpointKind fun kind => ?_
  exact .targets _ (fun _ => failsOnly_ite (.absent rfl) _) fun s => rfl

theorem goesBy_notificationConfiguration (part : NotificationConfiguration → String) :
    GoesBy scope q fun s => (q.selecting s).notificationConfiguration scope part := by
  refine .check q.type? (failsOnly_type? .mistyped) fun wanted => ?_
  obtain ⟨function, category, selector, optional⟩ := q
  cases category with
  | user => exact .of_unsupported
  | _ => exact goesBy_configurationsOf _ _ _

theorem goesBy_mainNotificationConfiguration (part : NotificationConfiguration → String) :
    GoesBy scope q fun s => (q.selecting s).mainNotificationConfiguration scope part := by
  refine .check q.type? (failsOnly_type? .mistyped) fun wanted => ?_
  obtain ⟨function, category, selector, optional⟩ := q
  cases category with
  | user =>
    refine .of_user rfl fun s => ?_
    dsimp only [selecting]
    split
    · exact failsOnly_ok _
    · exact failsOnly_error (.absent rfl)
  | _ => exact goesBy_configurationsOf _ _ _

/-! ## Queues and scales -/

theorem goesBy_peek : GoesBy scope q fun s => (q.selecting s).peek scope := by
  simp only [peek, category_selecting, unsupported_selecting, number?_selecting]
  cases queue? q.category with
  | none => exact .of_unsupported
  | some filter =>
    refine .check q.number? (failsOnly_number? .mistyped) fun index => ?_
    split
    · exact .refused _ (.mistyped rfl) fun _ => rfl
    · exact .of_values _

/-- A scale is applied to the argument itself. -/
theorem goesBy_scale (hfunction : q.function = .scale) :
    GoesBy scope q fun s => (q.selecting s).scale := by
  refine .apart (.inr hfunction) fun s => ?_
  cases s with
  | name text => exact failsOnly_scale .absent .mistyped rfl
  | requesting | all => exact failsOnly_unsupported

/-! ## All functions -/

theorem goesBy_answer (scope : Scope) (q : Query) :
    GoesBy scope q fun s => (q.selecting s).answer scope := by
  obtain ⟨function, category, selector, optional⟩ := q
  cases function with
  | name => exact goesBy_name
  | elements => exact goesBy_elements
  | count => exact goesBy_count
  | priority => exact goesBy_priority
  | connectionState => exact goesBy_connectionState rfl
  | volume | volumeLimit => exact goesBy_fromEndpoints _ _
  | mainVolume | muteState | interruptState => exact goesBy_carriedOr (goesBy_fromTargets _ _ _)
  | isMainVolumeStep | error | notificationDataValue | notificationDataType =>
    exact goesBy_carriedOr .of_unsupported
  | soundProperty => exact goesBy_soundProperty
  | mainSoundPropertyValue => exact goesBy_mainSoundPropertyValue
  | mainSoundPropertyType => exact goesBy_mainSoundPropertyType
  | systemPropertyValue => exact goesBy_systemPropertyValue
  | systemPropertyType => exact goesBy_systemPropertyType
  | availability | availabilityReason => exact goesBy_carriedOr (goesBy_fromEndpoints _ _)
  | connectionFormat => exact goesBy_connectionFormat
  | isRegistered => exact goesBy_isRegistered
  | isRegistrationComplete => exact goesBy_isRegistrationComplete
  | state => exact goesBy_state
  | peek => exact goesBy_peek
  | notificationConfigurationStatus | notificationConfigurationParam =>
    exact goesBy_notificationConfiguration _
  | mainNotificationConfigurationType | mainNotificationConfigurationStatus
  | mainNotificationConfigurationParam => exact goesBy_mainNotificationConfiguration _
  | scale => exact goesBy_scale rfl

/-- The answer to a query fails in few ways. -/
theorem failsOnly_answer : FailsOnly q.MayFail (q.answer scope) := by
  change FailsOnly q.MayFail ((q.selecting q.selector).answer scope)
  cases goesBy_answer scope q with
  | refused e he hf =>
    rw [hf]
    exact failsOnly_error he
  | targets g hg hf =>
    rw [hf]
    exact failsOnly_bind failsOnly_targets hg
  | ignored values _ _ hf =>
    rw [hf]
    exact failsOnly_ok values
  | apart _ hf => exact hf q.selector

/-! ## Requesting -/

variable {kind : ElementKind} {name : String}

theorem subjects_requesting (hkind : q.category.subject? = some kind) :
    (q.selecting .requesting).subjects scope =
      match scope.trigger.name? kind with
      | some name => .ok [name]
      | none => .error (.unnamed scope.trigger.kind kind) := by
  simp only [subjects, category_selecting, hkind]
  rfl

theorem subjects_name (hkind : q.category.subject? = some kind) :
    (q.selecting (.name name)).subjects scope = .ok [name] := by
  simp only [subjects, category_selecting, hkind]
  rfl

/-- Equal subjects have equal targets. -/
theorem targets_congr {s s' : Selector}
    (h : (q.selecting s).subjects scope = (q.selecting s').subjects scope) :
    (q.selecting s).targets scope = (q.selecting s').targets scope := by
  unfold targets
  rw [h]
  rfl

/-- Selectors with equal subjects have equal answers, except for scales and where nothing can
    be selected. -/
theorem answer_congr (hkind : q.category.subject? = some kind) (hfunction : q.function ≠ .scale)
    {s s' : Selector} (h : (q.selecting s).subjects scope = (q.selecting s').subjects scope) :
    (q.selecting s).answer scope = (q.selecting s').answer scope := by
  cases goesBy_answer scope q with
  | refused e _ hf => rw [hf, hf]
  | targets g _ hf => rw [hf, hf, targets_congr h]
  | ignored values _ _ hf => rw [hf, hf]
  | apart hq _ =>
    rcases hq with hnone | hscale
    · simp [hkind] at hnone
    · exact absurd hscale hfunction

/-- A function fails if the subjects cannot be found. It does so for this reason, or it would
    have failed with any selector. -/
theorem answer_of_subjects_error (hkind : q.category.subject? = some kind)
    (hfunction : q.function ≠ .scale)
    (hlisting : ¬ (q.function = .connectionState ∧ q.category = .connection)) {s : Selector}
    {f : Failure} (h : (q.selecting s).subjects scope = .error f) :
    (q.selecting s).answer scope = .error f ∨
      ∃ e, ∀ s', (q.selecting s').answer scope = .error e := by
  cases goesBy_answer scope q with
  | refused e _ hf => exact Or.inr ⟨e, hf⟩
  | targets g _ hf =>
    refine Or.inl ?_
    rw [hf, targets, h]
    rfl
  | ignored _ hstate hconnection _ => exact absurd ⟨hstate, hconnection⟩ hlisting
  | apart hq _ =>
    rcases hq with hnone | hscale
    · simp [hkind] at hnone
    · exact absurd hscale hfunction

/-- `REQUESTING` selects what the trigger's own name selects. If the trigger has no such name,
    every query that goes by its subject fails: for the lack of the name, or as it would have
    with any selector. -/
theorem requesting_selects_own_name (scope : Scope) {q : Query} {kind : ElementKind}
    (hkind : q.category.subject? = some kind) (hfunction : q.function ≠ .scale) :
    (∀ name, scope.trigger.name? kind = some name →
        (q.selecting .requesting).answer scope = (q.selecting (.name name)).answer scope) ∧
      (scope.trigger.name? kind = none →
        ¬ (q.function = .connectionState ∧ q.category = .connection) →
          ∃ f, (q.selecting .requesting).answer scope = .error f ∧
            (f = .unnamed scope.trigger.kind kind ∨
              ∀ s, (q.selecting s).answer scope = .error f)) := by
  refine ⟨fun name hname => ?_, fun hname hlisting => ?_⟩
  · refine answer_congr hkind hfunction ?_
    rw [subjects_requesting hkind, subjects_name hkind, hname]
  · have hsubjects : (q.selecting .requesting).subjects scope =
        .error (.unnamed scope.trigger.kind kind) := by
      rw [subjects_requesting hkind, hname]
    rcases answer_of_subjects_error hkind hfunction hlisting hsubjects with hunnamed | ⟨e, he⟩
    · exact ⟨_, hunnamed, Or.inl rfl⟩
    · exact ⟨e, he _, Or.inr he⟩

/-- A request names its sink and its source, but no class. -/
theorem requesting_selects_own_name_of_request :
    let scope : Scope :=
      { store := .empty
        graph := { sinks := [{ name := "Headset", mainVolume := 3 },
                             { name := "Speaker", mainVolume := 7 }] }
        trigger := .userConnectionRequest "Tuner" "Speaker" none }
    let volume : Query := { function := .mainVolume, category := .sink, selector := .requesting }
    let count : Query := { function := .count, category := .sinkOfClass, selector := .requesting }
    (volume.category.subject? = some .sink ∧ volume.function ≠ .scale ∧
        scope.trigger.name? .sink = some "Speaker" ∧
        (volume.selecting .requesting).answer scope =
          (volume.selecting (.name "Speaker")).answer scope ∧
        (volume.selecting (.name "Speaker")).answer scope = .ok ["7"]) ∧
      count.category.subject? = some .class_ ∧ count.function ≠ .scale ∧
        scope.trigger.name? .class_ = none ∧
        ¬ (count.function = .connectionState ∧ count.category = .connection) ∧
        ∃ f, (count.selecting .requesting).answer scope = .error f ∧
          (f = .unnamed .userConnectionRequest .class_ ∨
            ∀ s, (count.selecting s).answer scope = .error f) := by
  intro scope volume count
  have hvolume : volume.function ≠ .scale := by decide
  have hcount : count.function ≠ .scale := by decide
  have hlisting : ¬ (count.function = .connectionState ∧ count.category = .connection) := by decide
  obtain ⟨hnamed, -⟩ := requesting_selects_own_name scope (q := volume) rfl hvolume
  obtain ⟨-, hunnamed⟩ := requesting_selects_own_name scope (q := count) rfl hcount
  exact ⟨⟨rfl, hvolume, rfl, hnamed _ rfl, rfl⟩, rfl, hcount, rfl, hlisting,
    hunnamed rfl hlisting⟩

end

end AudioPolicy.Query

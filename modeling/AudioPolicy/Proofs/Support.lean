-- SUMMARY: Which functions support which categories, and what can fail before that is checked.
import AudioPolicy.Proofs.Targets

/-! # Support

Which categories a function supports is a table. It depends neither on the data nor on the
arguments. A function that looks at its category first rejects every query of another category.
Some functions read the type of a property before they look, and two functions follow the
category to its targets before. What fails there is reported in place of the rejection. -/

namespace AudioPolicy

/-- The categories that a function supports. -/
def Function.categories : Function → List Category
  | .name => Spelled.all.filter (· ≠ .system)
  | .elements | .count | .isRegistered => Spelled.all.filter (·.target?.isSome)
  | .priority =>
    [.sink, .sinkOfClass, .source, .sourceOfClass, .class_, .classOfSink, .classOfSource,
      .connection, .connectionOfClass, .connectionOfSink, .connectionOfSource]
  | .connectionFormat =>
    [.sink, .sinkOfClass, .source, .sourceOfClass, .connection, .connectionOfClass,
      .connectionOfSink, .connectionOfSource]
  | .connectionState =>
    [.user, .connection, .connectionOfClass, .connectionOfSink, .connectionOfSource]
  | .volume | .volumeLimit | .soundProperty | .notificationConfigurationStatus
  | .notificationConfigurationParam => [.sink, .sinkOfClass, .source, .sourceOfClass]
  | .mainSoundPropertyValue | .mainSoundPropertyType | .availability | .availabilityReason
  | .mainNotificationConfigurationType | .mainNotificationConfigurationStatus
  | .mainNotificationConfigurationParam => [.user, .sink, .sinkOfClass, .source, .sourceOfClass]
  | .mainVolume | .muteState => [.user, .sink, .sinkOfClass]
  | .interruptState => [.user, .source, .sourceOfClass]
  | .isMainVolumeStep | .error | .notificationDataValue | .notificationDataType => [.user]
  | .systemPropertyValue | .systemPropertyType => [.user, .system]
  | .isRegistrationComplete => [.domain]
  | .state => [.source, .sourceOfClass, .domain, .domainOfSink, .domainOfSource]
  | .peek => [.class_, .classOfSink, .classOfSource, .sink, .source]
  | .scale => Spelled.all

/-- What a function does before it looks at the category. -/
inductive Function.FirstStep
  | check
  /-- Reads the type in the first optional argument. -/
  | readType
  /-- Follows the category to its targets. -/
  | follow

/-- How a function begins. -/
def Function.firstStep : Function → FirstStep
  | .priority | .connectionFormat => .follow
  | .mainSoundPropertyValue | .notificationConfigurationStatus | .notificationConfigurationParam
  | .mainNotificationConfigurationType | .mainNotificationConfigurationStatus
  | .mainNotificationConfigurationParam => .readType
  | _ => .check

/-- The answer is the rejection of a call as not possible. -/
def Rejected {α : Type} (x : Except Failure α) : Prop :=
  ∃ f, x = .error f ∧ f.reason = .notPossible

namespace Query

/-- The relation that leads from a subject to at most one target. -/
def counterpart? (scope : Scope) : Category → Option (String → Option String)
  | .classOfSink => some (elementClass? scope .sink)
  | .classOfSource => some (elementClass? scope .source)
  | .domainOfSink => some (scope.store.domainOf? .sink)
  | .domainOfSource => some (scope.store.domainOf? .source)
  | _ => none

/-- Why the targets of a query cannot be found. -/
inductive Lost (scope : Scope) (q : Query) : Failure → Prop
  | unnamed {kind : ElementKind} : q.category.subject? = some kind → q.selector = .requesting →
      scope.trigger.name? kind = none → Lost scope q (.unnamed scope.trigger.kind kind)
  | unrelated {subjects : List String} {counterpart : String → Option String} :
      q.subjects scope = .ok subjects → subjects ≠ [] →
      counterpart? scope q.category = some counterpart →
      (∀ s ∈ subjects, counterpart s = none) → Lost scope q (.unrelated q.category subjects)

/-- What comes in place of a rejection. -/
inductive Forestalls (scope : Scope) (q : Query) : Failure → Prop
  | mistyped {text : String} : q.function.firstStep = .readType → q.optional? 0 = some text →
      Symbol.number? text = none → Forestalls scope q (.notNumeric text)
  | lost {f : Failure} : q.function.firstStep = .follow → Lost scope q f → Forestalls scope q f

section
variable {scope : Scope} {q : Query} {f : Failure} {kind : ElementKind}

/-! ## Lost targets -/

theorem subjects_eq_error_iff (hkind : q.category.subject? = some kind) :
    q.subjects scope = .error f ↔
      q.selector = .requesting ∧ scope.trigger.name? kind = none ∧
        f = .unnamed scope.trigger.kind kind := by
  simp only [subjects, hkind]
  cases q.selector with
  | requesting => cases scope.trigger.name? kind <;> simp [eq_comm]
  | all | name => simp

theorem related_eq_error_iff {subjects : List String} {counterpart : String → Option String} :
    q.related subjects counterpart = .error f ↔
      subjects ≠ [] ∧ (∀ s ∈ subjects, counterpart s = none) ∧
        f = .unrelated q.category subjects := by
  have hfails : ((subjects.filterMap counterpart).isEmpty && !subjects.isEmpty) = true ↔
      subjects ≠ [] ∧ ∀ s ∈ subjects, counterpart s = none := by
    simp [List.isEmpty_iff, and_comm]
  simp only [related]
  split
  next h =>
    obtain ⟨hsome, hnone⟩ := hfails.1 h
    simp only [Except.error.injEq, eq_comm]
    exact ⟨fun hf => ⟨hsome, hnone, hf⟩, fun h => h.2.2⟩
  next h =>
    constructor
    · intro hok
      cases hok
    · intro hf
      exact absurd (hfails.2 ⟨hf.1, hf.2.1⟩) h

theorem targets_of_counterpart {counterpart : String → Option String}
    (h : counterpart? scope q.category = some counterpart) :
    q.targets scope = q.subjects scope >>= fun subjects => q.related subjects counterpart := by
  obtain ⟨function, category, selector, optional⟩ := q
  cases category <;> cases h <;> rfl

theorem exists_targets_eq_map (hkind : q.category.subject? = some kind)
    (h : counterpart? scope q.category = none) :
    ∃ g : List String → List String, q.targets scope = g <$> q.subjects scope := by
  obtain ⟨function, category, selector, optional⟩ := q
  cases category with
  | user | system => cases hkind
  | classOfSink | classOfSource | domainOfSink | domainOfSource => cases h
  | _ => exact ⟨_, rfl⟩

theorem targets_of_subjects_error (h : q.subjects scope = .error f) :
    q.targets scope = .error f := by
  rw [targets, h]
  rfl

theorem Lost.targets_eq (h : Lost scope q f) : q.targets scope = .error f := by
  cases h with
  | unnamed hsubject hselector hname =>
    exact targets_of_subjects_error ((subjects_eq_error_iff hsubject).2 ⟨hselector, hname, rfl⟩)
  | unrelated hsubjects hsome hcounterpart hnone =>
    rw [targets_of_counterpart hcounterpart, hsubjects]
    exact related_eq_error_iff.2 ⟨hsome, hnone, rfl⟩

theorem lost_of_targets (hkind : q.category.subject? = some kind)
    (h : q.targets scope = .error f) : Lost scope q f := by
  cases hsubjects : q.subjects scope with
  | error e =>
    obtain rfl : e = f := by
      rw [targets_of_subjects_error hsubjects] at h
      exact Except.error.inj h
    obtain ⟨hselector, hname, rfl⟩ := (subjects_eq_error_iff hkind).1 hsubjects
    exact .unnamed hkind hselector hname
  | ok subjects =>
    cases hcounterpart : counterpart? scope q.category with
    | none =>
      obtain ⟨g, hg⟩ := exists_targets_eq_map hkind hcounterpart
      rw [hg, hsubjects] at h
      cases h
    | some counterpart =>
      rw [targets_of_counterpart hcounterpart, hsubjects] at h
      obtain ⟨hsome, hnone, rfl⟩ := related_eq_error_iff.1 h
      exact .unrelated hsubjects hsome hcounterpart hnone

theorem targets_of_no_subject (hnone : q.category.subject? = none) :
    q.targets scope = .error q.unsupported := by
  refine targets_of_subjects_error ?_
  simp only [subjects, hnone]

/-! ## Failures of supported queries -/

/-- The failure is no rejection. -/
def Excused (f : Failure) : Prop := f.reason ≠ .notPossible

theorem Excused.absent (h : f.reason = .notFound) : Excused f := by
  rw [Excused, h]
  decide

theorem Excused.mistyped (h : f.reason = .typeMismatch) : Excused f := by
  rw [Excused, h]
  decide

theorem Lost.excused (h : Lost scope q f) : Excused f := by
  cases h with
  | unnamed => exact .absent rfl
  | unrelated => exact .absent rfl

theorem excused_targets (hkind : q.category.subject? = some kind) :
    FailsOnly Excused (q.targets scope) :=
  fun _ h => (lost_of_targets hkind h).excused

/-! ## Support of single functions -/

/-- How the support for some categories shows in a result. -/
structure Gated (q : Query) (categories : List Category) (first : Except Failure Unit)
    (x : Except Failure (List String)) : Prop where
  unsupported : q.category ∉ categories → x = first >>= fun _ => .error q.unsupported
  supported : q.category ∈ categories → ∀ name, q.selector = .name name → FailsOnly Excused x

end

namespace Gated

section
variable {q : Query} {categories : List Category} {first : Except Failure Unit}
  {x : Except Failure (List String)}

theorem of_supported (h : categories.contains q.category = true) (hx : FailsOnly Excused x) :
    Gated q categories first x :=
  ⟨fun hnot => absurd (List.contains_iff_mem.1 h) hnot, fun _ _ _ => hx⟩

theorem of_rejected (h : categories.contains q.category = false)
    (hx : x = first >>= fun _ => .error q.unsupported) : Gated q categories first x := by
  refine ⟨fun _ => hx, fun hmem => ?_⟩
  rw [List.contains_iff_mem.2 hmem] at h
  cases h

theorem of_unsupported (h : categories.contains q.category = false) :
    Gated q categories (.ok ()) (.error q.unsupported) :=
  of_rejected h rfl

theorem of_eq {y : Except Failure (List String)} (hx : x = y) (h : Gated q categories first y) :
    Gated q categories first x :=
  hx ▸ h

theorem cons {c : Category} (h : Gated q categories first x) (hne : q.category ≠ c) :
    Gated q (c :: categories) first x := by
  refine ⟨fun hnot => h.unsupported fun hmem => hnot (List.mem_cons_of_mem _ hmem), fun hmem => ?_⟩
  exact h.supported ((List.mem_cons.1 hmem).resolve_left hne)

/-- A first step that does not reject may come before. -/
theorem after {α : Type} {first : Except Failure α} {f : α → Except Failure (List String)}
    (hfirst : q.category ∈ categories → FailsOnly Excused first)
    (h : ∀ a, Gated q categories (.ok ()) (f a)) :
    Gated q categories (first.map fun _ => ()) (first >>= f) := by
  refine ⟨fun hnot => ?_, fun hmem name hname => ?_⟩
  · cases first with
    | error e => rfl
    | ok a => exact (h a).unsupported hnot
  · exact failsOnly_bind (hfirst hmem) fun a => (h a).supported hmem name hname

end
end Gated

section
variable {scope : Scope} {q : Query}

theorem gated_name : Gated q Function.name.categories (.ok ()) (q.name scope) := by
  obtain ⟨function, category, selector, optional⟩ := q
  cases category with
  | user =>
    refine ⟨fun hnot => absurd (List.contains_iff_mem.1 rfl) hnot, ?_⟩
    rintro - name rfl
    exact failsOnly_ok _
  | system => exact .of_unsupported rfl
  | _ => exact .of_supported rfl (excused_targets rfl)

/-- What a function makes of the selected targets cannot go wrong. -/
theorem gated_selection {g : ElementKind × List String → Except Failure (List String)}
    (hg : ∀ selected, FailsOnly Excused (g selected)) :
    Gated q Function.count.categories (.ok ()) (q.selection scope >>= g) := by
  obtain ⟨function, category, selector, optional⟩ := q
  cases category with
  | user | system => exact .of_unsupported rfl
  | _ =>
    refine .of_supported rfl (failsOnly_bind ?_ hg)
    exact failsOnly_map (excused_targets rfl) _

theorem priority_of_target {kind : ElementKind} (hkind : q.category.target? = some kind) :
    q.priority scope = q.targets scope >>= fun targets =>
      match priorityOf? scope kind with
      | some read => readEach "priority" (fun t => (read t).map Numeral.text32) targets
      | none => .error q.unsupported := by
  simp only [priority, selection, hkind]
  cases q.targets scope <;> rfl

theorem gated_priority :
    Gated q Function.priority.categories ((q.targets scope).map fun _ => ())
      (q.priority scope) := by
  obtain ⟨function, category, selector, optional⟩ := q
  cases category with
  | user | system => exact .of_rejected rfl rfl
  | domain | domainOfSink | domainOfSource =>
    refine .of_eq (priority_of_target rfl) (.after ?_ fun _ => .of_unsupported rfl)
    exact fun _ => excused_targets rfl
  | _ =>
    refine .of_eq (priority_of_target rfl) (.after ?_ fun _ => .of_supported rfl ?_)
    · exact fun _ => excused_targets rfl
    · exact failsOnly_readEach .absent _ _ _

theorem gated_connectionFormat :
    Gated q Function.connectionFormat.categories ((q.targets scope).map fun _ => ())
      (q.connectionFormat scope) := by
  have hsubject : ∀ c ∈ Function.connectionFormat.categories, c.subject? ≠ none := by decide
  refine .after (fun hmem => ?_) fun targets => ?_
  · obtain ⟨kind, hkind⟩ := Option.ne_none_iff_exists'.1 (hsubject _ hmem)
    exact excused_targets hkind
  · obtain ⟨function, category, selector, optional⟩ := q
    cases category with
    | connection | connectionOfClass | connectionOfSink | connectionOfSource =>
      exact .of_supported rfl (failsOnly_readEach .absent _ _ _)
    | sink | sinkOfClass | source | sourceOfClass =>
      exact .of_supported rfl (failsOnly_ok _)
    | _ => exact .of_unsupported rfl

theorem gated_connectionState :
    Gated q Function.connectionState.categories (.ok ()) (q.connectionState scope) := by
  obtain ⟨function, category, selector, optional⟩ := q
  cases category with
  | user => exact .of_supported rfl (failsOnly_carried .absent _ _)
  | connection => exact .of_supported rfl (failsOnly_ok _)
  | connectionOfClass | connectionOfSink | connectionOfSource =>
    refine .of_supported rfl (failsOnly_bind (excused_targets rfl) fun _ => ?_)
    exact failsOnly_readEach .absent _ _ _
  | _ => exact .of_unsupported rfl

/-- A function that is for sinks and sources. -/
theorem gated_endpoints {rest : ElementKind → Except Failure (List String)}
    (hrest : ∀ kind, q.category.subject? ≠ none → FailsOnly Excused (rest kind)) :
    Gated q Function.volume.categories (.ok ()) (q.endpointKind >>= rest) := by
  obtain ⟨function, category, selector, optional⟩ := q
  cases category with
  | sink | sinkOfClass => exact .of_supported rfl (hrest .sink nofun)
  | source | sourceOfClass => exact .of_supported rfl (hrest .source nofun)
  | _ => exact .of_unsupported rfl

theorem excused_targets_bind (hsubject : q.category.subject? ≠ none)
    {rest : List String → Except Failure (List String)}
    (hrest : ∀ targets, FailsOnly Excused (rest targets)) :
    FailsOnly Excused (q.targets scope >>= rest) := by
  obtain ⟨kind, hkind⟩ := Option.ne_none_iff_exists'.1 hsubject
  exact failsOnly_bind (excused_targets hkind) hrest

theorem gated_fromEndpoints (what : String) (read : ElementKind → String → Option String) :
    Gated q Function.volume.categories (.ok ()) (q.fromEndpoints scope what read) :=
  gated_endpoints fun _ hsubject =>
    excused_targets_bind hsubject fun _ => failsOnly_readEach .absent _ _ _

/-- A value of the trigger makes the category `USER` supported too. -/
theorem gated_carriedOr {categories : List Category} {what : String} {value : Option String}
    {other : Except Failure (List String)} (h : Gated q categories (.ok ()) other) :
    Gated q (.user :: categories) (.ok ()) (q.carriedOr what value other) := by
  obtain ⟨function, category, selector, optional⟩ := q
  cases category with
  | user => exact .of_supported rfl (failsOnly_carried .absent _ _)
  | _ => exact .cons h nofun

theorem gated_fromTargets {categories : List Category}
    (hsubject : ∀ c ∈ categories, c.subject? ≠ none) (what : String)
    (read : String → Option String) :
    Gated q categories (.ok ()) (q.fromTargets scope categories what read) := by
  unfold fromTargets
  split
  next hmem =>
    have hsome := hsubject _ (List.contains_iff_mem.1 hmem)
    exact .of_supported hmem (excused_targets_bind hsome fun _ => failsOnly_readEach .absent _ _ _)
  next hnot => exact .of_unsupported (Bool.eq_false_iff.2 hnot)

theorem gated_state : Gated q Function.state.categories (.ok ()) (q.state scope) := by
  obtain ⟨function, category, selector, optional⟩ := q
  cases category with
  | source | sourceOfClass | domain | domainOfSink | domainOfSource =>
    refine .of_supported rfl (failsOnly_bind (failsOnly_ok _) fun kind => ?_)
    exact failsOnly_bind (excused_targets rfl) fun _ => failsOnly_readEach .absent _ _ _
  | _ => exact .of_unsupported rfl

theorem gated_isRegistrationComplete :
    Gated q Function.isRegistrationComplete.categories (.ok ())
      (q.isRegistrationComplete scope) := by
  obtain ⟨function, category, selector, optional⟩ := q
  cases category with
  | domain =>
    exact .of_supported rfl (failsOnly_bind (excused_targets rfl) fun _ => failsOnly_ok _)
  | _ => exact .of_unsupported rfl

/-! ## Properties and notifications -/

theorem gated_soundProperty :
    Gated q Function.soundProperty.categories (.ok ()) (q.soundProperty scope) := by
  refine gated_endpoints fun kind hsubject => ?_
  refine failsOnly_bind (failsOnly_type? .mistyped) fun type => ?_
  cases type with
  | none => exact failsOnly_error (.absent rfl)
  | some type => exact excused_targets_bind hsubject fun _ => failsOnly_readEach .absent _ _ _

theorem gated_mainSoundPropertyValue :
    Gated q Function.mainSoundPropertyValue.categories (q.type?.map fun _ => ())
      (q.mainSoundPropertyValue scope) := by
  refine .after (fun _ => failsOnly_type? .mistyped) fun wanted => ?_
  obtain ⟨function, category, selector, optional⟩ := q
  cases category with
  | user => exact .of_supported rfl (failsOnly_carriedAll .absent _ _)
  | _ =>
    refine .cons (gated_endpoints fun kind hsubject => excused_targets_bind hsubject ?_) nofun
    intro targets
    cases wanted with
    | some type => exact failsOnly_readEach .absent _ _ _
    | none => exact failsOnly_ok _

theorem gated_mainSoundPropertyType :
    Gated q Function.mainSoundPropertyType.categories (.ok ())
      (q.mainSoundPropertyType scope) := by
  obtain ⟨function, category, selector, optional⟩ := q
  cases category with
  | user => exact .of_supported rfl (failsOnly_ok _)
  | _ =>
    refine .cons (gated_endpoints fun kind hsubject => ?_) nofun
    exact excused_targets_bind hsubject fun _ => failsOnly_ok _

theorem gated_systemPropertyValue :
    Gated q Function.systemPropertyValue.categories (.ok ()) (q.systemPropertyValue scope) := by
  obtain ⟨function, category, selector, optional⟩ := q
  cases category with
  | user =>
    refine .of_supported rfl (failsOnly_bind (failsOnly_type? .mistyped) fun _ => ?_)
    exact failsOnly_carriedAll .absent _ _
  | system =>
    refine .of_supported rfl ?_
    cases selector with
    | all => exact failsOnly_ok _
    | requesting | name type => exact failsOnly_readEach .absent _ _ _
  | _ => exact .of_unsupported rfl

theorem gated_systemPropertyType :
    Gated q Function.systemPropertyType.categories (.ok ()) (q.systemPropertyType scope) := by
  obtain ⟨function, category, selector, optional⟩ := q
  cases category with
  | user | system => exact .of_supported rfl (failsOnly_ok _)
  | _ => exact .of_unsupported rfl

theorem gated_configurationsOf
    (configurations : ElementKind → String → List NotificationConfiguration)
    (part : NotificationConfiguration → String) (wanted : Option Int16) :
    Gated q Function.volume.categories (.ok ())
      (q.configurationsOf scope configurations part wanted) := by
  refine gated_endpoints fun kind hsubject => excused_targets_bind hsubject fun _ => ?_
  exact failsOnly_ite (.absent rfl) _

theorem gated_notificationConfiguration (part : NotificationConfiguration → String) :
    Gated q Function.notificationConfigurationStatus.categories (q.type?.map fun _ => ())
      (q.notificationConfiguration scope part) := by
  refine .after (fun _ => failsOnly_type? .mistyped) fun wanted => ?_
  obtain ⟨function, category, selector, optional⟩ := q
  cases category with
  | user => exact .of_unsupported rfl
  | _ => exact gated_configurationsOf _ _ _

theorem gated_mainNotificationConfiguration (part : NotificationConfiguration → String) :
    Gated q Function.mainNotificationConfigurationStatus.categories (q.type?.map fun _ => ())
      (q.mainNotificationConfiguration scope part) := by
  refine .after (fun _ => failsOnly_type? .mistyped) fun wanted => ?_
  obtain ⟨function, category, selector, optional⟩ := q
  cases category with
  | user =>
    refine .of_supported rfl ?_
    dsimp only
    split
    · exact failsOnly_ok _
    · exact failsOnly_error (.absent rfl)
  | _ => exact .cons (gated_configurationsOf _ _ _) nofun

/-! ## Queues and scales -/

theorem gated_peek : Gated q Function.peek.categories (.ok ()) (q.peek scope) := by
  obtain ⟨function, category, selector, optional⟩ := q
  cases category with
  | class_ | classOfSink | classOfSource | sink | source =>
    refine .of_supported rfl (failsOnly_bind (failsOnly_number? .mistyped) fun index => ?_)
    dsimp only
    split
    · exact failsOnly_error (.mistyped rfl)
    · exact failsOnly_bind (excused_targets rfl) fun _ => failsOnly_ok _
  | _ => exact .of_unsupported rfl

theorem gated_scale : Gated q Function.scale.categories (.ok ()) q.scale := by
  have hall : q.category ∈ Function.scale.categories := by
    cases q.category <;> decide
  exact ⟨fun hnot => absurd hall hnot, fun _ _ hname => failsOnly_scale .absent .mistyped hname⟩

/-! ## All functions -/

/-- The first step of a function and its outcome. -/
def begin (scope : Scope) (q : Query) : Except Failure Unit :=
  match q.function.firstStep with
  | .check => .ok ()
  | .readType => q.type?.map fun _ => ()
  | .follow => (q.targets scope).map fun _ => ()

theorem gated_answer (scope : Scope) (q : Query) :
    Gated q q.function.categories (q.begin scope) (q.answer scope) := by
  obtain ⟨function, category, selector, optional⟩ := q
  cases function with
  | name => exact gated_name
  | elements | count | isRegistered => exact gated_selection fun _ => failsOnly_ok _
  | priority => exact gated_priority
  | connectionState => exact gated_connectionState
  | volume | volumeLimit => exact gated_fromEndpoints _ _
  | mainVolume | muteState | interruptState =>
    exact gated_carriedOr (gated_fromTargets (by decide) _ _)
  | isMainVolumeStep | error | notificationDataValue | notificationDataType =>
    exact gated_carriedOr (.of_unsupported rfl)
  | soundProperty => exact gated_soundProperty
  | mainSoundPropertyValue => exact gated_mainSoundPropertyValue
  | mainSoundPropertyType => exact gated_mainSoundPropertyType
  | systemPropertyValue => exact gated_systemPropertyValue
  | systemPropertyType => exact gated_systemPropertyType
  | availability | availabilityReason => exact gated_carriedOr (gated_fromEndpoints _ _)
  | connectionFormat => exact gated_connectionFormat
  | isRegistrationComplete => exact gated_isRegistrationComplete
  | state => exact gated_state
  | peek => exact gated_peek
  | notificationConfigurationStatus | notificationConfigurationParam =>
    exact gated_notificationConfiguration _
  | mainNotificationConfigurationType | mainNotificationConfigurationStatus
  | mainNotificationConfigurationParam => exact gated_mainNotificationConfiguration _
  | scale => exact gated_scale

variable {f : Failure}

theorem Forestalls.excused (h : Forestalls scope q f) : Excused f := by
  cases h with
  | mistyped => exact .mistyped rfl
  | lost _ hlost => exact hlost.excused

theorem Forestalls.begin_eq (h : Forestalls scope q f) : q.begin scope = .error f := by
  cases h with
  | mistyped hstep htext hnumber =>
    simp only [begin, hstep, type?, number?, htext, hnumber]
    rfl
  | lost hstep hlost =>
    simp only [begin, hstep, hlost.targets_eq]
    rfl

theorem forestalls_of_begin (h : q.begin scope = .error f) :
    Forestalls scope q f ∨ f = q.unsupported := by
  unfold begin at h
  split at h
  next => cases h
  next hstep =>
    unfold type? number? at h
    split at h
    next => cases h
    next text htext =>
      split at h
      next => cases h
      next hnumber =>
        obtain rfl : Failure.notNumeric text = f := Except.error.inj h
        exact .inl (.mistyped hstep htext hnumber)
  next hstep =>
    cases htargets : q.targets scope with
    | ok targets =>
      rw [htargets] at h
      cases h
    | error e =>
      obtain rfl : e = f := by
        rw [htargets] at h
        exact Except.error.inj h
      cases hkind : q.category.subject? with
      | some kind => exact .inl (.lost hstep (lost_of_targets hkind htargets))
      | none =>
        rw [targets_of_no_subject hkind] at htargets
        exact .inr (Except.error.inj htargets).symm

end

/-- The table has just the categories that no data make a function reject. -/
theorem shown_iff_notMem_categories {function : Function} {category : Category} :
    (∃ scope name, Rejected (answer scope { function, category, selector := .name name })) ↔
      category ∉ function.categories := by
  constructor
  · rintro ⟨scope, name, f, hf, hreason⟩ hmem
    exact (gated_answer scope _).supported hmem name rfl f hf hreason
  · intro hnot
    -- The element has a counterpart under every relation, so that no first step fails.
    let phone : Endpoint := { name := "Phone", domain := "Car", class_ := "Speech" }
    let scope : Scope :=
      { store := .loaded { sinks := [phone], sources := [phone] } rfl
        graph := {}
        trigger := .systemRegisterDomain "Car" }
    let q : Query := { function, category, selector := .name "Phone" }
    have hbegin : q.begin scope = .ok () ∨ q.begin scope = .error q.unsupported := by
      unfold begin
      split
      · exact .inl rfl
      · exact .inl rfl
      · cases category with
        | user | system => exact .inr rfl
        | _ => exact .inl rfl
    have hanswer : q.answer scope = q.begin scope >>= fun _ => .error q.unsupported :=
      (gated_answer scope q).unsupported hnot
    refine ⟨scope, "Phone", q.unsupported, ?_, rfl⟩
    rcases hbegin with hbegin | hbegin
    · exact hanswer.trans (by rw [hbegin]; rfl)
    · exact hanswer.trans (by rw [hbegin]; rfl)

/-- A function that rejects a named element of a category, for whatever data, does not support
    the category. So it rejects every query of this category, unless its first step fails.
    Then it reports the failure of this step. -/
theorem unsupported_rejected_iff {function : Function} {category : Category}
    (h : ∃ scope name, Rejected (answer scope { function, category, selector := .name name }))
    (scope : Scope) (selector : Selector) (optional : List String) :
    let q : Query := { function, category, selector, optional }
    (Rejected (q.answer scope) ↔ ∀ f, ¬ Forestalls scope q f) ∧
      ∀ f, Forestalls scope q f → q.answer scope = .error f := by
  intro q
  have hanswer : q.answer scope = q.begin scope >>= fun _ => .error q.unsupported :=
    (gated_answer scope q).unsupported (shown_iff_notMem_categories.1 h)
  have hforestalled : ∀ f, Forestalls scope q f → q.answer scope = .error f := by
    intro f hf
    rw [hanswer, hf.begin_eq]
    rfl
  refine ⟨⟨?_, fun hnone => ?_⟩, hforestalled⟩
  · rintro ⟨f, hf, hrejects⟩ g hg
    obtain rfl : g = f := Except.error.inj ((hforestalled g hg).symm.trans hf)
    exact hg.excused hrejects
  · cases hbegin : q.begin scope with
    | ok _ =>
      rw [hanswer, hbegin]
      exact ⟨q.unsupported, rfl, rfl⟩
    | error f =>
      rcases forestalls_of_begin hbegin with hf | rfl
      · exact absurd hf (hnone f)
      · rw [hanswer, hbegin]
        exact ⟨q.unsupported, rfl, rfl⟩

/-- A declared sink leads to its domain, which has no priority. For an undeclared sink there is
    no domain to look at. -/
theorem unsupported_rejected_iff_of_domains :
    let scope : Scope :=
      { store := .loaded { sinks := [{ name := "Speaker", domain := "Amp" }],
                           domains := [{ name := "Amp" }] } rfl
        graph := {}
        trigger := .systemRegisterDomain "Amp" }
    let priority (name : String) : Query :=
      { function := .priority, category := .domainOfSink, selector := .name name }
    Rejected ((priority "Speaker").answer scope) ∧
      Forestalls scope (priority "Headset") (.unrelated .domainOfSink ["Headset"]) ∧
      (priority "Headset").answer scope = .error (.unrelated .domainOfSink ["Headset"]) ∧
      ¬ Rejected ((priority "Headset").answer scope) := by
  intro scope priority
  have hspeaker : Rejected ((priority "Speaker").answer scope) := ⟨_, rfl, rfl⟩
  have hlost : Forestalls scope (priority "Headset") (.unrelated .domainOfSink ["Headset"]) := by
    refine .lost rfl (.unrelated rfl (List.cons_ne_nil _ _) rfl ?_)
    decide
  obtain ⟨hrejected, hforestalled⟩ :=
    unsupported_rejected_iff ⟨scope, "Speaker", hspeaker⟩ scope (.name "Headset") []
  exact ⟨hspeaker, hlost, hforestalled _ hlost, fun h => hrejected.1 h _ hlost⟩

/-- The domain of an undeclared sink is not found, although domains have no priority. -/
theorem unsupported_priority_not_found :
    ¬ ∀ (function : Function) (category : Category),
      (∃ scope name, Rejected (answer scope { function, category, selector := .name name })) →
        ∀ (scope : Scope) (selector : Selector) (optional : List String),
          Rejected (answer scope { function, category, selector, optional }) := by
  intro h
  let scope : Scope :=
    { store := .loaded { sinks := [{ name := "Speaker", domain := "Amp" }],
                         domains := [{ name := "Amp" }] } rfl
      graph := {}
      trigger := .systemRegisterDomain "Amp" }
  obtain ⟨f, hf, hreason⟩ :=
    h .priority .domainOfSink ⟨scope, "Speaker", _, rfl, rfl⟩ scope (.name "Headset") []
  obtain rfl : .unrelated .domainOfSink ["Headset"] = f := Except.error.inj hf
  cases hreason

end Query
end AudioPolicy

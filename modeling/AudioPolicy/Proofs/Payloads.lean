-- SUMMARY: A payload that a template writes in part is completed from the trigger key by key.
import AudioPolicy.Proofs.Numerals
import AudioPolicy.Proofs.Params
import AudioPolicy.Template.Resolve

/-! # Payloads

The payload of a property action is a type and a value, and that of a notification action a
type, a status and a parameter. What the template leaves out of a payload is filled in from
the trigger, each key without regard to the others. The value that is filled in belongs to
the first property of the trigger. So the payload is one that the trigger carries just if the
type is filled in as well, or if the written type happens to agree. -/

namespace AudioPolicy

open AudioPolicy.Action

/-- The payload of a property action is the text of a property. -/
structure Action.Carries (action : Action) (p : Property) : Prop where
  type : action.param? Key.propertyType = some (Numeral.text16 p.type)
  value : action.param? Key.propertyValue = some (Numeral.text16 p.value)

namespace Template

section
variable {t : Trigger} {expand : String → Logged String} {template : Template} {ps : Params}

/-! ## Written parameters -/

theorem value_resolveEntries (kind : Action.Kind) (t : Trigger)
    (expand : String → Logged String) (entries : List (String × String)) :
    (resolveEntries kind t expand entries).value =
      entries.map fun entry =>
        (entry.1, (resolveParam kind t expand entry.1 entry.2).value) := by
  induction entries with
  | nil => rfl
  | cons entry entries ih =>
    simp only [resolveEntries, Logged.value_bind, Logged.value_pure, ih, List.map_cons]

/-- What the template writes under a key comes to this text. -/
def written? (t : Trigger) (expand : String → Logged String) (template : Template)
    (key : String) : Option String :=
  (template.params.get? key).map fun text =>
    (resolveParam template.kind t expand key text).value

/-- The defaults are filled into parameters that hold just what the template writes. -/
theorem value_resolve (t : Trigger) (expand : String → Logged String) (template : Template) :
    ∃ ps : Params, (∀ key, ps.get? key = written? t expand template key) ∧
      (resolve t expand template).value =
        { kind := template.kind, params := fillDefaults template.kind t ps } := by
  refine ⟨_, fun key => ?_, rfl⟩
  rw [value_resolveEntries]
  exact Params.get?_ofList_map template.params
    (fun key text => (resolveParam template.kind t expand key text).value) key

/-! ## Defaults -/

theorem get?_fill (key : String) (value : Option String) (ps : Params) (k : String) :
    (fill key value ps).get? k = if k = key then (ps.get? k).or value else ps.get? k := by
  unfold fill
  cases value with
  | none => simp
  | some value => exact Params.get?_insertIfNew ps key value k

/-- Only the sink or the source is filled in as the target. -/
theorem get?_fillEndpoint {key : String} (h : key ∉ [Key.sinkName, Key.sourceName])
    (t : Trigger) (ps : Params) : (fillEndpoint t ps).get? key = ps.get? key := by
  simp only [List.mem_cons, List.not_mem_nil, or_false, not_or] at h
  unfold fillEndpoint
  split
  · rfl
  · split
    · simp [Params.get?_insertIfNew, h.1]
    · simp [get?_fill, h.2]

theorem get?_fillProperty (property : Option Property) (ps : Params) :
    (fillProperty property ps).get? Key.propertyType =
        (ps.get? Key.propertyType).or (property.map fun p => Numeral.text16 p.type) ∧
      (fillProperty property ps).get? Key.propertyValue =
        (ps.get? Key.propertyValue).or (property.map fun p => Numeral.text16 p.value) := by
  have hkeys : Key.propertyType ≠ Key.propertyValue := by decide
  simp [fillProperty, get?_fill, hkeys, hkeys.symm]

theorem get?_fillNotification (t : Trigger) (ps : Params) :
    (fillNotification t ps).get? Key.notificationType =
        (ps.get? Key.notificationType).or
          (t.notificationConfiguration?.map fun c => Numeral.text16 c.type) ∧
      (fillNotification t ps).get? Key.notificationStatus =
        (ps.get? Key.notificationStatus).or
          (t.notificationConfiguration?.map fun c => codeText c.status) ∧
      (fillNotification t ps).get? Key.notificationParam =
        (ps.get? Key.notificationParam).or
          (t.notificationConfiguration?.map fun c => Numeral.text16 c.parameter) := by
  have htypeStatus : Key.notificationType ≠ Key.notificationStatus := by decide
  have htypeParam : Key.notificationType ≠ Key.notificationParam := by decide
  have hstatusParam : Key.notificationStatus ≠ Key.notificationParam := by decide
  simp [fillNotification, get?_fill, htypeStatus, htypeParam, hstatusParam, htypeStatus.symm,
    htypeParam.symm, hstatusParam.symm]

/-! ## Payloads -/

/-- The properties of the trigger of which a property action takes the first one. -/
def offered? (t : Trigger) : Action.Kind → Option (List Property)
  | .setProperty => some t.mainSoundProperties
  | .setSystemProperty => some t.systemProperties
  | _ => none

theorem param?_resolve_property {properties : List Property}
    (h : offered? t template.kind = some properties) :
    (resolve t expand template).value.param? Key.propertyType =
        (written? t expand template Key.propertyType).or
          (properties.head?.map fun p => Numeral.text16 p.type) ∧
      (resolve t expand template).value.param? Key.propertyValue =
        (written? t expand template Key.propertyValue).or
          (properties.head?.map fun p => Numeral.text16 p.value) := by
  obtain ⟨ps, hwritten, hresolve⟩ := value_resolve t expand template
  rw [hresolve, ← hwritten, ← hwritten]
  unfold offered? at h
  split at h
  next hkind =>
    obtain rfl := Option.some.inj h
    have hfilled := get?_fillProperty t.mainSoundProperties.head? (fillEndpoint t ps)
    rw [get?_fillEndpoint (by decide), get?_fillEndpoint (by decide)] at hfilled
    simpa only [Action.param?, hkind, fillDefaults] using hfilled
  next hkind =>
    obtain rfl := Option.some.inj h
    simpa only [Action.param?, hkind, fillDefaults] using
      get?_fillProperty t.systemProperties.head? ps
  next => cases h

theorem param?_resolve_notification (h : template.kind = .setNotificationConfiguration) :
    (resolve t expand template).value.param? Key.notificationType =
        (written? t expand template Key.notificationType).or
          (t.notificationConfiguration?.map fun c => Numeral.text16 c.type) ∧
      (resolve t expand template).value.param? Key.notificationStatus =
        (written? t expand template Key.notificationStatus).or
          (t.notificationConfiguration?.map fun c => codeText c.status) ∧
      (resolve t expand template).value.param? Key.notificationParam =
        (written? t expand template Key.notificationParam).or
          (t.notificationConfiguration?.map fun c => Numeral.text16 c.parameter) := by
  obtain ⟨ps, hwritten, hresolve⟩ := value_resolve t expand template
  have hfilled := get?_fillNotification t (fillEndpoint t ps)
  rw [get?_fillEndpoint (by decide), get?_fillEndpoint (by decide),
    get?_fillEndpoint (by decide)] at hfilled
  rw [hresolve, ← hwritten, ← hwritten, ← hwritten]
  simpa only [Action.param?, h, fillDefaults] using hfilled

/-- The template leaves a parameter out that the action has. -/
def FilledIn (template : Template) (action : Action) (key : String) : Prop :=
  template.params.get? key = none ∧ action.param? key ≠ none

instance (template : Template) (action : Action) (key : String) :
    Decidable (FilledIn template action key) :=
  inferInstanceAs (Decidable (_ ∧ _))

/-- What is filled in is the text of something that the trigger carries. -/
theorem exists_of_filledIn {α : Type} {action : Action} {key : String} {carried : Option α}
    {write : α → String} (hfilled : FilledIn template action key)
    (hparam : action.param? key = (written? t expand template key).or (carried.map write)) :
    ∃ a, carried = some a ∧ action.param? key = some (write a) := by
  obtain ⟨hunwritten, hsome⟩ := hfilled
  rw [written?, hunwritten, Option.map_none, Option.none_or] at hparam
  cases hcarried : carried with
  | none =>
    rw [hcarried] at hparam
    exact absurd hparam hsome
  | some a =>
    rw [hcarried] at hparam
    exact ⟨a, rfl, hparam⟩

/-- A payload with the value of the first property, and with its type unless one is written,
    is a property just if a written type is the one of a property with this value. -/
theorem exists_carries_iff {action : Action} {properties : List Property} {first : Property}
    {written : Option String} (hfirst : properties.head? = some first)
    (htype : action.param? Key.propertyType = written.or (some (Numeral.text16 first.type)))
    (hvalue : action.param? Key.propertyValue = some (Numeral.text16 first.value)) :
    (∃ p ∈ properties, action.Carries p) ↔
      ∀ type, written = some type →
        ∃ p ∈ properties, type = Numeral.text16 p.type ∧ first.value = p.value := by
  constructor
  · rintro ⟨p, hp, hcarries⟩ type rfl
    have hsameType : type = Numeral.text16 p.type :=
      Option.some.inj (htype.symm.trans hcarries.type)
    have hsameValue : Numeral.text16 first.value = Numeral.text16 p.value :=
      Option.some.inj (hvalue.symm.trans hcarries.value)
    exact ⟨p, hp, hsameType, Numeral.text16_inj.1 hsameValue⟩
  · intro h
    cases written with
    | none => exact ⟨first, List.mem_of_head? hfirst, htype, hvalue⟩
    | some type =>
      obtain ⟨p, hp, rfl, hsame⟩ := h type rfl
      rw [hsame] at hvalue
      exact ⟨p, hp, htype, hvalue⟩

end

/-- A value that is filled in is the one of the first property of the trigger. With its type
    it makes up a property of the trigger just if no type is written, or if the written type is
    the one of a property with the same value. If a part of a notification configuration is
    filled in, then the type is the one of the trigger just if no other type is written. -/
theorem payload_unmixed_iff (t : Trigger) (expand : String → Logged String)
    (template : Template) :
    let action := (resolve t expand template).value
    (∀ properties, offered? t template.kind = some properties →
        FilledIn template action Key.propertyValue →
          action.param? Key.propertyValue =
              properties.head?.map (fun p => Numeral.text16 p.value) ∧
            ((∃ p ∈ properties, action.Carries p) ↔
              ∀ type, written? t expand template Key.propertyType = some type →
                ∃ p ∈ properties, type = Numeral.text16 p.type ∧
                  properties.head?.map (·.value) = some p.value)) ∧
      (template.kind = .setNotificationConfiguration →
        FilledIn template action Key.notificationStatus ∨
            FilledIn template action Key.notificationParam →
          ((∃ c, t.notificationConfiguration? = some c ∧
              action.param? Key.notificationType = some (Numeral.text16 c.type)) ↔
            ∀ type, written? t expand template Key.notificationType = some type →
              ∃ c, t.notificationConfiguration? = some c ∧ type = Numeral.text16 c.type)) := by
  intro action
  constructor
  · intro properties hoffered hfilled
    obtain ⟨htype, hvalue⟩ :
        action.param? Key.propertyType = _ ∧ action.param? Key.propertyValue = _ :=
      param?_resolve_property hoffered
    obtain ⟨first, hfirst, hparam⟩ := exists_of_filledIn hfilled hvalue
    simp only [hfirst, Option.map_some, Option.some.injEq] at htype ⊢
    exact ⟨hparam, exists_carries_iff hfirst htype hparam⟩
  · intro hkind hfilled
    obtain ⟨htype, hstatus, hparam⟩ :
        action.param? Key.notificationType = _ ∧ action.param? Key.notificationStatus = _ ∧
          action.param? Key.notificationParam = _ := param?_resolve_notification hkind
    obtain ⟨c, hc⟩ : ∃ c, t.notificationConfiguration? = some c := by
      rcases hfilled with hfilled | hfilled
      · exact (exists_of_filledIn hfilled hstatus).imp fun _ => And.left
      · exact (exists_of_filledIn hfilled hparam).imp fun _ => And.left
    simp only [hc, Option.some.injEq, exists_eq_left', htype, Option.map_some]
    cases written? t expand template Key.notificationType with
    | none => simp
    | some type => simp

/-- The written type is the one of the second property, which has the value of the first. And
    the type of a notification is written, but not the one of the trigger. -/
theorem payload_unmixed_iff_of_written_types :
    let p : Property := ⟨2, 5⟩
    let t : Trigger := .userSetSinkMainSoundProperties "Speaker" [⟨1, 5⟩, p]
    let template : Template :=
      { kind := .setProperty, params := .ofList [(Key.propertyType, "\"2\"")] }
    let c : NotificationConfiguration := { type := 4, status := .periodic, parameter := 7 }
    let request : Trigger := .userSetSinkMainNotificationConfiguration "Speaker" c
    let notification : Template :=
      { kind := .setNotificationConfiguration
        params := .ofList [(Key.notificationType, "\"9\""), (Key.notificationStatus, "2")] }
    let action := (resolve t pure template).value
    let asked := (resolve request pure notification).value
    FilledIn template action Key.propertyValue ∧ (∃ p ∈ t.mainSoundProperties, action.Carries p) ∧
      FilledIn notification asked Key.notificationParam ∧
        ¬ ∃ c, request.notificationConfiguration? = some c ∧
          asked.param? Key.notificationType = some (Numeral.text16 c.type) := by
  intro p t template c request notification action asked
  have hfilled : FilledIn template action Key.propertyValue := by decide +kernel
  have hasked : FilledIn notification asked Key.notificationParam := by decide +kernel
  have hsecond : written? t pure template Key.propertyType = some "2" := by decide +kernel
  have hother : written? request pure notification Key.notificationType = some "9" := by
    decide +kernel
  obtain ⟨hproperty, -⟩ := payload_unmixed_iff t pure template
  obtain ⟨-, hnotification⟩ := payload_unmixed_iff request pure notification
  refine ⟨hfilled, ((hproperty t.mainSoundProperties rfl hfilled).2).2 ?_, hasked, fun h => ?_⟩
  · intro type htype
    obtain rfl : "2" = type := Option.some.inj (hsecond.symm.trans htype)
    exact ⟨p, List.mem_cons_of_mem _ List.mem_cons_self, by decide, rfl⟩
  · obtain ⟨d, hd, htype⟩ := (hnotification rfl (.inr hasked)).1 h "9" hother
    obtain rfl : c = d := Option.some.inj hd
    exact absurd htype (by decide)

/-- The written type of the second property is combined with the value of the first. -/
theorem written_type_with_default_value :
    ¬ ∀ (t : Trigger) (expand : String → Logged String) (template : Template),
      let action := (resolve t expand template).value
      (∀ properties, offered? t template.kind = some properties →
          FilledIn template action Key.propertyValue → ∃ p ∈ properties, action.Carries p) ∧
        (template.kind = .setNotificationConfiguration →
          FilledIn template action Key.notificationStatus ∨
              FilledIn template action Key.notificationParam →
            ∃ c, t.notificationConfiguration? = some c ∧
              action.param? Key.notificationType = some (Numeral.text16 c.type)) := by
  intro h
  let t : Trigger := .userSetSinkMainSoundProperties "Speaker" [⟨1, 5⟩, ⟨2, -3⟩]
  let template : Template :=
    { kind := .setProperty, params := .ofList [(Key.propertyType, "\"2\"")] }
  let action := (resolve t pure template).value
  have hfilled : FilledIn template action Key.propertyValue := by decide +kernel
  have htype : action.param? Key.propertyType = some "2" := by decide +kernel
  have hvalue : action.param? Key.propertyValue = some "5" := by decide +kernel
  obtain ⟨p, hp, hcarries⟩ := (h t pure template).1 [⟨1, 5⟩, ⟨2, -3⟩] rfl hfilled
  have hsameType : some "2" = some (Numeral.text16 p.type) := htype.symm.trans hcarries.type
  have hsameValue : some "5" = some (Numeral.text16 p.value) := hvalue.symm.trans hcarries.value
  simp only [List.mem_cons, List.not_mem_nil, or_false] at hp
  obtain rfl | rfl := hp
  · exact absurd hsameType (by decide)
  · exact absurd hsameValue (by decide)

end Template
end AudioPolicy

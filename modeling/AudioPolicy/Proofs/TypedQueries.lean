-- SUMMARY: A type parameter restricts a query to the entries of that type, if it fits 16 bits.
import AudioPolicy.Proofs.Numerals
import AudioPolicy.Query.Answer

/-! # Queries with a type parameter

Properties and notification configurations have a type, and the functions that read them take
a type as their first optional argument. A type of 16 bits restricts the values to those of
the entries with this type. A greater or a smaller number is not seen at all, so the query is
answered as if it had no type, and the values of every type come back. -/

namespace AudioPolicy.Query

/-! ## Entries -/

/-- What a function reads from something that has a type. -/
structure Entry where
  type : Int16
  value : String
  deriving DecidableEq, Repr

/-- The entry of a property. -/
def Entry.ofProperty (p : Property) : Entry := ⟨p.type, Numeral.text16 p.value⟩

/-- The entry of a part of a notification configuration. -/
def Entry.ofConfiguration (part : NotificationConfiguration → String)
    (c : NotificationConfiguration) : Entry := ⟨c.type, part c⟩

/-- The entries that a trigger carries for a function. -/
def carriedEntries (t : Trigger) : Function → List Entry
  | .mainSoundPropertyValue => t.mainSoundProperties.map .ofProperty
  | .systemPropertyValue => t.systemProperties.map .ofProperty
  | .mainNotificationConfigurationType =>
    t.notificationConfiguration?.toList.map (.ofConfiguration fun c => Numeral.text16 c.type)
  | .mainNotificationConfigurationStatus =>
    t.notificationConfiguration?.toList.map (.ofConfiguration fun c => codeText c.status)
  | .mainNotificationConfigurationParam =>
    t.notificationConfiguration?.toList.map (.ofConfiguration fun c => Numeral.text16 c.parameter)
  | _ => []

/-- The entries that an element holds for a function. -/
def heldEntries (g : Graph) (kind : ElementKind) (name : String) : Function → List Entry
  | .mainSoundPropertyValue => (g.mainSoundProperties kind name).map .ofProperty
  | .notificationConfigurationStatus =>
    (g.notifications kind name).map (.ofConfiguration fun c => codeText c.status)
  | .notificationConfigurationParam =>
    (g.notifications kind name).map (.ofConfiguration fun c => Numeral.text16 c.parameter)
  | .mainNotificationConfigurationType =>
    (g.mainNotifications kind name).map (.ofConfiguration fun c => Numeral.text16 c.type)
  | .mainNotificationConfigurationStatus =>
    (g.mainNotifications kind name).map (.ofConfiguration fun c => codeText c.status)
  | .mainNotificationConfigurationParam =>
    (g.mainNotifications kind name).map (.ofConfiguration fun c => Numeral.text16 c.parameter)
  | _ => []

/-- The trigger carries the entry, or one of the targets holds it. -/
inductive Offers (scope : Scope) (q : Query) (e : Entry) : Prop
  | carried : q.category = .user → e ∈ carriedEntries scope.trigger q.function → Offers scope q e
  | held {kind : ElementKind} {targets : List String} {target : String} :
      q.endpointKind = .ok kind → q.targets scope = .ok targets → target ∈ targets →
        e ∈ heldEntries scope.graph kind target q.function → Offers scope q e

/-- The function reads typed entries, and its first optional argument is a type. -/
def takesType (q : Query) : Bool :=
  match q.function with
  | .mainSoundPropertyValue | .notificationConfigurationStatus | .notificationConfigurationParam
  | .mainNotificationConfigurationType | .mainNotificationConfigurationStatus
  | .mainNotificationConfigurationParam => true
  | .systemPropertyValue => q.category == .user
  | _ => false

/-- The value is one of the answer. -/
def Gives (q : Query) (scope : Scope) (v : String) : Prop :=
  ∃ values, q.answer scope = .ok values ∧ v ∈ values

/-- Each value of the answer comes from an entry of this type. -/
def RestrictedTo (q : Query) (scope : Scope) (type : Int) : Prop :=
  ∀ v, q.Gives scope v → ∃ e, q.Offers scope e ∧ e.type.toInt = type ∧ e.value = v

/-! ## Reading entries -/

/-- The values come from wanted entries, and there are some if there is a wanted entry. -/
structure ValuesOf (wanted : Option Int16) (offers : Entry → Prop) (values : List String) :
    Prop where
  sound : ∀ v ∈ values, ∃ e, offers e ∧ isWanted wanted e.type = true ∧ e.value = v
  complete : ∀ e, offers e → isWanted wanted e.type = true → values ≠ []

/-- A failure stands for no values. -/
def ReadsFrom (wanted : Option Int16) (offers : Entry → Prop)
    (x : Except Failure (List String)) : Prop :=
  ValuesOf wanted offers (x.toOption.getD [])

section
variable {scope : Scope} {q : Query} {wanted : Option Int16} {offers offers' : Entry → Prop}
  {values : List String}

theorem ValuesOf.congr (h : ValuesOf wanted offers values) (hoffers : ∀ e, offers' e ↔ offers e) :
    ValuesOf wanted offers' values := by
  have heq : offers' = offers := funext fun e => propext (hoffers e)
  exact heq ▸ h

theorem valuesOf_nil (h : ∀ e, ¬ offers e) : ValuesOf wanted offers [] where
  sound _ hv := absurd hv List.not_mem_nil
  complete e he _ := absurd he (h e)

theorem valuesOf_filter {α : Type} (entry : α → Entry) (as : List α) :
    ValuesOf wanted (· ∈ as.map entry)
      ((as.filter fun a => isWanted wanted (entry a).type).map fun a => (entry a).value) where
  sound v hv := by
    obtain ⟨a, ha, rfl⟩ := List.mem_map.1 hv
    obtain ⟨hmem, hwanted⟩ := List.mem_filter.1 ha
    exact ⟨entry a, List.mem_map_of_mem hmem, hwanted, rfl⟩
  complete e he hwanted := by
    obtain ⟨a, ha, rfl⟩ := List.mem_map.1 he
    exact List.ne_nil_of_mem (List.mem_map_of_mem (List.mem_filter.2 ⟨ha, hwanted⟩))

/-- No values may also be a failure. -/
theorem ValuesOf.readsFrom (h : ValuesOf wanted offers values) (f : Failure) (strict : Bool) :
    ReadsFrom wanted offers (if values.isEmpty && strict then .error f else .ok values) := by
  unfold ReadsFrom
  split
  next hempty =>
    rw [Bool.and_eq_true, List.isEmpty_iff] at hempty
    exact hempty.1 ▸ h
  next => exact h

theorem ValuesOf.carriedAll (h : ValuesOf wanted offers values) (what : String) :
    ReadsFrom wanted offers (carriedAll what values) := by
  simpa only [Query.carriedAll, Bool.and_true] using h.readsFrom (.absent what) true

/-- A query for the trigger can only read what it carries. -/
theorem offers_iff_carried (h : q.category = .user) (e : Entry) :
    q.Offers scope e ↔ e ∈ carriedEntries scope.trigger q.function := by
  constructor
  · rintro (⟨-, he⟩ | ⟨hkind, -, -, -⟩)
    · exact he
    · simp [endpointKind, h] at hkind
  · exact Offers.carried h

/-- Any other query can only read what its targets hold. -/
theorem offers_iff_held {kind : ElementKind} {targets : List String}
    (hkind : q.endpointKind = .ok kind) (htargets : q.targets scope = .ok targets) (e : Entry) :
    q.Offers scope e ↔ ∃ target ∈ targets, e ∈ heldEntries scope.graph kind target q.function := by
  constructor
  · rintro (⟨huser, -⟩ | ⟨hkind', htargets', hmem, he⟩)
    · simp [endpointKind, huser] at hkind
    · rw [hkind, Except.ok.injEq] at hkind'
      rw [htargets, Except.ok.injEq] at htargets'
      subst hkind' htargets'
      exact ⟨_, hmem, he⟩
  · rintro ⟨target, hmem, he⟩
    exact .held hkind htargets hmem he

/-- A function of the targets reads the right entries if it does so for every selection. -/
theorem readsFrom_targets {f : ElementKind → List String → Except Failure (List String)}
    (huser : q.category ≠ .user)
    (h : ∀ kind targets, ReadsFrom wanted
      (fun e => ∃ target ∈ targets, e ∈ heldEntries scope.graph kind target q.function)
      (f kind targets)) :
    ReadsFrom wanted (q.Offers scope) (do
      let kind ← q.endpointKind
      let targets ← q.targets scope
      f kind targets) := by
  cases hkind : q.endpointKind with
  | error failure =>
    refine valuesOf_nil fun e => ?_
    rintro (⟨huser', -⟩ | ⟨hkind', -, -, -⟩)
    · exact huser huser'
    · simp [hkind] at hkind'
  | ok kind =>
    cases htargets : q.targets scope with
    | error failure =>
      refine valuesOf_nil fun e => ?_
      rintro (⟨huser', -⟩ | ⟨-, htargets', -, -⟩)
      · exact huser huser'
      · simp [htargets] at htargets'
    | ok targets => exact (h kind targets).congr fun e => offers_iff_held hkind htargets e

theorem valuesOf_targets_filter {α : Type} (entry : α → Entry) (read : String → List α)
    {held : String → List Entry} (hheld : ∀ target, held target = (read target).map entry)
    (targets : List String) :
    ValuesOf wanted (fun e => ∃ target ∈ targets, e ∈ held target)
      (((targets.flatMap read).filter fun a => isWanted wanted (entry a).type).map
        fun a => (entry a).value) := by
  refine (valuesOf_filter entry (targets.flatMap read)).congr fun e => ?_
  simp only [hheld, List.map_flatMap, List.mem_flatMap]

/-- Reading the first property of a type from each target. -/
theorem valuesOf_targets_first {type : Int16} (read : String → List Property)
    (targets : List String) :
    ValuesOf (some type) (fun e => ∃ target ∈ targets, e ∈ (read target).map Entry.ofProperty)
      (targets.filterMap fun t => (Property.valueOf? (read t) type).map Numeral.text16) where
  sound v hv := by
    obtain ⟨target, htarget, hvalue⟩ := List.mem_filterMap.1 hv
    simp only [Property.valueOf?, Option.map_map, Option.map_eq_some_iff] at hvalue
    obtain ⟨p, hfind, rfl⟩ := hvalue
    have hmem := List.mem_of_find?_eq_some hfind
    have htype := List.find?_some hfind
    exact ⟨.ofProperty p, ⟨target, htarget, List.mem_map_of_mem hmem⟩, htype, rfl⟩
  complete e he hwanted := by
    obtain ⟨target, htarget, hmem⟩ := he
    obtain ⟨p, hp, rfl⟩ := List.mem_map.1 hmem
    have hfind : ((read target).find? fun p => p.type == type).isSome = true :=
      List.find?_isSome.2 ⟨p, hp, hwanted⟩
    obtain ⟨first, hfirst⟩ := Option.isSome_iff_exists.1 hfind
    have hvalue : Numeral.text16 first.value ∈
        targets.filterMap fun t => (Property.valueOf? (read t) type).map Numeral.text16 :=
      List.mem_filterMap.2 ⟨target, htarget, by simp [Property.valueOf?, hfirst]⟩
    exact List.ne_nil_of_mem hvalue

/-! ## The functions -/

theorem type?_bind (htype : q.type? = .ok wanted)
    (f : Option Int16 → Except Failure (List String)) : (q.type? >>= f) = f wanted := by
  rw [htype]
  rfl

theorem mainSoundProperty?_eq_valueOf? (g : Graph) (kind : ElementKind) (name : String)
    (type : Int16) : g.mainSoundProperty? kind name type =
      Property.valueOf? (g.mainSoundProperties kind name) type := by
  unfold Graph.mainSoundProperty? Graph.mainSoundProperties
  cases g.element? kind name with
  | none => rfl
  | some e => rfl

theorem readsFrom_mainSoundPropertyValue (hfun : q.function = .mainSoundPropertyValue)
    (htype : q.type? = .ok wanted) :
    ReadsFrom wanted (q.Offers scope) (q.mainSoundPropertyValue scope) := by
  rw [mainSoundPropertyValue, type?_bind htype]
  split
  case h_1 huser =>
    refine ValuesOf.carriedAll ?_ _
    refine (valuesOf_filter Entry.ofProperty scope.trigger.mainSoundProperties).congr fun e => ?_
    rw [offers_iff_carried huser, hfun, carriedEntries]
  case h_2 huser =>
    refine readsFrom_targets huser fun kind targets => ?_
    simp only [hfun, heldEntries]
    cases wanted with
    | some type =>
      simp only [mainSoundProperty?_eq_valueOf?]
      exact (valuesOf_targets_first (scope.graph.mainSoundProperties kind) targets).readsFrom _ _
    | none =>
      have hvalues : ValuesOf none _ _ := valuesOf_targets_filter Entry.ofProperty
        (scope.graph.mainSoundProperties kind) (fun _ => rfl) targets
      simp only [isWanted, List.filter_true] at hvalues
      exact hvalues

theorem readsFrom_systemPropertyValue (hfun : q.function = .systemPropertyValue)
    (huser : q.category = .user) (htype : q.type? = .ok wanted) :
    ReadsFrom wanted (q.Offers scope) (q.systemPropertyValue scope) := by
  rw [systemPropertyValue, huser]
  change ReadsFrom wanted _ (q.type? >>= _)
  rw [type?_bind htype]
  refine ValuesOf.carriedAll ?_ _
  refine (valuesOf_filter Entry.ofProperty scope.trigger.systemProperties).congr fun e => ?_
  rw [offers_iff_carried huser, hfun, carriedEntries]

theorem readsFrom_configurationsOf {part : NotificationConfiguration → String}
    {configurations : ElementKind → String → List NotificationConfiguration}
    (huser : q.category ≠ .user)
    (hheld : ∀ kind target, heldEntries scope.graph kind target q.function =
      (configurations kind target).map (.ofConfiguration part)) :
    ReadsFrom wanted (q.Offers scope) (q.configurationsOf scope configurations part wanted) := by
  refine readsFrom_targets huser fun kind targets => ?_
  exact (valuesOf_targets_filter (.ofConfiguration part) (configurations kind) (hheld kind)
    targets).readsFrom _ _

theorem readsFrom_notificationConfiguration {part : NotificationConfiguration → String}
    (hcarried : carriedEntries scope.trigger q.function = [])
    (hheld : ∀ kind target, heldEntries scope.graph kind target q.function =
      (scope.graph.notifications kind target).map (.ofConfiguration part))
    (htype : q.type? = .ok wanted) :
    ReadsFrom wanted (q.Offers scope) (q.notificationConfiguration scope part) := by
  rw [notificationConfiguration, type?_bind htype]
  split
  case h_1 huser =>
    refine valuesOf_nil fun e => ?_
    simp [offers_iff_carried huser, hcarried]
  case h_2 huser => exact readsFrom_configurationsOf huser hheld

theorem readsFrom_mainNotificationConfiguration {part : NotificationConfiguration → String}
    (hcarried : carriedEntries scope.trigger q.function =
      scope.trigger.notificationConfiguration?.toList.map (.ofConfiguration part))
    (hheld : ∀ kind target, heldEntries scope.graph kind target q.function =
      (scope.graph.mainNotifications kind target).map (.ofConfiguration part))
    (htype : q.type? = .ok wanted) :
    ReadsFrom wanted (q.Offers scope) (q.mainNotificationConfiguration scope part) := by
  rw [mainNotificationConfiguration, type?_bind htype]
  split
  case h_1 huser =>
    have hoffers (e : Entry) : q.Offers scope e ↔
        e ∈ scope.trigger.notificationConfiguration?.toList.map (.ofConfiguration part) := by
      rw [offers_iff_carried huser, hcarried]
    have hvalues : ValuesOf wanted (q.Offers scope) _ := (valuesOf_filter _ _).congr hoffers
    cases hconfiguration : scope.trigger.notificationConfiguration? with
    | none =>
      rw [hconfiguration] at hvalues
      exact hvalues
    | some c =>
      rw [hconfiguration] at hvalues
      simp only [Option.toList_some, List.filter_cons, List.filter_nil,
        Entry.ofConfiguration] at hvalues
      rw [Option.filter_some]
      cases hwanted : isWanted wanted c.type with
      | true =>
        rw [hwanted] at hvalues
        exact hvalues
      | false =>
        rw [hwanted] at hvalues
        exact hvalues
  case h_2 huser => exact readsFrom_configurationsOf huser hheld

/-- Each function that takes a type reads the entries that are wanted. -/
theorem readsFrom_answer (htakes : q.takesType = true) (htype : q.type? = .ok wanted) :
    ReadsFrom wanted (q.Offers scope) (q.answer scope) := by
  cases hfun : q.function with
  | mainSoundPropertyValue =>
    simpa only [answer, hfun] using readsFrom_mainSoundPropertyValue hfun htype
  | systemPropertyValue =>
    have huser : q.category = .user := by simpa [takesType, hfun] using htakes
    simpa only [answer, hfun] using readsFrom_systemPropertyValue hfun huser htype
  | notificationConfigurationStatus | notificationConfigurationParam =>
    simp only [answer, hfun]
    exact readsFrom_notificationConfiguration (by rw [hfun]; rfl) (fun _ _ => by rw [hfun]; rfl)
      htype
  | mainNotificationConfigurationType | mainNotificationConfigurationStatus
  | mainNotificationConfigurationParam =>
    simp only [answer, hfun]
    exact readsFrom_mainNotificationConfiguration (by rw [hfun]; rfl)
      (fun _ _ => by rw [hfun]; rfl) htype
  | _ => simp [takesType, hfun] at htakes

/-! ## The type parameter -/

theorem gives_iff_mem {v : String} :
    q.Gives scope v ↔ v ∈ (q.answer scope).toOption.getD [] := by
  unfold Gives
  cases q.answer scope with
  | error failure => simp [Except.toOption]
  | ok values => simp [Except.toOption]

/-- The type is what the first optional argument denotes, if that fits 16 bits. -/
theorem type?_eq_narrow16? {text : String} {t : Int} (hgiven : q.optional.head? = some text)
    (hnumber : Symbol.number? text = some t) : q.type? = .ok (Numeral.narrow16? t) := by
  have hne : text ≠ "" := by
    rintro rfl
    have hempty : Symbol.number? "" = none := by decide
    simp [hempty] at hnumber
  have hfirst : q.optional? 0 = some text := by
    simp [optional?, ← List.head?_eq_getElem?, hgiven, hne]
  simp [type?, number?, hfirst, hnumber, Except.map]

theorem type?_eq_none (h : q.optional = []) : q.type? = .ok none := by
  simp [type?, number?, optional?, h, Except.map]

/-- A type that fits 16 bits wants the entries of just this type. -/
theorem isWanted_narrow16?_iff {t : Int} (h : Numeral.fits16 t = true) (type : Int16) :
    isWanted (Numeral.narrow16? t) type = true ↔ type.toInt = t := by
  rw [Numeral.narrow16?, if_pos h, isWanted, beq_iff_eq, ← Int16.toInt_inj,
    Numeral.toInt_ofInt_of_fits16 h]

/-- Functions that take a type see nothing else of the optional arguments: the order of
    connections does not matter to sinks, sources and the trigger. -/
theorem answer_optional (htakes : q.takesType = true) {optional : List String}
    (htype : q.type? = .ok wanted) (htype' : ({ q with optional } : Query).type? = .ok wanted) :
    q.answer scope = ({ q with optional } : Query).answer scope := by
  obtain ⟨function, category, selector, given⟩ := q
  dsimp only at htype'
  cases function with
  | mainSoundPropertyValue =>
    simp only [answer, mainSoundPropertyValue]
    rw [type?_bind htype, type?_bind htype']
    cases category with
    | _ => rfl
  | systemPropertyValue =>
    obtain rfl : category = .user := by simpa [takesType] using htakes
    simp only [answer, systemPropertyValue]
    rw [type?_bind htype, type?_bind htype']
  | notificationConfigurationStatus | notificationConfigurationParam =>
    simp only [answer, notificationConfiguration]
    rw [type?_bind htype, type?_bind htype']
    cases category with
    | _ => rfl
  | mainNotificationConfigurationType | mainNotificationConfigurationStatus
  | mainNotificationConfigurationParam =>
    simp only [answer, mainNotificationConfiguration]
    rw [type?_bind htype, type?_bind htype']
    cases category with
    | _ => rfl
  | _ => simp [takesType] at htakes

/-- What a type parameter of any size does. One that fits 16 bits restricts the values to its
    entries, of which any gives a value. Any other one has no effect, so it only restricts if
    there is no value at all. -/
theorem type_restricts_iff (scope : Scope) {q : Query} (htakes : q.takesType = true)
    {text : String} {t : Int} (hgiven : q.optional.head? = some text)
    (hnumber : Symbol.number? text = some t) :
    (q.RestrictedTo scope t ↔ Numeral.fits16 t = true ∨
      ∀ v, ¬ ({ q with optional := [] } : Query).Gives scope v) ∧
    (Numeral.fits16 t = true →
      ((∃ v, q.Gives scope v) ↔ ∃ e, q.Offers scope e ∧ e.type.toInt = t)) ∧
    (Numeral.fits16 t = false →
      q.answer scope = ({ q with optional := [] } : Query).answer scope) := by
  have htype := type?_eq_narrow16? hgiven hnumber
  have hreads : ReadsFrom (Numeral.narrow16? t) (q.Offers scope) (q.answer scope) :=
    readsFrom_answer htakes htype
  cases hfits : Numeral.fits16 t with
  | true =>
    have hwanted := isWanted_narrow16?_iff hfits
    have hrestricted : q.RestrictedTo scope t := by
      intro v hv
      obtain ⟨e, he, htype, hvalue⟩ := hreads.sound v (gives_iff_mem.1 hv)
      exact ⟨e, he, (hwanted e.type).1 htype, hvalue⟩
    have hgives : (∃ v, q.Gives scope v) ↔ ∃ e, q.Offers scope e ∧ e.type.toInt = t := by
      constructor
      · rintro ⟨v, hv⟩
        obtain ⟨e, he, htype, -⟩ := hrestricted v hv
        exact ⟨e, he, htype⟩
      · rintro ⟨e, he, htype⟩
        obtain ⟨v, hv⟩ :=
          List.exists_mem_of_ne_nil _ (hreads.complete e he ((hwanted e.type).2 htype))
        exact ⟨v, gives_iff_mem.2 hv⟩
    simp [hrestricted, hgives]
  | false =>
    have hnone : q.type? = .ok none := by
      rw [htype, Numeral.narrow16?, hfits]
      rfl
    have hanswer : q.answer scope = ({ q with optional := [] } : Query).answer scope :=
      answer_optional htakes hnone (type?_eq_none rfl)
    have hrestricted : q.RestrictedTo scope t ↔
        ∀ v, ¬ ({ q with optional := [] } : Query).Gives scope v := by
      simp only [Gives, ← hanswer]
      constructor
      · intro h v hv
        obtain ⟨e, -, htype, -⟩ := h v hv
        have hfits' := Numeral.fits16_toInt e.type
        rw [htype, hfits] at hfits'
        cases hfits'
      · intro h v hv
        exact absurd hv (h v)
    simp [hrestricted, hanswer]

end

/-- A symbol for a type that one of two sinks has, and a number beyond 16 bits. -/
theorem type_restricts_iff_of_two_sinks :
    let scope : Scope :=
      { store := .empty
        graph :=
          { sinks := [{ name := "Speaker", mainSoundProperties := [⟨2, 5⟩, ⟨3, 7⟩] },
                      { name := "Headset", mainSoundProperties := [⟨3, 9⟩] }] }
        trigger := .systemRegisterSink "Headset" }
    let q (text : String) : Query :=
      { function := .mainSoundPropertyValue, category := .sink, selector := .all
        optional := [text] }
    (q "MS_UNMUTED").takesType = true ∧ Symbol.number? "MS_UNMUTED" = some 2 ∧
      (q "MS_UNMUTED").RestrictedTo scope 2 ∧ (q "MS_UNMUTED").answer scope = .ok ["5"] ∧
      Symbol.number? "40000" = some 40000 ∧ ¬ (q "40000").RestrictedTo scope 40000 ∧
      (q "40000").answer scope = .ok ["5", "7", "9"] := by
  intro scope q
  have hsymbol : Symbol.number? "MS_UNMUTED" = some 2 := by decide +kernel
  have hnumber : Symbol.number? "40000" = some 40000 := Symbol.number?_toString (n := 40000) rfl
  have hall : ({ q "40000" with optional := [] } : Query).answer scope = .ok ["5", "7", "9"] := by
    decide +kernel
  obtain ⟨hrestricted, -, -⟩ := type_restricts_iff scope (q := q "MS_UNMUTED") rfl rfl hsymbol
  obtain ⟨hunrestricted, -, hanswer⟩ := type_restricts_iff scope (q := q "40000") rfl rfl hnumber
  refine ⟨rfl, hsymbol, hrestricted.2 (Or.inl rfl), by decide +kernel, hnumber, fun h => ?_,
    (hanswer rfl).trans hall⟩
  rcases hunrestricted.1 h with hfits | hempty
  · exact absurd hfits (by decide)
  · exact hempty "5" ⟨_, hall, List.mem_cons_self⟩

/-- A type beyond 16 bits gives the value of a property of another type. -/
theorem wide_type_gives_other_types :
    ¬ ∀ (scope : Scope) (q : Query) (text : String) (t : Int), q.takesType = true →
      q.optional.head? = some text → Symbol.number? text = some t → q.RestrictedTo scope t := by
  intro h
  let scope : Scope :=
    { store := .empty, graph := {}, trigger := .userSetSinkMainSoundProperty "Speaker" ⟨3, 7⟩ }
  let q : Query :=
    { function := .mainSoundPropertyValue, category := .user, selector := .name "X"
      optional := ["40000"] }
  have hnumber : Symbol.number? "40000" = some 40000 := Symbol.number?_toString (n := 40000) rfl
  have hgives : q.Gives scope "7" := ⟨["7"], by decide +kernel, List.mem_cons_self⟩
  obtain ⟨e, -, htype, -⟩ := h scope q "40000" 40000 rfl rfl hnumber "7" hgives
  have hhigh := e.type.toInt_lt
  omega

end AudioPolicy.Query

-- SUMMARY: A written parameter keeps the value of its own key, and defaults only add values.
import AudioPolicy.Proofs.Payloads

/-! # Written parameters and defaults

What a policy writes under a key determines the value under that key, whatever else it writes and
whatever the trigger carries. Defaults go to other keys only. They are values that the trigger
carries, and they never name another element than the one that is written. The states of mute and
limit actions are an exception: the operation itself decides them, even where one is written. -/

namespace AudioPolicy.Template

open AudioPolicy.Action

/-! ## Values -/

/-- The value of the trigger that `REQUESTING` stands for under a key. -/
inductive Requested (t : Trigger) : String → String → Prop
  | sink {sink : String} : t.sink? = some sink → Requested t Key.sinkName sink
  | exceptSink {sink : String} : t.sink? = some sink → Requested t Key.exceptSink sink
  | source {source : String} : t.source? = some source → Requested t Key.sourceName source
  | exceptSource {source : String} : t.source? = some source →
      Requested t Key.exceptSource source
  | class_ {class_ : String} : t.class? = some class_ → Requested t Key.className class_
  | domain {domain : String} : t.domain? = some domain → Requested t Key.domainName domain
  | gateway {gateway : String} : t.gateway? = some gateway →
      Requested t Key.gatewayName gateway
  | connection {connection : String} : t.connection? = some connection →
      Requested t Key.connectionName connection
  | soundProperties : t.mainSoundProperties ≠ [] →
      Requested t Key.listMainSoundProperties (Property.listText t.mainSoundProperties)
  | systemProperties : t.systemProperties ≠ [] →
      Requested t Key.listSystemProperties (Property.listText t.systemProperties)

/-- A text that is written under a key comes to a value, whatever stands under other keys. -/
inductive ComesTo (t : Trigger) (expand : String → Logged String) (key text : String) :
    String → Prop
  /-- What is in quotes is taken as it stands. -/
  | literal {inner : String} : Text.trim text = "\"" ++ inner ++ "\"" →
      ComesTo t expand key text inner
  | requested {value : String} : Text.trim text = "REQUESTING" → Requested t key value →
      ComesTo t expand key text value
  /-- The word stays if the trigger has no value for it. -/
  | unrequested : Text.trim text = "REQUESTING" → (∀ value, ¬ Requested t key value) →
      ComesTo t expand key text "REQUESTING"
  | expression : Text.trim text ≠ "REQUESTING" →
      (∀ inner, Text.trim text ≠ "\"" ++ inner ++ "\"") →
      ComesTo t expand key text (expand (Text.trim text)).value

/-- The state that the operation itself decides. -/
inductive Stamped : Action.Kind → String → String → Prop
  | mute : Stamped .mute Key.muteState (codeText MuteState.muted)
  | unmute : Stamped .unmute Key.muteState (codeText MuteState.unmuted)
  | limit : Stamped .limit Key.limitState (codeText LimitState.limited)
  | unlimit : Stamped .unlimit Key.limitState (codeText LimitState.unlimited)

/-- A value that the trigger carries for a key. -/
inductive Carried (t : Trigger) : String → String → Prop
  | requested {key value : String} : Requested t key value → Carried t key value
  | volume {volume : Int16} : t.mainVolume? = some volume → t.isVolumeStep? ≠ some true →
      Carried t Key.mainVolume (Numeral.text16 volume)
  | volumeStep {volume : Int16} : t.mainVolume? = some volume → t.isVolumeStep? = some true →
      Carried t Key.mainVolumeStep (Numeral.text16 volume)
  | propertyType {p : Property} : p ∈ t.mainSoundProperties ∨ p ∈ t.systemProperties →
      Carried t Key.propertyType (Numeral.text16 p.type)
  | propertyValue {p : Property} : p ∈ t.mainSoundProperties ∨ p ∈ t.systemProperties →
      Carried t Key.propertyValue (Numeral.text16 p.value)
  | notificationType {c : NotificationConfiguration} : t.notificationConfiguration? = some c →
      Carried t Key.notificationType (Numeral.text16 c.type)
  | notificationStatus {c : NotificationConfiguration} : t.notificationConfiguration? = some c →
      Carried t Key.notificationStatus (codeText c.status)
  | notificationParam {c : NotificationConfiguration} : t.notificationConfiguration? = some c →
      Carried t Key.notificationParam (Numeral.text16 c.parameter)

/-- The template has a text under one of the keys. -/
def Writes (template : Template) (keys : List String) : Prop :=
  ∃ key ∈ keys, template.params.get? key ≠ none

/-- What an action owes to the template that it comes from. -/
structure Honours (t : Trigger) (expand : String → Logged String) (template : Template)
    (action : Action) : Prop where
  kind : action.kind = template.kind
  stamped : ∀ key code, Stamped template.kind key code → action.param? key = some code
  written : ∀ key text, template.params.get? key = some text →
    (∀ code, ¬ Stamped template.kind key code) →
      ∃ value, ComesTo t expand key text value ∧ action.param? key = some value
  added : ∀ key value, template.params.get? key = none → action.param? key = some value →
    Stamped template.kind key value ∨ Carried t key value
  /-- No sink is added to another target. -/
  targeted : template.kind ∈ [.mute, .unmute, .limit, .unlimit, .setVolume] →
    template.Writes [Key.sinkName, Key.sourceName, Key.className] →
      template.params.get? Key.sinkName = none → action.param? Key.sinkName = none
  /-- Nothing is added to a connection that is written in part. -/
  connected : template.kind ∈ [.connect, .disconnect] →
    template.Writes [Key.sinkName, Key.sourceName, Key.connectionName] →
      ∀ key, template.params.get? key = none → action.param? key = none

section
variable {t : Trigger} {expand : String → Logged String} {template : Template}
  {kind : Action.Kind} {key text value code : String} {ps qs rs : Params}

/-! ## Written texts -/

theorem unquoted?_eq_some_iff {inner : String} :
    unquoted? text = some inner ↔ text = "\"" ++ inner ++ "\"" := by
  have hchars : text = "\"" ++ inner ++ "\"" ↔ text.toList = '"' :: (inner.toList ++ ['"']) := by
    rw [← String.toList_inj]
    simp
  rw [hchars, unquoted?]
  split
  next rest hrest =>
    rw [hrest]
    constructor
    · intro h
      split at h
      next hlast =>
        rw [← Option.some.inj h, String.toList_ofList, List.dropLast_append_getLast? _ hlast]
      next => cases h
    · intro h
      obtain rfl := (List.cons.inj h).2
      simp
  next hother =>
    exact ⟨nofun, fun h => absurd h (hother _)⟩

theorem listText?_eq_some_iff {properties : List Property} :
    listText? properties = some text ↔
      properties ≠ [] ∧ Property.listText properties = text := by
  cases properties <;> simp [listText?]

theorem requesting?_eq_some_iff : requesting? t key = some value ↔ Requested t key value := by
  constructor
  · intro h
    unfold requesting? at h
    split at h
    next hkey =>
      rcases hkey with rfl | rfl
      · exact .sink h
      · exact .exceptSink h
    split at h
    next hkey =>
      rcases hkey with rfl | rfl
      · exact .source h
      · exact .exceptSource h
    split at h
    next hkey => exact hkey ▸ .class_ h
    split at h
    next hkey => exact hkey ▸ .domain h
    split at h
    next hkey => exact hkey ▸ .gateway h
    split at h
    next hkey => exact hkey ▸ .connection h
    split at h
    next hkey =>
      obtain ⟨hsome, rfl⟩ := listText?_eq_some_iff.1 h
      exact hkey ▸ .soundProperties hsome
    split at h
    next hkey =>
      obtain ⟨hsome, rfl⟩ := listText?_eq_some_iff.1 h
      exact hkey ▸ .systemProperties hsome
    cases h
  · intro h
    cases h with
    | sink h | exceptSink h | source h | exceptSource h | class_ h | domain h | gateway h
    | connection h => exact h
    | soundProperties h => exact listText?_eq_some_iff.2 ⟨h, rfl⟩
    | systemProperties h => exact listText?_eq_some_iff.2 ⟨h, rfl⟩

theorem ofText_cases (text : String) :
    (∃ inner, Text.trim text = "\"" ++ inner ++ "\"" ∧ Written.ofText text = .literal inner) ∨
      (Text.trim text = "REQUESTING" ∧ Written.ofText text = .requesting) ∨
      (Text.trim text ≠ "REQUESTING" ∧ (∀ inner, Text.trim text ≠ "\"" ++ inner ++ "\"") ∧
        Written.ofText text = .expression (Text.trim text)) := by
  simp only [Written.ofText]
  cases hquoted : unquoted? (Text.trim text) with
  | some inner => exact .inl ⟨inner, unquoted?_eq_some_iff.1 hquoted, rfl⟩
  | none =>
    by_cases hword : Text.trim text = "REQUESTING"
    · exact .inr (.inl ⟨hword, if_pos hword⟩)
    · refine .inr (.inr ⟨hword, fun inner h => ?_, if_neg hword⟩)
      exact Option.some_ne_none inner ((unquoted?_eq_some_iff.2 h).symm.trans hquoted)

theorem comesTo_resolveParam (kind : Action.Kind) (t : Trigger)
    (expand : String → Logged String) (key text : String) :
    ComesTo t expand key text (resolveParam kind t expand key text).value := by
  rcases ofText_cases text with ⟨inner, htext, hwritten⟩ | ⟨htext, hwritten⟩ |
    ⟨hword, hunquoted, hwritten⟩
  · simp only [resolveParam, hwritten]
    exact .literal htext
  · simp only [resolveParam, hwritten]
    cases hvalue : requesting? t key with
    | some value => exact .requested htext (requesting?_eq_some_iff.1 hvalue)
    | none =>
      refine .unrequested htext fun value h => ?_
      exact Option.some_ne_none value ((requesting?_eq_some_iff.2 h).symm.trans hvalue)
  · simp only [resolveParam, hwritten]
    exact .expression hword hunquoted

/-! ## Added values -/

/-- What has a value keeps it, and what gets one gets a value that the trigger carries. -/
structure Extends (t : Trigger) (ps qs : Params) : Prop where
  kept : ∀ key value, ps.get? key = some value → qs.get? key = some value
  carried : ∀ key value, ps.get? key = none → qs.get? key = some value → Carried t key value

theorem Extends.refl (t : Trigger) (ps : Params) : Extends t ps ps :=
  ⟨fun _ _ h => h, fun _ _ hnone hsome => nomatch hnone.symm.trans hsome⟩

theorem Extends.trans (hps : Extends t ps qs) (hqs : Extends t qs rs) : Extends t ps rs := by
  refine ⟨fun key value h => hqs.kept key value (hps.kept key value h), fun key value h hrs => ?_⟩
  cases hkey : qs.get? key with
  | none => exact hqs.carried key value hkey hrs
  | some old =>
    obtain rfl : old = value := Option.some.inj ((hqs.kept key old hkey).symm.trans hrs)
    exact hps.carried key old h hkey

theorem extends_fill {value : Option String} (h : ∀ v, value = some v → Carried t key v)
    (ps : Params) : Extends t ps (fill key value ps) := by
  refine ⟨fun k v hps => ?_, fun k v hps hfill => ?_⟩
  · simp [get?_fill, hps]
  · by_cases hk : k = key
    · rw [get?_fill, if_pos hk, hps, Option.none_or] at hfill
      exact hk ▸ h v hfill
    · rw [get?_fill, if_neg hk, hps] at hfill
      cases hfill

theorem extends_fill_map {α : Type} {carried : Option α} {write : α → String}
    (h : ∀ a, carried = some a → Carried t key (write a)) (ps : Params) :
    Extends t ps (fill key (carried.map write) ps) := by
  refine extends_fill (fun v hv => ?_) ps
  obtain ⟨a, ha, rfl⟩ := Option.map_eq_some_iff.1 hv
  exact h a ha

theorem extends_fill_requested {value : Option String}
    (h : ∀ v, value = some v → Requested t key v) (ps : Params) :
    Extends t ps (fill key value ps) :=
  extends_fill (fun v hv => .requested (h v hv)) ps

theorem extends_fillSink (t : Trigger) (ps : Params) : Extends t ps (fillSink t ps) := by
  unfold fillSink
  split
  · exact .refl t ps
  · exact extends_fill_requested (fun _ => .sink) ps

theorem extends_fillEndpoint (t : Trigger) (ps : Params) : Extends t ps (fillEndpoint t ps) := by
  unfold fillEndpoint
  split
  · exact .refl t ps
  · split
    next sink hsink =>
      have hfill : fill Key.sinkName (some sink) ps = ps.insertIfNew Key.sinkName sink := rfl
      rw [← hfill, ← hsink]
      exact extends_fill_requested (fun _ => .sink) ps
    next => exact extends_fill_requested (fun _ => .source) ps

theorem extends_fillVolume (t : Trigger) (ps : Params) : Extends t ps (fillVolume t ps) := by
  unfold fillVolume
  split
  · exact .refl t ps
  · by_cases hstep : t.isVolumeStep? = some true
    · simp only [if_pos hstep]
      exact extends_fill_map (fun _ h => .volumeStep h hstep) ps
    · simp only [if_neg hstep]
      exact extends_fill_map (fun _ h => .volume h hstep) ps

theorem extends_fillConnection (t : Trigger) (ps : Params) :
    Extends t ps (fillConnection t ps) := by
  unfold fillConnection
  split
  · exact .refl t ps
  · exact ((extends_fill_requested (fun _ => .source) ps).trans
      (extends_fill_requested (fun _ => .sink) _)).trans
      (extends_fill_requested (fun _ => .class_) _)

theorem extends_fillProperty {property : Option Property}
    (h : ∀ p, property = some p → p ∈ t.mainSoundProperties ∨ p ∈ t.systemProperties)
    (ps : Params) : Extends t ps (fillProperty property ps) :=
  (extends_fill_map (fun p hp => .propertyType (h p hp)) ps).trans
    (extends_fill_map (fun p hp => .propertyValue (h p hp)) _)

theorem extends_fillNotification (t : Trigger) (ps : Params) :
    Extends t ps (fillNotification t ps) :=
  ((extends_fill_map (fun _ => .notificationType) ps).trans
    (extends_fill_map (fun _ => .notificationStatus) _)).trans
    (extends_fill_map (fun _ => .notificationParam) _)

/-! ## Stamps and defaults -/

/-- Before the defaults the operation puts its state in place. -/
theorem extends_fillDefaults_of_stamped (h : Stamped kind key code) (t : Trigger) (ps : Params) :
    Extends t (ps.insert key code) (fillDefaults kind t ps) := by
  cases h with
  | mute | unmute | limit | unlimit => exact extends_fillSink t _

theorem extends_fillDefaults (h : ∀ key code, ¬ Stamped kind key code) (t : Trigger)
    (ps : Params) : Extends t ps (fillDefaults kind t ps) := by
  cases kind with
  | mute => exact absurd .mute (h _ _)
  | unmute => exact absurd .unmute (h _ _)
  | limit => exact absurd .limit (h _ _)
  | unlimit => exact absurd .unlimit (h _ _)
  | setVolume => exact (extends_fillSink t ps).trans (extends_fillVolume t _)
  | connect | disconnect => exact extends_fillConnection t ps
  | setProperty =>
    refine (extends_fillEndpoint t ps).trans (extends_fillProperty (fun p hp => ?_) _)
    exact .inl (List.mem_of_head? hp)
  | setProperties =>
    refine (extends_fillEndpoint t ps).trans (extends_fill_requested (fun v hv => ?_) _)
    obtain ⟨hsome, rfl⟩ := listText?_eq_some_iff.1 hv
    exact .soundProperties hsome
  | setSystemProperty => exact extends_fillProperty (fun p hp => .inr (List.mem_of_head? hp)) ps
  | setSystemProperties =>
    refine extends_fill_requested (fun v hv => ?_) ps
    obtain ⟨hsome, rfl⟩ := listText?_eq_some_iff.1 hv
    exact .systemProperties hsome
  | setNotificationConfiguration =>
    exact (extends_fillEndpoint t ps).trans (extends_fillNotification t _)
  | push | pop | suspend | resume | register | debug => exact .refl t ps

theorem stamped_unique {key' code' : String} (h : Stamped kind key code)
    (h' : Stamped kind key' code') : key = key' ∧ code = code' := by
  cases h <;> cases h' <;> exact ⟨rfl, rfl⟩

/-- With a stamp or without one, the defaults extend parameters that have the written values at
    all other keys. -/
theorem exists_extends (kind : Action.Kind) (t : Trigger) (ps : Params) :
    ∃ qs : Params, Extends t qs (fillDefaults kind t ps) ∧
      (∀ key code, Stamped kind key code → qs.get? key = some code) ∧
      ∀ key, (∀ code, ¬ Stamped kind key code) → qs.get? key = ps.get? key := by
  by_cases hstamped : ∃ key code, Stamped kind key code
  · obtain ⟨key, code, hstamp⟩ := hstamped
    refine ⟨ps.insert key code, extends_fillDefaults_of_stamped hstamp t ps, ?_, ?_⟩
    · intro key' code' hstamp'
      obtain ⟨rfl, rfl⟩ := stamped_unique hstamp hstamp'
      rw [Params.get?_insert, if_pos rfl]
    · intro key' hunstamped
      have hne : key' ≠ key := fun h => hunstamped code (h ▸ hstamp)
      rw [Params.get?_insert, if_neg hne]
  · simp only [not_exists] at hstamped
    exact ⟨ps, extends_fillDefaults hstamped t ps, fun key code h => absurd h (hstamped key code),
      fun _ _ => rfl⟩

/-! ## Targets -/

theorem hasAny_iff {keys : List String} :
    ps.hasAny keys = true ↔ ∃ key ∈ keys, ps.get? key ≠ none := by
  simp only [Params.hasAny, Params.has, List.any_eq_true, Option.isSome_iff_ne_none]

theorem fillSink_of_hasAny (h : ps.hasAny targetKeys = true) (t : Trigger) :
    fillSink t ps = ps := if_pos h

theorem fillConnection_of_hasAny
    (h : ps.hasAny [Key.sinkName, Key.sourceName, Key.connectionName] = true) (t : Trigger) :
    fillConnection t ps = ps := if_pos h

theorem get?_sinkName_fillVolume (t : Trigger) (ps : Params) :
    (fillVolume t ps).get? Key.sinkName = ps.get? Key.sinkName := by
  unfold fillVolume
  split
  · rfl
  · have hkey : Key.sinkName ≠
        if t.isVolumeStep? = some true then Key.mainVolumeStep else Key.mainVolume := by
      split <;> decide
    simp only [get?_fill, if_neg hkey]

/-- A stamp is no target and takes no target away. -/
theorem get?_sinkName_of_stamped (hstamp : Stamped kind key code)
    (h : ps.hasAny targetKeys = true) (t : Trigger) :
    (fillDefaults kind t ps).get? Key.sinkName = ps.get? Key.sinkName := by
  have hkey : ∀ k ∈ targetKeys, k ≠ key := by cases hstamp <;> decide
  have htarget : (ps.insert key code).hasAny targetKeys = true := by
    obtain ⟨k, hk, hsome⟩ := hasAny_iff.1 h
    exact hasAny_iff.2 ⟨k, hk, by rwa [Params.get?_insert, if_neg (hkey k hk)]⟩
  have hfill : fillDefaults kind t ps = fillSink t (ps.insert key code) := by cases hstamp <;> rfl
  rw [hfill, fillSink_of_hasAny htarget, Params.get?_insert,
    if_neg (hkey Key.sinkName List.mem_cons_self)]

theorem get?_sinkName_fillDefaults
    (hkind : kind ∈ [.mute, .unmute, .limit, .unlimit, .setVolume])
    (h : ps.hasAny targetKeys = true) (t : Trigger) :
    (fillDefaults kind t ps).get? Key.sinkName = ps.get? Key.sinkName := by
  simp only [List.mem_cons, List.not_mem_nil, or_false] at hkind
  rcases hkind with rfl | rfl | rfl | rfl | rfl
  · exact get?_sinkName_of_stamped .mute h t
  · exact get?_sinkName_of_stamped .unmute h t
  · exact get?_sinkName_of_stamped .limit h t
  · exact get?_sinkName_of_stamped .unlimit h t
  · rw [fillDefaults, get?_sinkName_fillVolume, fillSink_of_hasAny h]

/-! ## Resolving -/

theorem written?_eq_none_iff : written? t expand template key = none ↔
    template.params.get? key = none := by
  rw [written?, Option.map_eq_none_iff]

end

/-- Resolving keeps what is written and adds only what the trigger carries. -/
theorem honours_resolve (t : Trigger) (expand : String → Logged String) (template : Template) :
    template.Honours t expand (resolve t expand template).value := by
  obtain ⟨ps, hwritten, hresolve⟩ := value_resolve t expand template
  obtain ⟨qs, hextends, hstamped, hsame⟩ := exists_extends template.kind t ps
  have hnone (key : String) (h : template.params.get? key = none) : ps.get? key = none :=
    (hwritten key).trans (written?_eq_none_iff.2 h)
  have hwrites {keys : List String} (h : template.Writes keys) : ps.hasAny keys = true := by
    obtain ⟨key, hkey, hsome⟩ := h
    exact hasAny_iff.2 ⟨key, hkey, by rwa [hwritten, Ne, written?_eq_none_iff]⟩
  rw [hresolve]
  refine ⟨rfl, ?_, ?_, ?_, ?_, ?_⟩
  · intro key code hstamp
    exact hextends.kept key code (hstamped key code hstamp)
  · intro key text htext hunstamped
    refine ⟨_, comesTo_resolveParam template.kind t expand key text, ?_⟩
    refine hextends.kept key _ ?_
    rw [hsame key hunstamped, hwritten, written?, htext, Option.map_some]
  · intro key value hunwritten hvalue
    by_cases hstamp : ∃ code, Stamped template.kind key code
    · obtain ⟨code, hstamp⟩ := hstamp
      have hcode := hextends.kept key code (hstamped key code hstamp)
      exact .inl (Option.some.inj (hcode.symm.trans hvalue) ▸ hstamp)
    · have hold : qs.get? key = none := by
        rw [hsame key (not_exists.1 hstamp), hnone key hunwritten]
      exact .inr (hextends.carried key value hold hvalue)
  · intro hkind htarget hunwritten
    exact (get?_sinkName_fillDefaults hkind (hwrites htarget) t).trans (hnone _ hunwritten)
  · intro hkind hends key hunwritten
    have hfill : fillDefaults template.kind t ps = fillConnection t ps := by
      simp only [List.mem_cons, List.not_mem_nil, or_false] at hkind
      rcases hkind with hkind | hkind <;> rw [hkind] <;> rfl
    rw [hfill, fillConnection_of_hasAny (hwrites hends)]
    exact hnone key hunwritten

/-- The request has no class, so the word stays where the class is written, and no sink takes its
    place. The written state gives way to the one of the operation. -/
example :
    let template : Template :=
      { kind := .mute
        params := .ofList [(Key.className, " REQUESTING"), (Key.muteState, "\"2\"")] }
    let action := (resolve (.userConnectionRequest "Tuner" "Speaker" none) pure template).value
    action.params.entries = [(Key.className, "REQUESTING"), (Key.muteState, "1")] := by
  decide +kernel

end AudioPolicy.Template

-- SUMMARY: Written property lists read back, also those that actions take from their trigger.
import AudioPolicy.Proofs.Payloads
import AudioPolicy.Proofs.Words

/-! # Property lists

The written form of a property is a word with one colon in it. Neither of its two numbers has a
colon, so it is cut between them. And no property has a blank in it, so the list is cut between
the properties. An action gets a list of the trigger where its template writes `REQUESTING`, and
two operations get one where the template writes nothing. Either list reads back as what the
trigger carries. -/

namespace AudioPolicy

/-! ## Written properties -/

theorem Text.cutAt_append {separator : Char} {before : List Char} (h : separator ∉ before)
    (after : List Char) :
    cutAt separator (before ++ separator :: after) = some (before, after) := by
  induction before with
  | nil => simp [cutAt]
  | cons c before ih =>
    obtain ⟨hc, hbefore⟩ : separator ≠ c ∧ separator ∉ before := by simpa using h
    simp [cutAt, Ne.symm hc, ih hbefore]

theorem Numeral.IsDecimal.colon_notMem {cs : List Char} {n : Int} (h : IsDecimal cs n) :
    ':' ∉ cs := by
  have hdigits (zeros n : Nat) : ':' ∉ padded zeros n := fun hmem =>
    absurd (isDigit_of_mem_padded hmem) (by decide)
  cases h with
  | plain zeros n => exact hdigits zeros n
  | plus zeros n | minus zeros n => simp [hdigits zeros n]

namespace Property

theorem toList_text (p : Property) :
    p.text.toList = (Numeral.text16 p.type).toList ++ ':' :: (Numeral.text16 p.value).toList := by
  simp [text]

theorem trim_text16 (n : Int16) : Text.trim (Numeral.text16 n) = Numeral.text16 n :=
  Text.trim_eq_self (Numeral.isDecimal_toString n.toInt).unblank

theorem ofText?_text (p : Property) : ofText? p.text = some p := by
  have hcut : Text.cutAt ':' p.text.toList =
      some ((Numeral.text16 p.type).toList, (Numeral.text16 p.value).toList) := by
    rw [toList_text]
    exact Text.cutAt_append (Numeral.isDecimal_toString p.type.toInt).colon_notMem _
  have hread (n : Int16) :
      Numeral.int16? (String.ofList (Text.trimChars (Numeral.text16 n).toList)) = some n := by
    have htrim : String.ofList (Text.trimChars (Numeral.text16 n).toList) = Numeral.text16 n :=
      trim_text16 n
    rw [htrim, Numeral.int16?_text16]
  simp [ofText?, hcut, hread]

theorem isWord_text (p : Property) : Text.IsWord p.text := by
  refine ⟨fun hempty => ?_, fun c hc => ?_⟩
  · have hlist := congrArg String.toList hempty
    simp [toList_text] at hlist
  · rw [toList_text, List.mem_append, List.mem_cons] at hc
    rcases hc with hc | rfl | hc
    · exact (Numeral.isDecimal_toString p.type.toInt).unblank c hc
    · decide
    · exact (Numeral.isDecimal_toString p.value.toInt).unblank c hc

theorem mapM_ofText?_map_text (ps : List Property) : (ps.map text).mapM ofText? = some ps := by
  induction ps with
  | nil => rfl
  | cons p ps ih => simp [ofText?_text, ih]

theorem listOfText?_listText (ps : List Property) : listOfText? (listText ps) = some ps := by
  have hwords : ∀ word ∈ ps.map text, Text.IsWord word := by
    simp [isWord_text]
  rw [listOfText?, listText, Text.words_unwords hwords, mapM_ofText?_map_text]

end Property

namespace Template

open AudioPolicy.Action

/-! ## Defaults -/

/-- The keys that an operation gives a value to, if its parameters leave them out. -/
def filledKeys : Action.Kind → List String
  | .mute | .unmute => [Key.muteState, Key.sinkName]
  | .limit | .unlimit => [Key.limitState, Key.sinkName]
  | .setVolume => [Key.sinkName, Key.mainVolume, Key.mainVolumeStep]
  | .connect | .disconnect => [Key.sourceName, Key.sinkName, Key.className]
  | .setProperty => [Key.sinkName, Key.sourceName, Key.propertyType, Key.propertyValue]
  | .setProperties => [Key.sinkName, Key.sourceName, Key.listMainSoundProperties]
  | .setSystemProperty => [Key.propertyType, Key.propertyValue]
  | .setSystemProperties => [Key.listSystemProperties]
  | .setNotificationConfiguration =>
    [Key.sinkName, Key.sourceName, Key.notificationType, Key.notificationStatus,
      Key.notificationParam]
  | .push | .pop | .suspend | .resume | .register | .debug => []

/-- The key under which an operation lists properties of the trigger. -/
inductive Lists (t : Trigger) : Action.Kind → String → List Property → Prop
  | sound : Lists t .setProperties Key.listMainSoundProperties t.mainSoundProperties
  | system : Lists t .setSystemProperties Key.listSystemProperties t.systemProperties

section
variable {t : Trigger} {expand : String → Logged String} {template : Template}
  {kind : Action.Kind} {key text : String} {properties : List Property} {ps : Params}

theorem get?_fill_of_ne {other : String} (h : key ≠ other) (value : Option String) (ps : Params) :
    (fill other value ps).get? key = ps.get? key := by
  rw [get?_fill, if_neg h]

theorem get?_fillSink (h : key ≠ Key.sinkName) (t : Trigger) (ps : Params) :
    (fillSink t ps).get? key = ps.get? key := by
  unfold fillSink
  split
  · rfl
  · exact get?_fill_of_ne h _ ps

theorem get?_fillVolume (h : key ≠ Key.mainVolume) (hstep : key ≠ Key.mainVolumeStep)
    (t : Trigger) (ps : Params) : (fillVolume t ps).get? key = ps.get? key := by
  unfold fillVolume
  split
  · rfl
  · refine get?_fill_of_ne ?_ _ ps
    split
    · exact hstep
    · exact h

/-- The keys that are not filled keep what they have. -/
theorem get?_fillDefaults_of_notMem (h : key ∉ filledKeys kind) (t : Trigger) (ps : Params) :
    (fillDefaults kind t ps).get? key = ps.get? key := by
  cases kind
  all_goals simp only [filledKeys, List.mem_cons, List.not_mem_nil, or_false, not_or] at h
  case mute | unmute | limit | unlimit =>
    simp [fillDefaults, get?_fillSink h.2, Params.get?_insert, h.1]
  case setVolume => simp [fillDefaults, get?_fillVolume h.2.1 h.2.2, get?_fillSink h.1]
  case connect | disconnect =>
    simp only [fillDefaults, fillConnection]
    split
    · rfl
    · simp [get?_fill, h]
  case setProperty => simp [fillDefaults, fillProperty, get?_fillEndpoint, get?_fill, h]
  case setProperties => simp [fillDefaults, get?_fillEndpoint, get?_fill, h]
  case setSystemProperty => simp [fillDefaults, fillProperty, get?_fill, h]
  case setSystemProperties => simp [fillDefaults, get?_fill, h]
  case setNotificationConfiguration =>
    simp [fillDefaults, fillNotification, get?_fillEndpoint, get?_fill, h]
  case push | pop | suspend | resume | register | debug => rfl

theorem Lists.get?_fillDefaults (h : Lists t kind key properties) (other : Action.Kind)
    (ps : Params) : (fillDefaults other t ps).get? key =
      if other = kind then (ps.get? key).or (listText? properties) else ps.get? key := by
  split
  next hsame =>
    subst hsame
    cases h with
    | sound =>
      have hkey : Key.listMainSoundProperties ∉ [Key.sinkName, Key.sourceName] := by decide
      simp [fillDefaults, get?_fill, get?_fillEndpoint hkey]
    | system => simp [fillDefaults, get?_fill]
  next hother =>
    refine get?_fillDefaults_of_notMem ?_ t ps
    revert hother
    cases h <;> cases other <;> decide

/-! ## Lists of the trigger -/

theorem Lists.requesting?_eq (h : Lists t kind key properties) :
    requesting? t key = listText? properties := by
  cases h <;> rfl

theorem ofText_requesting (h : Text.trim text = "REQUESTING") :
    Written.ofText text = .requesting := by
  simp only [Written.ofText, h]
  rfl

theorem value_resolveParam_requesting (htext : Text.trim text = "REQUESTING")
    (other : Action.Kind) (t : Trigger) (expand : String → Logged String) (key : String) :
    (resolveParam other t expand key text).value = (requesting? t key).getD "REQUESTING" := by
  simp only [resolveParam, ofText_requesting htext]
  cases requesting? t key <;> rfl

/-- Under the key stands what is written, and otherwise the default of the operation. -/
theorem Lists.param?_resolve (h : Lists t kind key properties) :
    (resolve t expand template).value.param? key =
      (written? t expand template key).or
        (if template.kind = kind then listText? properties else none) := by
  obtain ⟨ps, hwritten, hresolve⟩ := value_resolve t expand template
  rw [hresolve, ← hwritten, Action.param?, h.get?_fillDefaults]
  split <;> simp

theorem listText?_of_ne_nil (h : properties ≠ []) :
    listText? properties = some (Property.listText properties) :=
  if_neg (by simpa using h)

end

/-- Every list of properties reads back from its written form. So an action whose template
    writes `REQUESTING` under the key of a list carries a list that reads back as the properties
    of the trigger, whatever the operation. If the trigger has none, the word stays. And where
    nothing is written, the operation with this list carries one that reads back, unless it
    would be empty, and other operations carry none. -/
theorem listed_properties_read_back :
    (∀ ps, Property.listOfText? (Property.listText ps) = some ps) ∧
      ∀ (t : Trigger) (expand : String → Logged String) (template : Template)
        (kind : Action.Kind) (key : String) (properties : List Property),
        Lists t kind key properties →
        let action := (resolve t expand template).value
        (∀ text, template.params.get? key = some text → Text.trim text = "REQUESTING" →
          if properties = [] then action.param? key = some "REQUESTING"
          else ∃ list, action.param? key = some list ∧
            Property.listOfText? list = some properties) ∧
        (template.params.get? key = none →
          if template.kind ≠ kind ∨ properties = [] then action.param? key = none
          else ∃ list, action.param? key = some list ∧
            Property.listOfText? list = some properties) := by
  refine ⟨Property.listOfText?_listText, ?_⟩
  intro t expand template kind key properties hlists action
  have hparam : action.param? key = _ := hlists.param?_resolve
  constructor
  · intro text htext hword
    have hvalue : action.param? key = some ((listText? properties).getD "REQUESTING") := by
      rw [hparam, written?, htext, Option.map_some, Option.some_or,
        value_resolveParam_requesting hword, hlists.requesting?_eq]
    split
    next hnil => rw [hvalue, hnil]; rfl
    next hsome =>
      rw [listText?_of_ne_nil hsome] at hvalue
      exact ⟨_, hvalue, Property.listOfText?_listText properties⟩
  · intro hunwritten
    rw [written?, hunwritten, Option.map_none, Option.none_or] at hparam
    split
    next hnone =>
      rcases hnone with hkind | rfl
      · rw [hparam, if_neg hkind]
      · rw [hparam]
        split <;> rfl
    next hsome =>
      obtain ⟨hkind, hsome⟩ := not_or.1 hsome
      rw [if_pos (not_not.1 hkind), listText?_of_ne_nil hsome] at hparam
      exact ⟨_, hparam, Property.listOfText?_listText properties⟩

/-- The numbers go down to the lower limit. The list is requested by an operation that has no list
    of its own, it is the default of another one, and there is no list of system properties. -/
theorem listed_properties_read_back_of_sound_properties :
    let properties : List Property := [⟨-32768, 7⟩, ⟨3, 32767⟩, ⟨3, 0⟩]
    let t : Trigger := .userSetSinkMainSoundProperties "Speaker" properties
    let requests : Template :=
      { kind := .debug
        params := .ofList [(Key.listMainSoundProperties, " REQUESTING"),
          (Key.listSystemProperties, "REQUESTING")] }
    (∃ list, (resolve t pure requests).value.param? Key.listMainSoundProperties = some list ∧
        Property.listOfText? list = some properties) ∧
      (resolve t pure requests).value.param? Key.listSystemProperties = some "REQUESTING" ∧
      ∃ list, (resolve t pure { kind := .setProperties }).value.param?
          Key.listMainSoundProperties = some list ∧
        Property.listOfText? list = some properties := by
  intro properties t requests
  obtain ⟨-, hread⟩ := listed_properties_read_back
  obtain ⟨hsound, -⟩ := hread t pure requests _ _ _ .sound
  obtain ⟨hsystem, -⟩ := hread t pure requests _ _ _ .system
  obtain ⟨-, hdefault⟩ := hread t pure { kind := .setProperties } _ _ _ .sound
  exact ⟨hsound " REQUESTING" (by decide) (by decide),
    hsystem "REQUESTING" (by decide) (by decide), hdefault rfl⟩

end Template
end AudioPolicy

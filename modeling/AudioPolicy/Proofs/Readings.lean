-- SUMMARY: A function that asks about elements reads its targets one by one.
import AudioPolicy.Proofs.Reordering
import AudioPolicy.Query.Answer
import Mathlib.Data.Option.Basic

/-! # Readings

A function either ignores the targets of its query, or it reads a few texts from each target
and combines what it has read. So its values depend on the list of these texts alone. Most
functions read from the graph, and such a function reads the same from any two elements that
are not registered. -/

namespace AudioPolicy.Query

/-! ## Readings -/

/-- What is made of the texts that were read from each target. -/
inductive Combination
  /-- All the texts. -/
  | all
  /-- Each text once. -/
  | distinct
  /-- All the texts, of which there have to be some if there are targets. -/
  | readable
  /-- Each text once, and there have to be some if there are targets. -/
  | related
  /-- All the texts, of which there have to be some. -/
  | present
  /-- The number of targets. -/
  | count

/-- The combined texts. Where some are missing there are none. -/
def Combination.apply : Combination → List (List String) → Option (List String)
  | .all, rs => some rs.flatten
  | .distinct, rs => some rs.flatten.eraseDups
  | .readable, rs => if rs.flatten.isEmpty && !rs.isEmpty then none else some rs.flatten
  | .related, rs =>
    if rs.flatten.isEmpty && !rs.isEmpty then none else some rs.flatten.eraseDups
  | .present, rs => if rs.flatten.isEmpty then none else some rs.flatten
  | .count, rs => some [toString rs.length]

/-- What a function reads from each target and what it makes of that. -/
structure Reading where
  combination : Combination
  read : String → List String

/-- The values that a reading has for some targets, if it has any. -/
def Reading.apply (r : Reading) (targets : List String) : Option (List String) :=
  r.combination.apply (targets.map r.read)

/-- Combining texts in another order gives the same values in another order. -/
theorem Combination.rel_apply (c : Combination) {rs rs' : List (List String)} (h : rs.Perm rs') :
    Option.Rel List.Perm (c.apply rs) (c.apply rs') := by
  have hflatten := h.flatten
  have hnone : rs.isEmpty = rs'.isEmpty := h.isEmpty_eq
  have hempty : rs.flatten.isEmpty = rs'.flatten.isEmpty := hflatten.isEmpty_eq
  cases c with
  | all => exact .some hflatten
  | distinct => exact .some (perm_eraseDups hflatten)
  | readable =>
    simp only [apply, hnone, hempty]
    split
    · exact .none
    · exact .some hflatten
  | related =>
    simp only [apply, hnone, hempty]
    split
    · exact .none
    · exact .some (perm_eraseDups hflatten)
  | present =>
    simp only [apply, hempty]
    split
    · exact .none
    · exact .some hflatten
  | count =>
    simp only [apply, h.length_eq]
    exact .some (.refl _)

theorem Reading.rel_apply (r : Reading) {ts ts' : List String} (h : ts.Perm ts') :
    Option.Rel List.Perm (r.apply ts) (r.apply ts') :=
  r.combination.rel_apply (h.map r.read)

/-- From any two names that are not registered the same is read. -/
def Reading.Blind (r : Reading) (graph : Graph) (kind : ElementKind) : Prop :=
  ∀ t u, graph.isRegistered kind t = false → graph.isRegistered kind u = false →
    r.read t = r.read u

/-- The functions that may tell apart elements that are not registered. -/
def distinguishing : List Function := [.name, .priority, .connectionFormat, .peek]

/-- In all orders of the declarations the result comes from the targets by one reading, or
    it does not come from the targets at all. Only some functions distinguish targets that are
    not registered. -/
inductive Reads (scope : Scope) (q : Query) (f : Scope → Except Failure (List String)) : Prop
  | fixed
      (h : ∀ store, scope.store.Permuted store →
        (f { scope with store }).toOption = (f scope).toOption)
  | targets (r : Reading)
      (h : ∀ store, scope.store.Permuted store →
        (f { scope with store }).toOption =
          (q.targets { scope with store }).toOption.bind r.apply)
      (hblind : q.function ∈ distinguishing ∨
        ∀ kind, q.category.target? = some kind → r.Blind scope.graph kind)

/-! ## Combining -/

section
variable {α : Type} (ts : List String)

theorem flatten_map_singleton (f : String → α) : (ts.map fun t => [f t]).flatten = ts.map f := by
  induction ts with
  | nil => rfl
  | cons t ts ih => simp [ih]

theorem flatten_map_toList (f : String → Option α) :
    (ts.map fun t => (f t).toList).flatten = ts.filterMap f := by
  induction ts with
  | nil => rfl
  | cons t ts ih => cases h : f t <;> simp [h, ih]

theorem apply_all_singleton (f : String → String) :
    Reading.apply ⟨.all, fun t => [f t]⟩ ts = some (ts.map f) := by
  simp only [Reading.apply, Combination.apply, flatten_map_singleton]

theorem apply_all_toList (f : String → Option String) :
    Reading.apply ⟨.all, fun t => (f t).toList⟩ ts = some (ts.filterMap f) := by
  simp only [Reading.apply, Combination.apply, flatten_map_toList]

theorem toOption_readEach (what : String) (read : String → Option String) :
    (readEach what read ts).toOption = Reading.apply ⟨.readable, fun t => (read t).toList⟩ ts := by
  simp only [readEach, Reading.apply, Combination.apply, flatten_map_toList, List.isEmpty_map]
  split <;> rfl

end

theorem toOption_bind {α β : Type} (x : Except Failure α) (f : α → Except Failure β) :
    (x >>= f).toOption = x.toOption.bind fun a => (f a).toOption := by
  cases x <;> rfl

/-- A reading that has one result for all names that are not registered is blind for them. -/
theorem Reading.blind_of_const {r : Reading} {graph : Graph} {kind : ElementKind}
    (texts : List String) (h : ∀ t, graph.isRegistered kind t = false → r.read t = texts) :
    r.Blind graph kind :=
  fun t u ht hu => (h t ht).trans (h u hu).symm

/-- Nothing can be read from an element that is not registered. -/
theorem Reading.blind_of_none {graph : Graph} {kind : ElementKind} (combination : Combination)
    {read : String → Option String}
    (h : ∀ t, graph.isRegistered kind t = false → read t = none) :
    Reading.Blind ⟨combination, fun t => (read t).toList⟩ graph kind :=
  blind_of_const [] fun t ht => by simp [h t ht]

/-! ## Steps of a function -/

section
variable {scope : Scope} {q : Query}

namespace Reads

/-- What does not depend on the scope may come first. -/
theorem bind {α : Type} (x : Except Failure α) {f : α → Scope → Except Failure (List String)}
    (h : ∀ a, x = .ok a → Reads scope q (f a)) : Reads scope q fun scope => x >>= (f · scope) := by
  cases x with
  | ok a => exact h a rfl
  | error e => exact .fixed fun _ _ => rfl

theorem of_error (e : Failure) :
    Reads scope q fun scope => q.targets scope >>= fun _ => .error e :=
  .fixed fun store _ => by
    cases q.targets scope <;> cases q.targets { scope with store } <;> rfl

theorem of_targets {r : Reading} {g : Scope → List String → Except Failure (List String)}
    (hg : ∀ store ts, (g { scope with store } ts).toOption = r.apply ts)
    (hblind : ∀ kind, q.category.target? = some kind → r.Blind scope.graph kind) :
    Reads scope q fun scope => q.targets scope >>= g scope :=
  .targets r (fun store _ => by simp only [toOption_bind, hg]) (.inr hblind)

theorem of_selection {r : ElementKind → Reading}
    {g : Scope → ElementKind × List String → Except Failure (List String)}
    (hg : ∀ store kind ts, (g { scope with store } (kind, ts)).toOption = (r kind).apply ts)
    (hblind : ∀ kind, (r kind).Blind scope.graph kind) :
    Reads scope q fun scope => q.selection scope >>= g scope := by
  cases hkind : q.category.target? with
  | none =>
    refine .fixed fun store _ => ?_
    simp only [selection, hkind]
    rfl
  | some kind =>
    refine .targets (r kind) (fun store _ => ?_) (.inr fun kind' hkind' => ?_)
    · simp only [selection, hkind, ← hg store, toOption_bind]
      cases q.targets { scope with store } <;> rfl
    · obtain rfl : kind = kind' := by simpa [hkind] using hkind'
      exact hblind kind

theorem of_readEach {kind : ElementKind} (hkind : q.category.target? = some kind) {what : String}
    {read : Scope → String → Option String}
    (hread : ∀ store, read { scope with store } = read scope)
    (hnone : ∀ t, scope.graph.isRegistered kind t = false → read scope t = none) :
    Reads scope q fun scope => q.targets scope >>= readEach what (read scope) := by
  refine .of_targets (r := ⟨.readable, fun t => (read scope t).toList⟩) (fun store ts => ?_)
    fun kind' hkind' => ?_
  · simp only [hread, toOption_readEach]
  · obtain rfl : kind = kind' := by simpa [hkind] using hkind'
    exact Reading.blind_of_none _ hnone

end Reads

theorem target?_of_endpointKind {kind : ElementKind} (h : q.endpointKind = .ok kind) :
    q.category.target? = some kind := by
  cases hcategory : q.category <;> simp_all [endpointKind, Category.target?]

/-! ## Unregistered names -/

section
variable {g : Graph} {kind : ElementKind} {t : String}

theorem element?_eq_none (h : g.isRegistered kind t = false) : g.element? kind t = none := by
  cases kind <;> simp_all [Graph.isRegistered, Graph.names, Graph.element?, Graph.elements]

theorem domain?_eq_none (h : g.isRegistered .domain t = false) : g.domain? t = none := by
  simp_all [Graph.isRegistered, Graph.names, Graph.domain?]

theorem isRegistrationComplete_eq_false (h : g.isRegistered .domain t = false) :
    g.isRegistrationComplete t = false := by
  simp_all [Graph.isRegistered, Graph.names, Graph.isRegistrationComplete]

theorem connection?_eq_none (h : g.isRegistered .connection t = false) :
    g.connection? t = none := by
  simp_all [Graph.isRegistered, Graph.names, Graph.connection?]

end

/-! ## Functions -/

/-- Names say themselves which element is meant. -/
theorem reads_name (h : q.function = .name) : Reads scope q fun scope => q.name scope := by
  have happly : Reading.apply ⟨.all, fun t => [t]⟩ = some := by
    funext ts
    simp [apply_all_singleton]
  cases hcategory : q.category with
  | user =>
    refine .fixed fun store _ => ?_
    simp only [name, hcategory]
    cases q.selector <;> rfl
  | system => exact .fixed fun store _ => by simp only [name, hcategory]
  | _ =>
    refine .targets ⟨.all, fun t => [t]⟩ (fun store _ => ?_) (.inl (by simp [h, distinguishing]))
    simp [name, hcategory, happly]

theorem reads_elements : Reads scope q fun scope => q.elements scope := by
  refine .of_selection
    (r := fun kind =>
      ⟨.all, fun t => (Option.guard (fun t => scope.graph.isRegistered kind t) t).toList⟩)
    (fun store kind ts => ?_) fun kind => ?_
  · simp only [apply_all_toList, List.filterMap_eq_filter]
    rfl
  · exact Reading.blind_of_none _ fun t ht => by simp [Option.guard, ht]

theorem reads_count : Reads scope q fun scope => q.count scope := by
  refine .of_selection (r := fun _ => ⟨.count, fun _ => []⟩) (fun store kind ts => ?_)
    fun kind => Reading.blind_of_const [] fun _ _ => rfl
  simp only [Reading.apply, Combination.apply, List.length_map]
  rfl

theorem reads_isRegistered : Reads scope q fun scope => q.isRegistered scope := by
  refine .of_selection
    (r := fun kind => ⟨.all, fun t => [Numeral.flag (scope.graph.isRegistered kind t)]⟩)
    (fun store kind ts => ?_) fun kind => ?_
  · simp only [apply_all_singleton]
    rfl
  · exact Reading.blind_of_const [Numeral.flag false] fun t ht => by simp [ht]

theorem reads_isRegistrationComplete :
    Reads scope q fun scope => q.isRegistrationComplete scope := by
  cases hcategory : q.category with
  | domain =>
    simp only [isRegistrationComplete, hcategory]
    refine .of_targets
      (r := ⟨.all, fun t => [Numeral.flag (scope.graph.isRegistrationComplete t)]⟩)
      (fun store ts => ?_) fun kind hkind => ?_
    · simp only [apply_all_singleton]
      rfl
    · obtain rfl : .domain = kind := by simpa [hcategory, Category.target?] using hkind
      exact Reading.blind_of_const [Numeral.flag false] fun t ht => by
        simp [isRegistrationComplete_eq_false ht]
  | _ =>
    simp only [isRegistrationComplete, hcategory]
    exact .fixed fun _ _ => rfl

/-- Declared priorities do not require registration. -/
theorem reads_priority (h : q.function = .priority) :
    Reads scope q fun scope => q.priority scope := by
  have hstore {store : Store} (hpermuted : scope.store.Permuted store) (kind : ElementKind) :
      priorityOf? { scope with store } kind = priorityOf? scope kind := by
    cases kind <;>
      simp [priorityOf?, hpermuted.sink?_eq, hpermuted.source?_eq, hpermuted.declaredClass?_eq]
  cases hkind : q.category.target? with
  | none =>
    simp only [priority, selection, hkind]
    exact .fixed fun _ _ => rfl
  | some kind =>
    have hpriority {store : Store} (hpermuted : scope.store.Permuted store) :
        (q.priority { scope with store }).toOption =
          (q.targets { scope with store }).toOption.bind fun ts =>
            (priorityOf? scope kind).bind fun read =>
              Reading.apply ⟨.readable, fun t => ((read t).map Numeral.text32).toList⟩ ts := by
      simp only [priority, selection, hkind]
      cases q.targets { scope with store } with
      | error e => rfl
      | ok ts =>
        simp only [Except.map, bind, Except.bind, hstore hpermuted]
        cases priorityOf? scope kind with
        | none => rfl
        | some read => exact toOption_readEach ts "priority" _
    cases hread : priorityOf? scope kind with
    | none =>
      refine .fixed fun store hpermuted => ?_
      have hself := hpriority (.refl scope.store)
      simp_all
    | some read =>
      refine .targets ⟨.readable, fun t => ((read t).map Numeral.text32).toList⟩
        (fun store hpermuted => ?_) (.inl (by simp [h, distinguishing]))
      simp only [hpriority hpermuted, hread]
      rfl

/-- Nor do declared connection formats. -/
theorem reads_connectionFormat (h : q.function = .connectionFormat) :
    Reads scope q fun scope => q.connectionFormat scope := by
  let formats (find : String → Option Endpoint) : Reading :=
    ⟨.all, fun t => (find t).toList.flatMap fun d => d.connectionFormats.map Numeral.text16⟩
  have happly (find : String → Option Endpoint) (ts : List String) :
      (formats find).apply ts = some ((ts.filterMap find).flatMap fun d =>
        d.connectionFormats.map Numeral.text16) := by
    simp only [formats, Reading.apply, Combination.apply, ← flatten_map_toList,
      ← List.flatMap_def, List.flatMap_assoc]
  have hdistinguishing : q.function ∈ distinguishing := by simp [h, distinguishing]
  cases hkind : q.category.target? with
  | none =>
    simp only [connectionFormat, hkind]
    exact .of_error q.unsupported
  | some kind =>
    cases kind with
    | connection =>
      simp only [connectionFormat, hkind]
      exact .of_readEach hkind (fun _ => rfl) fun t ht => by simp [connection?_eq_none ht]
    | sink =>
      refine .targets (formats scope.store.sink?) (fun store hpermuted => ?_)
        (.inl hdistinguishing)
      simp only [connectionFormat, hkind, toOption_bind, hpermuted.sink?_eq, happly]
      rfl
    | source =>
      refine .targets (formats scope.store.source?) (fun store hpermuted => ?_)
        (.inl hdistinguishing)
      simp only [connectionFormat, hkind, toOption_bind, hpermuted.source?_eq, happly]
      rfl
    | domain | gateway | class_ =>
      simp only [connectionFormat, hkind]
      exact .of_error q.unsupported

theorem reads_connectionState : Reads scope q fun scope => q.connectionState scope := by
  cases hcategory : q.category with
  | connectionOfClass | connectionOfSink | connectionOfSource =>
    have hkind : q.category.target? = some .connection := by
      simp [hcategory, Category.target?]
    simp only [connectionState, hcategory]
    exact .of_readEach hkind (fun _ => rfl) fun t ht => by simp [connection?_eq_none ht]
  | _ =>
    simp only [connectionState, hcategory]
    exact .fixed fun _ _ => rfl

theorem reads_fromEndpoints {what : String} {read : Scope → ElementKind → String → Option String}
    (hread : ∀ store, read { scope with store } = read scope)
    (hnone : ∀ kind t, scope.graph.isRegistered kind t = false → read scope kind t = none) :
    Reads scope q fun scope => q.fromEndpoints scope what (read scope) :=
  .bind q.endpointKind fun kind hkind =>
    .of_readEach (target?_of_endpointKind hkind) (fun store => by rw [hread]) (hnone kind)

theorem reads_volume : Reads scope q fun scope => q.volume scope :=
  reads_fromEndpoints (fun _ => rfl) fun kind t ht => by
    simp [Graph.volume?, element?_eq_none ht]

theorem reads_volumeLimit : Reads scope q fun scope => q.volumeLimit scope :=
  reads_fromEndpoints (fun _ => rfl) fun kind t ht => by
    simp [Graph.volumeLimit?, element?_eq_none ht]

/-- What a trigger carries does not depend on the order of the declarations. -/
theorem reads_unlessUser {carries other : Scope → Except Failure (List String)}
    (hcarries : ∀ store, carries { scope with store } = carries scope) (h : Reads scope q other) :
    Reads scope q fun scope =>
      match q.category with
      | .user => carries scope
      | _ => other scope := by
  cases q.category with
  | user => exact .fixed fun store _ => congrArg Except.toOption (hcarries store)
  | _ => exact h

theorem reads_carriedOr {what : String} {value : Scope → Option String}
    {other : Scope → Except Failure (List String)}
    (hvalue : ∀ store, value { scope with store } = value scope) (h : Reads scope q other) :
    Reads scope q fun scope => q.carriedOr what (value scope) (other scope) :=
  reads_unlessUser (fun store => by rw [hvalue]) h

theorem reads_fromTargets (kind : ElementKind) {categories : List Category} {what : String}
    {read : Scope → String → Option String}
    (hkind : ∀ c ∈ categories, c.target? = some kind)
    (hread : ∀ store, read { scope with store } = read scope)
    (hnone : ∀ t, scope.graph.isRegistered kind t = false → read scope t = none) :
    Reads scope q fun scope => q.fromTargets scope categories what (read scope) := by
  unfold fromTargets
  split
  next hmem => exact .of_readEach (hkind _ (List.contains_iff_mem.1 hmem)) hread hnone
  next => exact .fixed fun _ _ => rfl

theorem reads_mainVolume : Reads scope q fun scope => q.mainVolume scope :=
  reads_carriedOr (fun _ => rfl) <|
    reads_fromTargets .sink (by decide) (fun _ => rfl) fun t ht => by
      simp [Graph.mainVolume?, element?_eq_none ht]

theorem reads_muteState : Reads scope q fun scope => q.muteState scope :=
  reads_carriedOr (fun _ => rfl) <|
    reads_fromTargets .sink (by decide) (fun _ => rfl) fun t ht => by
      simp [Graph.muteState?, element?_eq_none ht]

theorem reads_availability (part : Availability → String) :
    Reads scope q fun scope => q.availability scope part :=
  reads_carriedOr (fun _ => rfl) <|
    reads_fromEndpoints (fun _ => rfl) fun kind t ht => by
      simp [Graph.availability?, element?_eq_none ht]

theorem reads_interruptState : Reads scope q fun scope => q.interruptState scope :=
  reads_carriedOr (fun _ => rfl) <|
    reads_fromTargets .source (by decide) (fun _ => rfl) fun t ht => by
      simp [Graph.interruptState?, element?_eq_none ht]

theorem reads_state : Reads scope q fun scope => q.state scope := by
  cases hcategory : q.category with
  | source | sourceOfClass =>
    have hkind : q.category.target? = some .source := by simp [hcategory, Category.target?]
    simp only [state, hcategory]
    exact .of_readEach hkind (fun _ => rfl) fun t ht => by
      simp [Graph.stateCode?, element?_eq_none ht]
  | domain | domainOfSink | domainOfSource =>
    have hkind : q.category.target? = some .domain := by simp [hcategory, Category.target?]
    simp only [state, hcategory]
    exact .of_readEach hkind (fun _ => rfl) fun t ht => by
      simp [Graph.stateCode?, domain?_eq_none ht]
  | _ =>
    simp only [state, hcategory]
    exact .fixed fun _ _ => rfl

theorem reads_soundProperty : Reads scope q fun scope => q.soundProperty scope := by
  refine .bind q.endpointKind fun kind hkind => .bind q.type? fun type _ => ?_
  cases type with
  | none => exact .fixed fun _ _ => rfl
  | some type =>
    exact .of_readEach (target?_of_endpointKind hkind) (fun _ => rfl) fun t ht => by
      simp [Graph.soundProperty?, element?_eq_none ht]

theorem reads_mainSoundPropertyValue :
    Reads scope q fun scope => q.mainSoundPropertyValue scope := by
  refine .bind q.type? fun wanted _ => reads_unlessUser (fun _ => rfl) ?_
  refine .bind q.endpointKind fun kind hkind => ?_
  cases wanted with
  | some type =>
    exact .of_readEach (target?_of_endpointKind hkind) (fun _ => rfl) fun t ht => by
      simp [Graph.mainSoundProperty?, element?_eq_none ht]
  | none =>
    refine .of_targets
      (r := ⟨.all, fun t =>
        (scope.graph.mainSoundProperties kind t).map fun p => Numeral.text16 p.value⟩)
      (fun store ts => ?_) fun kind' hkind' => ?_
    · simp only [Reading.apply, Combination.apply, ← List.flatMap_def, ← List.map_flatMap]
      rfl
    · obtain rfl : kind = kind' := by simpa [target?_of_endpointKind hkind] using hkind'
      exact Reading.blind_of_const [] fun t ht => by
        simp [Graph.mainSoundProperties, element?_eq_none ht]

theorem reads_mainSoundPropertyType :
    Reads scope q fun scope => q.mainSoundPropertyType scope := by
  refine reads_unlessUser (fun _ => rfl) (.bind q.endpointKind fun kind hkind => ?_)
  refine .of_targets
    (r := ⟨.distinct, fun t =>
      (scope.graph.mainSoundProperties kind t).map fun p => Numeral.text16 p.type⟩)
    (fun store ts => ?_) fun kind' hkind' => ?_
  · simp only [Reading.apply, Combination.apply, ← List.flatMap_def, ← List.map_flatMap]
    rfl
  · obtain rfl : kind = kind' := by simpa [target?_of_endpointKind hkind] using hkind'
    exact Reading.blind_of_const [] fun t ht => by
      simp [Graph.mainSoundProperties, element?_eq_none ht]

theorem reads_configurationsOf
    (configurations : Scope → ElementKind → String → List NotificationConfiguration)
    (hstore : ∀ store, configurations { scope with store } = configurations scope)
    (hnone : ∀ kind t, scope.graph.isRegistered kind t = false → configurations scope kind t = [])
    (part : NotificationConfiguration → String) (wanted : Option Int16) :
    Reads scope q fun scope => q.configurationsOf scope (configurations scope) part wanted := by
  refine .bind q.endpointKind fun kind hkind => ?_
  let combination : Combination := if wanted.isSome then .present else .all
  let read (t : String) : List String :=
    ((configurations scope kind t).filter fun c => isWanted wanted c.type).map part
  refine .of_targets (r := ⟨combination, read⟩) (fun store ts => ?_) fun kind' hkind' => ?_
  · have hflatten : (ts.map read).flatten =
        ((ts.flatMap (configurations scope kind)).filter fun c =>
          isWanted wanted c.type).map part := by
      simp only [read, ← List.flatMap_def, List.filter_flatMap, List.map_flatMap]
    simp only [hstore, ← hflatten, Reading.apply]
    cases wanted with
    | none =>
      simp only [Option.isSome_none, Bool.and_false]
      rfl
    | some type =>
      simp only [Option.isSome_some, Bool.and_true, combination, if_true, Combination.apply]
      split <;> rfl
  · obtain rfl : kind = kind' := by simpa [target?_of_endpointKind hkind] using hkind'
    exact Reading.blind_of_const [] fun t ht => by simp [read, hnone kind t ht]

theorem reads_notificationConfiguration (part : NotificationConfiguration → String) :
    Reads scope q fun scope => q.notificationConfiguration scope part :=
  .bind q.type? fun wanted _ => reads_unlessUser (fun _ => rfl) <|
    reads_configurationsOf (fun scope => scope.graph.notifications) (fun _ => rfl)
      (fun kind t ht => by simp [Graph.notifications, element?_eq_none ht]) part wanted

theorem reads_mainNotificationConfiguration (part : NotificationConfiguration → String) :
    Reads scope q fun scope => q.mainNotificationConfiguration scope part :=
  .bind q.type? fun wanted _ => reads_unlessUser (fun _ => rfl) <|
    reads_configurationsOf (fun scope => scope.graph.mainNotifications) (fun _ => rfl)
      (fun kind t ht => by simp [Graph.mainNotifications, element?_eq_none ht]) part wanted

/-- A connection may have an end that is not registered. -/
theorem reads_peek (h : q.function = .peek) : Reads scope q fun scope => q.peek scope := by
  cases hqueue : queue? q.category with
  | none =>
    simp only [peek, hqueue]
    exact .fixed fun _ _ => rfl
  | some filter =>
    simp only [peek, hqueue]
    refine .bind q.number? fun number _ => ?_
    split
    next => exact .fixed fun _ _ => rfl
    next =>
      let read (t : String) : Option String :=
        (scope.graph.connectionsBy (filter t) .highPriority)[(number.getD 0).toNat]?.map (·.name)
      refine .targets ⟨.all, fun t => (read t).toList⟩ (fun store _ => ?_)
        (.inl (by simp [h, distinguishing]))
      simp only [toOption_bind, apply_all_toList]
      rfl

/-- Every function ignores the targets or reads them one by one. -/
theorem reads_answer (scope : Scope) (q : Query) : Reads scope q fun scope => q.answer scope := by
  unfold answer
  cases hfunction : q.function with
  | name => exact reads_name hfunction
  | elements => exact reads_elements
  | count => exact reads_count
  | priority => exact reads_priority hfunction
  | connectionState => exact reads_connectionState
  | volume => exact reads_volume
  | mainVolume => exact reads_mainVolume
  | volumeLimit => exact reads_volumeLimit
  | soundProperty => exact reads_soundProperty
  | mainSoundPropertyValue => exact reads_mainSoundPropertyValue
  | mainSoundPropertyType => exact reads_mainSoundPropertyType
  | muteState => exact reads_muteState
  | availability | availabilityReason => exact reads_availability _
  | connectionFormat => exact reads_connectionFormat hfunction
  | interruptState => exact reads_interruptState
  | isRegistered => exact reads_isRegistered
  | isRegistrationComplete => exact reads_isRegistrationComplete
  | state => exact reads_state
  | peek => exact reads_peek hfunction
  | notificationConfigurationStatus | notificationConfigurationParam =>
    exact reads_notificationConfiguration _
  | mainNotificationConfigurationType | mainNotificationConfigurationStatus
  | mainNotificationConfigurationParam => exact reads_mainNotificationConfiguration _
  | isMainVolumeStep | systemPropertyValue | systemPropertyType | error | notificationDataValue
  | notificationDataType | scale =>
    -- These are about the trigger, the system or the argument itself.
    exact .fixed fun _ _ => rfl

end

end AudioPolicy.Query

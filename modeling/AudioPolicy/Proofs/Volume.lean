-- SUMMARY: A volume request that is only passed on reaches the first sink of its name unaltered.
import AudioPolicy.Proofs.Numerals
import AudioPolicy.Proofs.Params
import AudioPolicy.Proofs.Replay
import Mathlib.Algebra.Order.BigOperators.Group.List
import Mathlib.Algebra.Order.Ring.Int
import Mathlib.Data.Int.ConditionallyCompleteOrder
import Mathlib.Order.ConditionallyCompleteLattice.Basic
import Mathlib.Order.Monotone.Basic

/-! # Volume requests

A template without parameters gets the sink and the number of a volume request by
default. The number is written out and read back on the routing side, which either sets
the main volume or adds to it and stops at the limits of 16 bits. So nothing on the way
changes the number. Steps of one sign add up like integers until the total leaves the
range, and from there on the limit stays. -/

namespace AudioPolicy

open AudioPolicy.Action

/-! ## Levels of 16 bits -/

/-- The integer of 16 bits that is nearest to a number. -/
def clamp16 (n : Int) : Int := max (-32768) (min 32767 n)

theorem toInt_ofIntClamp (n : Int) : (Int16.ofIntClamp n).toInt = clamp16 n := by
  have hmin : Int16.minValue.toInt = -32768 := rfl
  have hmax : Int16.maxValue.toInt = 32767 := rfl
  unfold Int16.ofIntClamp clamp16
  split
  next hlow =>
    split
    next hhigh =>
      simp only [Int16.toInt_ofIntLE]
      omega
    next hhigh => omega
  next hlow => omega

/-- The main volume after a step. -/
def stepped (old v : Int16) : Int16 := Int16.ofIntClamp (old.toInt + v.toInt)

theorem toInt_stepped (old v : Int16) : (stepped old v).toInt = clamp16 (old.toInt + v.toInt) :=
  toInt_ofIntClamp (old.toInt + v.toInt)

theorem le_toInt_stepped (old : Int16) {v : Int16} (h : 0 ≤ v.toInt) :
    old.toInt ≤ (stepped old v).toInt := by
  have hhigh := old.toInt_lt
  simp only [toInt_stepped, clamp16]
  omega

theorem toInt_stepped_le (old : Int16) {v : Int16} (h : v.toInt ≤ 0) :
    (stepped old v).toInt ≤ old.toInt := by
  have hlow := old.le_toInt
  simp only [toInt_stepped, clamp16]
  omega

/-- The main volume after the first of some steps. -/
def levelAfter (old : Int16) (vs : List Int16) (i : Nat) : Int16 := (vs.take i).foldl stepped old

@[simp] theorem levelAfter_zero (old : Int16) (vs : List Int16) : levelAfter old vs 0 = old := rfl

theorem levelAfter_succ (old : Int16) {vs : List Int16} {i : Nat} (h : i < vs.length) :
    levelAfter old vs (i + 1) = stepped (levelAfter old vs i) vs[i] := by
  unfold levelAfter
  rw [List.take_succ_eq_append_getElem h, List.foldl_append]
  rfl

/-- From one index to the next there is one more step, or none is left. -/
theorem levelAfter_succ_cases (old : Int16) (vs : List Int16) (i : Nat) :
    levelAfter old vs (i + 1) = levelAfter old vs i ∨
      ∃ v ∈ vs, levelAfter old vs (i + 1) = stepped (levelAfter old vs i) v := by
  by_cases h : i < vs.length
  · exact Or.inr ⟨vs[i], List.getElem_mem h, levelAfter_succ old h⟩
  · have hlength : vs.length ≤ i := Nat.le_of_not_lt h
    left
    unfold levelAfter
    rw [List.take_of_length_le hlength, List.take_of_length_le (Nat.le_succ_of_le hlength)]

theorem levelAfter_monotone (old : Int16) {vs : List Int16} (h : ∀ v ∈ vs, 0 ≤ v.toInt) :
    Monotone fun i => (levelAfter old vs i).toInt := by
  apply monotone_nat_of_le_succ
  intro i
  rcases levelAfter_succ_cases old vs i with hsame | ⟨v, hv, hstep⟩
  · simp only [hsame, le_refl]
  · simp only [hstep, le_toInt_stepped _ (h v hv)]

theorem levelAfter_antitone (old : Int16) {vs : List Int16} (h : ∀ v ∈ vs, v.toInt ≤ 0) :
    Antitone fun i => (levelAfter old vs i).toInt := by
  apply antitone_nat_of_succ_le
  intro i
  rcases levelAfter_succ_cases old vs i with hsame | ⟨v, hv, hstep⟩
  · simp only [hsame, le_refl]
  · simp only [hstep, toInt_stepped_le _ (h v hv)]

/-- Steps of one sign leave the range at most once, and the level then stays at the limit. -/
theorem toInt_foldl_stepped {vs : List Int16}
    (h : (∀ v ∈ vs, 0 ≤ v.toInt) ∨ ∀ v ∈ vs, v.toInt ≤ 0) (old : Int16) :
    (vs.foldl stepped old).toInt = clamp16 (old.toInt + (vs.map Int16.toInt).sum) := by
  induction vs generalizing old with
  | nil =>
    have hlow := old.le_toInt
    have hhigh := old.toInt_lt
    simp [clamp16]
    omega
  | cons v vs ih =>
    have hlow := old.le_toInt
    have hhigh := old.toInt_lt
    simp only [List.forall_mem_cons] at h
    simp only [List.foldl_cons, ih (h.imp And.right And.right), toInt_stepped, clamp16,
      List.map_cons, List.sum_cons]
    rcases h with ⟨hv, hvs⟩ | ⟨hv, hvs⟩
    · have hsum : 0 ≤ (vs.map Int16.toInt).sum := List.sum_nonneg (by simpa using hvs)
      omega
    · have hsum : (vs.map Int16.toInt).sum ≤ 0 := by
        simpa using List.sum_le_card_nsmul (vs.map Int16.toInt) 0 (by simpa using hvs)
      omega

/-! ## The action of a request -/

/-- The key under which the number of a request is passed on. -/
def volumeKey (isStep : Bool) : String := if isStep then Key.mainVolumeStep else Key.mainVolume

theorem volumeKey_ne_sinkName (isStep : Bool) : volumeKey isStep ≠ Key.sinkName := by
  cases isStep <;> decide

/-- The action that passes a volume request on. -/
def volumeAction (sink : String) (v : Int16) (isStep : Bool) : Action where
  kind := .setVolume
  params :=
    (Params.empty.insert Key.sinkName sink).insert (volumeKey isStep) (Numeral.text16 v)

/-- The main volume that a request asks for. -/
def requested (isStep : Bool) (old v : Int16) : Int16 := if isStep then stepped old v else v

theorem fillDefaults_setVolume (sink : String) (v : Int16) (isStep : Bool) :
    Template.fillDefaults .setVolume (.userSetVolume sink v isStep) .empty =
      (volumeAction sink v isStep).params := by
  have hsink : Template.fillSink (.userSetVolume sink v isStep) .empty =
      Params.empty.insert Key.sinkName sink := rfl
  have hlacks (key : String) (h : key ≠ Key.sinkName) :
      (Params.empty.insert Key.sinkName sink).has key = false := by
    simp [Params.has, Params.get?_insert, h]
  have hnone : (Params.empty.insert Key.sinkName sink).hasAny
      [Key.mainVolume, Key.mainVolumeStep, Key.volume] = false := by
    have habsolute := hlacks Key.mainVolume (by decide)
    have hstep := hlacks Key.mainVolumeStep (by decide)
    have hvolume := hlacks Key.volume (by decide)
    simp [Params.hasAny, habsolute, hstep, hvolume]
  have hkey : (if isStep = true then Key.mainVolumeStep else Key.mainVolume) =
      volumeKey isStep := rfl
  simp [Template.fillDefaults, hsink, Template.fillVolume, hnone, Trigger.isVolumeStep?, hkey,
    Trigger.mainVolume?, Template.fill, Params.insertIfNew, hlacks _ (volumeKey_ne_sinkName isStep),
    volumeAction]

theorem newVolume_volumeAction (sink : String) (v : Int16) (isStep : Bool) (old : Int16) :
    Graph.newVolume (volumeAction sink v isStep) old = requested isStep old v := by
  have hkeys : Key.mainVolume ≠ Key.mainVolumeStep := by decide
  have hsink : Key.mainVolume ≠ Key.sinkName := by decide
  cases isStep <;>
    simp [Graph.newVolume, Graph.level?, Action.param?, volumeAction, volumeKey, requested,
      stepped, Params.get?_insert, Numeral.int16?_text16, hkeys, hsink]

/-! ## The first sink of a name -/

namespace Graph

theorem updateFirst_of_notMem {name : String} {es : List Element}
    (h : name ∉ es.map (·.name)) (change : Element → Element) :
    updateFirst name change es = es := by
  induction es with
  | nil => rfl
  | cons e es ih =>
    simp only [List.map_cons, List.mem_cons, not_or] at h
    simp [updateFirst, Ne.symm h.1, ih h.2]

theorem updateFirst_append {name : String} {before : List Element}
    (h : name ∉ before.map (·.name)) {e : Element} (hname : e.name = name)
    (behind : List Element) (change : Element → Element) :
    updateFirst name change (before ++ e :: behind) = before ++ change e :: behind := by
  induction before with
  | nil => simp [updateFirst, hname]
  | cons b before ih =>
    simp only [List.map_cons, List.mem_cons, not_or] at h
    simp [updateFirst, Ne.symm h.1, ih h.2]

theorem apply_volumeAction (g : Graph) (sink : String) (v : Int16) (isStep : Bool) :
    g.apply (volumeAction sink v isStep) =
      { g with
        sinks := updateFirst sink
          (fun e => { e with mainVolume := requested isStep e.mainVolume v }) g.sinks } := by
  have hsink : (volumeAction sink v isStep).param? Key.sinkName = some sink := by
    simp [Action.param?, volumeAction, Params.get?_insert, (volumeKey_ne_sinkName isStep).symm]
  have hkind : (volumeAction sink v isStep).kind = .setVolume := rfl
  simp [apply, updateSink, hkind, hsink, newVolume_volumeAction]

end Graph

/-! ## The answer to a request -/

/-- The only policy for volume requests has no conditions, and its only action is to set
    the volume, without parameters. -/
structure Store.PassesVolume (store : Store) : Prop where
  loaded : store.reason? = none
  only : ∃ p : Policy, store.policies.filter (Policy.isCandidate .userSetVolume) = [p] ∧
    p.conditions = [] ∧ p.actions = [{ kind := .setVolume }]

/-- Neither the lookup nor the search for matching policies can fail. -/
theorem Engine.value_ruleActions_userSetVolume {store : Store} (h : store.PassesVolume)
    (g : Graph) (sink : String) (v : Int16) (isStep : Bool) :
    (ruleActions { store, graph := g, trigger := .userSetVolume sink v isStep }).value =
      .ok [volumeAction sink v isStep] := by
  obtain ⟨hloaded, p, honly, hconditions, hactions⟩ := h
  have hcandidates : candidates store .userSetVolume = .ok [p] := by
    cases store with
    | unavailable reason => cases hloaded
    | loaded c distinct =>
      have hfilter : c.policies.filter (Policy.isCandidate .userSetVolume) = [p] := honly
      simp [candidates, Store.candidates, hfilter]
  have hresolved : (Template.resolve (.userSetVolume sink v isStep)
      (Evaluation.parameter { store, graph := g, trigger := .userSetVolume sink v isStep })
      { kind := .setVolume }).value = volumeAction sink v isStep :=
    congrArg (Action.mk .setVolume) (fillDefaults_setVolume sink v isStep)
  have hkind : (Trigger.userSetVolume sink v isStep).kind = .userSetVolume := rfl
  simp only [ruleActions, hkind, hcandidates, matchAll, Logged.value_bind, hconditions,
    Evaluation.allHold, Logged.value_pure, if_true, hactions, policyActions, hresolved]
  cases p.stop <;> simp

/-- A volume request implies nothing and restores nothing. -/
theorem Engine.value_answer_userSetVolume {store : Store} (h : store.PassesVolume) (g : Graph)
    (sink : String) (v : Int16) (isStep : Bool) :
    (answer store g (.userSetVolume sink v isStep)).value =
      .ok [volumeAction sink v isStep] := by
  have hscope : scopeOf store g (.userSetVolume sink v isStep) =
      { store, graph := g, trigger := .userSetVolume sink v isStep } := rfl
  simp [answer, hscope, value_ruleActions_userSetVolume h, Implied.actions, restoreActions]

/-! ## Replayed requests -/

/-- The graph that a replay leaves which applies what is delivered. -/
def Store.replayed (store : Store) (g : Graph) (ts : List Trigger) : Graph :=
  let s := (Session.fresh store g).after [.start]
  let scenario : Scenario := { state := g, triggers := ts, applyActions := true }
  (scenario.replay s.engine s.router).value.2.graph

/-- If the answers to some triggers are the same in every graph, then a replay of the
    triggers applies these answers one after the other. -/
theorem Store.replayed_eq_foldl {store : Store} {ts : List Trigger}
    {answer : Trigger → List Action}
    (h : ∀ t ∈ ts, ∀ g, (Engine.answer store g t).value = .ok (answer t)) (g : Graph) :
    store.replayed g ts = ts.foldl (fun g t => g.applyAll (answer t)) g := by
  have hsteps (index : Nat) :
      Scenario.graphAfter true g
          (Scenario.stepsFrom { store, started := true } true g index ts) =
        ts.foldl (fun g t => g.applyAll (answer t)) g := by
    induction ts generalizing g index with
    | nil => rfl
    | cons t ts ih =>
      simp only [List.forall_mem_cons] at h
      have hanswer : (Engine.evaluate { store, started := true } g t).value = .ok (answer t) :=
        h.1 g
      simp only [Scenario.stepsFrom, hanswer, List.foldl_cons]
      exact ih h.2 _ _
  have hreplay := Scenario.value_replayFrom { store, started := true } true g 0 ts
  simp only [← hsteps 0]
  exact congrArg (fun replayed => replayed.2.graph) hreplay

namespace Store.PassesVolume

variable {store : Store} (h : store.PassesVolume) (sink : String) (vs : List Int16)
  (isStep : Bool)

include h

theorem replayed_eq_foldl (g : Graph) :
    store.replayed g (vs.map fun v => .userSetVolume sink v isStep) =
      vs.foldl (fun g v => g.apply (volumeAction sink v isStep)) g := by
  let answer (t : Trigger) : List Action :=
    match t with
    | .userSetVolume sink v isStep => [volumeAction sink v isStep]
    | _ => []
  have hanswer : ∀ t ∈ vs.map fun v => Trigger.userSetVolume sink v isStep, ∀ g,
      (Engine.answer store g t).value = .ok (answer t) := by
    simp only [List.forall_mem_map]
    exact fun v _ g => Engine.value_answer_userSetVolume h g sink v isStep
  simp only [Store.replayed_eq_foldl hanswer, List.foldl_map]
  rfl

/-- Requests for a sink that is not registered change nothing. -/
theorem replayed_of_notMem {g : Graph} (hsink : sink ∉ g.sinks.map (·.name)) :
    store.replayed g (vs.map fun v => .userSetVolume sink v isStep) = g := by
  simp only [replayed_eq_foldl h]
  induction vs with
  | nil => rfl
  | cons v vs ih =>
    have happly : g.apply (volumeAction sink v isStep) = g := by
      simp [Graph.apply_volumeAction, Graph.updateFirst_of_notMem hsink]
    simpa [happly] using ih

/-- Requests for a sink change nothing but the main volume of the first sink of its name. -/
theorem replayed_of_first {g : Graph} {before : List Element} {e : Element}
    {behind : List Element} (hsinks : g.sinks = before ++ e :: behind) (hname : e.name = sink)
    (hbefore : sink ∉ before.map (·.name)) :
    store.replayed g (vs.map fun v => .userSetVolume sink v isStep) =
      { g with
        sinks := before ++
          { e with mainVolume := vs.foldl (requested isStep) e.mainVolume } :: behind } := by
  simp only [replayed_eq_foldl h]
  induction vs generalizing g e with
  | nil =>
    simp only [List.foldl_nil, ← hsinks]
  | cons v vs ih =>
    have happly : g.apply (volumeAction sink v isStep) =
        { g with
          sinks := before ++
            { e with mainVolume := requested isStep e.mainVolume v } :: behind } := by
      simp [Graph.apply_volumeAction, hsinks, Graph.updateFirst_append hbefore hname]
    have hrest := ih (e := { e with mainVolume := requested isStep e.mainVolume v })
      (g := { g with
        sinks := before ++
          { e with mainVolume := requested isStep e.mainVolume v } :: behind }) rfl hname
    simpa [happly] using hrest

end Store.PassesVolume

/-- A request for a sink that is not registered changes nothing. Otherwise only the main
    volume of the first sink of the name changes. An absolute request sets it to exactly its
    number. A step adds its number to it and ends at the nearest integer of 16 bits, and
    so does each of several steps. If all of them have the same sign, then the level goes
    one way only, and it is the nearest to the level at the start plus all numbers so far. -/
theorem volume_request_unaltered {store : Store} (h : store.PassesVolume) (g : Graph)
    (sink : String) :
    (sink ∉ g.sinks.map (·.name) →
        ∀ v isStep, store.replayed g [.userSetVolume sink v isStep] = g) ∧
      ∀ (before : List Element) (e : Element) (behind : List Element),
        g.sinks = before ++ e :: behind → e.name = sink → sink ∉ before.map (·.name) →
        let withVolume (volume : Int16) : Graph :=
          { g with sinks := before ++ { e with mainVolume := volume } :: behind }
        (∀ v, store.replayed g [.userSetVolume sink v false] = withVolume v) ∧
          (∀ v, ∃ volume, store.replayed g [.userSetVolume sink v true] = withVolume volume ∧
            volume.toInt = clamp16 (e.mainVolume.toInt + v.toInt)) ∧
          ∀ vs : List Int16, ∃ level : Nat → Int16, level 0 = e.mainVolume ∧
            (∀ i, store.replayed g ((vs.take i).map fun v => .userSetVolume sink v true) =
              withVolume (level i)) ∧
            (∀ (i : Nat) (hi : i < vs.length),
              (level (i + 1)).toInt = clamp16 ((level i).toInt + vs[i].toInt)) ∧
            ((∀ v ∈ vs, 0 ≤ v.toInt) → Monotone fun i => (level i).toInt) ∧
            ((∀ v ∈ vs, v.toInt ≤ 0) → Antitone fun i => (level i).toInt) ∧
            (((∀ v ∈ vs, 0 ≤ v.toInt) ∨ ∀ v ∈ vs, v.toInt ≤ 0) → ∀ i, (level i).toInt =
              clamp16 (e.mainVolume.toInt + ((vs.take i).map Int16.toInt).sum)) := by
  refine ⟨fun hsink v isStep => h.replayed_of_notMem sink [v] isStep hsink, ?_⟩
  intro before e behind hsinks hname hbefore withVolume
  have hreplayed (vs : List Int16) (isStep : Bool) :
      store.replayed g (vs.map fun v => .userSetVolume sink v isStep) =
        withVolume (vs.foldl (requested isStep) e.mainVolume) :=
    h.replayed_of_first sink vs isStep hsinks hname hbefore
  refine ⟨fun v => hreplayed [v] false, fun v => ⟨stepped e.mainVolume v, ?_, ?_⟩, fun vs => ?_⟩
  · exact hreplayed [v] true
  · exact toInt_stepped e.mainVolume v
  · refine ⟨levelAfter e.mainVolume vs, rfl, ?_, ?_, ?_, ?_, ?_⟩
    · exact fun i => hreplayed (vs.take i) true
    · intro i hi
      simp [levelAfter_succ e.mainVolume hi, toInt_stepped]
    · exact levelAfter_monotone e.mainVolume
    · exact levelAfter_antitone e.mainVolume
    · intro hsign i
      have htake : (∀ v ∈ vs.take i, 0 ≤ v.toInt) ∨ ∀ v ∈ vs.take i, v.toInt ≤ 0 :=
        hsign.imp (fun h v hv => h v (List.mem_of_mem_take hv))
          fun h v hv => h v (List.mem_of_mem_take hv)
      exact toInt_foldl_stepped htake e.mainVolume

/-- The lookup is strict, a disabled policy would drop the request, and of two sinks with
    one name the first is already above zero, so that the greatest step leaves the range. -/
theorem volume_request_unaltered_at_the_limits :
    let store : Store := .loaded
      { policies :=
          [{ name := "ignore", triggers := [.any], stop := true, enabled := false },
           { name := "volume", triggers := [.userAll], stop := true,
             actions := [{ kind := .setVolume }] }]
        options := { strictLookup := true } } rfl
    let first : Element := { name := "Speaker", mainVolume := 1 }
    let second : Element := { name := "Speaker", mainVolume := 7 }
    let g : Graph := { sinks := [{ name := "Amp" }, first, second] }
    let withVolume (volume : Int16) : Graph :=
      { g with sinks := [{ name := "Amp" }] ++ { first with mainVolume := volume } :: [second] }
    store.PassesVolume ∧
      store.replayed g [.userSetVolume "Headset" 5 false] = g ∧
      store.replayed g [.userSetVolume "Speaker" (-32768) false] = withVolume (-32768) ∧
      ∃ volume, store.replayed g [.userSetVolume "Speaker" 32767 true] = withVolume volume ∧
        volume.toInt = 32767 := by
  intro store first second g withVolume
  have hpasses : store.PassesVolume := ⟨rfl, _, rfl, rfl, rfl⟩
  obtain ⟨hnone, -⟩ := volume_request_unaltered hpasses g "Headset"
  obtain ⟨-, hfirst⟩ := volume_request_unaltered hpasses g "Speaker"
  obtain ⟨habsolute, hstep, -⟩ := hfirst [{ name := "Amp" }] first [second] rfl rfl (by decide)
  obtain ⟨volume, hreplayed, hvolume⟩ := hstep 32767
  exact ⟨hpasses, hnone (by decide) 5 false, habsolute (-32768), volume, hreplayed,
    hvolume.trans (by decide)⟩

end AudioPolicy

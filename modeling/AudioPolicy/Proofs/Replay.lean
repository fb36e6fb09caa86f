-- SUMMARY: A replay is the fold of its triggers over the graph that the scenario starts from.
import AudioPolicy.Proofs.Lifecycle
import AudioPolicy.Scenario

/-! # Replay

A replay runs an engine and a router step by step. Each step takes what was delivered, so
the next one meets a router with no deliveries and with a graph that depends on the
recorded actions alone. So a replay on a new router is a recursion over the triggers that
carries nothing but this graph. -/

namespace AudioPolicy.Scenario

/-! ## Steps -/

/-- The record of a trigger with this answer. -/
def Step.ofAnswer (index : Nat) (t : Trigger) : Except Error (List Action) → Step
  | .ok actions => { index, trigger := t, origin := some t.origin, actions }
  | .error e => { index, trigger := t, error := some e.message }

/-- The graph behind a step. -/
def Step.next (applies : Bool) (g : Graph) (step : Step) : Graph :=
  if applies then g.applyAll step.actions else g

/-- How a step tells what processing its trigger against a router came to: the delivered
    answer with its origin, or the message of the error and no actions. -/
inductive Step.Records (engine : Engine) (router : Router) (step : Step) : Prop
  | delivered (hprocess : (engine.process router step.trigger).value.1 = .ok ())
      (horigin : step.origin = some step.trigger.origin) (herror : step.error = none)
      (hactions : (engine.evaluate router.graph step.trigger).value = .ok step.actions)
  | failed {e : Error} (hprocess : (engine.process router step.trigger).value.1 = .error e)
      (horigin : step.origin = none) (herror : step.error = some e.message)
      (hactions : step.actions = [])

section
variable (engine : Engine) (applies : Bool) (g : Graph) (index : Nat)

@[simp] theorem Step.index_ofAnswer (t : Trigger) (answer : Except Error (List Action)) :
    (Step.ofAnswer index t answer).index = index := by
  cases answer <;> rfl

@[simp] theorem Step.trigger_ofAnswer (t : Trigger) (answer : Except Error (List Action)) :
    (Step.ofAnswer index t answer).trigger = t := by
  cases answer <;> rfl

/-- On a router without deliveries that accepts them, processing fails only with the answer. -/
theorem value_process_new (t : Trigger) :
    (engine.process { graph := g } t).value =
      match (engine.evaluate g t).value with
      | .ok actions => (.ok (), { graph := g, delivered := [{ origin := t.origin, actions }] })
      | .error e => (.error e, { graph := g }) := by
  rw [Engine.value_process]
  cases (engine.evaluate g t).value <;> rfl

theorem Step.records_ofAnswer (t : Trigger) :
    (Step.ofAnswer index t (engine.evaluate g t).value).Records engine { graph := g } := by
  have hprocess := value_process_new engine g t
  cases hanswer : (engine.evaluate g t).value with
  | ok actions =>
    rw [hanswer] at hprocess
    exact .delivered (congrArg Prod.fst hprocess) rfl rfl hanswer
  | error e =>
    rw [hanswer] at hprocess
    exact .failed (congrArg Prod.fst hprocess) rfl rfl rfl

/-- A step without actions keeps the graph. -/
theorem Step.next_of_failed {step : Step} {router : Router} (h : step.Records engine router)
    (herror : step.error ≠ none) : step.next applies g = g := by
  cases h with
  | delivered hprocess horigin hnone hactions => contradiction
  | failed hprocess horigin hsome hactions =>
    unfold Step.next
    rw [hactions]
    exact ite_self g

/-- A step on a router without deliveries leaves one without deliveries. -/
theorem value_replayStep (t : Trigger) :
    (replayStep engine applies { graph := g } index t).value =
      let step := Step.ofAnswer index t (engine.evaluate g t).value
      (step, { graph := step.next applies g }) := by
  have hprocess := value_process_new engine g t
  simp only [replayStep, Logged.value_bind, hprocess]
  cases (engine.evaluate g t).value with
  | ok actions =>
    cases applies <;> simp [Step.ofAnswer, Step.next, Router.take, applyDelivered, Router.apply]
  | error e => cases applies <;> rfl

/-! ## Runs -/

/-- The graph behind some steps. -/
def graphAfter (steps : List Step) : Graph := steps.foldl (Step.next applies) g

/-- The steps for some triggers, the first of which has the given index and meets the given
    graph. -/
def stepsFrom (engine : Engine) (applies : Bool) (g : Graph) (index : Nat) :
    List Trigger → List Step
  | [] => []
  | t :: ts =>
    let step := Step.ofAnswer index t (engine.evaluate g t).value
    step :: stepsFrom engine applies (step.next applies g) (index + 1) ts

/-- A replay on a new router is this recursion. -/
theorem value_replayFrom (ts : List Trigger) :
    (replayFrom engine applies { graph := g } index ts).value =
      (stepsFrom engine applies g index ts,
        { graph := graphAfter applies g (stepsFrom engine applies g index ts) }) := by
  induction ts generalizing g index with
  | nil => rfl
  | cons t ts ih =>
    simp only [replayFrom, Logged.value_bind, value_replayStep, ih]
    rfl

theorem map_index_stepsFrom (ts : List Trigger) :
    (stepsFrom engine applies g index ts).map (·.index) = List.range' index ts.length := by
  induction ts generalizing g index with
  | nil => rfl
  | cons t ts ih => simp [stepsFrom, ih, List.range'_succ]

theorem map_trigger_stepsFrom (ts : List Trigger) :
    (stepsFrom engine applies g index ts).map (·.trigger) = ts := by
  induction ts generalizing g index with
  | nil => rfl
  | cons t ts ih => simp [stepsFrom, ih]

theorem stepsFrom_take (ts : List Trigger) (i : Nat) :
    stepsFrom engine applies g index (ts.take i) =
      (stepsFrom engine applies g index ts).take i := by
  induction ts generalizing g index i with
  | nil => simp [stepsFrom]
  | cons t ts ih =>
    cases i with
    | zero => rfl
    | succ i => simp [stepsFrom, ih]

/-- Each step records how its trigger fares against the graph behind the steps before it. -/
theorem records_stepsFrom (ts : List Trigger) (i : Nat)
    (h : i < (stepsFrom engine applies g index ts).length) :
    (stepsFrom engine applies g index ts)[i].Records engine
      { graph := graphAfter applies g ((stepsFrom engine applies g index ts).take i) } := by
  induction ts generalizing g index i with
  | nil => exact absurd h (Nat.not_lt_zero i)
  | cons t ts ih =>
    cases i with
    | zero => exact Step.records_ofAnswer engine g index t
    | succ i => exact ih _ _ i (Nat.lt_of_succ_lt_succ h)

theorem graphAfter_take_succ (steps : List Step) (i : Nat) (h : i < steps.length) :
    graphAfter applies g (steps.take (i + 1)) =
      steps[i].next applies (graphAfter applies g (steps.take i)) := by
  unfold graphAfter
  rw [List.take_succ_eq_append_getElem h, List.foldl_append, List.foldl_cons, List.foldl_nil]

end

/-! ## Replays -/

/-- A replay on a new router with a started engine has one step for each trigger, in order.
    Replaying only the triggers before a step leaves a router with nothing but the graph
    behind the actions of the steps before it. The step records what processing its trigger
    against that router comes to, and if that is an error, the graph stays. The whole
    replay leaves the graph behind all steps. -/
theorem replay_eq_fold (store : Store) (scenario : Scenario) :
    let s := (Session.fresh store scenario.state).after [.start]
    let replayed := (scenario.replay s.engine s.router).value
    let steps := replayed.1
    let graphBefore (i : Nat) := graphAfter scenario.applyActions scenario.state (steps.take i)
    steps.map (·.index) = List.range scenario.triggers.length ∧
      steps.map (·.trigger) = scenario.triggers ∧
      (∀ (i : Nat) (h : i < steps.length),
        let before : Scenario := { scenario with triggers := scenario.triggers.take i }
        (before.replay s.engine s.router).value = (steps.take i, { graph := graphBefore i }) ∧
          steps[i].Records s.engine { graph := graphBefore i } ∧
          (steps[i].error ≠ none → graphBefore (i + 1) = graphBefore i)) ∧
      replayed.2 = { graph := graphAfter scenario.applyActions scenario.state steps } := by
  intro s replayed steps graphBefore
  have hreplay (ts : List Trigger) :
      (replay { scenario with triggers := ts } s.engine s.router).value =
        (stepsFrom s.engine scenario.applyActions scenario.state 0 ts,
          { graph := graphAfter scenario.applyActions scenario.state
              (stepsFrom s.engine scenario.applyActions scenario.state 0 ts) }) :=
    value_replayFrom s.engine scenario.applyActions scenario.state 0 ts
  have hreplayed : replayed = _ := hreplay scenario.triggers
  have hsteps : steps =
      stepsFrom s.engine scenario.applyActions scenario.state 0 scenario.triggers :=
    congrArg Prod.fst hreplayed
  refine ⟨?_, ?_, fun i h => ?_, ?_⟩
  · rw [hsteps, map_index_stepsFrom, List.range_eq_range']
  · rw [hsteps, map_trigger_stepsFrom]
  · have hrecords : steps[i].Records s.engine { graph := graphBefore i } := by
      simp only [graphBefore, hsteps]
      apply records_stepsFrom
    refine ⟨?_, hrecords, fun herror => ?_⟩
    · rw [hreplay, stepsFrom_take, ← hsteps]
    · rw [← Step.next_of_failed s.engine scenario.applyActions (graphBefore i) hrecords herror]
      exact graphAfter_take_succ scenario.applyActions scenario.state steps i h
  · rw [hreplayed, hsteps]

/-- The first step registers a sink, the second one finds it registered, and for the third
    one there is no policy. -/
theorem replay_eq_fold_of_repeated_arrival :
    let store : Store :=
      .loaded
        { sinks := [{ name := "Speaker", domain := "Amp", registration := .controller }]
          policies := [{ name := "arrival", triggers := [.systemRegisterDomain] }]
          options := { strictLookup := true } } rfl
    let scenario : Scenario :=
      { state := { domains := [{ name := "Amp" }] }
        triggers := [.systemRegisterDomain "Amp", .systemRegisterDomain "Amp",
          .userSetVolume "Speaker" 5 false]
        applyActions := true }
    let s := (Session.fresh store scenario.state).after [.start]
    let steps := (scenario.replay s.engine s.router).value.1
    let graphBefore (i : Nat) := graphAfter scenario.applyActions scenario.state (steps.take i)
    steps.map (fun step => (step.actions.length, step.error.isNone)) =
        [(1, true), (0, true), (0, false)] ∧
      ∃ (hsecond : 1 < steps.length) (hthird : 2 < steps.length),
        steps[1].Records s.engine { graph := graphBefore 1 } ∧
          steps[2].error ≠ none ∧ graphBefore 3 = graphBefore 2 := by
  intro store scenario s steps graphBefore
  have hsteps : steps.map (fun step => (step.actions.length, step.error.isNone)) =
      [(1, true), (0, true), (0, false)] := by
    decide +kernel
  have hlength : steps.length = 3 := by
    rw [← List.length_map fun step : Step => (step.actions.length, step.error.isNone), hsteps]
    rfl
  have hsecond : 1 < steps.length := by omega
  have hthird : 2 < steps.length := by omega
  have herror : steps[2].error ≠ none := by
    have hlast : (steps.map fun step => (step.actions.length, step.error.isNone))[2]? =
        some (0, false) := by
      simp [hsteps]
    intro hnone
    simp [hnone, hthird] at hlast
  have hfold := (replay_eq_fold store scenario).2.2.1
  exact ⟨hsteps, hsecond, hthird, (hfold 1 hsecond).2.1, herror, (hfold 2 hthird).2.2 herror⟩

end AudioPolicy.Scenario

-- SUMMARY: What every request of a session comes to, as a matter of its history alone.
import AudioPolicy.Proofs.Candidates
import AudioPolicy.Session

/-! # Lifecycle

A trigger is rejected for one of four reasons: the engine is not started, there is no
configuration, a strict lookup finds no policy, or the router refuses the delivery. The
first one that applies is the error. Which of them apply can be read off the requests
before it, and nothing that happens inside a rule is among them. A rejected request
leaves the session as it was. -/

namespace AudioPolicy

/-! ## Answers -/

namespace Engine

/-- Filling in the class of an availability trigger keeps its kind. -/
theorem kind_scopeOf (store : Store) (graph : Graph) (t : Trigger) :
    (scopeOf store graph t).trigger.kind = t.kind := by
  rw [scopeOf]
  split
  · rfl
  · split
    · cases t <;> rfl
    · rfl

@[simp] theorem store_scopeOf (store : Store) (graph : Graph) (t : Trigger) :
    (scopeOf store graph t).store = store := by
  rw [scopeOf]
  split
  · rfl
  · split <;> rfl

theorem value_ruleActions (scope : Scope) :
    (ruleActions scope).value =
      (candidates scope.store scope.trigger.kind).map fun ps => (matchAll scope ps).value := by
  rw [ruleActions]
  cases candidates scope.store scope.trigger.kind <;> rfl

/-- Why the lookup of the policies for a trigger fails, if it does. -/
def lookupError? (store : Store) (t : Trigger) : Option Error :=
  match store.reason? with
  | some reason => some (.noConfiguration t.kind reason)
  | none => if LookupRejected store t then some (.noPolicy t.kind) else none

theorem candidates_error_iff {store : Store} {t : Trigger} {e : Error} :
    candidates store t.kind = .error e ↔ lookupError? store t = some e := by
  rw [lookupError?]
  cases hreason : store.reason? with
  | none =>
    rw [candidates_loaded hreason]
    split <;> simp
  | some reason =>
    cases store with
    | loaded c distinct => cases hreason
    | unavailable reason' =>
      cases hreason
      simp [candidates, Store.candidates]

/-- An answer fails only if the lookup fails. The lookups for restored requests and the
    evaluation of the rules do not count. -/
theorem answer_error_iff {store : Store} {graph : Graph} {t : Trigger} {e : Error} :
    (answer store graph t).value = .error e ↔ lookupError? store t = some e := by
  rw [← candidates_error_iff, answer, Logged.value_bind, value_ruleActions, kind_scopeOf,
    store_scopeOf]
  cases candidates store t.kind with
  | error e' => simp [Except.map]
  | ok ps => simp [Except.map]

/-- Processing a trigger delivers the answer, unless there is none or the router refuses. -/
theorem value_process (e : Engine) (router : Router) (t : Trigger) :
    (e.process router t).value =
      match (e.evaluate router.graph t).value with
      | .error error => (.error error, router)
      | .ok actions =>
        if router.refusing then (.error .deliveryRejected, router)
        else (.ok (), { router with
          delivered := router.delivered ++ [{ origin := t.origin, actions }] }) := by
  rw [process, Logged.value_bind, Logged.value_bind]
  cases (e.evaluate router.graph t).value with
  | error error => rfl
  | ok actions =>
    rw [Logged.value_bind, Router.deliver]
    cases router.refusing <;> rfl

end Engine

/-! ## Histories -/

/-- The graph that a request puts in place. -/
def Request.graph? : Request → Option Graph
  | .change graph => some graph
  | _ => none

namespace Exchange

/-- Whether the engine is started after a lifecycle request that succeeded. -/
def starts? (e : Exchange) : Option Bool :=
  match e.request, e.result with
  | .start, .ok () => some true
  | .stop, .ok () => some false
  | _, _ => none

/-- Whether the router refuses deliveries after a switch. -/
def refuses? (e : Exchange) : Option Bool :=
  match e.request with
  | .refuse refusing => some refusing
  | _ => none

end Exchange

/-- The last lifecycle request that succeeded is a start. -/
def Started (history : List Exchange) : Prop :=
  (history.filterMap Exchange.starts?).getLast? = some true

/-- The last switch makes deliveries fail. -/
def Refusing (history : List Exchange) : Prop :=
  (history.filterMap Exchange.refuses?).getLast? = some true

instance (history : List Exchange) : Decidable (Started history) :=
  inferInstanceAs (Decidable (_ = _))

instance (history : List Exchange) : Decidable (Refusing history) :=
  inferInstanceAs (Decidable (_ = _))

namespace Session

/-- If every exchange sets some part of the session or keeps it, then the part is what
    the last one that sets it says. -/
theorem read_after {γ : Type} (read : Session → γ) (sets? : Exchange → Option γ)
    (hserve : ∀ (s : Session) (request : Request),
      read (s.serve request).value.2 =
        (sets? { request, before := s, result := (s.serve request).value.1 }).getD (read s))
    (s : Session) (requests : List Request) :
    read (s.after requests) =
      ((s.exchanges requests).filterMap sets?).getLast?.getD (read s) := by
  induction requests generalizing s with
  | nil => rfl
  | cons request requests ih =>
    rw [after_cons, ih, hserve, exchanges_cons, List.filterMap_cons]
    cases sets? { request, before := s, result := (s.serve request).value.1 } with
    | none => rfl
    | some a => rw [List.getLast?_cons]; rfl

/-- Serving a trigger touches only the router, and of the router only the deliveries. -/
theorem serve_process (s : Session) (t : Trigger) :
    (s.serve (.process t)).value =
      ((s.engine.process s.router t).value.1,
        { s with router := (s.engine.process s.router t).value.2 }) := rfl

theorem router_process (e : Engine) (router : Router) (t : Trigger) :
    ∃ delivered, (e.process router t).value.2 = { router with delivered } := by
  rw [Engine.value_process]
  split
  · exact ⟨router.delivered, rfl⟩
  · split
    · exact ⟨router.delivered, rfl⟩
    · exact ⟨_, rfl⟩

/-- One request replaces at most whether the engine is started, whether the router refuses,
    the graph and the deliveries. -/
theorem session_serve (s : Session) (request : Request) :
    let e : Exchange := { request, before := s, result := (s.serve request).value.1 }
    ∃ delivered, (s.serve request).value.2 =
      { engine := { s.engine with started := e.starts?.getD s.engine.started }
        router :=
          { graph := request.graph?.getD s.router.graph
            refusing := e.refuses?.getD s.router.refusing
            delivered } } := by
  intro e
  cases request with
  | start =>
    obtain ⟨⟨store, started⟩, router⟩ := s
    refine ⟨router.delivered, ?_⟩
    cases started <;> rfl
  | stop => exact ⟨s.router.delivered, rfl⟩
  | refuse refusing => exact ⟨s.router.delivered, rfl⟩
  | change graph => exact ⟨s.router.delivered, rfl⟩
  | process t =>
    obtain ⟨delivered, hrouter⟩ := router_process s.engine s.router t
    exact ⟨delivered, congrArg (fun router => { s with router }) hrouter⟩

theorem started_serve (s : Session) (request : Request) :
    (s.serve request).value.2.engine.started =
      (Exchange.starts? { request, before := s, result := (s.serve request).value.1 }).getD
        s.engine.started := by
  obtain ⟨delivered, h⟩ := session_serve s request
  exact congrArg (fun s => s.engine.started) h

theorem refusing_serve (s : Session) (request : Request) :
    (s.serve request).value.2.router.refusing =
      (Exchange.refuses? { request, before := s, result := (s.serve request).value.1 }).getD
        s.router.refusing := by
  obtain ⟨delivered, h⟩ := session_serve s request
  exact congrArg (fun s => s.router.refusing) h

theorem graph_serve (s : Session) (request : Request) :
    (s.serve request).value.2.router.graph = request.graph?.getD s.router.graph := by
  obtain ⟨delivered, h⟩ := session_serve s request
  exact congrArg (fun s => s.router.graph) h

theorem store_serve (s : Session) (request : Request) :
    (s.serve request).value.2.engine.store = s.engine.store := by
  obtain ⟨delivered, h⟩ := session_serve s request
  exact congrArg (fun s => s.engine.store) h

/-- No request replaces the store. -/
theorem store_after (s : Session) (requests : List Request) :
    (s.after requests).engine.store = s.engine.store := by
  induction requests generalizing s with
  | nil => rfl
  | cons request requests ih => rw [after_cons, ih, store_serve]

/-- A flag that is off at first is on if the last exchange that sets it switches it on. -/
theorem flag_after (flag : Session → Bool) (sets? : Exchange → Option Bool)
    (hserve : ∀ (s : Session) (request : Request),
      flag (s.serve request).value.2 =
        (sets? { request, before := s, result := (s.serve request).value.1 }).getD (flag s))
    {s : Session} (hoff : flag s = false) (requests : List Request) :
    flag (s.after requests) = true ↔
      ((s.exchanges requests).filterMap sets?).getLast? = some true := by
  rw [read_after flag sets? hserve, hoff]
  cases ((s.exchanges requests).filterMap sets?).getLast? <;> simp

theorem started_after_fresh (store : Store) (graph : Graph) (requests : List Request) :
    ((fresh store graph).after requests).engine.started = true ↔
      Started ((fresh store graph).exchanges requests) :=
  flag_after (fun s => s.engine.started) Exchange.starts? started_serve rfl requests

theorem refusing_after_fresh (store : Store) (graph : Graph) (requests : List Request) :
    ((fresh store graph).after requests).router.refusing = true ↔
      Refusing ((fresh store graph).exchanges requests) :=
  flag_after (fun s => s.router.refusing) Exchange.refuses? refusing_serve rfl requests

/-! ## Verdicts -/

/-- What processing a trigger comes to after a history: the first of four errors that
    applies, or success. -/
def verdict (store : Store) (history : List Exchange) (t : Trigger) : Except Error Unit :=
  if ¬ Started history then .error .notStarted
  else
    match store.reason? with
    | some reason => .error (.noConfiguration t.kind reason)
    | none =>
      if LookupRejected store t then .error (.noPolicy t.kind)
      else if Refusing history then .error .deliveryRejected
      else .ok ()

/-- The result of processing a trigger, in terms of the state of the session. -/
theorem result_process (s : Session) (t : Trigger) :
    (s.serve (.process t)).value.1 =
      if ¬ s.engine.started then .error .notStarted
      else
        match Engine.lookupError? s.engine.store t with
        | some e => .error e
        | none => if s.router.refusing then .error .deliveryRejected else .ok () := by
  rw [serve_process, Engine.value_process, Engine.evaluate]
  cases s.engine.started with
  | false => rfl
  | true =>
    simp only [not_true_eq_false, if_true, if_false]
    cases hanswer : (Engine.answer s.engine.store s.router.graph t).value with
    | error e => rw [Engine.answer_error_iff.1 hanswer]
    | ok actions =>
      have hlookup : Engine.lookupError? s.engine.store t = none := by
        refine Option.eq_none_iff_forall_ne_some.2 fun e he => ?_
        rw [Engine.answer_error_iff.2 he] at hanswer
        cases hanswer
      rw [hlookup]
      cases s.router.refusing <;> rfl

/-- Processing a trigger fails and leaves the session as it was, or it delivers the evaluation
    of the trigger and changes nothing else. -/
theorem process_cases (s : Session) (t : Trigger) :
    (∃ e, (s.serve (.process t)).value = (.error e, s)) ∨
      ∃ actions, (s.engine.evaluate s.router.graph t).value = .ok actions ∧
        (s.serve (.process t)).value = (.ok (),
          { s with router := { s.router with
              delivered := s.router.delivered ++ [{ origin := t.origin, actions }] } }) := by
  rw [serve_process, Engine.value_process]
  cases (s.engine.evaluate s.router.graph t).value with
  | error e => exact .inl ⟨e, rfl⟩
  | ok actions =>
    cases hrefusing : s.router.refusing with
    | true => exact .inl ⟨.deliveryRejected, rfl⟩
    | false => exact .inr ⟨actions, rfl, by simp [hrefusing]⟩

theorem result_process_eq_verdict (store : Store) (graph : Graph) (requests : List Request)
    (t : Trigger) :
    (((fresh store graph).after requests).serve (.process t)).value.1 =
      verdict store ((fresh store graph).exchanges requests) t := by
  have hstarted := started_after_fresh store graph requests
  have hrefusing := refusing_after_fresh store graph requests
  have hstore : ((fresh store graph).after requests).engine.store = store :=
    store_after (fresh store graph) requests
  rw [result_process, verdict, hstore, Engine.lookupError?]
  simp only [hstarted, hrefusing]
  cases store.reason? with
  | some reason => rfl
  | none =>
    by_cases hrejected : LookupRejected store t
    · simp only [if_pos hrejected]
    · simp only [if_neg hrejected]

/-- After any requests to a new session, a trigger comes to what the verdict says. An error
    leaves the session as it was. A success delivers one list, the evaluation of the
    trigger, and changes nothing else. A second start is rejected without effect. -/
theorem process_after_requests (store : Store) (graph : Graph) (requests : List Request)
    (t : Trigger) :
    let history := (fresh store graph).exchanges requests
    let s := (fresh store graph).after requests
    let outcome := (s.serve (.process t)).value
    outcome.1 = verdict store history t ∧
      (∀ e, outcome.1 = .error e → outcome.2 = s) ∧
      (outcome.1 = .ok () →
        ∃ origin actions, t.kind.origin? = some origin ∧
          (s.engine.evaluate s.router.graph t).value = .ok actions ∧
          outcome.2 = { s with router := { s.router with
            delivered := s.router.delivered ++ [{ origin, actions }] } }) ∧
      (Started history → (s.serve .start).value = (.error .alreadyStarted, s)) := by
  intro history s outcome
  have hcases := process_cases s t
  refine ⟨result_process_eq_verdict store graph requests t, fun e herror => ?_, fun hok => ?_,
    fun hstarted => ?_⟩
  · rcases hcases with ⟨_, hserve⟩ | ⟨_, _, hserve⟩
    · exact congrArg Prod.snd hserve
    · cases herror.symm.trans (congrArg Prod.fst hserve)
  · rcases hcases with ⟨_, hserve⟩ | ⟨actions, hevaluate, hserve⟩
    · cases hok.symm.trans (congrArg Prod.fst hserve)
    · exact ⟨t.origin, actions, t.origin?_kind, hevaluate, congrArg Prod.snd hserve⟩
  · rw [serve, Engine.start, if_pos ((started_after_fresh store graph requests).2 hstarted)]
    rfl

end Session
end AudioPolicy

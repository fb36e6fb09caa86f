-- SUMMARY: The counter of actions counts what was delivered and also what was refused.
import AudioPolicy.Proofs.Lifecycle
import AudioPolicy.Proofs.Reports

/-! # Counting actions

The counter of the actions of an origin grows when an answer is ready for delivery, and
nothing else that an engine does adds to it. So over any run it is the number of actions
that the router accepted from this origin, and of those that it refused. -/

namespace AudioPolicy

/-! ## Totals -/

namespace Event

@[simp] theorem total_append (c : Counter) (first second : List Event) :
    total c (first ++ second) = total c first + total c second := by
  induction first with
  | nil => simp [total]
  | cons e first ih =>
    cases e with
    | warning w => simpa [total] using ih
    | count c' amount => simp [total, ih, Nat.add_assoc]

theorem total_actions_eq_zero {events : List Event} (h : ∀ e ∈ events, e.OfRules)
    (o : Origin) : total (.actions o) events = 0 := by
  induction events with
  | nil => rfl
  | cons e events ih =>
    rw [List.forall_mem_cons] at h
    have hothers := ih h.2
    cases h.1 <;> simpa [total] using hothers

end Event

/-- How many actions some deliveries of an origin have together. -/
def Delivery.actionsFrom (o : Origin) : List Delivery → Nat
  | [] => 0
  | d :: ds => (if d.origin = o then d.actions.length else 0) + actionsFrom o ds

@[simp] theorem Delivery.actionsFrom_append (o : Origin) (first second : List Delivery) :
    actionsFrom o (first ++ second) = actionsFrom o first + actionsFrom o second := by
  induction first with
  | nil => simp [actionsFrom]
  | cons d first ih => simp [actionsFrom, ih, Nat.add_assoc]

theorem Delivery.actionsFrom_eq_zero_iff (o : Origin) (ds : List Delivery) :
    actionsFrom o ds = 0 ↔ ∀ d ∈ ds, d.origin = o → d.actions = [] := by
  induction ds with
  | nil => simp [actionsFrom]
  | cons d ds ih => simp [actionsFrom, ih]

/-! ## Exchanges -/

namespace Exchange

/-- The answer that was ready for delivery. -/
def prepared? (e : Exchange) : Option Delivery :=
  match e.request with
  | .process t =>
    match (e.before.engine.evaluate e.before.router.graph t).value with
    | .ok actions => some { origin := t.origin, actions }
    | .error _ => none
  | _ => none

/-- The list that the router accepted. -/
def accepted? (e : Exchange) : Option Delivery :=
  match e.result with
  | .ok () => e.prepared?
  | .error _ => none

/-- The list that the router refused. -/
def refused? (e : Exchange) : Option Delivery :=
  match e.result with
  | .ok () => none
  | .error _ => e.prepared?

theorem actionsFrom_prepared (o : Origin) (history : List Exchange) :
    Delivery.actionsFrom o (history.filterMap prepared?) =
      Delivery.actionsFrom o (history.filterMap accepted?) +
        Delivery.actionsFrom o (history.filterMap refused?) := by
  induction history with
  | nil => rfl
  | cons e history ih =>
    cases hresult : e.result <;> cases hprepared : e.prepared? <;>
      simp [accepted?, refused?, hresult, hprepared, Delivery.actionsFrom, ih] <;> omega

end Exchange

/-! ## Requests -/

/-- Processing counts the answer before it is known whether the router accepts it. -/
theorem Engine.total_actions_process (e : Engine) (router : Router) (t : Trigger) (o : Origin) :
    Event.total (.actions o) (e.process router t).events =
      match (e.evaluate router.graph t).value with
      | .ok actions => if t.origin = o then actions.length else 0
      | .error _ => 0 := by
  have hevaluate : Event.total (.actions o) (e.evaluate router.graph t).events = 0 :=
    Event.total_actions_eq_zero (reports_evaluate e router.graph t) o
  simp only [process, Logged.events_bind, Event.total_append, hevaluate]
  cases (e.evaluate router.graph t).value with
  | error error => rfl
  | ok actions =>
    have hcount :
        Event.total (.actions o) (Logged.count (.actions t.origin) actions.length).events =
          if t.origin = o then actions.length else 0 := by
      simp [Logged.count, Event.total]
    simp only [Logged.events_bind, Event.total_append, hcount, Router.deliver]
    cases router.refusing with
    | false => simp [Logged.count, Event.total]
    | true => simp [Logged.count, Logged.warn, Event.total]

namespace Session

theorem total_actions_serve (s : Session) (request : Request) (o : Origin) :
    let e : Exchange := { request, before := s, result := (s.serve request).value.1 }
    Event.total (.actions o) (s.serve request).events =
      Delivery.actionsFrom o e.prepared?.toList := by
  cases request with
  | start =>
    rw [serve]
    cases s.engine.start <;> rfl
  | stop | refuse | change => rfl
  | process t =>
    have hprocess : (s.serve (.process t)).events = (s.engine.process s.router t).events :=
      List.append_nil _
    rw [hprocess, Engine.total_actions_process]
    simp only [Exchange.prepared?]
    cases (s.engine.evaluate s.router.graph t).value with
    | ok actions => simp [Delivery.actionsFrom]
    | error e => rfl

theorem delivered_serve (s : Session) (request : Request) :
    let e : Exchange := { request, before := s, result := (s.serve request).value.1 }
    (s.serve request).value.2.router.delivered =
      s.router.delivered ++ e.accepted?.toList := by
  cases request with
  | start =>
    rw [serve]
    cases s.engine.start <;> exact (List.append_nil _).symm
  | stop | refuse | change => exact (List.append_nil _).symm
  | process t =>
    rw [serve_process, Engine.value_process]
    simp only [Exchange.accepted?, Exchange.prepared?]
    cases (s.engine.evaluate s.router.graph t).value with
    | error e => exact (List.append_nil _).symm
    | ok actions =>
      cases s.router.refusing with
      | true => exact (List.append_nil _).symm
      | false => rfl

/-! ## Runs -/

theorem total_actions_serveAll (s : Session) (requests : List Request) (o : Origin) :
    Event.total (.actions o) (s.serveAll requests).events =
      Delivery.actionsFrom o ((s.exchanges requests).filterMap Exchange.prepared?) := by
  induction requests generalizing s with
  | nil => rfl
  | cons request requests ih =>
    have hevents : (s.serveAll (request :: requests)).events =
        (s.serve request).events ++ ((s.serve request).value.2.serveAll requests).events := by
      simp [serveAll]
    rw [hevents, Event.total_append, total_actions_serve, ih, exchanges_cons, List.filterMap_cons]
    cases Exchange.prepared? { request, before := s, result := (s.serve request).value.1 } with
    | none => exact Nat.zero_add _
    | some d => simp [Delivery.actionsFrom]

theorem delivered_after (s : Session) (requests : List Request) :
    (s.after requests).router.delivered =
      s.router.delivered ++ (s.exchanges requests).filterMap Exchange.accepted? := by
  induction requests generalizing s with
  | nil => simp
  | cons request requests ih =>
    rw [after_cons, ih, delivered_serve, exchanges_cons, List.append_assoc, List.filterMap_cons]
    cases Exchange.accepted? { request, before := s, result := (s.serve request).value.1 } <;> rfl

/-- After any requests to a new session, the counter of the actions of an origin is the
    number of delivered actions and of refused ones. So it is the number of delivered
    actions if and only if no list with actions from there was refused. -/
theorem counted_actions_eq_delivered_iff (store : Store) (graph : Graph)
    (requests : List Request) (o : Origin) :
    let s := fresh store graph
    let counted := Event.total (.actions o) (s.serveAll requests).events
    let delivered := Delivery.actionsFrom o (s.after requests).router.delivered
    let refused := (s.exchanges requests).filterMap Exchange.refused?
    counted = delivered + Delivery.actionsFrom o refused ∧
      (counted = delivered ↔ ∀ d ∈ refused, d.origin = o → d.actions = []) := by
  intro s counted delivered refused
  have hdelivered : delivered =
      Delivery.actionsFrom o ((s.exchanges requests).filterMap Exchange.accepted?) := by
    simp only [delivered, delivered_after]
    rfl
  have hcounted : counted = delivered + Delivery.actionsFrom o refused := by
    rw [hdelivered, ← Exchange.actionsFrom_prepared]
    exact total_actions_serveAll s requests o
  refine ⟨hcounted, ?_⟩
  rw [hcounted, ← Delivery.actionsFrom_eq_zero_iff]
  exact Nat.add_eq_left

/-- The router refuses a list with one action, and the action counts as delivered. -/
theorem refused_action_counted :
    ¬ ∀ (store : Store) (graph : Graph) (requests : List Request) (o : Origin),
      Event.total (.actions o) ((fresh store graph).serveAll requests).events =
        Delivery.actionsFrom o ((fresh store graph).after requests).router.delivered := by
  intro h
  let policy : Policy :=
    { name := "report", triggers := [.userSetVolume], actions := [{ kind := .debug }] }
  let store : Store := .loaded { policies := [policy] } rfl
  let requests : List Request := [.start, .refuse true, .process (.userSetVolume "Speaker" 5 false)]
  have hcounted :
      Event.total (.actions .user) ((fresh store {}).serveAll requests).events = 1 := by
    decide +kernel
  have hdelivered :
      Delivery.actionsFrom .user ((fresh store {}).after requests).router.delivered = 0 := by
    decide +kernel
  have hsame := h store {} requests .user
  rw [hcounted, hdelivered] at hsame
  exact absurd hsame (by decide)

end Session
end AudioPolicy

-- SUMMARY: Sessions: requests to one engine and one router, in any order.
import AudioPolicy.Engine

/-! # Sessions

A session is an engine together with the router that it reads and delivers to. A request
starts or stops the engine, makes the router refuse deliveries, changes the graph or
processes a trigger. Serving a list of requests records each one together with the
session that it met and the result that it had. -/

namespace AudioPolicy

/-- Something that is asked of an engine or a router. -/
inductive Request
  | start
  | stop
  /-- Refuse deliveries from now on, or accept them again. -/
  | refuse (refusing : Bool)
  /-- Let the graph be another one. -/
  | change (graph : Graph)
  | process (trigger : Trigger)
  deriving DecidableEq, Repr

/-- An engine and the router that it works with. -/
structure Session where
  engine : Engine
  router : Router := {}

/-- A request that was served. -/
structure Exchange where
  request : Request
  /-- The session that the request met. -/
  before : Session
  result : Except Error Unit

namespace Session

/-- A session whose engine was never started. -/
def fresh (store : Store) (graph : Graph) : Session :=
  { engine := { store }, router := { graph } }

/-- Serves one request. -/
def serve (s : Session) : Request → Logged (Except Error Unit × Session)
  | .start =>
    match s.engine.start with
    | .ok engine => return (.ok (), { s with engine })
    | .error e => return (.error e, s)
  | .stop => return (.ok (), { s with engine := s.engine.stop })
  | .refuse refusing => return (.ok (), { s with router := { s.router with refusing } })
  | .change graph => return (.ok (), { s with router := { s.router with graph } })
  | .process trigger => do
    let (result, router) ← s.engine.process s.router trigger
    return (result, { s with router })

/-- Serves requests one after the other. -/
def serveAll (s : Session) : List Request → Logged (List Exchange × Session)
  | [] => return ([], s)
  | request :: requests => do
    let (result, next) ← s.serve request
    let (exchanges, last) ← next.serveAll requests
    return ({ request, before := s, result } :: exchanges, last)

/-- The session after some requests. -/
def after (s : Session) (requests : List Request) : Session := (s.serveAll requests).value.2

/-- What was served and how. -/
def exchanges (s : Session) (requests : List Request) : List Exchange :=
  (s.serveAll requests).value.1

@[simp] theorem after_nil (s : Session) : s.after [] = s := rfl

@[simp] theorem exchanges_nil (s : Session) : s.exchanges [] = [] := rfl

@[simp] theorem after_cons (s : Session) (request : Request) (requests : List Request) :
    s.after (request :: requests) = (s.serve request).value.2.after requests := rfl

@[simp] theorem exchanges_cons (s : Session) (request : Request) (requests : List Request) :
    s.exchanges (request :: requests) =
      { request, before := s, result := (s.serve request).value.1 } ::
        (s.serve request).value.2.exchanges requests := rfl

theorem exchanges_append (s : Session) (first second : List Request) :
    s.exchanges (first ++ second) = s.exchanges first ++ (s.after first).exchanges second := by
  induction first generalizing s with
  | nil => rfl
  | cons request first ih =>
    rw [List.cons_append, exchanges_cons, exchanges_cons, after_cons, ih, List.cons_append]

end Session
end AudioPolicy

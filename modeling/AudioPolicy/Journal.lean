-- SUMMARY: What an evaluation reports besides its result: warnings and counts.
import AudioPolicy.Configuration
import AudioPolicy.Error
import AudioPolicy.Failure
import AudioPolicy.Placeholder

/-! # Journal

Evaluation never stops at a problem in a rule. It reports the problem and goes on.
A report is a list of events in the order in which they happened: a warning for
people, or an amount added to a counter. `Logged` pairs a result with such a list. -/

namespace AudioPolicy

/-! ## Warnings -/

/-- A problem that people should hear about. -/
inductive Warning
  | connectWithoutEnds (action : Action)
  | unavailablePlaceholder (placeholder : Placeholder) (trigger : Trigger.Kind)
  | unknownPlaceholder (word : String)
  | conditionFailed (condition : Condition) (failure : Failure)
  | expressionFailed (expression : String) (failure : Failure)
  | nothingRequested (action : Action.Kind) (key : String) (trigger : Trigger.Kind)
  | doubt (doubt : Configuration.Doubt)
  | noConfiguration (reason : String)
  | deliveryFailed (trigger : Trigger.Kind) (error : Error)
  | triggerFailed (index : Nat) (trigger : Trigger.Kind) (error : Error)
  deriving DecidableEq, Repr

namespace Warning

/-- The message of a warning. -/
def message : Warning → String
  | .connectWithoutEnds .. => "connect without source and sink"
  | .unavailablePlaceholder .. => "macro not available for trigger"
  | .unknownPlaceholder .. => "unknown macro left unresolved"
  | .conditionFailed .. => "condition could not be evaluated"
  | .expressionFailed .. => "parameter expression left unresolved"
  | .nothingRequested .. => "trigger carries no value for REQUESTING"
  | .doubt (.undeclaredSink ..) => "gateway references undeclared sink"
  | .doubt (.undeclaredSource ..) => "gateway references undeclared source"
  | .doubt (.withoutTriggers ..) => "policy has no triggers and will never run"
  | .doubt (.unknownFunction ..) => "condition uses an unknown function"
  | .doubt (.unknownCategory ..) => "condition uses an unknown category"
  | .noConfiguration .. => "configuration unavailable, starting with an empty rule set"
  | .deliveryFailed .. => "action list delivery failed"
  | .triggerFailed .. => "trigger failed"

/-- The named values that belong to a warning. -/
def fields : Warning → List (String × String)
  | .connectWithoutEnds action => [("action", action.text)]
  | .unavailablePlaceholder placeholder trigger =>
    [("token", Spelled.word placeholder), ("trigger", trigger.text)]
  | .unknownPlaceholder word => [("token", word)]
  | .conditionFailed condition failure =>
    [("condition", condition.written), ("error", failure.message)]
  | .expressionFailed expression failure =>
    [("expression", expression), ("error", failure.message)]
  | .nothingRequested action key trigger =>
    [("action", Spelled.word action), ("param", key), ("trigger", trigger.text)]
  | .doubt (.undeclaredSink gateway sink) => [("gateway", gateway), ("sink", sink)]
  | .doubt (.undeclaredSource gateway source) => [("gateway", gateway), ("source", source)]
  | .doubt (.withoutTriggers policy) => [("policy", policy)]
  | .doubt (.unknownFunction policy function) => [("policy", policy), ("function", function)]
  | .doubt (.unknownCategory policy category) => [("policy", policy), ("category", category)]
  | .noConfiguration reason => [("reason", reason)]
  | .deliveryFailed trigger error => [("trigger", trigger.text), ("error", error.message)]
  | .triggerFailed index trigger error =>
    [("index", toString index), ("trigger", trigger.text), ("error", error.message)]

end Warning

/-! ## Counters -/

/-- How the replay of one trigger ended. -/
inductive Outcome
  | delivered | failed
  deriving DecidableEq, Repr

instance : Spelled Outcome where
  all := [.delivered, .failed]
  word
    | .delivered => "delivered"
    | .failed => "failed"

/-- A number that only grows. -/
inductive Counter
  /-- Triggers that the engine was asked to process. -/
  | triggers (kind : Trigger.Kind)
  /-- Policies whose conditions held. -/
  | matched
  /-- Actions put together for delivery. -/
  | actions (origin : Origin)
  /-- Conditions and expressions that could not be evaluated. -/
  | failures (reason : Failure.Reason)
  /-- Steps of a replay. -/
  | steps (outcome : Outcome)
  deriving DecidableEq, Repr

/-! ## Events -/

/-- One thing that is reported. -/
inductive Event
  | warning (warning : Warning)
  | count (counter : Counter) (amount : Nat)
  deriving DecidableEq, Repr

/-- A result with the events on the way to it. -/
structure Logged (α : Type) where
  value : α
  events : List Event := []
  deriving DecidableEq, Repr

namespace Logged

instance : Monad Logged where
  pure a := { value := a }
  bind x f := { value := (f x.value).value, events := x.events ++ (f x.value).events }

@[simp] theorem value_pure {α : Type} (a : α) : (pure a : Logged α).value = a := rfl

@[simp] theorem events_pure {α : Type} (a : α) : (pure a : Logged α).events = [] := rfl

@[simp] theorem value_bind {α β : Type} (x : Logged α) (f : α → Logged β) :
    (x >>= f).value = (f x.value).value := rfl

@[simp] theorem events_bind {α β : Type} (x : Logged α) (f : α → Logged β) :
    (x >>= f).events = x.events ++ (f x.value).events := rfl

@[simp] theorem value_map {α β : Type} (f : α → β) (x : Logged α) :
    (f <$> x).value = f x.value := rfl

@[simp] theorem events_map {α β : Type} (f : α → β) (x : Logged α) :
    (f <$> x).events = x.events := List.append_nil _

instance : LawfulMonad Logged :=
  .mk' Logged (fun x => by cases x; simp [Functor.map]) (fun _ _ => by simp [pure, bind])
    (fun _ _ _ => by simp [bind, List.append_assoc])

/-- Reports a warning. -/
def warn (warning : Warning) : Logged Unit := { value := (), events := [.warning warning] }

/-- Reports several warnings. -/
def warnAll (warnings : List Warning) : Logged Unit :=
  { value := (), events := warnings.map .warning }

/-- Adds an amount to a counter. -/
def count (counter : Counter) (amount : Nat) : Logged Unit :=
  { value := (), events := [.count counter amount] }

end Logged

/-- The warnings among the events. -/
def Event.warnings (events : List Event) : List Warning :=
  events.filterMap fun
    | .warning w => some w
    | .count .. => none

/-- What the events add to a counter in total. -/
def Event.total (counter : Counter) : List Event → Nat
  | [] => 0
  | .count c n :: events => (if c = counter then n else 0) + total counter events
  | .warning _ :: events => total counter events

end AudioPolicy

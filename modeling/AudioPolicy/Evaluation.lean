-- SUMMARY: Evaluating calls, conditions and parameter expressions.
import AudioPolicy.Comparison
import AudioPolicy.Query.Answer

/-! # Evaluation

Evaluation resolves the arguments of a call and asks the resulting query. An argument
that is written as a call is evaluated first, and its values with spaces between them
take its place. This is decided from the written argument alone. What a placeholder
stands for is never read again.

A failure goes no further than a condition or a parameter. A condition that fails is
false, and a parameter that fails stays as it is written. Both report the failure. -/

namespace AudioPolicy

/-- An evaluation that may fail. What it reported before a failure stays reported. -/
abbrev Evaluation (α : Type) := ExceptT Failure Logged α

namespace Evaluation

/-! ## Arguments -/

/-- The text with its placeholders replaced by values of the trigger. -/
def expand (t : Trigger) (text : String) : Logged String := do
  let result := Placeholder.substitute t text
  Logged.warnAll ((Placeholder.unavailable t text).map (.unavailablePlaceholder · t.kind))
  Logged.warnAll ((Placeholder.unknownWords result).map .unknownPlaceholder)
  return result

/-- The text that an argument stands for. Inner calls get their values from `inner`. -/
def resolve (inner : Call → Evaluation (List String)) (t : Trigger) (a : Argument) :
    Evaluation String :=
  if a.quoted then return a.text
  else if Call.isWrittenAs a.text then
    match Call.ofText a.text with
    | .ok call => do return Text.unwords (← inner call)
    | .error e => throw (.malformed e)
  else (expand t a.text : Logged String)

/-! ## Calls -/

/-- The function that a call names. -/
def functionOf (call : Call) : Except Failure Function :=
  match Spelled.ofWord? call.function with
  | some function => .ok function
  | none => .error (.unknownFunction call.function)

/-- The category that a call names. -/
def categoryOf (call : Call) : Except Failure Category :=
  match Spelled.ofWord? call.category with
  | some category => .ok category
  | none => .error (.unknownCategory call.category)

/-- The values of a call in which calls may be nested down to `levels` levels, the call
    itself included. -/
def valuesWithin (scope : Scope) : Nat → Call → Evaluation (List String)
  | 0, call => throw (.tooDeep call)
  | levels + 1, call => do
    let function ← functionOf call
    let category ← categoryOf call
    let resolve := resolve (valuesWithin scope levels) scope.trigger
    let mandatory ← resolve call.mandatory
    let optional ← call.optional.mapM resolve
    Query.answer scope
      { function, category, optional,
        selector := Selector.ofText mandatory call.mandatory.quoted }

/-- The values of a call. -/
def values (scope : Scope) (call : Call) : Evaluation (List String) :=
  valuesWithin scope (Failure.maxDepth + 1) call

/-! ## Conditions -/

/-- The right value of a condition. A call has its first value, if it has any. -/
def rightValue (scope : Scope) : Operand → Evaluation (Option String)
  | .literal a => if a.quoted then return some a.text else do
    return some (← (expand scope.trigger a.text : Logged String))
  | .call call => do return (← values scope call).head?

/-- Whether a condition holds, or why that cannot be said. -/
def decide (scope : Scope) (c : Condition) : Evaluation Bool := do
  let left ← values scope c.left
  match ← rightValue scope c.right with
  | none => return false
  | some right =>
    let function ← functionOf c.left
    c.operator.compare function.valueType left right

/-- Reports the failure of a condition. That something is absent is worth no warning. -/
def reportFailure (c : Condition) (f : Failure) : Logged Unit := do
  if f.reason ≠ .notFound then Logged.warn (.conditionFailed c f)
  Logged.count (.failures f.reason) 1

/-- Whether a condition holds. One that fails does not. -/
def holds (scope : Scope) (c : Condition) : Logged Bool := do
  match ← (decide scope c).run with
  | .ok result => return result
  | .error f =>
    reportFailure c f
    return false

/-- Whether all conditions hold. The first one that does not ends the search. -/
def allHold (scope : Scope) : List Condition → Logged Bool
  | [] => return true
  | c :: cs => do if ← holds scope c then allHold scope cs else return false

/-! ## Parameters -/

/-- The values of a text that is written as a call, with spaces between them. -/
def callText (scope : Scope) (text : String) : Evaluation String :=
  match Call.ofText text with
  | .ok call => do return Text.unwords (← values scope call)
  | .error e => throw (.malformed e)

/-- What the expression in a parameter stands for. -/
def parameter (scope : Scope) (text : String) : Logged String :=
  if Call.isWrittenAs text then do
    match ← (callText scope text).run with
    | .ok value => return value
    | .error f =>
      Logged.warn (.expressionFailed text f)
      Logged.count (.failures f.reason) 1
      return text
  else expand scope.trigger text

end Evaluation
end AudioPolicy

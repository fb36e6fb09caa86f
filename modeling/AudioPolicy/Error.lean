-- SUMMARY: Why a configuration, a lookup, a trigger or a delivery is rejected.
import AudioPolicy.ElementKind
import AudioPolicy.Trigger.Kind

/-! # Errors

An error is a cause. Its area says which part of the controller it comes from, and
its message is what a user reads. -/

namespace AudioPolicy

/-- A cause for rejecting a request. -/
inductive Error
  | duplicateName (kind : ElementKind) (name : String)
  | undeclared (kind : ElementKind) (name : String)
  | noConfiguration (trigger : Trigger.Kind) (reason : String)
  | noPolicy (trigger : Trigger.Kind)
  | alreadyStarted
  | notStarted
  | deliveryRejected
  | unreadableFile (reason : String)
  | malformedJson (detail : String)
  | malformedYaml (detail : String)
  deriving DecidableEq, Repr

namespace Error

/-- The part of the controller that an error comes from. -/
inductive Area
  | configuration | policy | delivery | lifecycle | file | json | yaml
  deriving DecidableEq, Repr

/-- The area of an error. -/
def area : Error → Area
  | .duplicateName .. | .undeclared .. | .noConfiguration .. => .configuration
  | .noPolicy .. | .alreadyStarted => .policy
  | .deliveryRejected => .delivery
  | .notStarted => .lifecycle
  | .unreadableFile .. => .file
  | .malformedJson .. => .json
  | .malformedYaml .. => .yaml

/-- What the messages of an area begin with. -/
def Area.label : Area → String
  | .configuration => "configuration error: "
  | .policy => "policy error: "
  | .delivery => "runtime error: "
  | .lifecycle => ""
  | .file => "io error: "
  | .json => "serialization error: "
  | .yaml => "yaml error: "

/-- The part of the message that tells the cause. -/
def detail : Error → String
  | .duplicateName kind name => "duplicate " ++ kind.noun ++ " name '" ++ name ++ "'"
  | .undeclared kind name => kind.noun ++ " '" ++ name ++ "' not found"
  | .noConfiguration trigger reason =>
    "no policies for " ++ trigger.text ++ ": configuration unavailable (" ++ reason ++ ")"
  | .noPolicy trigger => "no policy for trigger " ++ trigger.text
  | .alreadyStarted => "policy engine is already started"
  | .notStarted => "policy engine is not started"
  | .deliveryRejected => "action list rejected"
  | .unreadableFile reason => reason
  | .malformedJson detail => detail
  | .malformedYaml detail => detail

/-- The message for an error. -/
def message (e : Error) : String := e.area.label ++ e.detail

end Error
end AudioPolicy

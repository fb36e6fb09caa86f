-- SUMMARY: Why a call has no values or a comparison no result.
import AudioPolicy.Category
import AudioPolicy.Expression.Reader
import AudioPolicy.Function
import AudioPolicy.Trigger.Kind

/-! # Failures

A call fails for one of four reasons. Something it asks for is absent, the
combination of function and category makes no sense, a value is not a number, or
an argument that is written as a call cannot be read. The reason is the label
under which failures are counted. -/

namespace AudioPolicy

/-- What went wrong in the evaluation of a call or of a comparison. -/
inductive Failure
  /-- The trigger names no element of this kind. -/
  | unnamed (trigger : Trigger.Kind) (kind : ElementKind)
  /-- No subject has a counterpart under the relation of the category. -/
  | unrelated (category : Category) (subjects : List String)
  /-- No target has the value in question. -/
  | unread (what : String) (targets : List String)
  /-- The trigger does not carry the value in question. -/
  | notCarried (what : String)
  /-- Something else is absent. -/
  | absent (what : String)
  | unsupported (function : Function) (category : Category)
  | unknownFunction (name : String)
  | unknownCategory (name : String)
  | tooDeep (call : Call)
  | notNumeric (text : String)
  | negativeIndex (index : Int)
  | scaleInput (text : String)
  | scaleAnchors (text : String)
  | leftNotNumeric (text : String)
  | rightNotNumeric (text : String)
  | malformed (error : SyntaxError)
  deriving DecidableEq, Repr

namespace Failure

/-- The deepest nesting of calls inside arguments that is evaluated. -/
def maxDepth : Nat := 8

/-- The label under which a failure is counted. -/
inductive Reason
  | notFound | notPossible | typeMismatch | syntaxError
  deriving DecidableEq, Repr

instance : Spelled Reason where
  all := [.notFound, .notPossible, .typeMismatch, .syntaxError]
  word
    | .notFound => "not_found"
    | .notPossible => "not_possible"
    | .typeMismatch => "type_mismatch"
    | .syntaxError => "syntax"

/-- The reason of a failure. -/
def reason : Failure → Reason
  | .unnamed .. | .unrelated .. | .unread .. | .notCarried .. | .absent .. => .notFound
  | .unsupported .. | .unknownFunction .. | .unknownCategory .. | .tooDeep .. => .notPossible
  | .notNumeric .. | .negativeIndex .. | .scaleInput .. | .scaleAnchors ..
  | .leftNotNumeric .. | .rightNotNumeric .. => .typeMismatch
  | .malformed .. => .syntaxError

/-- What the message for a reason begins with. -/
def Reason.label : Reason → String
  | .notFound => "not found: "
  | .notPossible => "not possible: "
  | .typeMismatch => "type mismatch: "
  | .syntaxError => "syntax error: "

/-- The part of the message that tells the cause. -/
def detail : Failure → String
  | .unnamed trigger kind => "trigger " ++ trigger.text ++ " carries no " ++ kind.noun ++ " name"
  | .unrelated category subjects => "no " ++ category.title ++ " for " ++ Text.unwords subjects
  | .unread what targets => what ++ " of " ++ Text.unwords targets
  | .notCarried what => "trigger carries no " ++ what
  | .absent what => what
  | .unsupported function category =>
    Spelled.word function ++ " does not support category " ++ category.title
  | .unknownFunction name => "unknown function '" ++ name ++ "'"
  | .unknownCategory name => "unknown category '" ++ name ++ "'"
  | .tooDeep call =>
    "calls nested deeper than " ++ toString maxDepth ++ " in '" ++ call.written ++ "'"
  | .notNumeric text => "'" ++ text ++ "' is not a number"
  | .negativeIndex index => "negative queue index " ++ toString index
  | .scaleInput text => "scale input '" ++ text ++ "' is not a number"
  | .scaleAnchors text => "bad scale anchors '" ++ text ++ "'"
  | .leftNotNumeric text => "left value '" ++ text ++ "' is not numeric"
  | .rightNotNumeric text => "right value '" ++ text ++ "' is not numeric"
  | .malformed error => error.message

/-- The message for a failure. -/
def message (f : Failure) : String := f.reason.label ++ f.detail

end Failure
end AudioPolicy

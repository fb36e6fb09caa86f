-- SUMMARY: Calls, operators and conditions, with their written forms.
import AudioPolicy.Spelling
import AudioPolicy.Text

/-! # Expressions

A condition compares a call with a literal or with another call, for instance
`muteState(SINK, REQUESTING) EQ MS_MUTED`. A call takes a category, a mandatory
argument and up to two optional ones. A quoted argument is a literal. A plain
one may be a selector, may hold placeholders or may itself be written as a call. -/

namespace AudioPolicy

/-- An argument of a call. -/
structure Argument where
  text : String
  quoted : Bool
  deriving DecidableEq, Repr

namespace Argument

/-- The written form. -/
def written (a : Argument) : String := if a.quoted then "\"" ++ a.text ++ "\"" else a.text

end Argument

/-- A call of a function, with everything still as written. -/
structure Call where
  function : String
  category : String
  mandatory : Argument
  optional : List Argument := []
  deriving DecidableEq, Repr

namespace Call

/-- A call has at most this many optional arguments. -/
def maxOptional : Nat := 2

/-- The written form. -/
def written (c : Call) : String :=
  c.function ++ "(" ++ ", ".intercalate (c.category :: (c.mandatory :: c.optional).map (·.written))
    ++ ")"

end Call

/-- The comparison that a condition makes. -/
inductive Operator
  | equal | greater | greaterEqual | less | lessEqual | notEqual
  /-- The right value is one of the left values. -/
  | includes
  /-- The right value is none of the left values. -/
  | excludes
  deriving DecidableEq, Repr

namespace Operator

instance : Spelled Operator where
  all := [.equal, .greater, .greaterEqual, .less, .lessEqual, .notEqual, .includes, .excludes]
  word
    | .equal => "EQ"
    | .greater => "GT"
    | .greaterEqual => "GEQ"
    | .less => "LT"
    | .lessEqual => "LEQ"
    | .notEqual => "NE"
    | .includes => "INC"
    | .excludes => "EXC"

/-- Whether the operator asks about membership. -/
def isMembership (op : Operator) : Bool := op == .includes || op == .excludes

/-- Whether an operator accepts how the first left value compares with the right
    value. Membership is not a matter of order. -/
def accepts : Operator → Ordering → Bool
  | .equal, o => o == .eq
  | .notEqual, o => o != .eq
  | .greater, o => o == .gt
  | .greaterEqual, o => o != .lt
  | .less, o => o == .lt
  | .lessEqual, o => o != .gt
  | .includes, _ | .excludes, _ => false

end Operator

/-- The right side of a condition. -/
inductive Operand
  | call (call : Call)
  | literal (argument : Argument)
  deriving DecidableEq, Repr

/-- The written form. -/
def Operand.written : Operand → String
  | .call c => c.written
  | .literal a => a.written

/-- A comparison of a call with an operand. -/
structure Condition where
  left : Call
  operator : Operator
  right : Operand
  deriving DecidableEq, Repr

namespace Condition

/-- The written form. -/
def written (c : Condition) : String :=
  c.left.written ++ " " ++ Spelled.word c.operator ++ " " ++ c.right.written

/-- The calls in a condition, from left to right. -/
def calls (c : Condition) : List Call :=
  match c.right with
  | .call call => [c.left, call]
  | .literal _ => [c.left]

end Condition
end AudioPolicy

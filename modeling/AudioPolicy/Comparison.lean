-- SUMMARY: Comparing the values of a call with a right value.
import AudioPolicy.Failure
import AudioPolicy.Symbol

/-! # Comparison

Membership looks for the right value among all the left values. Every other
operator compares the first left value with the right value, as texts or as
numbers, and is false if there is no left value. -/

namespace AudioPolicy

/-- The text to look for among the values of a function. Among numbers a right
    value that denotes a number stands for its written form. -/
def ValueType.needle (type : ValueType) (right : String) : String :=
  match type with
  | .text => right
  | .numeric =>
    match Symbol.number? right with
    | some n => toString n
    | none => right

/-- How two texts compare. -/
def ValueType.order (type : ValueType) (left right : String) : Except Failure Ordering :=
  match type with
  | .text => .ok (compare left right)
  | .numeric =>
    match Symbol.number? left, Symbol.number? right with
    | none, _ => .error (.leftNotNumeric left)
    | some _, none => .error (.rightNotNumeric right)
    | some l, some r => .ok (compare l r)

/-- The result of comparing the values of a call with a right value. -/
def Operator.compare (op : Operator) (type : ValueType) (left : List String) (right : String) :
    Except Failure Bool :=
  match op with
  | .includes => .ok (left.contains (type.needle right))
  | .excludes => .ok !left.contains (type.needle right)
  | op =>
    match left with
    | [] => .ok false
    | first :: _ => (type.order first right).map op.accepts

end AudioPolicy

-- SUMMARY: Documents: the trees that configurations, states and triggers are written as.

/-! # Documents

A document is a tree of scalars, lists and objects. Objects keep their fields in
written order, with repetitions. A scalar that is written without quotes in a
block-structured document has no type of its own. It is kept as `plain`, and it gets a
type from what is read out of it, or from the core rules below. The keys of an object in
such a document are documents as well, and it is kept as a `mapping`.

A part of a document can be well formed and still hold no value: a text with half a
character, a number beyond all floating-point numbers, a collection that is nested too deep.
Such a part is kept as `flawed`. It does no harm as long as nothing is read out of it. -/

namespace AudioPolicy

/-- A tree of values. -/
inductive Document
  | null
  | bool (b : Bool)
  | integer (n : Int)
  | real (x : Float)
  | text (s : String)
  /-- A scalar without quotes and without a type. -/
  | plain (s : String)
  | list (items : List Document)
  | object (fields : List (String × Document))
  /-- An object whose keys are documents. -/
  | mapping (fields : List (Document × Document))
  /-- A well-formed part without a value. -/
  | flawed
  deriving Inhabited

namespace Document

/-- The last field of an object with a name. -/
def field? (d : Document) (name : String) : Option Document :=
  match d with
  | .object fields => (fields.reverse.find? fun (key, _) => key == name).map (·.2)
  | _ => none

mutual

/-- The document in which no object gives a field twice. The last value counts. -/
def distinct : Document → Document
  | .list items => .list (distinctItems items)
  | .object fields => .object (lastOfName [] (distinctFields fields).reverse)
  | d => d

/-- The items of a list without repeated fields. -/
def distinctItems : List Document → List Document
  | [] => []
  | d :: ds => distinct d :: distinctItems ds

/-- The values of the fields without repeated fields. -/
def distinctFields : List (String × Document) → List (String × Document)
  | [] => []
  | (key, d) :: fields => (key, distinct d) :: distinctFields fields

/-- The fields with new names among fields that stand last first, in front of `kept`. -/
def lastOfName (kept : List (String × Document)) :
    List (String × Document) → List (String × Document)
  | [] => kept
  | (key, d) :: fields =>
    if kept.any fun (name, _) => name == key then lastOfName kept fields
    else lastOfName ((key, d) :: kept) fields

end

/-- An object whose fields are texts. -/
def ofTexts (fields : List (String × String)) : Document :=
  .object (fields.map fun (key, value) => (key, .text value))

end Document
end AudioPolicy

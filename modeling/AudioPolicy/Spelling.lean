-- SUMMARY: Finite types whose values are written as fixed words.

/-! # Spellings

Kinds, states and operators are finite types, and each value of such a type has
one written word. An instance of `Spelled` lists the values and gives the words.
Reading a word looks it up among the values, so a word is read exactly as it is
written. -/

namespace AudioPolicy

/-- A finite type with a written word for each value. -/
class Spelled (α : Type) where
  /-- Every value, in declared order. -/
  all : List α
  /-- The word for a value. -/
  word : α → String

namespace Spelled

/-- The value that `text` is the word of. -/
def ofWord? {α : Type} [Spelled α] (text : String) : Option α :=
  (all (α := α)).find? fun a => word a == text

end Spelled

/-- A type whose values are known to the routing side by a number. -/
class Coded (α : Type) where
  /-- The number of a value. -/
  code : α → Int16

/-- The written form of a value's code. -/
def codeText {α : Type} [Coded α] (a : α) : String := toString (Coded.code a).toInt

end AudioPolicy

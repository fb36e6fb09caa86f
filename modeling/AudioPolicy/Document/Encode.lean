-- SUMMARY: Writing typed values as documents.
import AudioPolicy.Document
import AudioPolicy.Params
import AudioPolicy.Spelling

/-! # Encoding

A type with an instance of `ToDocument` can be written as a document. A record is written
as an object with all of its fields in declared order, and an optional value that is
absent as null. -/

namespace AudioPolicy

/-- A type whose values can be written as documents. -/
class ToDocument (α : Type) where
  /-- Writes a value. -/
  encode : α → Document

export ToDocument (encode)

instance : ToDocument Document := ⟨id⟩

instance : ToDocument String := ⟨.text⟩

instance : ToDocument Bool := ⟨.bool⟩

instance : ToDocument Nat := ⟨fun n => .integer n⟩

instance : ToDocument Int := ⟨.integer⟩

instance : ToDocument Int16 := ⟨fun n => .integer n.toInt⟩

instance : ToDocument Int32 := ⟨fun n => .integer n.toInt⟩

instance {α : Type} [ToDocument α] : ToDocument (List α) := ⟨fun as => .list (as.map encode)⟩

instance {α : Type} [ToDocument α] : ToDocument (Option α) where
  encode
    | some a => encode a
    | none => .null

instance : ToDocument Params := ⟨fun ps => .ofTexts ps.entries⟩

/-- Values of types with fixed words are written as words. -/
instance (priority := low) {α : Type} [Spelled α] : ToDocument α :=
  ⟨fun a => .text (Spelled.word a)⟩

end AudioPolicy

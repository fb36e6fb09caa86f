-- SUMMARY: Reading typed values out of documents.
import AudioPolicy.Document.Scalar
import AudioPolicy.Params
import AudioPolicy.Spelling

/-! # Decoding

A type with an instance of `OfDocument` can be read out of a document. A record is
written as an object. Fields that the record does not have are ignored. No field may be
given twice. A field with a default may be left out, but it may not be null.

How else a value may be written depends on the form of the document. Where scalars have
types, a list may stand for a record and hold its fields in declared order, and an object
whose only field holds nothing may stand for a word. -/

namespace AudioPolicy

/-- How the scalars of a document get their types. -/
inductive Form
  /-- Every scalar is written with its type. -/
  | typed
  /-- A plain scalar has the type that is read out of it. -/
  | untyped
  /-- Plain scalars got their types before anything was read. A key that is a natural number
      stands for the field or the word with that number in declared order. -/
  | resolved
  deriving DecidableEq, Repr

/-- Why a document does not hold a value of the wanted type. -/
inductive Mismatch
  | expected (what : String)
  | missing (field : String)
  | repeated (field : String)
  | tooManyItems
  deriving DecidableEq, Repr

/-- The message for a mismatch. -/
def Mismatch.message : Mismatch → String
  | .expected what => "expected " ++ what
  | .missing field => "missing field '" ++ field ++ "'"
  | .repeated field => "repeated field '" ++ field ++ "'"
  | .tooManyItems => "too many items"

/-- A type whose values can be read out of documents. -/
class OfDocument (α : Type) where
  /-- Reads a value. -/
  decode : Form → Document → Except Mismatch α

export OfDocument (decode)

/-! ## Scalars -/

namespace Document

/-- Reads a text. A plain scalar is a text whatever it looks like. -/
def decodeText : Document → Except Mismatch String
  | .text s => .ok s
  | .plain s => .ok s
  | _ => .error (.expected "a text")

/-- Reads an integer of 64 bits. -/
def decodeInteger : Document → Except Mismatch Int
  | .integer n => if Numeral.fits64 n then .ok n else .error (.expected "an integer of 64 bits")
  | .plain s =>
    match (plainInteger? s).filter Numeral.fits64 with
    | some n => .ok n
    | none => .error (.expected "an integer of 64 bits")
  | _ => .error (.expected "an integer of 64 bits")

/-- Reads a flag. -/
def decodeBool : Document → Except Mismatch Bool
  | .bool b => .ok b
  | .plain s =>
    match plainBool? s with
    | some b => .ok b
    | none => .error (.expected "a flag")
  | _ => .error (.expected "a flag")

/-- Whether a document is nothing where a value is optional. -/
def isNull : Document → Bool
  | .null => true
  | .plain s => isNothing s
  | _ => false

/-! ## Names

A key stands for a name, which is either the name of a field or a word. In a resolved
document it may be a number instead, and one without a name is passed over. A number with a
minus is refused even if it is zero. -/

/-- The one of `names` that a plain key of a resolved document stands for. -/
def nameOfPlain (names : List String) (s : String) : Except Mismatch (Option String) :=
  match ofPlain s with
  | .text s => .ok (some s)
  | .integer n =>
    if s.toList.head? = some '-' then .error (.expected "a key") else .ok names[n.toNat]?
  | _ => .error (.expected "a key")

/-- The name that a key stands for. -/
def nameOfKey (form : Form) (names : List String) : Document → Except Mismatch (Option String)
  | .text s => .ok (some s)
  | .plain s => if form = .resolved then nameOfPlain names s else .ok (some s)
  | _ => .error (.expected "a key")

/-- The fields of a mapping under their names. -/
def namedFields (form : Form) (names : List String) :
    List (Document × Document) → Except Mismatch (List (String × Document))
  | [] => .ok []
  | (key, d) :: fields => do
    let name ← nameOfKey form names key
    let others ← namedFields form names fields
    match name with
    | some name => return (name, d) :: others
    | none => return others

/-! ## Words -/

/-- Whether a document is nothing where a word is given by a key. -/
def holdsNothing (form : Form) : Document → Bool
  | .null => form != .untyped
  | .object [] | .mapping [] => form == .resolved
  | _ => false

/-- The word of a choice among `words`: a text, or an object whose only field holds nothing. -/
def choice? (form : Form) (words : List String) : Document → Option String
  | .text s => some s
  | .plain s => some s
  | .object [(key, d)] => if holdsNothing form d then some key else none
  | .mapping [(key, d)] =>
    if holdsNothing form d then
      match nameOfKey form words key with
      | .ok name => name
      | .error _ => none
    else none
  | _ => none

/-- Reads a value of a type with fixed words. -/
def decodeWord {α : Type} [Spelled α] (form : Form) (d : Document) : Except Mismatch α :=
  let words := (Spelled.all (α := α)).map Spelled.word
  match (d.choice? form words).bind Spelled.ofWord? with
  | some a => .ok a
  | none => .error (.expected "one of the known words")

/-! ## Collections -/

/-- Reads each item of a list. -/
def decodeItems {α : Type} (decode : Document → Except Mismatch α) :
    List Document → Except Mismatch (List α)
  | [] => .ok []
  | d :: ds => do
    let a ← decode d
    let others ← decodeItems decode ds
    return a :: others

/-- Reads a list. -/
def decodeList {α : Type} (decode : Document → Except Mismatch α) :
    Document → Except Mismatch (List α)
  | .list items => decodeItems decode items
  | .plain "" => .ok []
  | _ => .error (.expected "a list")

/-- Reads the values of a map from text to text. -/
def decodeEntries (decode : Document → Except Mismatch String) :
    List (String × Document) → Except Mismatch (List (String × String))
  | [] => .ok []
  | (key, d) :: fields => do
    let value ← decode d
    let others ← decodeEntries decode fields
    return (key, value) :: others

/-- The fields of an object under their names, whatever the names are. -/
def entries (form : Form) : Document → Except Mismatch (List (String × Document))
  | .object fields => .ok fields
  | .mapping fields => namedFields form [] fields
  | .plain "" => .ok []
  | _ => .error (.expected "an object")

/-- Reads a map from text to text. Of two fields with one key the later counts. -/
def decodeParams (form : Form) (d : Document) : Except Mismatch Params := do
  return Params.ofList (← decodeEntries decodeText (← d.entries form))

end Document

/-! ## Records -/

/-- The fields of a record that are given. -/
structure Fields where
  /-- The form of the document that gives them. -/
  form : Form
  given : List (String × Document)

namespace Fields

/-- The fields among `names` that are given, each at most once. -/
def ofNamed (form : Form) (names : List String) (fields : List (String × Document)) :
    Except Mismatch Fields :=
  let known := fields.filter fun (key, _) => names.contains key
  match names.find? fun name => 1 < (known.filter fun (key, _) => key == name).length with
  | some name => .error (.repeated name)
  | none => .ok ⟨form, known⟩

/-- The fields of a record whose declared fields are `names`. -/
def ofDocument (form : Form) (names : List String) : Document → Except Mismatch Fields
  | .object fields => ofNamed form names fields
  | .mapping fields => do ofNamed form names (← Document.namedFields form names fields)
  | .plain "" => .ok ⟨form, []⟩
  | .list items =>
    if form = .untyped then .error (.expected "an object")
    else if names.length < items.length then .error .tooManyItems
    else .ok ⟨form, names.zip items⟩
  | _ => .error (.expected "an object")

/-- Reads a field that has to be given. -/
def required {α : Type} [OfDocument α] (fields : Fields) (name : String) : Except Mismatch α :=
  match fields.given.lookup name with
  | some d => decode fields.form d
  | none => .error (.missing name)

/-- Reads a field that may be left out. -/
def withDefault {α : Type} [OfDocument α] (fields : Fields) (name : String) (default_ : α) :
    Except Mismatch α :=
  match fields.given.lookup name with
  | some d => decode fields.form d
  | none => .ok default_

end Fields

/-! ## Basic types -/

instance : OfDocument String := ⟨fun _ => Document.decodeText⟩

instance : OfDocument Bool := ⟨fun _ => Document.decodeBool⟩

instance : OfDocument Int16 where
  decode _ d := do
    match Numeral.narrow16? (← d.decodeInteger) with
    | some n => return n
    | none => .error (.expected "an integer of 16 bits")

instance : OfDocument Int32 where
  decode _ d := do
    match Numeral.narrow32? (← d.decodeInteger) with
    | some n => return n
    | none => .error (.expected "an integer of 32 bits")

instance {α : Type} [OfDocument α] : OfDocument (List α) :=
  ⟨fun form => Document.decodeList (decode form)⟩

instance {α : Type} [OfDocument α] : OfDocument (Option α) where
  decode form d := if d.isNull then .ok none else (decode form d).map some

instance : OfDocument Params := ⟨Document.decodeParams⟩

/-- Values of types with fixed words are written as words. -/
instance (priority := low) {α : Type} [Spelled α] : OfDocument α := ⟨Document.decodeWord⟩

end AudioPolicy

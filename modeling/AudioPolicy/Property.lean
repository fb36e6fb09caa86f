-- SUMMARY: Typed property values and notifications, and the written form of property lists.
import AudioPolicy.Numeral
import AudioPolicy.State

/-! # Properties

A property is a type and a value, both numbers of 16 bits. A list of properties
is written as `type:value` pairs with one space between them. Reading is more
liberal: any blanks may separate the pairs. -/

namespace AudioPolicy

/-- A property of a sink, a source or the whole system. -/
structure Property where
  type : Int16
  value : Int16
  deriving DecidableEq, Repr

namespace Property

/-- The written form `type:value`. -/
def text (p : Property) : String := Numeral.text16 p.type ++ ":" ++ Numeral.text16 p.value

/-- The written form of a list of properties. -/
def listText (ps : List Property) : String := Text.unwords (ps.map text)

/-- Reads one `type:value` pair. -/
def ofText? (pair : String) : Option Property := do
  let (type, value) ← Text.cutAt ':' pair.toList
  let type ← Numeral.int16? (String.ofList (Text.trimChars type))
  let value ← Numeral.int16? (String.ofList (Text.trimChars value))
  return ⟨type, value⟩

/-- Reads a list of properties. One pair that cannot be read spoils the list. -/
def listOfText? (text : String) : Option (List Property) :=
  (Text.words text).mapM ofText?

/-- The value of the first property of a type. -/
def valueOf? (ps : List Property) (type : Int16) : Option Int16 :=
  (ps.find? fun p => p.type == type).map (·.value)

end Property

/-- What a sink or source reports about a notification. -/
structure NotificationPayload where
  type : Int16
  value : Int16
  deriving DecidableEq, Repr

/-- How a sink or source is asked to notify. -/
structure NotificationConfiguration where
  type : Int16
  status : NotificationStatus := .unknown
  parameter : Int16 := 0
  deriving DecidableEq, Repr

end AudioPolicy

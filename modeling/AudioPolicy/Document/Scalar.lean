-- SUMMARY: The types of scalars that are written without quotes.
import AudioPolicy.Decimal
import AudioPolicy.Document
import AudioPolicy.Numeral

/-! # Plain scalars

A plain scalar is nothing, a flag, a number or a text, by the core rules for such
documents. The words for nothing and for flags are fixed. An integer may be written in base
16, 8 or 2, and one with a superfluous zero in front is a text. A document is resolved once
all of its plain scalars have types. -/

namespace AudioPolicy.Document

/-- The words for nothing. -/
def isNothing (s : String) : Bool :=
  s == "" || s == "~" || s == "null" || s == "Null" || s == "NULL"

/-- The words for flags. -/
def plainBool? (s : String) : Option Bool :=
  if s == "true" || s == "True" || s == "TRUE" then some true
  else if s == "false" || s == "False" || s == "FALSE" then some false
  else none

/-- The value of a run of digits in a base, in front of which `value` was read. -/
def digitsIn? (base value : Nat) : List Char → Option Nat
  | [] => some value
  | c :: cs => (Numeral.digitIn? base c).bind fun d => digitsIn? base (base * value + d) cs

/-- A number in a base: at least one digit, and nothing else. -/
def numberIn? (base : Nat) (cs : List Char) : Option Nat :=
  if cs.isEmpty then none else digitsIn? base 0 cs

/-- Whether a text is a run of digits with a superfluous zero in front. -/
def hasExtraZero (cs : List Char) : Bool :=
  match cs with
  | '0' :: d :: ds => (d :: ds).all fun c => (Numeral.digit? c).isSome
  | _ => false

/-- A number without a sign, in base 16, 8, 2 or 10. -/
def magnitude? : List Char → Option Nat
  | '0' :: 'x' :: cs => numberIn? 16 cs
  | '0' :: 'o' :: cs => numberIn? 8 cs
  | '0' :: 'b' :: cs => numberIn? 2 cs
  | cs => if hasExtraZero cs then none else numberIn? 10 cs

/-- The integer that a plain scalar denotes. -/
def plainInteger? (s : String) : Option Int :=
  match s.toList with
  | '-' :: cs => (magnitude? cs).map fun n => -(n : Int)
  | '+' :: cs => (magnitude? cs).map fun n => (n : Int)
  | cs => (magnitude? cs).map fun n => (n : Int)

/-- Whether an integer takes at most 128 bits. -/
def fits128 (n : Int) : Bool := -(Decimal.pow2 127 : Int) ≤ n && n < Decimal.pow2 128

/-- The words for infinities and for no number. -/
def specialReal? (s : String) : Option Float :=
  if s == ".inf" || s == ".Inf" || s == ".INF" || s == "+.inf" || s == "+.Inf" || s == "+.INF" then
    some (Float.ofBits 0x7FF0000000000000)
  else if s == "-.inf" || s == "-.Inf" || s == "-.INF" then
    some (Float.ofBits 0xFFF0000000000000)
  else if s == ".nan" || s == ".NaN" || s == ".NAN" then some (Float.ofBits 0x7FF8000000000000)
  else none

/-- The floating-point number that a plain scalar denotes. -/
def plainReal? (s : String) : Option Float :=
  if hasExtraZero (Decimal.sign s.toList).2 then none
  else
    match specialReal? s with
    | some x => some x
    | none => ((Decimal.read? s).map (·.2)).filter fun x => !x.isNaN && !x.isInf

/-- The document that a plain scalar denotes. An integer that is too large for 128 bits
    counts as a floating-point number. -/
def ofPlain (s : String) : Document :=
  if isNothing s then .null
  else
    match plainBool? s, (plainInteger? s).filter fits128, plainReal? s with
    | some b, _, _ => .bool b
    | none, some n, _ => .integer n
    | none, none, some x => .real x
    | none, none, none => .text s

/-- Whether an integer takes at most 64 bits, with or without a sign. -/
def fitsWord (n : Int) : Bool := Numeral.fits64 n || (0 ≤ n && n < Decimal.pow2 64)

mutual

/-- The document in which every plain scalar has its type. There is none if a part is flawed
    or if an integer takes more than 64 bits. Keys stay as they are written. -/
def resolve : Document → Option Document
  | .plain s =>
    match ofPlain s with
    | .integer n => if fitsWord n then some (.integer n) else none
    | d => some d
  | .list items => (resolveItems items).map .list
  | .object fields => (resolveFields fields).map .object
  | .mapping fields => (resolvePairs fields).map .mapping
  | .flawed => none
  | d => some d

/-- The items of a list with their types. -/
def resolveItems : List Document → Option (List Document)
  | [] => some []
  | d :: ds => do
    let d ← resolve d
    let ds ← resolveItems ds
    return d :: ds

/-- The fields of an object with their types. -/
def resolveFields : List (String × Document) → Option (List (String × Document))
  | [] => some []
  | (key, d) :: fields => do
    let d ← resolve d
    let fields ← resolveFields fields
    return (key, d) :: fields

/-- The fields of a mapping with their types. A key needs a type too. -/
def resolvePairs : List (Document × Document) → Option (List (Document × Document))
  | [] => some []
  | (key, d) :: fields => do
    let _ ← resolve key
    let d ← resolve d
    let fields ← resolvePairs fields
    return (key, d) :: fields

end

end AudioPolicy.Document

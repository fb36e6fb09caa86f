-- SUMMARY: Reading numbers in JSON texts.
import AudioPolicy.Decimal
import AudioPolicy.Document
import AudioPolicy.Numeral

/-! # Numbers in JSON

A whole number without fraction and exponent is an integer if it fits 64 bits. All other
numbers are floating-point numbers. They are read fast and not always to the nearest number:
the digits are gathered into 64 bits, and the result is scaled by one power of ten. -/

namespace AudioPolicy.Json

/-- The largest count of units that digits are gathered into. Later digits only move
    the point. -/
def significandLimit : Nat := Decimal.pow2 64

/-- Gathers digits into a significand below the limit. The answer holds the significand,
    how many whole digits were dropped, and the rest of the text. -/
def wholeDigits (significand dropped : Nat) : List Char → Nat × Nat × List Char
  | [] => (significand, dropped, [])
  | c :: cs =>
    match Numeral.digit? c with
    | none => (significand, dropped, c :: cs)
    | some d =>
      if dropped = 0 ∧ 10 * significand + d < significandLimit then
        wholeDigits (10 * significand + d) 0 cs
      else wholeDigits significand (dropped + 1) cs

/-- Gathers the digits behind the point, until one of them does not fit and the significand
    is full. The answer holds the significand, how many digits were gathered, and the rest
    of the text. -/
def fractionDigits (significand gathered : Nat) (full : Bool) : List Char → Nat × Nat × List Char
  | [] => (significand, gathered, [])
  | c :: cs =>
    match Numeral.digit? c with
    | none => (significand, gathered, c :: cs)
    | some d =>
      if !full && 10 * significand + d < significandLimit then
        fractionDigits (10 * significand + d) (gathered + 1) false cs
      else fractionDigits significand gathered true cs

/-- A power of ten as a floating-point number. -/
def power (n : Nat) : Float := Decimal.toFloat 1 n

/-- Divides by a power of ten in steps that are floating-point numbers. -/
def divideBy (x : Float) (n : Nat) : Float :=
  if n ≤ 308 then x / power n
  else if x == 0.0 then x
  else divideBy (x / power 308) (n - 308)
termination_by n

/-- The floating-point number with a significand and a power of ten. It may be the
    neighbour of the nearest one when the significand takes more than 53 bits. A number
    that is too large is none. -/
def scaled? (significand : Nat) (exponent : Int) : Option Float :=
  let x := significand.toUInt64.toFloat
  if exponent < 0 then some (divideBy x (-exponent).toNat)
  else if exponent ≤ 308 then
    let y := x * power exponent.toNat
    if y.isInf then none else some y
  else if significand = 0 then some x
  else none

/-- The exponent part of a number, if there is one, and the rest of the text. -/
def exponentPart? : List Char → Option (Option Int × List Char)
  | c :: cs =>
    if c = 'e' ∨ c = 'E' then
      let (negative, cs) := Decimal.sign cs
      let (value, count, rest) := Decimal.digitRun 0 0 cs
      if count = 0 then none else some (some (if negative then -value else value), rest)
    else some (none, c :: cs)
  | [] => some (none, [])

/-- The digits in front of the point. A zero stands alone. -/
def whole? : List Char → Option (Nat × Nat × List Char)
  | '0' :: cs =>
    match cs with
    | c :: _ => if (Numeral.digit? c).isSome then none else some (0, 0, cs)
    | [] => some (0, 0, [])
  | c :: cs => if (Numeral.digit? c).isSome then some (wholeDigits 0 0 (c :: cs)) else none
  | [] => none

/-- How many digits behind a point were gathered, if there is a point, with the
    significand and the rest of the text. -/
def fraction? (significand : Nat) (cs : List Char) : Option (Option Nat × Nat × List Char) :=
  match cs with
  | '.' :: c :: cs =>
    if (Numeral.digit? c).isSome then
      let (significand, gathered, rest) := fractionDigits significand 0 false (c :: cs)
      some (some gathered, significand, rest)
    else none
  | ['.'] => none
  | cs => some (none, significand, cs)

/-- A number, and the rest of the text. A number that is too large is flawed. -/
def number? (cs : List Char) : Option (Document × List Char) := do
  let (negative, cs) :=
    match cs with
    | '-' :: cs => (true, cs)
    | cs => (false, cs)
  let (significand, dropped, rest) ← whole? cs
  let (gathered, significand, rest) ← fraction? significand rest
  let (exponent, rest) ← exponentPart? rest
  let exact : Int := if negative then -significand else significand
  let isInteger :=
    gathered.isNone && exponent.isNone && dropped == 0
      && (if negative then significand != 0 && Numeral.fits64 exact else true)
  if isInteger then return (.integer exact, rest)
  else
    match scaled? significand (exponent.getD 0 + dropped - (gathered.getD 0 : Nat)) with
    | some x => return (.real (if negative then -x else x), rest)
    | none => return (.flawed, rest)

end AudioPolicy.Json

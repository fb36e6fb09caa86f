-- SUMMARY: Piecewise linear scales given by a written table of anchors.
import AudioPolicy.Decimal
import AudioPolicy.Text

/-! # Scales

A scale maps numbers to numbers. It is written as a list of anchors `x:y`. Between two
neighbouring anchors the scale is linear, and outside of them it is constant. -/

namespace AudioPolicy.Scale

/-- A point that the scale goes through. -/
structure Anchor where
  x : Float
  y : Float
  /-- Where `x` stands in the total order of floating-point numbers. -/
  rank : Int

/-- The place of a number in the total order of floating-point numbers. A negative zero
    comes before zero, and a text for no number comes outside of the infinities. -/
def rank (negative : Bool) (x : Float) : Int :=
  let half : Int := Decimal.pow2 63
  if x.isNaN then (if negative then -half else half)
  else if Decimal.isNegative x then half - 1 - x.toBits.toNat
  else x.toBits.toNat

/-- Reads one anchor. -/
def anchor? (pair : String) : Option Anchor := do
  let (x, y) ← Text.cutAt ':' pair.toList
  let (negative, x) ← Decimal.read? (String.ofList (Text.trimChars x))
  let (_, y) ← Decimal.read? (String.ofList (Text.trimChars y))
  return { x, y, rank := rank negative x }

/-- Reads a table of anchors. -/
def anchors? (text : String) : Option (List Anchor) := (Text.words text).mapM anchor?

/-- The value of the scale between two neighbouring anchors, if `x` lies there. -/
def between? (x : Float) (a b : Anchor) : Option Float :=
  if x ≥ a.x && x ≤ b.x then
    some (if b.x == a.x then b.y else a.y + (x - a.x) * (b.y - a.y) / (b.x - a.x))
  else none

/-- The value of the scale in the first stretch that `x` lies in. -/
def within? (x : Float) : List Anchor → Option Float
  | a :: b :: rest =>
    match between? x a b with
    | some y => some y
    | none => within? x (b :: rest)
  | _ => none

/-- The value of the scale at `x`. A scale without anchors has none. -/
def interpolate? (x : Float) (anchors : List Anchor) : Option Float :=
  let sorted := anchors.mergeSort fun a b => a.rank ≤ b.rank
  match sorted.head?, sorted.getLast? with
  | some first, some last =>
    if x ≤ first.x then some first.y
    else if x ≥ last.x then some last.y
    else within? x sorted
  | _, _ => none

/-- The nearest whole number of 64 bits. Halves go away from zero, and a text for no
    number goes to zero. -/
def nearest (y : Float) : Int := y.round.toInt64.toInt

end AudioPolicy.Scale

-- SUMMARY: Decimal integers: reading an optionally signed run of digits within a range.
import AudioPolicy.Text

/-! # Numerals

An integer is written as an optional sign and at least one ASCII digit. Reading
is always for a range, and a number outside it is not read at all. The written
form of an integer is the one `toString` gives: no sign but a minus, and no
leading zero. -/

namespace AudioPolicy.Numeral

/-- The value of one ASCII digit. -/
def digit? (c : Char) : Option Nat :=
  if '0' ≤ c ∧ c ≤ '9' then some (c.toNat - '0'.toNat) else none

/-- The value of a digit in a base up to 16. Beyond the decimal ones digits are letters. -/
def digitIn? (base : Nat) (c : Char) : Option Nat :=
  let d? : Option Nat :=
    if '0' ≤ c ∧ c ≤ '9' then some (c.toNat - '0'.toNat)
    else if 'a' ≤ c ∧ c ≤ 'f' then some (c.toNat - 'a'.toNat + 10)
    else if 'A' ≤ c ∧ c ≤ 'F' then some (c.toNat - 'A'.toNat + 10)
    else none
  d?.filter fun d => d < base

/-- The value of a run of digits in front of which `value` was read. -/
def digitsFrom (value : Nat) : List Char → Option Nat
  | [] => some value
  | c :: cs =>
    match digit? c with
    | some d => digitsFrom (10 * value + d) cs
    | none => none

/-- A natural number: at least one digit, and nothing else. -/
def natural? : List Char → Option Nat
  | [] => none
  | c :: cs => digitsFrom 0 (c :: cs)

/-- An integer: an optional sign and a natural number. -/
def integer? : List Char → Option Int
  | '-' :: cs => (natural? cs).map fun n => -(n : Int)
  | '+' :: cs => (natural? cs).map fun n => (n : Int)
  | cs => (natural? cs).map fun n => (n : Int)

/-- Whether `n` is a signed integer of 64 bits. -/
def fits64 (n : Int) : Bool := -9223372036854775808 ≤ n && n ≤ 9223372036854775807

/-- Whether `n` is a signed integer of 32 bits. -/
def fits32 (n : Int) : Bool := -2147483648 ≤ n && n ≤ 2147483647

/-- Whether `n` is a signed integer of 16 bits. -/
def fits16 (n : Int) : Bool := -32768 ≤ n && n ≤ 32767

/-- The 16-bit integer with the value `n`, if there is one. -/
def narrow16? (n : Int) : Option Int16 := if fits16 n then some (Int16.ofInt n) else none

/-- The 32-bit integer with the value `n`, if there is one. -/
def narrow32? (n : Int) : Option Int32 := if fits32 n then some (Int32.ofInt n) else none

/-- Reads an integer of 64 bits. -/
def int64? (text : String) : Option Int := (integer? text.toList).filter fits64

/-- Reads an integer of 16 bits. -/
def int16? (text : String) : Option Int16 := (integer? text.toList).bind narrow16?

/-- The written form of a 16-bit integer. -/
def text16 (n : Int16) : String := toString n.toInt

/-- The written form of a 32-bit integer. -/
def text32 (n : Int32) : String := toString n.toInt

/-- Flags are written as the numbers one and zero. -/
def flag (b : Bool) : String := if b then "1" else "0"

end AudioPolicy.Numeral

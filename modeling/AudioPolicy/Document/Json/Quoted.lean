-- SUMMARY: Quoted texts in JSON, read and written.
import AudioPolicy.Numeral

/-! # Quoted texts in JSON

A character beyond the first 65536 may be given as two escapes, one for each half of a
surrogate pair. A half that stands alone is well formed, but it is no character, and then
there is no text. -/

namespace AudioPolicy.Json

/-! ## Reading -/

/-- The value of four hexadecimal digits. -/
def hex4? (a b c d : Char) : Option Nat := do
  let a ← Numeral.digitIn? 16 a
  let b ← Numeral.digitIn? 16 b
  let c ← Numeral.digitIn? 16 c
  let d ← Numeral.digitIn? 16 d
  return ((a * 16 + b) * 16 + c) * 16 + d

/-- The character that a short escape stands for. -/
def escape? : Char → Option Char
  | '"' => some '"'
  | '\\' => some '\\'
  | '/' => some '/'
  | 'b' => some '\x08'
  | 'f' => some '\x0c'
  | 'n' => some '\n'
  | 'r' => some '\r'
  | 't' => some '\t'
  | _ => none

/-- The units of a quoted text up to its closing quote, and the rest of the text. `units`
    holds the earlier ones, last first. A unit is the number of a character or of a half. -/
def units? (units : List Nat) : List Char → Option (List Nat × List Char)
  | '"' :: cs => some (units.reverse, cs)
  | '\\' :: 'u' :: a :: b :: c :: d :: cs =>
    match hex4? a b c d with
    | some n => units? (n :: units) cs
    | none => none
  | '\\' :: c :: cs =>
    match escape? c with
    | some c => units? (c.toNat :: units) cs
    | none => none
  | c :: cs => if c.toNat < 0x20 || c = '\\' then none else units? (c.toNat :: units) cs
  | [] => none

/-- Whether a number is the first half of a surrogate pair. -/
def isHigh (n : Nat) : Bool := 0xD800 ≤ n && n ≤ 0xDBFF

/-- Whether a number is the second half of a surrogate pair. -/
def isLow (n : Nat) : Bool := 0xDC00 ≤ n && n ≤ 0xDFFF

/-- The characters that units stand for, behind `chars`, which stand last first. -/
def joined? (chars : List Char) : List Nat → Option (List Char)
  | [] => some chars.reverse
  | n :: m :: units =>
    if isHigh n && isLow m then
      joined? (Char.ofNat (0x10000 + (n - 0xD800) * 0x400 + (m - 0xDC00)) :: chars) units
    else if isHigh n || isLow n then none
    else joined? (Char.ofNat n :: chars) (m :: units)
  | [n] => if isHigh n || isLow n then none else some (Char.ofNat n :: chars).reverse

/-- The text behind an opening quote, and what follows it. There is no text if a half of
    a character stands alone. -/
def quoted? (cs : List Char) : Option (Option String × List Char) := do
  let (units, rest) ← units? [] cs
  return ((joined? [] units).map String.ofList, rest)

/-! ## Writing -/

/-- A digit of a hexadecimal number. -/
def hexChar (n : Nat) : Char := Nat.digitChar n

/-- A character inside quotes. -/
def quoteChar (c : Char) : List Char :=
  match c with
  | '"' => ['\\', '"']
  | '\\' => ['\\', '\\']
  | '\x08' => ['\\', 'b']
  | '\x0c' => ['\\', 'f']
  | '\n' => ['\\', 'n']
  | '\r' => ['\\', 'r']
  | '\t' => ['\\', 't']
  | c =>
    if c.toNat < 0x20 then
      ['\\', 'u', '0', '0', hexChar (c.toNat / 16), hexChar (c.toNat % 16)]
    else [c]

/-- A text in quotes. -/
def quote (s : String) : String :=
  "\"" ++ String.ofList (s.toList.flatMap quoteChar) ++ "\""

end AudioPolicy.Json

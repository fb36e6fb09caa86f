-- SUMMARY: Blanks and word characters, and the ways text is trimmed, cut and joined.

/-! # Text

Every list in this library that is written as text is a sequence of words
separated by blanks. A blank is a character with the Unicode property
`White_Space`. A word character, on the other hand, is an ASCII letter, an ASCII
digit or an underscore. The functions work on lists of characters. The versions
on `String` wrap them. -/

namespace AudioPolicy.Text

/-- The Unicode property `White_Space`. -/
def isBlank (c : Char) : Bool :=
  let n := c.toNat
  (0x09 ≤ n && n ≤ 0x0D) || n == 0x20 || n == 0x85 || n == 0xA0 || n == 0x1680
    || (0x2000 ≤ n && n ≤ 0x200A) || n == 0x2028 || n == 0x2029 || n == 0x202F
    || n == 0x205F || n == 0x3000

/-- ASCII letters, ASCII digits and the underscore. -/
def isWordChar (c : Char) : Bool :=
  ('a' ≤ c && c ≤ 'z') || ('A' ≤ c && c ≤ 'Z') || ('0' ≤ c && c ≤ '9') || c == '_'

/-! ## Trimming -/

/-- Drops the blanks in front. -/
def trimStart (cs : List Char) : List Char := cs.dropWhile isBlank

/-- Drops the blanks at the end. -/
def trimEnd (cs : List Char) : List Char := (cs.reverse.dropWhile isBlank).reverse

/-- Drops the blanks at both ends. -/
def trimChars (cs : List Char) : List Char := trimEnd (trimStart cs)

/-- Drops the blanks at both ends. -/
def trim (text : String) : String := String.ofList (trimChars text.toList)

/-! ## Cutting -/

/-- The maximal runs of characters that are not in the class `separates`. -/
def runs (separates : Char → Bool) : List Char → List (List Char)
  | [] => []
  | c :: cs =>
    if separates c then runs separates cs
    else
      match cs with
      | [] => [[c]]
      | d :: _ =>
        if separates d then [c] :: runs separates cs
        else
          match runs separates cs with
          | [] => [[c]]
          | run :: others => (c :: run) :: others

/-- The words of a text: its maximal runs without a blank. -/
def words (text : String) : List String :=
  (runs isBlank text.toList).map String.ofList

/-- What stands before and after the first `separator`. -/
def cutAt (separator : Char) : List Char → Option (List Char × List Char)
  | [] => none
  | c :: cs =>
    if c = separator then some ([], cs)
    else (cutAt separator cs).map fun (before, after) => (c :: before, after)

/-! ## Joining -/

/-- The texts with one space between neighbours. -/
def unwords (texts : List String) : String := " ".intercalate texts

end AudioPolicy.Text

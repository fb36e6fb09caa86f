-- SUMMARY: The characters of YAML texts, and places between them.

/-! # Characters

Spaces and tabs are blanks. There are three line breaks: the line feed, which stands for
all of the usual ones, and the two separators, which stay what they are. -/

namespace AudioPolicy.Yaml

/-- Spaces and tabs. -/
def isBlank (c : Char) : Bool := c == ' ' || c == '\t'

/-- Line breaks, once the usual ones are unified. -/
def isBreak (c : Char) : Bool := c == '\n' || c == '\u2028' || c == '\u2029'

/-- Blanks and line breaks. -/
def isSpace (c : Char) : Bool := isBlank c || isBreak c

/-- Whether a text ends here or goes on with a blank or a line break. -/
def atGap : List Char → Bool
  | [] => true
  | c :: _ => isSpace c

/-- The characters that structure flow collections. -/
def isFlow (c : Char) : Bool := c == ',' || c == '[' || c == ']' || c == '\x7b' || c == '\x7d'

/-- The characters with which a plain scalar cannot begin. -/
def isIndicator (c : Char) : Bool :=
  isFlow c || c == '#' || c == '&' || c == '*' || c == '!' || c == '|' || c == '>'
    || c == '\'' || c == '"' || c == '%' || c == '@' || c == '\x60'

/-- Whether a character may occur in a text. -/
def isPrintable (c : Char) : Bool :=
  let n := c.toNat
  n == 0x09 || n == 0x0A || n == 0x0D || (0x20 ≤ n && n ≤ 0x7E) || n == 0x85
    || (0xA0 ≤ n && n ≤ 0xD7FF) || (0xE000 ≤ n && n ≤ 0xFFFD) || 0x10000 ≤ n

/-- The text with each of the usual line breaks written as one line feed. `done` holds the
    part in front of it, last character first. -/
def unifyBreaks (done : List Char) : List Char → List Char
  | '\r' :: '\n' :: cs => unifyBreaks ('\n' :: done) cs
  | '\r' :: cs => unifyBreaks ('\n' :: done) cs
  | '\u0085' :: cs => unifyBreaks ('\n' :: done) cs
  | c :: cs => unifyBreaks (c :: done) cs
  | [] => done.reverse

/-! ## Places -/

/-- A position in a text. -/
structure Spot where
  /-- The count of lines before. -/
  line : Nat
  /-- The count of characters before on the same line. -/
  column : Nat
  deriving DecidableEq, Repr

/-- The position behind a character. -/
def Spot.past (spot : Spot) (c : Char) : Spot :=
  if isBreak c then ⟨spot.line + 1, 0⟩ else ⟨spot.line, spot.column + 1⟩

/-- A position, and the text behind it. -/
structure Place extends Spot where
  rest : List Char

/-- The place behind the next character. -/
def Place.next (at_ : Place) : Place :=
  match at_.rest with
  | c :: cs => ⟨at_.toSpot.past c, cs⟩
  | [] => at_

/-- Whether a line starts with a marker between documents. -/
def atMarker (spot : Spot) (cs : List Char) : Bool :=
  spot.column == 0 && ("---".toList.isPrefixOf cs || "...".toList.isPrefixOf cs)
    && atGap (cs.drop 3)

end AudioPolicy.Yaml

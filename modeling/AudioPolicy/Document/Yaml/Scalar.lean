-- SUMMARY: The texts of quoted and plain scalars, with their lines folded.
import AudioPolicy.Document.Yaml.Character
import AudioPolicy.Numeral

/-! # Scalars

A scalar may go over several lines. Blanks around a line break are dropped. A single line
feed becomes a space, and of several line breaks the first one is dropped if it is a line
feed. No line of a quoted scalar may be a marker between documents. Texts under
construction stand last character first. -/

namespace AudioPolicy.Yaml

/-! ## Folding -/

/-- The space between two parts of a scalar. -/
inductive Space
  /-- Blanks on one line, last first. -/
  | blanks (cs : List Char)
  /-- Line breaks, the later ones last first. The first one is none if it is escaped. -/
  | breaks (first : Option Char) (others : List Char)
  deriving DecidableEq, Repr

namespace Space

/-- No space at all. -/
def empty : Space := .blanks []

/-- Whether there is none. -/
def isEmpty (space : Space) : Bool := space == empty

/-- Whether there is a line break. -/
def isBroken : Space → Bool
  | .blanks _ => false
  | .breaks .. => true

/-- The space with another blank or line break behind it. -/
def add (c : Char) : Space → Space
  | .blanks cs => if isBreak c then .breaks (some c) [] else .blanks (c :: cs)
  | .breaks first others =>
    if isBreak c then .breaks first (c :: others) else .breaks first others

/-- The text with what the space stands for behind it. -/
def onto (body : List Char) : Space → List Char
  | .blanks cs => cs ++ body
  | .breaks (some '\n') [] => ' ' :: body
  | .breaks (some '\n') others => others ++ body
  | .breaks (some c) others => others ++ c :: body
  | .breaks none others => others ++ body

end Space

/-! ## Quoted scalars -/

/-- A single-quoted scalar up to its closing quote. A quote in it is written twice. -/
def singleQuoted? (space : Space) (body : List Char) (spot : Spot) :
    List Char → Option (String × Place)
  | [] => none
  | c :: cs =>
    if isSpace c then singleQuoted? (space.add c) body (spot.past c) cs
    else if atMarker spot (c :: cs) then none
    else if c = '\'' then
      match cs with
      | '\'' :: cs =>
        singleQuoted? .empty ('\'' :: space.onto body) ((spot.past '\'').past '\'') cs
      | cs => some (String.ofList (space.onto body).reverse, ⟨spot.past c, cs⟩)
    else singleQuoted? .empty (c :: space.onto body) (spot.past c) cs

/-- The character that a short escape stands for. -/
def escape? : Char → Option Char
  | '0' => some '\x00'
  | 'a' => some '\x07'
  | 'b' => some '\x08'
  | 't' => some '\t'
  | '\t' => some '\t'
  | 'n' => some '\n'
  | 'v' => some '\x0b'
  | 'f' => some '\x0c'
  | 'r' => some '\r'
  | 'e' => some '\x1b'
  | ' ' => some ' '
  | '"' => some '"'
  | '/' => some '/'
  | '\\' => some '\\'
  | 'N' => some '\u0085'
  | '_' => some '\u00a0'
  | 'L' => some '\u2028'
  | 'P' => some '\u2029'
  | _ => none

/-- How many hexadecimal digits an escape takes. -/
def escapeWidth? : Char → Option Nat
  | 'x' => some 2
  | 'u' => some 4
  | 'U' => some 8
  | _ => none

/-- What a double-quoted scalar goes on with. -/
inductive Part
  /-- Its text, with the space in front of it. -/
  | text (space : Space)
  /-- So many digits of a number and one more. Those before have a value. -/
  | digits (left value : Nat)

/-- A double-quoted scalar up to its closing quote. An escaped line break joins two lines. -/
def doubleQuoted? (part : Part) (body : List Char) (spot : Spot) :
    List Char → Option (String × Place)
  | [] => none
  | c :: cs =>
    match part with
    | .digits left value =>
      match Numeral.digitIn? 16 c, left with
      | none, _ => none
      | some d, left + 1 => doubleQuoted? (.digits left (16 * value + d)) body (spot.past c) cs
      | some d, 0 =>
        let n := 16 * value + d
        if n.isValidChar then
          doubleQuoted? (.text .empty) (Char.ofNat n :: body) (spot.past c) cs
        else none
    | .text space =>
      if isSpace c then doubleQuoted? (.text (space.add c)) body (spot.past c) cs
      else if atMarker spot (c :: cs) then none
      else if c = '"' then
        some (String.ofList (space.onto body).reverse, ⟨spot.past c, cs⟩)
      else if c = '\\' then
        match cs with
        | [] => none
        | e :: cs =>
          let spot := (spot.past c).past e
          if isBreak e then
            doubleQuoted? (.text (.breaks none [])) (space.onto body) spot cs
          else
            match escapeWidth? e, escape? e with
            | some width, _ =>
              doubleQuoted? (.digits (width - 1) 0) (space.onto body) spot cs
            | none, some e => doubleQuoted? (.text .empty) (e :: space.onto body) spot cs
            | none, none => none
      else doubleQuoted? (.text .empty) (c :: space.onto body) (spot.past c) cs

/-! ## Plain scalars -/

/-- Whether a plain scalar can begin here. A dash, a question mark or a colon has to stand
    in front of text, and the latter two not in a flow collection. -/
def startsPlain (inFlow : Bool) : List Char → Bool
  | [] => false
  | c :: cs =>
    if c = '-' then !atGap cs
    else if c = '?' ∨ c = ':' then !inFlow && !atGap cs
    else !isIndicator c && !isSpace c

/-- Whether a plain scalar ends in front of a character whatever stands between. A colon
    ends it if a gap follows. -/
def endsPlain (inFlow : Bool) (c : Char) (cs : List Char) : Bool :=
  (c == ':' && atGap cs) || (inFlow && isFlow c)

/-- Whether a plain scalar ends behind space. A comment can begin there, and the lines of a
    block have to stand at column `least` or further right. -/
def endsBehindSpace (inFlow : Bool) (least : Nat) (spot : Spot) (cs : List Char) : Bool :=
  cs.head? == some '#' || atMarker spot cs || (!inFlow && spot.column < least)

/-- A plain scalar and the place behind it and the space that follows it. The answer tells
    whether that space holds a line break. In a flow collection a colon in the scalar must
    not stand in front of one of the characters of the collection. The space at the start
    of a line of a block must not be a tab. -/
def plain? (inFlow : Bool) (least : Nat) (space : Space) (body : List Char) (spot : Spot) :
    List Char → Option (String × Bool × Place)
  | [] => some (String.ofList body.reverse, space.isBroken, ⟨spot, []⟩)
  | c :: cs =>
    if isSpace c then
      if c = '\t' && space.isBroken && spot.column < least then none
      else plain? inFlow least (space.add c) body (spot.past c) cs
    else if !space.isEmpty && endsBehindSpace inFlow least spot (c :: cs) then
      some (String.ofList body.reverse, space.isBroken, ⟨spot, c :: cs⟩)
    else if inFlow && c = ':' && cs.head?.any (fun d => isFlow d || d == '?') then none
    else if endsPlain inFlow c cs then
      some (String.ofList body.reverse, space.isBroken, ⟨spot, c :: cs⟩)
    else plain? inFlow least .empty (c :: space.onto body) (spot.past c) cs

end AudioPolicy.Yaml

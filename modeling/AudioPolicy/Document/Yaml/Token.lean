-- SUMMARY: The tokens of YAML texts, with the indentation of blocks made explicit.
import AudioPolicy.Document
import AudioPolicy.Document.Yaml.Scalar

/-! # Tokens

Indentation is turned into tokens: a block collection begins with a token, and it ends
with one in front of the first token that stands further left.

Whether a scalar or a flow collection is a key shows only at the colon behind it. Until
then its place is kept as a candidate, and the colon inserts the token of the key there. A
key stands on one line and takes no more than 1024 characters. Each level of flow
collections has a candidate of its own. -/

namespace AudioPolicy.Yaml

/-- A token. -/
inductive Token
  /-- The marker in front of a document. -/
  | documentStart
  /-- The marker behind a document. -/
  | documentEnd
  /-- A block sequence begins. -/
  | blockList
  /-- A block mapping begins. -/
  | blockMapping
  /-- A block collection ends. -/
  | blockEnd
  /-- The dash in front of an item. -/
  | entry
  /-- A key follows. -/
  | key
  /-- The colon in front of a value. -/
  | value
  | listStart
  | listEnd
  | mappingStart
  | mappingEnd
  | comma
  | scalar (d : Document)

/-- A place where a key may have begun. -/
structure Candidate where
  spot : Spot
  /-- The count of tokens before. -/
  number : Nat
  /-- Whether nothing but a key can stand there. -/
  required : Bool

/-- How long a key may be. -/
def maxKeyLength : Nat := 1024

/-- Whether a colon at a position can belong to a key that began at the candidate. -/
def Candidate.reaches (k : Candidate) (spot : Spot) : Bool :=
  k.spot.line == spot.line && spot.column ≤ k.spot.column + maxKeyLength

/-- How far a text was cut into tokens. -/
structure Scan where
  place : Place
  /-- The columns of the open block collections, innermost first. -/
  indents : List Nat := []
  /-- The candidate of the innermost level of flow collections. -/
  candidate : Option Candidate := none
  /-- The candidates of the levels around it. -/
  outer : List (Option Candidate) := []
  /-- Whether a key may begin here. -/
  keyAllowed : Bool := true
  /-- The tokens so far, last first. -/
  tokens : List Token := []
  /-- The count of the tokens so far. -/
  count : Nat := 0

namespace Scan

/-- Whether a flow collection is open. -/
def inFlow (s : Scan) : Bool := !s.outer.isEmpty

/-- The column of the next character. -/
def column (s : Scan) : Nat := s.place.column

/-! ## Tokens and indentation -/

/-- Adds a token. -/
def emit (s : Scan) (t : Token) : Scan := { s with tokens := t :: s.tokens, count := s.count + 1 }

/-- Inserts a token behind so many tokens. -/
def insert (s : Scan) (number : Nat) (t : Token) : Scan :=
  { s with tokens := s.tokens.insertIdx (s.count - number) t, count := s.count + 1 }

/-- Closes the block collections whose columns `closes` picks, from the innermost one on. -/
def closeBlocks (s : Scan) (closes : Nat → Bool) : Scan :=
  if s.inFlow then s
  else
    let closed := s.indents.takeWhile closes
    { s with indents := s.indents.drop closed.length
             tokens := List.replicate closed.length .blockEnd ++ s.tokens
             count := s.count + closed.length }

/-- Opens a block collection at a column behind so many tokens, unless the innermost one
    stands there or further right. -/
def openBlock (s : Scan) (column number : Nat) (t : Token) : Scan :=
  if s.inFlow || s.indents.head?.any (column ≤ ·) then s
  else { s.insert number t with indents := column :: s.indents }

/-- The place behind `n` characters of one line. -/
def skip (s : Scan) (n : Nat) : Scan :=
  { s with place := ⟨⟨s.place.line, s.place.column + n⟩, s.place.rest.drop n⟩ }

/-! ## Candidates -/

/-- Gives up the candidate. A required one cannot be given up. -/
def dropCandidate? (s : Scan) : Option Scan :=
  if s.candidate.any (·.required) then none else some { s with candidate := none }

/-- Makes the next token a candidate if a key may begin here. -/
def markCandidate? (s : Scan) : Option Scan :=
  if s.keyAllowed then do
    let s ← s.dropCandidate?
    let required := !s.inFlow && s.indents.head? == some s.column
    return { s with candidate := some ⟨s.place.toSpot, s.count, required⟩ }
  else some s

/-! ## Single tokens -/

/-- A marker between documents. It closes all blocks. -/
def marker? (s : Scan) (t : Token) : Option Scan := do
  let s ← (s.closeBlocks fun _ => true).dropCandidate?
  return ({ s with keyAllowed := false }.skip 3).emit t

/-- A flow collection begins. -/
def flowStart? (s : Scan) (t : Token) : Option Scan := do
  let s ← s.markCandidate?
  return ({ s with candidate := none, outer := s.candidate :: s.outer,
                   keyAllowed := true }.skip 1).emit t

/-- A flow collection ends. -/
def flowEnd? (s : Scan) (t : Token) : Option Scan := do
  let s ← s.dropCandidate?
  let s :=
    match s.outer with
    | candidate :: outer => { s with candidate, outer }
    | [] => s
  return ({ s with keyAllowed := false }.skip 1).emit t

/-- A comma. -/
def comma? (s : Scan) : Option Scan := do
  let s ← s.dropCandidate?
  return ({ s with keyAllowed := true }.skip 1).emit .comma

/-- The dash in front of an item. -/
def entry? (s : Scan) : Option Scan :=
  if s.inFlow || s.keyAllowed then do
    let s ← (s.openBlock s.column s.count .blockList).dropCandidate?
    return ({ s with keyAllowed := true }.skip 1).emit .entry
  else none

/-- The question mark in front of a key. -/
def key? (s : Scan) : Option Scan :=
  if s.inFlow || s.keyAllowed then do
    let s ← (s.openBlock s.column s.count .blockMapping).dropCandidate?
    return ({ s with keyAllowed := !s.inFlow }.skip 1).emit .key
  else none

/-- A colon whose key began at a candidate. -/
def valueOf (s : Scan) (k : Candidate) : Scan :=
  let s := (s.insert k.number .key).openBlock k.spot.column k.number .blockMapping
  ({ s with candidate := none, keyAllowed := false }.skip 1).emit .value

/-- A colon without a key, or behind one that a question mark began. -/
def bareValue? (s : Scan) : Option Scan :=
  if s.inFlow || s.keyAllowed then
    let s := s.openBlock s.column s.count .blockMapping
    some (({ s with keyAllowed := !s.inFlow }.skip 1).emit .value)
  else none

/-- The colon in front of a value. -/
def value? (s : Scan) : Option Scan :=
  match s.candidate with
  | some k =>
    if k.reaches s.place.toSpot then some (s.valueOf k)
    else do (← s.dropCandidate?).bareValue?
  | none => s.bareValue?

/-- A quoted scalar, from the text behind its opening quote. -/
def quoted? (s : Scan) (read : Spot → List Char → Option (String × Place)) : Option Scan := do
  let s ← s.markCandidate?
  let opened := s.place.next
  let (text, place) ← read opened.toSpot opened.rest
  return { s with place, keyAllowed := false }.emit (.scalar (.text text))

/-- A plain scalar. A key may begin behind it if it ends at a line break. -/
def plainScalar? (s : Scan) : Option Scan := do
  let s ← s.markCandidate?
  let least := (s.indents.head?.map (· + 1)).getD 0
  let (text, broken, place) ←
    plain? s.inFlow least .empty [] s.place.toSpot s.place.rest
  return { s with place, keyAllowed := broken }.emit (.scalar (.plain text))

/-! ## Texts -/

/-- Passes spaces, comments and line breaks. Tabs are passed only where no key of a block
    may begin. The answer tells whether a key may begin behind them. -/
def gap (inFlow keyAllowed inComment : Bool) (spot : Spot) : List Char → Bool × Place
  | [] => (keyAllowed, ⟨spot, []⟩)
  | c :: cs =>
    if isBreak c then gap inFlow (keyAllowed || !inFlow) false (spot.past c) cs
    else if inComment || c = ' ' || (c = '\t' && (inFlow || !keyAllowed)) then
      gap inFlow keyAllowed inComment (spot.past c) cs
    else if c = '#' then gap inFlow keyAllowed true (spot.past c) cs
    else (keyAllowed, ⟨spot, c :: cs⟩)

/-- The state in front of the next token. -/
def atToken (s : Scan) : Scan :=
  let (keyAllowed, place) :=
    gap s.inFlow s.keyAllowed false s.place.toSpot s.place.rest
  { s with keyAllowed, place }.closeBlocks (place.column < ·)

/-- Reads the token that begins with a character. -/
def token? (s : Scan) (c : Char) (cs : List Char) : Option Scan :=
  if s.column == 0 && c = '%' then none
  else if atMarker s.place.toSpot (c :: cs) then
    s.marker? (if c = '-' then .documentStart else .documentEnd)
  else if c = '-' && atGap cs then s.entry?
  else if c = '?' && (s.inFlow || atGap cs) then s.key?
  else if c = ':' && (s.inFlow || atGap cs) then s.value?
  else
    match c with
    | '[' => s.flowStart? .listStart
    | '\x7b' => s.flowStart? .mappingStart
    | ']' => s.flowEnd? .listEnd
    | '\x7d' => s.flowEnd? .mappingEnd
    | ',' => s.comma?
    | '\'' => s.quoted? (singleQuoted? .empty [])
    | '"' => s.quoted? (doubleQuoted? (.text .empty) [])
    | c => if startsPlain s.inFlow (c :: cs) then s.plainScalar? else none

/-- Reads all tokens. The fuel bounds their number. -/
def run? (fuel : Nat) (s : Scan) : Option Scan :=
  let s := s.atToken
  match fuel, s.place.rest with
  | _, [] => (s.closeBlocks fun _ => true).dropCandidate?
  | 0, _ => none
  | fuel + 1, c :: cs =>
    match s.token? c cs with
    | some s => run? fuel s
    | none => none

end Scan

/-- The place of the first token. A mark of the order of bytes takes a column. -/
def start : List Char → Place
  | '\uFEFF' :: cs => ⟨⟨0, 1⟩, cs⟩
  | cs => ⟨⟨0, 0⟩, cs⟩

/-- The tokens of a text. Every character has to be printable. -/
def tokens? (text : String) : Option (List Token) :=
  let cs := unifyBreaks [] text.toList
  if cs.all isPrintable then
    ((Scan.run? cs.length { place := start cs }).map fun s => s.tokens.reverse)
  else none

end AudioPolicy.Yaml

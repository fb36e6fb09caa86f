-- SUMMARY: Reading documents from JSON text.
import AudioPolicy.Document.Json.Number
import AudioPolicy.Document.Json.Quoted

/-! # Reading JSON

The text is read token by token. A stack holds the collections that are still open, so
that nesting is limited by what may be read out of a document and not by the reader: a
collection that is nested too deep is checked like any other, and it is flawed. So is an
object with a flawed key. -/

namespace AudioPolicy.Json

/-! ## Tokens -/

/-- A token. -/
inductive Token
  | listStart
  | listEnd
  | objectStart
  | objectEnd
  | comma
  | colon
  /-- A quoted text, unless it is flawed. -/
  | text (s : Option String)
  /-- A scalar that is not a text. -/
  | scalar (d : Document)

/-- Whether a character may stand between the tokens. -/
def isSpace (c : Char) : Bool := c == ' ' || c == '\t' || c == '\n' || c == '\r'

/-- The text behind the space. -/
def skipSpace (cs : List Char) : List Char := cs.dropWhile isSpace

/-- The text behind a fixed word. -/
def behind? (word : String) (cs : List Char) : Option (List Char) :=
  if word.toList.isPrefixOf cs then some (cs.drop word.length) else none

/-- The token at the start of a text, and the rest of the text. -/
def token? : List Char → Option (Token × List Char)
  | '[' :: cs => some (.listStart, cs)
  | ']' :: cs => some (.listEnd, cs)
  | '\x7b' :: cs => some (.objectStart, cs)
  | '\x7d' :: cs => some (.objectEnd, cs)
  | ',' :: cs => some (.comma, cs)
  | ':' :: cs => some (.colon, cs)
  | '"' :: cs => (quoted? cs).map fun (s, rest) => (.text s, rest)
  | 'n' :: cs => (behind? "ull" cs).map fun rest => (.scalar .null, rest)
  | 't' :: cs => (behind? "rue" cs).map fun rest => (.scalar (.bool true), rest)
  | 'f' :: cs => (behind? "alse" cs).map fun rest => (.scalar (.bool false), rest)
  | cs => (number? cs).map fun (d, rest) => (.scalar d, rest)

/-! ## Open collections -/

/-- A collection that is still open. What it holds so far stands last first. -/
inductive Frame
  | list (items : List Document)
  /-- An object with its last key. A key that is flawed is none. -/
  | object (fields : List (Option String × Document)) (key : Option String)

namespace Frame

/-- How deep collections may be nested. -/
def maxDepth : Nat := 127

/-- The collection with a value behind what it holds. -/
def put (d : Document) : Frame → Frame
  | .list items => .list (d :: items)
  | .object fields key => .object ((key, d) :: fields) key

/-- The fields with their keys, first one first, in front of `fields`. There are none if a
    key is flawed. -/
def keyed? (fields : List (String × Document)) :
    List (Option String × Document) → Option (List (String × Document))
  | [] => some fields
  | (some key, d) :: others => keyed? ((key, d) :: fields) others
  | (none, _) :: _ => none

/-- The finished collection, in which `depth` collections were open. -/
def document (depth : Nat) (frame : Frame) : Document :=
  if maxDepth < depth then .flawed
  else
    match frame with
    | .list items => .list items.reverse
    | .object fields _ =>
      match keyed? [] fields with
      | some fields => .object fields
      | none => .flawed

end Frame

/-- What may come next. -/
inductive Awaited
  /-- A value. -/
  | value
  /-- The first item of a list, or its end. -/
  | firstItem
  /-- A key. -/
  | key
  /-- The first key of an object, or its end. -/
  | firstKey
  | colon
  /-- A comma or the end of the innermost collection. Outside of all collections the text
      ends. -/
  | more

/-- How far a text was read. -/
structure Progress where
  /-- The open collections, innermost first. -/
  frames : List Frame := []
  /-- The count of the open collections. -/
  depth : Nat := 0
  /-- The document, once it is complete. -/
  root : Document := .null
  awaited : Awaited := .value

namespace Progress

/-- A complete value is read. -/
def put (p : Progress) (d : Document) : Progress :=
  match p.frames with
  | [] => { p with root := d, awaited := .more }
  | frame :: frames => { p with frames := frame.put d :: frames, awaited := .more }

/-- A collection begins. -/
def push (p : Progress) (frame : Frame) (awaited : Awaited) : Progress :=
  { p with frames := frame :: p.frames, depth := p.depth + 1, awaited }

/-- The innermost collection ends. -/
def pop (p : Progress) : Progress :=
  match p.frames with
  | [] => p
  | frame :: frames =>
    ({ p with frames, depth := p.depth - 1 } : Progress).put (frame.document p.depth)

/-- A token begins a value. -/
def begin? (p : Progress) : Token → Option Progress
  | .listStart => some (p.push (.list []) .firstItem)
  | .objectStart => some (p.push (.object [] none) .firstKey)
  | .text (some s) => some (p.put (.text s))
  | .text none => some (p.put .flawed)
  | .scalar d => some (p.put d)
  | _ => none

/-- The key of a field is read. -/
def key? (p : Progress) (key : Option String) : Option Progress :=
  match p.frames with
  | .object fields _ :: frames =>
    some { p with frames := .object fields key :: frames, awaited := .colon }
  | _ => none

/-- A token behind a complete value. -/
def more? (p : Progress) (t : Token) : Option Progress :=
  match p.frames, t with
  | .list _ :: _, .comma => some { p with awaited := .value }
  | .list _ :: _, .listEnd => some p.pop
  | .object .. :: _, .comma => some { p with awaited := .key }
  | .object .. :: _, .objectEnd => some p.pop
  | _, _ => none

/-- The next token is read. -/
def next? (p : Progress) (t : Token) : Option Progress :=
  match p.awaited, t with
  | .value, t => p.begin? t
  | .firstItem, .listEnd => some p.pop
  | .firstItem, t => p.begin? t
  | .firstKey, .objectEnd => some p.pop
  | .firstKey, .text s => p.key? s
  | .key, .text s => p.key? s
  | .colon, .colon => some { p with awaited := .value }
  | .more, t => p.more? t
  | _, _ => none

/-- The document that was read. -/
def document? (p : Progress) : Option Document :=
  match p.frames, p.awaited with
  | [], .more => some p.root
  | _, _ => none

end Progress

/-! ## Texts -/

/-- Reads a text to its end. The fuel bounds the number of tokens. -/
def readFrom? (fuel : Nat) (p : Progress) (cs : List Char) : Option Document :=
  match fuel, skipSpace cs with
  | _, [] => p.document?
  | 0, _ => none
  | fuel + 1, cs =>
    match token? cs with
    | none => none
    | some (t, rest) =>
      match p.next? t with
      | none => none
      | some p => readFrom? fuel p rest

/-- Reads a whole text as one value. -/
def read? (text : String) : Option Document :=
  let cs := text.toList
  readFrom? cs.length {} cs

end AudioPolicy.Json

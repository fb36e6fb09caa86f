-- SUMMARY: Reading documents from YAML text.
import AudioPolicy.Document.Yaml.Token

/-! # Reading YAML

The tokens are read one by one. A stack holds the collections that are still open, so that
nesting is limited by what may be read out of a document and not by the reader: a collection
that is nested too deep is checked like any other, and it is flawed. A value that is left
out is an empty plain scalar. Plain scalars stay without a type.

Anchors, tags, directives and block scalars have no tokens, and a text holds at most one
document. -/

namespace AudioPolicy.Yaml

/-! ## Open collections -/

/-- How a list is written. -/
inductive ListStyle
  /-- Indented items with a dash each. -/
  | block
  /-- Items of a block that stand right below the key that they belong to. Such a list has no
      end of its own. -/
  | bare
  /-- Items between brackets. -/
  | flow
  deriving DecidableEq, Repr

/-- How a mapping is written. -/
inductive MappingStyle
  | block
  /-- Fields between braces. -/
  | flow
  /-- A single field that is an item of a list between brackets. It has no end of its own. -/
  | single
  deriving DecidableEq, Repr

/-- What a mapping goes on with. -/
inductive FieldPart
  /-- A field, or the end. -/
  | field
  /-- The key behind a question mark. -/
  | key
  /-- The colon behind a key. -/
  | colon (key : Document)
  /-- The value of a key. -/
  | value (key : Document)
  /-- A comma, or the end. -/
  | comma

/-- A collection that is still open. What it holds so far stands last first. -/
inductive Frame
  /-- A list, with whether an item comes next. -/
  | list (style : ListStyle) (items : List Document) (wantsItem : Bool)
  | mapping (style : MappingStyle) (fields : List (Document × Document)) (part : FieldPart)

/-- The value that is left out. -/
def omitted : Document := .plain ""

/-- What a mapping goes on with behind a complete field. -/
def MappingStyle.behindField : MappingStyle → FieldPart
  | .block => .field
  | .flow | .single => .comma

namespace Frame

/-- How deep collections may be nested. -/
def maxDepth : Nat := 128

/-- The collection with a value behind what it holds. A key of a flow mapping without a
    question mark in front and a colon behind it has no value. -/
def put (d : Document) : Frame → Frame
  | .list style items _ => .list style (d :: items) false
  | .mapping style fields part =>
    match part with
    | .key => .mapping style fields (.colon d)
    | .colon key | .value key => .mapping style ((key, d) :: fields) style.behindField
    | .field | .comma => .mapping style ((d, omitted) :: fields) style.behindField

/-- The finished collection, in which `depth` collections were open. -/
def document (depth : Nat) (frame : Frame) : Document :=
  if maxDepth < depth then .flawed
  else
    match frame with
    | .list _ items _ => .list items.reverse
    | .mapping _ fields _ => .mapping fields.reverse

/-- What a token does to the innermost collection. -/
inductive Move
  /-- The token belongs to the collection. -/
  | goOn (frame : Frame)
  /-- The token ends the collection. -/
  | close (frame : Frame)
  /-- The token begins a value in the collection. -/
  | begin

/-- What a token does to a list with a dash for each item. -/
def moveInBlockList? (style : ListStyle) (items : List Document) (wantsItem : Bool) :
    Token → Option Move
  | .entry => some (.goOn (.list style (if wantsItem then omitted :: items else items) true))
  | .blockEnd => some (.close (.list style (if wantsItem then omitted :: items else items) false))
  | _ => if wantsItem then some .begin else none

/-- What a token does to a list between brackets. -/
def moveInFlowList? (items : List Document) (wantsItem : Bool) : Token → Option Move
  | .listEnd => some (.close (.list .flow items false))
  | .comma => if wantsItem then some .begin else some (.goOn (.list .flow items true))
  | _ => if wantsItem then some .begin else none

/-- What a token does to a block mapping. -/
def moveInBlockMapping? (fields : List (Document × Document)) (part : FieldPart) (t : Token) :
    Option Move :=
  let goOn (fields : List (Document × Document)) (part : FieldPart) :=
    some (Move.goOn (.mapping .block fields part))
  let close (fields : List (Document × Document)) :=
    some (Move.close (.mapping .block fields .field))
  match part, t with
  | .field, .key => goOn fields .key
  | .field, .blockEnd => close fields
  | .key, .key => goOn ((omitted, omitted) :: fields) .key
  | .key, .value => goOn fields (.value omitted)
  | .key, .blockEnd => close ((omitted, omitted) :: fields)
  | .key, _ => some .begin
  | .colon key, .value => goOn fields (.value key)
  | .colon key, .key => goOn ((key, omitted) :: fields) .key
  | .colon key, .blockEnd => close ((key, omitted) :: fields)
  | .value _, .value => none
  | .value key, .key => goOn ((key, omitted) :: fields) .key
  | .value key, .blockEnd => close ((key, omitted) :: fields)
  | .value _, _ => some .begin
  | _, _ => none

/-- What a token does to a mapping between braces. -/
def moveInFlowMapping? (fields : List (Document × Document)) (part : FieldPart) (t : Token) :
    Option Move :=
  let goOn (fields : List (Document × Document)) (part : FieldPart) :=
    some (Move.goOn (.mapping .flow fields part))
  let close (fields : List (Document × Document)) :=
    some (Move.close (.mapping .flow fields .comma))
  match part, t with
  | .field, .key => goOn fields .key
  | .field, .mappingEnd => close fields
  | .field, _ => some .begin
  | .key, .value => goOn fields (.value omitted)
  | .key, .comma => goOn ((omitted, omitted) :: fields) .field
  | .key, .mappingEnd => close ((omitted, omitted) :: fields)
  | .key, _ => some .begin
  | .colon key, .value => goOn fields (.value key)
  | .colon key, .comma => goOn ((key, omitted) :: fields) .field
  | .colon key, .mappingEnd => close ((key, omitted) :: fields)
  | .colon _, _ => none
  | .value key, .comma => goOn ((key, omitted) :: fields) .field
  | .value key, .mappingEnd => close ((key, omitted) :: fields)
  | .value _, _ => some .begin
  | .comma, .comma => goOn fields .field
  | .comma, .mappingEnd => close fields
  | .comma, _ => none

/-- What a token does to a single field. A colon, a comma or a closing bracket that stands
    where the key should be belongs to the field. -/
def moveInSingle? (fields : List (Document × Document)) (part : FieldPart) (t : Token) :
    Option Move :=
  let goOn (part : FieldPart) := some (Move.goOn (.mapping .single fields part))
  match part, t with
  | .key, .value | .key, .comma | .key, .listEnd => goOn (.colon omitted)
  | .key, _ => some .begin
  | .colon key, .value => goOn (.value key)
  | .value _, _ => some .begin
  | _, _ => none

/-- What a token does to the innermost collection. -/
def move? (t : Token) : Frame → Option Move
  | .list .flow items wantsItem => moveInFlowList? items wantsItem t
  | .list style items wantsItem => moveInBlockList? style items wantsItem t
  | .mapping .block fields part => moveInBlockMapping? fields part t
  | .mapping .flow fields part => moveInFlowMapping? fields part t
  | .mapping .single fields part => moveInSingle? fields part t

/-- The finished collection if it has no end of its own and a token does not belong to it. -/
def ended? (t : Token) : Frame → Option Frame
  | .list .bare items wantsItem =>
    match wantsItem, t with
    | true, .key | true, .value | true, .blockEnd => some (.list .bare (omitted :: items) false)
    | true, _ | false, .entry => none
    | false, _ => some (.list .bare items false)
  | .mapping .single fields part =>
    match part, t with
    | .colon _, .value => none
    | .colon key, _ | .value key, .comma | .value key, .listEnd =>
      some (.mapping .single ((key, omitted) :: fields) .comma)
    | .comma, _ => some (.mapping .single fields .comma)
    | _, _ => none
  | _ => none

end Frame

/-! ## Trees -/

/-- How far a document was read. -/
structure Tree where
  /-- The open collections, innermost first. -/
  frames : List Frame := []
  /-- The count of the open collections. -/
  depth : Nat := 0
  /-- Whether there was a marker in front of the document. -/
  marked : Bool := false
  /-- The document, once it is complete. -/
  root : Option Document := none

namespace Tree

/-- A complete value is read. -/
def put (tree : Tree) (d : Document) : Tree :=
  match tree.frames with
  | [] => { tree with root := some d }
  | frame :: frames => { tree with frames := frame.put d :: frames }

/-- A collection begins. -/
def push (tree : Tree) (frame : Frame) : Tree :=
  { tree with frames := frame :: tree.frames, depth := tree.depth + 1 }

/-- The innermost collection ends as `frame`. -/
def pop (tree : Tree) (frame : Frame) : Tree :=
  ({ tree with frames := tree.frames.tail, depth := tree.depth - 1 } : Tree).put
    (frame.document tree.depth)

/-- The innermost collection goes on as `frame`. -/
def replace (tree : Tree) (frame : Frame) : Tree :=
  { tree with frames := frame :: tree.frames.tail }

/-- A token begins a value. A dash does so right below a key, and a key in a list between
    brackets. -/
def begin? (tree : Tree) (t : Token) : Option Tree :=
  match t, tree.frames with
  | .scalar d, _ => some (tree.put d)
  | .listStart, _ => some (tree.push (.list .flow [] true))
  | .mappingStart, _ => some (tree.push (.mapping .flow [] .field))
  | .blockList, _ => some (tree.push (.list .block [] false))
  | .blockMapping, _ => some (tree.push (.mapping .block [] .field))
  | .entry, .mapping .block _ _ :: _ => some (tree.push (.list .bare [] true))
  | .key, .list .flow _ _ :: _ => some (tree.push (.mapping .single [] .key))
  | _, _ => none

/-- A token outside of all collections. -/
def outside? (tree : Tree) (t : Token) : Option Tree :=
  match t, tree.root with
  | .documentStart, none => if tree.marked then none else some { tree with marked := true }
  | .documentEnd, none => if tree.marked then some { tree with root := some omitted } else none
  | .documentEnd, some _ => some tree
  | t, none => tree.begin? t
  | _, some _ => none

/-- The tree without an innermost collection that ends in front of a token. -/
def settled (tree : Tree) (t : Token) : Tree :=
  match tree.frames with
  | frame :: _ =>
    match frame.ended? t with
    | some frame => tree.pop frame
    | none => tree
  | [] => tree

/-- The next token is read. -/
def next? (tree : Tree) (t : Token) : Option Tree :=
  let tree := tree.settled t
  match tree.frames with
  | [] => tree.outside? t
  | frame :: _ =>
    match frame.move? t with
    | some (.goOn frame) => some (tree.replace frame)
    | some (.close frame) => some (tree.pop frame)
    | some .begin => tree.begin? t
    | none => none

/-- Reads tokens to their end. -/
def readAll? (tree : Tree) : List Token → Option Tree
  | [] => some tree
  | t :: ts =>
    match tree.next? t with
    | some tree => readAll? tree ts
    | none => none

/-- The document that was read. An empty text counts as an omitted value. -/
def document? (tree : Tree) : Option Document :=
  match tree.frames with
  | [] => some (tree.root.getD omitted)
  | _ :: _ => none

end Tree

/-- Reads a whole text as one document. -/
def read? (text : String) : Option Document := do
  let tokens ← tokens? text
  let tree ← ({} : Tree).readAll? tokens
  tree.document?

end AudioPolicy.Yaml

-- SUMMARY: Writing documents as JSON text.
import AudioPolicy.Decimal
import AudioPolicy.Document
import AudioPolicy.Document.Json.Quoted

/-! # Writing JSON

A document is written either without any space or indented by two spaces. Numbers without
digits have no text in JSON, and neither have parts that are flawed and objects whose keys
are documents. -/

namespace AudioPolicy.Json

/-- The text of a scalar. What has no text is written as null. -/
def scalar : Document → String
  | .null => "null"
  | .bool b => if b then "true" else "false"
  | .integer n => toString n
  | .real x => if x.isNaN || x.isInf then "null" else Decimal.scientific x
  | .text s => quote s
  | .plain s => quote s
  | .list _ | .object _ | .mapping _ | .flawed => "null"

mutual

/-- The text of a document without any space. -/
def compact : Document → String
  | .list items => "[" ++ ",".intercalate (compactItems items) ++ "]"
  | .object fields => "\x7b" ++ ",".intercalate (compactFields fields) ++ "\x7d"
  | d => scalar d

/-- The texts of the items of a list. -/
def compactItems : List Document → List String
  | [] => []
  | d :: ds => compact d :: compactItems ds

/-- The texts of the fields of an object. -/
def compactFields : List (String × Document) → List String
  | [] => []
  | (key, d) :: fields => (quote key ++ ":" ++ compact d) :: compactFields fields

end

/-- A line break with an indentation of two spaces for each level. -/
def newline (level : Nat) : String := "\n" ++ String.ofList (List.replicate (2 * level) ' ')

/-- Parts between brackets, each on a line of its own. -/
def bracket (open_ close : String) (level : Nat) (parts : List String) : String :=
  if parts.isEmpty then open_ ++ close
  else
    open_ ++ newline (level + 1) ++ ("," ++ newline (level + 1)).intercalate parts
      ++ newline level ++ close

mutual

/-- The text of a document on several lines, as it stands at a level of indentation. -/
def indented (level : Nat) : Document → String
  | .list items => bracket "[" "]" level (indentedItems (level + 1) items)
  | .object fields => bracket "\x7b" "\x7d" level (indentedFields (level + 1) fields)
  | d => scalar d

/-- The texts of the items of a list. -/
def indentedItems (level : Nat) : List Document → List String
  | [] => []
  | d :: ds => indented level d :: indentedItems level ds

/-- The texts of the fields of an object. -/
def indentedFields (level : Nat) : List (String × Document) → List String
  | [] => []
  | (key, d) :: fields =>
    (quote key ++ ": " ++ indented level d) :: indentedFields level fields

end

end AudioPolicy.Json

-- SUMMARY: Loading typed values from JSON and YAML texts and from files.
import AudioPolicy.Document.Json.Reader
import AudioPolicy.Document.Yaml.Reader
import AudioPolicy.Schema.Configuration

/-! # Loading

A value is loaded by reading a text as a document and the document as a value. A file is
JSON if the part of its name behind the last dot is `json`, and YAML otherwise. Files come
from a function, so that loading does not depend on where they are kept. -/

namespace AudioPolicy.Loading

/-! ## Texts -/

/-- Loads a value from JSON text. -/
def ofJson {α : Type} [OfDocument α] (text : String) : Except Error α :=
  match Json.read? text with
  | none => .error (.malformedJson "not a JSON text")
  | some d =>
    match decode .typed d with
    | .ok a => .ok a
    | .error m => .error (.malformedJson m.message)

/-- Loads a value from YAML text. -/
def ofYaml {α : Type} [OfDocument α] (text : String) : Except Error α :=
  match Yaml.read? text with
  | none => .error (.malformedYaml "not a YAML text")
  | some d =>
    match decode .untyped d with
    | .ok a => .ok a
    | .error m => .error (.malformedYaml m.message)

/-! ## Files -/

/-- What a file holds, or why it cannot be read. -/
abbrev Files := String → Except String String

/-- The reason why a file that does not exist cannot be read. -/
def noSuchFile : String := "No such file or directory (os error 2)"

/-- The part of a file name behind the last dot, if something stands before the dot. -/
def extension? (path : String) : Option String :=
  let name := ((path.splitOn "/").filter fun part => part != "").getLast?.getD ""
  match (name.splitOn ".").reverse with
  | last :: before :: others =>
    if before = "" ∧ others.isEmpty then none
    else if name = ".." then none
    else some last
  | _ => none

/-- Loads a value from a file. -/
def ofFile {α : Type} [OfDocument α] (files : Files) (path : String) : Except Error α :=
  match files path with
  | .error reason => .error (.unreadableFile reason)
  | .ok text => if extension? path = some "json" then ofJson text else ofYaml text

/-- The store for a configuration file. The reason for a failure names the file. -/
def storeOfFile (files : Files) (path : String) : Logged Store :=
  match ofFile files path with
  | .ok c => Store.ofConfiguration c
  | .error e => Store.failed (path ++ ": " ++ e.message)

end AudioPolicy.Loading

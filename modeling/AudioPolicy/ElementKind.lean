-- SUMMARY: The kinds of elements in the audio graph, and where a request comes from.
import AudioPolicy.Spelling

/-! # Kinds of elements

Sinks and sources are the ends of a connection. Domains own them. A gateway is a
sink of one domain joined with a source of another. A class groups connections.
Names are unique only within a kind. -/

namespace AudioPolicy

/-- The kind of an element. -/
inductive ElementKind
  | sink | source | domain | gateway | class_ | connection
  deriving DecidableEq, Repr

instance : Spelled ElementKind where
  all := [.sink, .source, .domain, .gateway, .class_, .connection]
  word
    | .sink => "sink"
    | .source => "source"
    | .domain => "domain"
    | .gateway => "gateway"
    | .class_ => "class"
    | .connection => "connection"

/-- The lower-case noun for a kind, as messages use it. -/
def ElementKind.noun (kind : ElementKind) : String := Spelled.word kind

/-- Who raised a trigger. -/
inductive Origin
  /-- A command interface that a user operates. -/
  | user
  /-- A routing domain. -/
  | system
  deriving DecidableEq, Repr

instance : Spelled Origin where
  all := [.user, .system]
  word
    | .user => "user"
    | .system => "system"

/-- Who makes a declared element known to the routing side. -/
inductive Registration
  /-- The domain that owns the element. -/
  | domain
  /-- The controller, once the element's domain is present. -/
  | controller
  deriving DecidableEq, Repr, Inhabited

instance : Spelled Registration where
  all := [.domain, .controller]
  word
    | .domain => "domain"
    | .controller => "controller"

end AudioPolicy

-- SUMMARY: Categories: which elements a call starts from and which it is applied to.
import AudioPolicy.ElementKind

/-! # Categories

The mandatory argument of a call selects elements of the category's subject kind.
The function is applied to elements of its target kind. For categories such as
`CLASS_OF_SINK` a relation leads from the subjects to the targets. The trigger
and the system as a whole are categories without elements. -/

namespace AudioPolicy

/-- What a call is about. -/
inductive Category
  | sink | source | class_ | domain | connection
  | connectionOfClass | connectionOfSource | connectionOfSink
  | classOfSource | classOfSink | domainOfSource | domainOfSink
  | sourceOfClass | sinkOfClass
  /-- The trigger itself. -/
  | user
  /-- The system as a whole. -/
  | system
  deriving DecidableEq, Repr

namespace Category

instance : Spelled Category where
  all := [.sink, .source, .class_, .domain, .connection, .connectionOfClass,
    .connectionOfSource, .connectionOfSink, .classOfSource, .classOfSink, .domainOfSource,
    .domainOfSink, .sourceOfClass, .sinkOfClass, .user, .system]
  word
    | .sink => "SINK"
    | .source => "SOURCE"
    | .class_ => "CLASS"
    | .domain => "DOMAIN"
    | .connection => "CONNECTION"
    | .connectionOfClass => "CONNECTION_OF_CLASS"
    | .connectionOfSource => "CONNECTION_OF_SOURCE"
    | .connectionOfSink => "CONNECTION_OF_SINK"
    | .classOfSource => "CLASS_OF_SOURCE"
    | .classOfSink => "CLASS_OF_SINK"
    | .domainOfSource => "DOMAIN_OF_SOURCE"
    | .domainOfSink => "DOMAIN_OF_SINK"
    | .sourceOfClass => "SOURCE_OF_CLASS"
    | .sinkOfClass => "SINK_OF_CLASS"
    | .user => "USER"
    | .system => "SYSTEM"

/-- The name of a category as messages use it. -/
def title : Category → String
  | .sink => "Sink"
  | .source => "Source"
  | .class_ => "Class"
  | .domain => "Domain"
  | .connection => "Connection"
  | .connectionOfClass => "ConnectionOfClass"
  | .connectionOfSource => "ConnectionOfSource"
  | .connectionOfSink => "ConnectionOfSink"
  | .classOfSource => "ClassOfSource"
  | .classOfSink => "ClassOfSink"
  | .domainOfSource => "DomainOfSource"
  | .domainOfSink => "DomainOfSink"
  | .sourceOfClass => "SourceOfClass"
  | .sinkOfClass => "SinkOfClass"
  | .user => "User"
  | .system => "System"

/-- The kind of element that the mandatory argument names. -/
def subject? : Category → Option ElementKind
  | .sink | .classOfSink | .domainOfSink | .connectionOfSink => some .sink
  | .source | .classOfSource | .domainOfSource | .connectionOfSource => some .source
  | .class_ | .connectionOfClass | .sourceOfClass | .sinkOfClass => some .class_
  | .domain => some .domain
  | .connection => some .connection
  | .user | .system => none

/-- The kind of element that the function is applied to. -/
def target? : Category → Option ElementKind
  | .sink | .sinkOfClass => some .sink
  | .source | .sourceOfClass => some .source
  | .class_ | .classOfSink | .classOfSource => some .class_
  | .domain | .domainOfSink | .domainOfSource => some .domain
  | .connection | .connectionOfClass | .connectionOfSource | .connectionOfSink =>
    some .connection
  | .user | .system => none

end Category

/-- How the mandatory argument selects elements. -/
inductive Selector
  /-- The element that the trigger is about. -/
  | requesting
  /-- Every element that is registered or declared. -/
  | all
  /-- The element, or the value, with this text. -/
  | name (text : String)
  deriving DecidableEq, Repr

/-- The selector that a resolved argument denotes. A quoted text is always a name. -/
def Selector.ofText (text : String) (quoted : Bool) : Selector :=
  if quoted then .name text
  else if text = "REQUESTING" then .requesting
  else if text = "ALL" then .all
  else .name text

end AudioPolicy

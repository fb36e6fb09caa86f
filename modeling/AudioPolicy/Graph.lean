-- SUMMARY: The audio graph and every way to read it.
import AudioPolicy.Connection
import AudioPolicy.ElementKind
import AudioPolicy.Property

/-! # The audio graph

The graph holds what is registered at a moment: domains, sinks, sources,
gateways, classes, main connections and system properties. Every lookup by name
finds the first element with that name. -/

namespace AudioPolicy

/-- A registered sink, source or gateway. -/
structure Element where
  name : String
  /-- The owning domain, for a gateway the controlling one. -/
  domain : String := ""
  class_ : String := ""
  availability : Availability := {}
  volume : Int16 := 0
  mainVolume : Int16 := 0
  volumeLimit : Option Int16 := none
  muteState : MuteState := .unknown
  interruptState : InterruptState := .unknown
  /-- The state code of a source. -/
  state : Int16 := 0
  mainSoundProperties : List Property := []
  soundProperties : List Property := []
  notifications : List NotificationConfiguration := []
  mainNotifications : List NotificationConfiguration := []
  deriving DecidableEq, Repr

/-- A registered domain. -/
structure Domain where
  name : String
  /-- The state code. -/
  state : Int16 := 0
  registrationComplete : Bool := false
  deriving DecidableEq, Repr

/-- The audio graph at a moment. -/
structure Graph where
  domains : List Domain := []
  sinks : List Element := []
  sources : List Element := []
  gateways : List Element := []
  classes : List String := []
  /-- Oldest first. -/
  connections : List Connection := []
  systemProperties : List Property := []
  deriving DecidableEq, Repr, Inhabited

namespace Graph

/-! ## Elements -/

/-- The registered sinks, sources or gateways. Other kinds have none. -/
def elements (g : Graph) : ElementKind → List Element
  | .sink => g.sinks
  | .source => g.sources
  | .gateway => g.gateways
  | .domain | .class_ | .connection => []

/-- The first element of a kind with a name. -/
def element? (g : Graph) (kind : ElementKind) (name : String) : Option Element :=
  (g.elements kind).find? fun e => e.name == name

/-- The first domain with a name. -/
def domain? (g : Graph) (name : String) : Option Domain :=
  g.domains.find? fun d => d.name == name

/-- The names of everything registered of a kind, in graph order. -/
def names (g : Graph) : ElementKind → List String
  | .domain => g.domains.map (·.name)
  | .class_ => g.classes
  | .connection => g.connections.map (·.name)
  | .sink => g.sinks.map (·.name)
  | .source => g.sources.map (·.name)
  | .gateway => g.gateways.map (·.name)

/-- Whether something of a kind is registered under a name. -/
def isRegistered (g : Graph) (kind : ElementKind) (name : String) : Bool :=
  (g.names kind).contains name

/-- The names of the elements of a kind that a domain owns. -/
def namesInDomain (g : Graph) (domain : String) (kind : ElementKind) : List String :=
  ((g.elements kind).filter fun e => e.domain == domain).map (·.name)

/-- The class with which an element registered, if it gave one. -/
def classOf? (g : Graph) (kind : ElementKind) (name : String) : Option String :=
  ((g.element? kind name).map (·.class_)).filter fun c => c != ""

/-- The availability of a sink or source. -/
def availability? (g : Graph) (kind : ElementKind) (name : String) : Option Availability :=
  (g.element? kind name).map (·.availability)

/-- The mute state of a sink. -/
def muteState? (g : Graph) (sink : String) : Option MuteState :=
  (g.element? .sink sink).map (·.muteState)

/-- The interrupt state of a source. -/
def interruptState? (g : Graph) (source : String) : Option InterruptState :=
  (g.element? .source source).map (·.interruptState)

/-- The state code of a domain or of another element. -/
def stateCode? (g : Graph) : ElementKind → String → Option Int16
  | .domain, name => (g.domain? name).map (·.state)
  | kind, name => (g.element? kind name).map (·.state)

/-- The volume of a sink or source. -/
def volume? (g : Graph) (kind : ElementKind) (name : String) : Option Int16 :=
  (g.element? kind name).map (·.volume)

/-- The main volume of a sink. -/
def mainVolume? (g : Graph) (sink : String) : Option Int16 :=
  (g.element? .sink sink).map (·.mainVolume)

/-- The volume limit in force for an element. -/
def volumeLimit? (g : Graph) (kind : ElementKind) (name : String) : Option Int16 :=
  (g.element? kind name).bind (·.volumeLimit)

/-- Whether a domain with this name has completed its registration. -/
def isRegistrationComplete (g : Graph) (domain : String) : Bool :=
  g.domains.any fun d => d.name == domain && d.registrationComplete

/-! ## Properties and notifications -/

/-- The main sound properties of an element, none if it is not registered. -/
def mainSoundProperties (g : Graph) (kind : ElementKind) (name : String) : List Property :=
  ((g.element? kind name).map (·.mainSoundProperties)).getD []

/-- The value of one main sound property. -/
def mainSoundProperty? (g : Graph) (kind : ElementKind) (name : String) (type : Int16) :
    Option Int16 :=
  (g.element? kind name).bind fun e => Property.valueOf? e.mainSoundProperties type

/-- The value of one sound property. -/
def soundProperty? (g : Graph) (kind : ElementKind) (name : String) (type : Int16) :
    Option Int16 :=
  (g.element? kind name).bind fun e => Property.valueOf? e.soundProperties type

/-- The value of one system property. -/
def systemProperty? (g : Graph) (type : Int16) : Option Int16 :=
  Property.valueOf? g.systemProperties type

/-- The notification configurations of an element. -/
def notifications (g : Graph) (kind : ElementKind) (name : String) :
    List NotificationConfiguration :=
  ((g.element? kind name).map (·.notifications)).getD []

/-- The main notification configurations of an element. -/
def mainNotifications (g : Graph) (kind : ElementKind) (name : String) :
    List NotificationConfiguration :=
  ((g.element? kind name).map (·.mainNotifications)).getD []

/-! ## Connections -/

/-- The connections that a filter selects, in an order. -/
def connectionsBy (g : Graph) (filter : Connection.Filter) (order : Connection.Order) :
    List Connection :=
  order.arrange (g.connections.filter filter.selects)

/-- The oldest connection with a name. -/
def connection? (g : Graph) (name : String) : Option Connection :=
  g.connections.find? fun c => c.name == name

end Graph
end AudioPolicy

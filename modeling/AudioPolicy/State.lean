-- SUMMARY: The states that elements and connections report, with their words and codes.
import AudioPolicy.Spelling

/-! # States

Each state is written as a word in documents and as a numeric code in
conditions and in action parameters. The first state of a type is the one an
element has when nothing else is known. -/

namespace AudioPolicy

/-- Whether a sink or source can be used. -/
inductive AvailabilityState
  | unknown | available | unavailable
  deriving DecidableEq, Repr, Inhabited

instance : Spelled AvailabilityState where
  all := [.unknown, .available, .unavailable]
  word
    | .unknown => "unknown"
    | .available => "available"
    | .unavailable => "unavailable"

instance : Coded AvailabilityState where
  code
    | .unknown => 0
    | .available => 1
    | .unavailable => 2

/-- The availability of a sink or source with the reason code for it. -/
structure Availability where
  state : AvailabilityState := .unknown
  reason : Int16 := 0
  deriving DecidableEq, Repr, Inhabited

/-- Whether a sink is silenced. -/
inductive MuteState
  | unknown | muted | unmuted
  deriving DecidableEq, Repr, Inhabited

instance : Spelled MuteState where
  all := [.unknown, .muted, .unmuted]
  word
    | .unknown => "unknown"
    | .muted => "muted"
    | .unmuted => "unmuted"

instance : Coded MuteState where
  code
    | .unknown => 0
    | .muted => 1
    | .unmuted => 2

/-- Whether a source is interrupted. -/
inductive InterruptState
  | unknown | off | interrupted
  deriving DecidableEq, Repr, Inhabited

instance : Spelled InterruptState where
  all := [.unknown, .off, .interrupted]
  word
    | .unknown => "unknown"
    | .off => "off"
    | .interrupted => "interrupted"

instance : Coded InterruptState where
  code
    | .unknown => 0
    | .off => 1
    | .interrupted => 2

/-- The state of a main connection. -/
inductive ConnectionState
  | unknown | connecting | connected | disconnecting | disconnected | suspended
  deriving DecidableEq, Repr, Inhabited

instance : Spelled ConnectionState where
  all := [.unknown, .connecting, .connected, .disconnecting, .disconnected, .suspended]
  word
    | .unknown => "unknown"
    | .connecting => "connecting"
    | .connected => "connected"
    | .disconnecting => "disconnecting"
    | .disconnected => "disconnected"
    | .suspended => "suspended"

instance : Coded ConnectionState where
  code
    | .unknown => 0
    | .connecting => 1
    | .connected => 2
    | .disconnecting => 3
    | .disconnected => 4
    | .suspended => 5

/-- Whether the volume of a sink or class is limited. -/
inductive LimitState
  | unknown | limited | unlimited
  deriving DecidableEq, Repr, Inhabited

instance : Coded LimitState where
  code
    | .unknown => 0
    | .limited => 1
    | .unlimited => 2

/-- When a notification is sent. -/
inductive NotificationStatus
  | unknown | off | periodic | minimum | maximum | change
  deriving DecidableEq, Repr, Inhabited

instance : Spelled NotificationStatus where
  all := [.unknown, .off, .periodic, .minimum, .maximum, .change]
  word
    | .unknown => "unknown"
    | .off => "off"
    | .periodic => "periodic"
    | .minimum => "minimum"
    | .maximum => "maximum"
    | .change => "change"

instance : Coded NotificationStatus where
  code
    | .unknown => 0
    | .off => 1
    | .periodic => 2
    | .minimum => 3
    | .maximum => 4
    | .change => 5

/-- The result that the routing side reports for a request. -/
inductive ResultCode
  | ok | unknown | outOfRange | notUsed | databaseError | alreadyExists | noChange
  | notPossible | nonExistent | aborted | wrongFormat | communication
  deriving DecidableEq, Repr, Inhabited

instance : Spelled ResultCode where
  all := [.ok, .unknown, .outOfRange, .notUsed, .databaseError, .alreadyExists, .noChange,
    .notPossible, .nonExistent, .aborted, .wrongFormat, .communication]
  word
    | .ok => "ok"
    | .unknown => "unknown"
    | .outOfRange => "out_of_range"
    | .notUsed => "not_used"
    | .databaseError => "database_error"
    | .alreadyExists => "already_exists"
    | .noChange => "no_change"
    | .notPossible => "not_possible"
    | .nonExistent => "non_existent"
    | .aborted => "aborted"
    | .wrongFormat => "wrong_format"
    | .communication => "communication"

instance : Coded ResultCode where
  code
    | .ok => 0
    | .unknown => 1
    | .outOfRange => 2
    | .notUsed => 3
    | .databaseError => 4
    | .alreadyExists => 5
    | .noChange => 6
    | .notPossible => 7
    | .nonExistent => 8
    | .aborted => 9
    | .wrongFormat => 10
    | .communication => 11

end AudioPolicy

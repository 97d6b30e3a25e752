import FlightRelay.Message.Server
import FlightRelay.Net.Address

/-!
# Sessions

A session is what the relay knows about one live connection: who is behind it, what it does, where it is,
and which other connections it is bound to.  A connection is a session with its number, its remote
address and its traffic counters.
-/

namespace FlightRelay

/-- The user behind a connection. -/
structure UserRef where
  userId : UserId
  callsign : String
  deriving DecidableEq, Repr, Inhabited

/-- State of a connection. -/
structure Session where
  /-- Set once login completes. -/
  user : Option UserRef
  role : Role
  onDuty : Bool
  busy : Bool
  hidden : Bool
  position : Option Position
  flightPlan : Option FlightPlan
  /-- Clock reading, in milliseconds, of the last sign of life. -/
  lastActivity : Nat
  protocolVersion : UInt32
  compression : Compression
  /-- Dispatcher who serves this pilot. -/
  dispatcher : ConnectionId
  /-- User behind the dispatcher when the two were bound. -/
  dispatcherUser : Option UserId
  /-- The pilot has an open request that no dispatcher has taken. -/
  servicePending : Bool
  /-- Spectator who follows this pilot. -/
  viewer : ConnectionId
  /-- Pilot whom this spectator follows. -/
  viewing : ConnectionId
  /-- The first traffic picture is still owed. -/
  snapshotPending : Bool
  /-- Proximity range in nautical miles. -/
  range : Float
  /-- Greatest size of the first traffic picture. -/
  maxAircraft : UInt64
  /-- Service range of a dispatcher in nautical miles. -/
  serviceRange : Float
  /-- Where the service range is measured from; the position if unset. -/
  serviceCenter : Option Geo.Point
  deriving Inhabited

/-- What a session starts with when the client has not chosen. -/
structure SessionDefaults where
  /-- Proximity range in nautical miles. -/
  range : Float
  /-- Greatest size of the first traffic picture. -/
  maxAircraft : UInt64
  /-- Service range of dispatchers in nautical miles. -/
  dispatchRange : Float

namespace SessionDefaults

/-- The defaults of a relay that is not configured otherwise. -/
def standard : SessionDefaults := ⟨40.0, 100, 500.0⟩

end SessionDefaults

namespace Session

/-- The session of a fresh connection. -/
def fresh (d : SessionDefaults) (now : Nat) : Session where
  user := none
  role := .unidentified
  onDuty := false
  busy := false
  hidden := false
  position := none
  flightPlan := none
  lastActivity := now
  protocolVersion := 0
  compression := .none
  dispatcher := noConnection
  dispatcherUser := none
  servicePending := false
  viewer := noConnection
  viewing := noConnection
  snapshotPending := false
  range := d.range
  maxAircraft := d.maxAircraft
  serviceRange := d.dispatchRange
  serviceCenter := none

/-- Number of the user, once logged in. -/
def userId (s : Session) : Option UserId := s.user.map UserRef.userId

/-- Callsign of the user, empty before login. -/
def callsign (s : Session) : String := (s.user.map UserRef.callsign).getD ""

/-- Login is complete. -/
def isAuthenticated (s : Session) : Bool := s.user.isSome

/-- Where the connection last reported to be. -/
def location (s : Session) : Option Geo.Point := s.position.map Position.location

/-- Where the service range of a dispatcher is measured from. -/
def serviceLocation (s : Session) : Option Geo.Point := s.serviceCenter.or s.location

/-- A dispatcher on duty. -/
def isOnDutyDispatcher (s : Session) : Bool := s.role = .dispatcher && s.onDuty

/-- A dispatcher on duty who is neither busy nor hidden. -/
def isAvailableDispatcher (s : Session) : Bool :=
  s.role = .dispatcher && s.onDuty && !s.busy && !s.hidden

/-- Distance from where the connection is. -/
def distanceTo (s : Session) (p : Geo.Point) : Option Float :=
  s.location.map fun here => here.distance p

/-- The session as a JSON value, with what follows from its fields. -/
def toJson (s : Session) : Json.Value :=
  .object
    [("user", .ofOption (fun u => .object
        [("user_id", .ofWord u.userId), ("callsign", .string u.callsign)]) s.user),
      ("role", .string s.role.name), ("on_duty", .bool s.onDuty), ("busy", .bool s.busy),
      ("hidden", .bool s.hidden), ("position", .ofOption Position.toJson s.position),
      ("flight_info", .ofOption FlightPlan.toJson s.flightPlan),
      ("protocol_version", .ofNat s.protocolVersion.toNat),
      ("compression", .string s.compression.name), ("dispatcher_id", .ofWord s.dispatcher),
      ("dispatcher_user", .ofOption .ofWord s.dispatcherUser),
      ("service_pending", .bool s.servicePending), ("viewer_id", .ofWord s.viewer),
      ("viewing", .ofWord s.viewing), ("snapshot_pending", .bool s.snapshotPending),
      ("range_nm", .ofFloat s.range), ("max_aircraft", .ofWord s.maxAircraft),
      ("service_range_nm", .ofFloat s.serviceRange),
      ("service_center", .ofOption Geo.Point.toJson s.serviceCenter),
      ("callsign", .string s.callsign), ("authenticated", .bool s.isAuthenticated),
      ("available", .bool s.isAvailableDispatcher),
      ("on_duty_dispatcher", .bool s.isOnDutyDispatcher),
      ("service_location", .ofOption Geo.Point.toJson s.serviceLocation)]

end Session

/-- Traffic of a connection: bytes and messages each way. -/
structure IoCounters where
  bytesIn : UInt64
  bytesOut : UInt64
  messagesIn : UInt64
  messagesOut : UInt64
  deriving DecidableEq, Repr, Inhabited

namespace IoCounters

/-- Nothing has passed. -/
def zero : IoCounters := ⟨0, 0, 0, 0⟩

/-- One message of so many bytes came in. -/
def recordIn (c : IoCounters) (bytes : UInt64) : IoCounters :=
  { c with bytesIn := c.bytesIn + bytes, messagesIn := c.messagesIn + 1 }

/-- One message of so many bytes went out. -/
def recordOut (c : IoCounters) (bytes : UInt64) : IoCounters :=
  { c with bytesOut := c.bytesOut + bytes, messagesOut := c.messagesOut + 1 }

/-- The counters as a JSON value. -/
def toJson (c : IoCounters) : Json.Value :=
  .object [("bytes_in", .ofWord c.bytesIn), ("bytes_out", .ofWord c.bytesOut),
    ("messages_in", .ofWord c.messagesIn), ("messages_out", .ofWord c.messagesOut)]

end IoCounters

/-- A live connection. -/
structure Connection where
  id : ConnectionId
  remote : Option Net.Socket
  session : Session
  counters : IoCounters
  deriving Inhabited

namespace Connection

/-- A connection that has just been accepted. -/
def accepted (id : ConnectionId) (remote : Option Net.Socket) (session : Session) : Connection :=
  ⟨id, remote, session, .zero⟩

/-- The connection as a JSON value. -/
def toJson (c : Connection) : Json.Value :=
  .object
    [("id", .ofWord c.id), ("addr", .ofOption (fun a => .string a.text) c.remote),
      ("state", c.session.toJson)]

/-- The role of the connection. -/
def role (c : Connection) : Role := c.session.role

/-- Changes the session. -/
def withSession (f : Session → Session) (c : Connection) : Connection :=
  { c with session := f c.session }

@[simp] theorem withSession_id (f : Session → Session) (c : Connection) :
    (c.withSession f).id = c.id := rfl

end Connection

end FlightRelay

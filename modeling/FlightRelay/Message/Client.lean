import FlightRelay.Message.Report
import FlightRelay.Role

/-!
# Messages from clients

A client message is a JSON record with its kind under the name `type`.  `ClientMessage.read?` and
`ClientMessage.toJson` are the two directions.
-/

namespace FlightRelay

/-- What a client says about itself at login. -/
structure LoginForm where
  userId : UserId
  callsign : String
  token : String
  role : Role
  protocolVersion : UInt32
  compression : Compression
  /-- Proximity range in nautical miles, if the client has a wish. -/
  range : Option Float
  /-- Size of the first traffic picture, if the client has a wish. -/
  maxAircraft : Option UInt64
  deriving Inhabited

/-- What a dispatcher says about its duty. -/
structure DutyForm where
  onDuty : Bool
  busy : Bool
  hidden : Bool
  /-- Service range in nautical miles, if it is to change. -/
  range : Option Float
  /-- Where the service range is measured from, if it is to change. -/
  center : Option Geo.Point
  deriving Inhabited

/-- A message from a client. -/
inductive ClientMessage where
  | login (form : LoginForm)
  | ping (nonce : UInt64)
  | position (position : Position)
  | flightInfo (plan : FlightPlan)
  | dispatcherStatus (form : DutyForm)
  /-- A pilot asks for a dispatcher. -/
  | serviceRequest (note : String)
  /-- A dispatcher takes the request of a pilot. -/
  | serviceAccept (pilot : ConnectionId)
  /-- Either side ends the service; a dispatcher names the pilot. -/
  | serviceCancel (pilot : Option ConnectionId) (reason : String)
  /-- A pilot reports the service as done. -/
  | serviceComplete (remarks : String)
  /-- A spectator asks to follow a pilot. -/
  | viewerRequest (pilot : ConnectionId)
  | viewerAccept (viewer : ConnectionId)
  | viewerReject (viewer : ConnectionId)
  /-- Either side ends the viewing; a spectator names the pilot. -/
  | viewerCancel (pilot : Option ConnectionId)
  | saveRoute (route : Route)
  | loadRoutes
  deriving Inhabited

namespace ClientMessage

/-- Kind of a message: the name it has on the wire and in acknowledgements. -/
def kind : ClientMessage → String
  | .login _ => "login"
  | .ping _ => "ping"
  | .position _ => "position"
  | .flightInfo _ => "flight_info"
  | .dispatcherStatus _ => "dispatcher_status"
  | .serviceRequest _ => "service_request"
  | .serviceAccept _ => "service_accept"
  | .serviceCancel _ _ => "service_cancel"
  | .serviceComplete _ => "service_complete"
  | .viewerRequest _ => "viewer_request"
  | .viewerAccept _ => "viewer_accept"
  | .viewerReject _ => "viewer_reject"
  | .viewerCancel _ => "viewer_cancel"
  | .saveRoute _ => "save_route"
  | .loadRoutes => "load_routes"

/-! ## Reading -/

open Json (Value)

/-- Reads the form of a login. -/
def readLogin? (v : Value) : Option LoginForm := do
  let f ← v.fields? ["user_id", "callsign", "token", "role", "protocol_version", "compression",
    "range_nm", "max_aircraft"]
  let userId ← f.required 0 "user_id" Value.word?
  let callsign ← f.required 1 "callsign" Value.string?
  let token ← f.required 2 "token" Value.string?
  let role ← f.required 3 "role" (Role.read? true)
  let protocolVersion ← f.withDefault 4 "protocol_version" Value.halfWord? 0
  let compression ← f.withDefault 5 "compression" (Compression.read? true) .none
  let range ← f.withDefault 6 "range_nm" (Value.option? Value.float?) none
  let maxAircraft ← f.withDefault 7 "max_aircraft" (Value.option? Value.word?) none
  return { userId, callsign, token, role, protocolVersion, compression, range, maxAircraft }

/-- Reads the form of a duty status. -/
def readDuty? (v : Value) : Option DutyForm := do
  let f ← v.fields? ["on_duty", "busy", "hidden", "range_nm", "center"]
  let onDuty ← f.required 0 "on_duty" Value.bool?
  let busy ← f.withDefault 1 "busy" Value.bool? false
  let hidden ← f.withDefault 2 "hidden" Value.bool? false
  let range ← f.withDefault 3 "range_nm" (Value.option? Value.float?) none
  let center ← f.withDefault 4 "center" (Value.option? Geo.Point.read?) none
  return { onDuty, busy, hidden, range, center }

/-- Reads the one field of a record. -/
def readOnly? {α : Type} (name : String) (read : Value → Option α) (v : Value) : Option α := do
  let f ← v.fields? [name]
  f.required 0 name read

/-- Reads the one field of a record, which has a default. -/
def readOnlyOr? {α : Type} (name : String) (read : Value → Option α) (default : α) (v : Value) :
    Option α := do
  let f ← v.fields? [name]
  f.withDefault 0 name read default

/-- Reads the rest of a message of a given kind. -/
def readKind? (kind : String) (v : Value) : Option ClientMessage :=
  match kind with
  | "login" => (readLogin? v).map .login
  | "ping" => (readOnlyOr? "nonce" Value.word? 0 v).map .ping
  | "position" => (Position.read? v).map .position
  | "flight_info" => (FlightPlan.read? v).map .flightInfo
  | "dispatcher_status" => (readDuty? v).map .dispatcherStatus
  | "service_request" => (readOnlyOr? "note" Value.string? "" v).map .serviceRequest
  | "service_accept" => (readOnly? "pilot_id" Value.word? v).map .serviceAccept
  | "service_cancel" => do
    let f ← v.fields? ["pilot_id", "reason"]
    let pilot ← f.withDefault 0 "pilot_id" (Value.option? Value.word?) none
    let reason ← f.withDefault 1 "reason" Value.string? ""
    return .serviceCancel pilot reason
  | "service_complete" => (readOnlyOr? "remarks" Value.string? "" v).map .serviceComplete
  | "viewer_request" => (readOnly? "pilot_id" Value.word? v).map .viewerRequest
  | "viewer_accept" => (readOnly? "viewer_id" Value.word? v).map .viewerAccept
  | "viewer_reject" => (readOnly? "viewer_id" Value.word? v).map .viewerReject
  | "viewer_cancel" =>
    (readOnlyOr? "pilot_id" (Value.option? Value.word?) none v).map .viewerCancel
  | "save_route" => (Route.read? v).map .saveRoute
  | "load_routes" => (v.fields? []).map fun _ => .loadRoutes
  | _ => none

/-- Reads a client message. -/
def read? (v : Value) : Option ClientMessage := do
  let (kind, rest) ← v.tagged?
  readKind? kind rest

/-! ## Writing -/

/-- The fields of a message besides its kind. -/
def members : ClientMessage → List (String × Value)
  | .login f =>
    [("user_id", .ofWord f.userId), ("callsign", .string f.callsign), ("token", .string f.token),
      ("role", .string f.role.name), ("protocol_version", .ofNat f.protocolVersion.toNat),
      ("compression", .string f.compression.name), ("range_nm", .ofOption .ofFloat f.range),
      ("max_aircraft", .ofOption .ofWord f.maxAircraft)]
  | .ping nonce => [("nonce", .ofWord nonce)]
  | .position p => p.members
  | .flightInfo p => p.members
  | .dispatcherStatus f =>
    [("on_duty", .bool f.onDuty), ("busy", .bool f.busy), ("hidden", .bool f.hidden),
      ("range_nm", .ofOption .ofFloat f.range), ("center", .ofOption Geo.Point.toJson f.center)]
  | .serviceRequest note => [("note", .string note)]
  | .serviceAccept pilot => [("pilot_id", .ofWord pilot)]
  | .serviceCancel pilot reason =>
    [("pilot_id", .ofOption .ofWord pilot), ("reason", .string reason)]
  | .serviceComplete remarks => [("remarks", .string remarks)]
  | .viewerRequest pilot => [("pilot_id", .ofWord pilot)]
  | .viewerAccept viewer => [("viewer_id", .ofWord viewer)]
  | .viewerReject viewer => [("viewer_id", .ofWord viewer)]
  | .viewerCancel pilot => [("pilot_id", .ofOption .ofWord pilot)]
  | .saveRoute r => r.members
  | .loadRoutes => []

/-- The message as a JSON value. -/
def toJson (m : ClientMessage) : Value :=
  .object (("type", .string m.kind) :: m.members)

end ClientMessage

end FlightRelay

import FlightRelay.Message.Client

/-!
# Messages to clients

A server message is a JSON record with its kind under the name `type`.  The error of an acknowledgement
and the distance of a traffic report are left out when there is none; every other field is always written.
-/

namespace FlightRelay

/-- A message to a client. -/
inductive ServerMessage where
  /-- The answer to a request, with an error exactly if it was refused. -/
  | ack (request : String) (ok : Bool) (error : Option String)
  | pong (nonce : UInt64) (serverTime : UInt64)
  | notice (text : String)
  /-- Position of another aircraft. -/
  | traffic (connection : ConnectionId) (callsign : String) (position : Position)
      (distance : Option Float) (serverTime : UInt64)
  | trafficRemoved (connection : ConnectionId)
  | flightInfo (connection : ConnectionId) (callsign : String) (plan : FlightPlan)
  /-- The request of a pilot, offered to a dispatcher. -/
  | serviceOffer (pilot : ConnectionId) (callsign : String) (location : Option Geo.Point)
      (distance : Float) (note : String)
  | serviceBound (pilot dispatcher : ConnectionId) (dispatcherCallsign : String)
  | serviceCancelled (pilot : ConnectionId) (reason : String)
  | serviceCompleted (pilot : ConnectionId) (remarks : String)
  | viewerRequested (viewer : ConnectionId) (callsign : String)
  | viewerBound (pilot viewer : ConnectionId)
  | viewerRejected (pilot : ConnectionId) (reason : String)
  | viewerCancelled (pilot viewer : ConnectionId)
  | routes (saved : List Route)
  deriving Inhabited

namespace ServerMessage

/-- A request was carried out. -/
def accepted (request : String) : ServerMessage := .ack request true none

/-- A request was refused. -/
def refused (request error : String) : ServerMessage := .ack request false (some error)

/-- Kind of a message: the name it has on the wire. -/
def kind : ServerMessage → String
  | .ack _ _ _ => "ack"
  | .pong _ _ => "pong"
  | .notice _ => "notice"
  | .traffic _ _ _ _ _ => "traffic"
  | .trafficRemoved _ => "traffic_removed"
  | .flightInfo _ _ _ => "flight_info"
  | .serviceOffer _ _ _ _ _ => "service_offer"
  | .serviceBound _ _ _ => "service_bound"
  | .serviceCancelled _ _ => "service_cancelled"
  | .serviceCompleted _ _ => "service_completed"
  | .viewerRequested _ _ => "viewer_requested"
  | .viewerBound _ _ => "viewer_bound"
  | .viewerRejected _ _ => "viewer_rejected"
  | .viewerCancelled _ _ => "viewer_cancelled"
  | .routes _ => "routes"

/-! ## Reading -/

open Json (Value)

/-- Reads a traffic report. -/
def readTraffic? (v : Value) : Option ServerMessage := do
  let f ← v.fields? ["connection_id", "callsign", "position", "distance_nm", "server_time_ms"]
  let connection ← f.required 0 "connection_id" Value.word?
  let callsign ← f.required 1 "callsign" Value.string?
  let position ← f.required 2 "position" Position.read?
  let distance ← f.withDefault 3 "distance_nm" (Value.option? Value.float?) none
  let serverTime ← f.withDefault 4 "server_time_ms" Value.word? 0
  return .traffic connection callsign position distance serverTime

/-- Reads a service offer. -/
def readOffer? (v : Value) : Option ServerMessage := do
  let f ← v.fields? ["pilot_id", "callsign", "location", "distance_nm", "note"]
  let pilot ← f.required 0 "pilot_id" Value.word?
  let callsign ← f.required 1 "callsign" Value.string?
  let location ← f.nullable 2 "location" Geo.Point.read?
  let distance ← f.required 3 "distance_nm" Value.float?
  let note ← f.required 4 "note" Value.string?
  return .serviceOffer pilot callsign location distance note

/-- Reads two fields that must both be there. -/
def readPair? {α β : Type} (first : String) (readFirst : Value → Option α) (second : String)
    (readSecond : Value → Option β) (v : Value) : Option (α × β) := do
  let f ← v.fields? [first, second]
  let a ← f.required 0 first readFirst
  let b ← f.required 1 second readSecond
  return (a, b)

/-- Reads the rest of a message of a given kind. -/
def readKind? (kind : String) (v : Value) : Option ServerMessage :=
  match kind with
  | "ack" => do
    let f ← v.fields? ["request", "ok", "error"]
    let request ← f.required 0 "request" Value.string?
    let ok ← f.required 1 "ok" Value.bool?
    let error ← f.withDefault 2 "error" (Value.option? Value.string?) none
    return .ack request ok error
  | "pong" => do
    let f ← v.fields? ["nonce", "server_time_ms"]
    let nonce ← f.required 0 "nonce" Value.word?
    let serverTime ← f.withDefault 1 "server_time_ms" Value.word? 0
    return .pong nonce serverTime
  | "notice" => (ClientMessage.readOnly? "text" Value.string? v).map .notice
  | "traffic" => readTraffic? v
  | "traffic_removed" =>
    (ClientMessage.readOnly? "connection_id" Value.word? v).map .trafficRemoved
  | "flight_info" => do
    let f ← v.fields? ["connection_id", "callsign", "info"]
    let connection ← f.required 0 "connection_id" Value.word?
    let callsign ← f.required 1 "callsign" Value.string?
    let plan ← f.required 2 "info" FlightPlan.read?
    return .flightInfo connection callsign plan
  | "service_offer" => readOffer? v
  | "service_bound" => do
    let f ← v.fields? ["pilot_id", "dispatcher_id", "dispatcher_callsign"]
    let pilot ← f.required 0 "pilot_id" Value.word?
    let dispatcher ← f.required 1 "dispatcher_id" Value.word?
    let callsign ← f.required 2 "dispatcher_callsign" Value.string?
    return .serviceBound pilot dispatcher callsign
  | "service_cancelled" =>
    (readPair? "pilot_id" Value.word? "reason" Value.string? v).map fun (p, r) =>
      .serviceCancelled p r
  | "service_completed" =>
    (readPair? "pilot_id" Value.word? "remarks" Value.string? v).map fun (p, r) =>
      .serviceCompleted p r
  | "viewer_requested" =>
    (readPair? "viewer_id" Value.word? "callsign" Value.string? v).map fun (w, c) =>
      .viewerRequested w c
  | "viewer_bound" =>
    (readPair? "pilot_id" Value.word? "viewer_id" Value.word? v).map fun (p, w) =>
      .viewerBound p w
  | "viewer_rejected" =>
    (readPair? "pilot_id" Value.word? "reason" Value.string? v).map fun (p, r) =>
      .viewerRejected p r
  | "viewer_cancelled" =>
    (readPair? "pilot_id" Value.word? "viewer_id" Value.word? v).map fun (p, w) =>
      .viewerCancelled p w
  | "routes" =>
    (ClientMessage.readOnly? "routes" (Value.list? Route.read?) v).map .routes
  | _ => none

/-- Reads a server message. -/
def read? (v : Value) : Option ServerMessage := do
  let (kind, rest) ← v.tagged?
  readKind? kind rest

/-! ## Writing -/

/-- A member that is left out when there is nothing to say. -/
def optionalMember {α : Type} (name : String) (write : α → Value) (a : Option α) :
    List (String × Value) :=
  (a.map fun a => (name, write a)).toList

/-- The fields of a message besides its kind. -/
def members : ServerMessage → List (String × Value)
  | .ack request ok error =>
    [("request", .string request), ("ok", .bool ok)] ++ optionalMember "error" .string error
  | .pong nonce serverTime => [("nonce", .ofWord nonce), ("server_time_ms", .ofWord serverTime)]
  | .notice text => [("text", .string text)]
  | .traffic connection callsign position distance serverTime =>
    [("connection_id", .ofWord connection), ("callsign", .string callsign),
        ("position", position.toJson)]
      ++ optionalMember "distance_nm" .ofFloat distance
      ++ [("server_time_ms", .ofWord serverTime)]
  | .trafficRemoved connection => [("connection_id", .ofWord connection)]
  | .flightInfo connection callsign plan =>
    [("connection_id", .ofWord connection), ("callsign", .string callsign), ("info", plan.toJson)]
  | .serviceOffer pilot callsign location distance note =>
    [("pilot_id", .ofWord pilot), ("callsign", .string callsign),
      ("location", .ofOption Geo.Point.toJson location), ("distance_nm", .ofFloat distance),
      ("note", .string note)]
  | .serviceBound pilot dispatcher callsign =>
    [("pilot_id", .ofWord pilot), ("dispatcher_id", .ofWord dispatcher),
      ("dispatcher_callsign", .string callsign)]
  | .serviceCancelled pilot reason => [("pilot_id", .ofWord pilot), ("reason", .string reason)]
  | .serviceCompleted pilot remarks =>
    [("pilot_id", .ofWord pilot), ("remarks", .string remarks)]
  | .viewerRequested viewer callsign =>
    [("viewer_id", .ofWord viewer), ("callsign", .string callsign)]
  | .viewerBound pilot viewer => [("pilot_id", .ofWord pilot), ("viewer_id", .ofWord viewer)]
  | .viewerRejected pilot reason => [("pilot_id", .ofWord pilot), ("reason", .string reason)]
  | .viewerCancelled pilot viewer => [("pilot_id", .ofWord pilot), ("viewer_id", .ofWord viewer)]
  | .routes saved => [("routes", .array (saved.map Route.toJson))]

/-- The message as a JSON value. -/
def toJson (m : ServerMessage) : Value :=
  .object (("type", .string m.kind) :: m.members)

end ServerMessage

end FlightRelay

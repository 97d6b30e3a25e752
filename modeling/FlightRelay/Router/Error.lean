import FlightRelay.Auth
import FlightRelay.Registry.Basic
import FlightRelay.Store

/-!
# Refusals

Every reason for which a client message is refused, and the words in which the client is told.
-/

namespace FlightRelay

/-- Most waypoints that a route may have. -/
def maxWaypoints : Nat := 256

/-- Why a client message was refused. -/
inductive RouteError where
  | notLoggedIn
  /-- The sender's role may not do this. -/
  | wrongRole (role : Role)
  /-- The other connection is gone or has another role. -/
  | unavailable (id : ConnectionId)
  | roleRequired
  | callsignRequired
  | invalidRange (range : Float)
  | roleFixed
  | invalidCoordinates
  | invalidServiceCenter
  | positionRequired
  | alreadyServed
  | dutyRequired
  | alreadyTaken
  | notRequested (pilot : ConnectionId)
  | pilotRequired
  | notServing (pilot : ConnectionId)
  | noActiveService
  | alreadyFollowing
  | alreadyViewed
  | tooManyWaypoints
  | registry (e : RegistryError)
  | store (e : StoreError)
  | auth (e : AuthError)

namespace RouteError

/-- Wording of a refusal. -/
def message : RouteError → String
  | .notLoggedIn => "Not logged in"
  | .wrongRole role => s!"Not permitted for role {role.name}"
  | .unavailable id => s!"Connection {id} is not available"
  | .roleRequired => "a role is required"
  | .callsignRequired => "a callsign is required"
  | .invalidRange range => "invalid range " ++ Decimal.Layout.write .plain range
  | .roleFixed => "role cannot change within a session"
  | .invalidCoordinates => "invalid coordinates"
  | .invalidServiceCenter => "invalid service center"
  | .positionRequired => "report a position before requesting service"
  | .alreadyServed => "already being serviced"
  | .dutyRequired => "go on duty and available before accepting service"
  | .alreadyTaken => "another dispatcher already took this pilot"
  | .notRequested pilot => s!"pilot {pilot} has not requested service"
  | .pilotRequired => "pilot_id is required"
  | .notServing pilot => s!"not serving pilot {pilot}"
  | .noActiveService => "no active service"
  | .alreadyFollowing => "viewer already follows another pilot"
  | .alreadyViewed => "pilot already has a viewer"
  | .tooManyWaypoints => s!"a route may hold at most {maxWaypoints} waypoints"
  | .registry e => e.message
  | .store e => e.message
  | .auth e => s!"Login failed: {e.message}"

/-- The store was the cause. -/
def isStoreFailure : RouteError → Bool
  | .store _ => true
  | _ => false

end RouteError

end FlightRelay

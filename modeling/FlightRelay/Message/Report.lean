import FlightRelay.Geo

/-!
# Reports

What clients report about a flight and what users keep for later: the live position of an aircraft, its
flight plan, and named routes.
-/

namespace FlightRelay

/-- Live state of an aircraft. -/
structure Position where
  location : Geo.Point
  heading : Float
  /-- Ground speed in knots. -/
  groundSpeed : Float
  onGround : Bool
  deriving Inhabited

namespace Position

/-- Reads a position; all but the location have defaults. -/
def read? (v : Json.Value) : Option Position := do
  let f ← v.fields? ["location", "heading", "ground_speed_kts", "on_ground"]
  let location ← f.required 0 "location" Geo.Point.read?
  let heading ← f.withDefault 1 "heading" Json.Value.float? 0.0
  let groundSpeed ← f.withDefault 2 "ground_speed_kts" Json.Value.float? 0.0
  let onGround ← f.withDefault 3 "on_ground" Json.Value.bool? false
  return { location, heading, groundSpeed, onGround }

/-- The members of a position. -/
def members (p : Position) : List (String × Json.Value) :=
  [("location", p.location.toJson), ("heading", .ofFloat p.heading),
    ("ground_speed_kts", .ofFloat p.groundSpeed), ("on_ground", .bool p.onGround)]

/-- The position as a JSON value. -/
def toJson (p : Position) : Json.Value := .object p.members

end Position

/-- Flight plan of a pilot. -/
structure FlightPlan where
  flightNumber : String
  aircraftType : String
  departure : String
  arrival : String
  deriving DecidableEq, Repr, Inhabited

namespace FlightPlan

/-- Reads a flight plan; all but the flight number have defaults. -/
def read? (v : Json.Value) : Option FlightPlan := do
  let f ← v.fields? ["flight_number", "aircraft_type", "departure", "arrival"]
  let flightNumber ← f.required 0 "flight_number" Json.Value.string?
  let aircraftType ← f.withDefault 1 "aircraft_type" Json.Value.string? ""
  let departure ← f.withDefault 2 "departure" Json.Value.string? ""
  let arrival ← f.withDefault 3 "arrival" Json.Value.string? ""
  return { flightNumber, aircraftType, departure, arrival }

/-- The members of a flight plan. -/
def members (p : FlightPlan) : List (String × Json.Value) :=
  [("flight_number", .string p.flightNumber), ("aircraft_type", .string p.aircraftType),
    ("departure", .string p.departure), ("arrival", .string p.arrival)]

/-- The flight plan as a JSON value. -/
def toJson (p : FlightPlan) : Json.Value := .object p.members

end FlightPlan

/-- A named route of a user. -/
structure Route where
  name : String
  waypoints : List String
  deriving DecidableEq, Repr, Inhabited

namespace Route

/-- Reads a route. -/
def read? (v : Json.Value) : Option Route := do
  let f ← v.fields? ["name", "waypoints"]
  let name ← f.required 0 "name" Json.Value.string?
  let waypoints ← f.required 1 "waypoints" (Json.Value.list? Json.Value.string?)
  return { name, waypoints }

/-- The members of a route. -/
def members (r : Route) : List (String × Json.Value) :=
  [("name", .string r.name), ("waypoints", .array (r.waypoints.map .string))]

/-- The route as a JSON value. -/
def toJson (r : Route) : Json.Value := .object r.members

end Route

end FlightRelay

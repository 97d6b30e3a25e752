import FlightRelay.Json.Fields

/-!
# Points on the earth

Distances are great-circle distances on a sphere, by the haversine formula.  The altitude of a point
plays no part in them.
-/

namespace FlightRelay

namespace Geo

/-- Mean radius of the earth in nautical miles. -/
def earthRadius : Float := 3440.065

/-- Half the circumference of the unit circle, as a double. -/
def pi : Float := 3.141592653589793

/-- Degrees as an angle. -/
def radians (degrees : Float) : Float := degrees * (pi / 180.0)

/-- A point on the earth. -/
structure Point where
  /-- Latitude in degrees. -/
  lat : Float
  /-- Longitude in degrees. -/
  lon : Float
  /-- Altitude in feet. -/
  altitude : Float
  deriving DecidableEq, Inhabited

namespace Point

/-- Square of the sine of half an angle. -/
def haversine (angle : Float) : Float :=
  let s := (angle / 2.0).sin
  s * s

/-- The chord of the unit sphere, halved, kept to at most one; what is no number counts as one. -/
def halfChord (a : Float) : Float :=
  let root := a.sqrt
  if root ≤ 1.0 then root else 1.0

/-- Great-circle distance in nautical miles. -/
def distance (p q : Point) : Float :=
  let lat₁ := radians p.lat
  let lat₂ := radians q.lat
  let a := haversine (lat₂ - lat₁)
    + lat₁.cos * lat₂.cos * haversine (radians (q.lon - p.lon))
  2.0 * earthRadius * (halfChord a).asin

/-- Latitude and longitude are numbers within a quarter and a half turn. -/
def isValid (p : Point) : Bool :=
  -90.0 ≤ p.lat && p.lat ≤ 90.0 && -180.0 ≤ p.lon && p.lon ≤ 180.0

/-- Reads a point. -/
def read? (v : Json.Value) : Option Point := do
  let f ← v.fields? ["lat", "lon", "alt_ft"]
  let lat ← f.required 0 "lat" Json.Value.float?
  let lon ← f.required 1 "lon" Json.Value.float?
  let altitude ← f.withDefault 2 "alt_ft" Json.Value.float? 0.0
  return ⟨lat, lon, altitude⟩

/-- The point as a JSON value. -/
def toJson (p : Point) : Json.Value :=
  .object [("lat", .ofFloat p.lat), ("lon", .ofFloat p.lon), ("alt_ft", .ofFloat p.altitude)]

end Point

end Geo

end FlightRelay

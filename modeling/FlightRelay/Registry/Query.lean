import FlightRelay.Registry.Basic

/-!
# Questions to the registry

Questions by user, by property and by distance.  A connection that has not reported a position is never
near anything.  Nearness is measured once per connection and sorted by distance, then by number, so the
order in which the registry is walked does not show.
-/

namespace FlightRelay

namespace Geo

/-- Places doubles in a total order: negative ones, zeros by sign, positive ones, with the values that
are no number at both ends. -/
def orderKey (x : Float) : Int :=
  let bits := x.toBits.toNat
  if bits < Nat.pow 2 63 then bits else Int.pow 2 63 - bits - 1

end Geo

/-- How many connections are live in each role. -/
structure RoleCounts where
  unidentified : Nat
  pilots : Nat
  dispatchers : Nat
  atc : Nat
  viewers : Nat
  deriving DecidableEq, Repr, Inhabited

namespace RoleCounts

/-- Live connections in all roles, as a word of 64 bits. -/
def total (c : RoleCounts) : Nat :=
  (c.unidentified + c.pilots + c.dispatchers + c.atc + c.viewers) % Nat.pow 2 64

/-- The counts as a JSON value. -/
def toJson (c : RoleCounts) : Json.Value :=
  .object [("unidentified", .ofNat c.unidentified), ("pilots", .ofNat c.pilots),
    ("dispatchers", .ofNat c.dispatchers), ("atc", .ofNat c.atc), ("viewers", .ofNat c.viewers)]

end RoleCounts

namespace Registry

/-- The connections with a property. -/
def select (r : Registry) (p : Connection → Bool) : List Connection :=
  r.connections.filter p

/-- The newer of two connections: the one with the greater number. -/
def newer (a b : Connection) : Connection := if a.id ≤ b.id then b else a

/-- The newest connection of a list. -/
def newest? : List Connection → Option Connection
  | [] => none
  | c :: cs => some (cs.foldl newer c)

/-- The newest connection of a user, in a given role if one is given. -/
def byUser? (r : Registry) (user : UserId) (role : Option Role) : Option Connection :=
  newest? (r.select fun c => c.session.userId = some user && role.all (c.role = ·))

/-- The connections within whose own range a point lies. -/
def inRange (r : Registry) (p : Geo.Point) : List Connection :=
  r.select fun c => (c.session.distanceTo p).any (· ≤ c.session.range)

/-- Nearer comes first; of two equally near, the one with the smaller number. -/
def nearerOrOlder (a b : Connection × Float) : Bool :=
  let ka := Geo.orderKey a.2
  let kb := Geo.orderKey b.2
  ka < kb || (ka = kb && a.1.id ≤ b.1.id)

/-- The connections with a property within a radius of a point, with their distances, nearest first. -/
def within (r : Registry) (p : Geo.Point) (radius : Float) (keep : Connection → Bool) :
    List (Connection × Float) :=
  let measured := (r.select keep).filterMap fun c =>
    (c.session.distanceTo p).bind fun d => if d ≤ radius then some (c, d) else none
  measured.mergeSort nearerOrOlder

/-- How many connections are live in each role. -/
def roleCounts (r : Registry) : RoleCounts :=
  let count (role : Role) := r.connections.countP fun c => c.role = role
  ⟨count .unidentified, count .pilot, count .dispatcher, count .atc, count .viewer⟩

end Registry

end FlightRelay

import FlightRelay.Json.Fields

/-!
# Identifiers, roles and packing

Connections and user accounts are numbered by words of 64 bits.  Zero is no connection: it stands in
binding fields where nothing is bound.  What a connection may do depends on its role; how its frames are
packed is agreed at login.
-/

namespace FlightRelay

/-- Number of a connection; connections are numbered from one and a number is never used again. -/
abbrev ConnectionId := UInt64

/-- Stands in a binding field where nothing is bound. -/
def noConnection : ConnectionId := 0

/-- Number of a user account. -/
abbrev UserId := UInt64

/-- What a connection does on the network. -/
inductive Role where
  /-- Connected but not logged in. -/
  | unidentified
  | pilot
  | dispatcher
  | atc
  /-- A spectator who follows a pilot. -/
  | viewer
  deriving DecidableEq, Repr, Inhabited

namespace Role

/-- Every role. -/
def all : List Role := [.unidentified, .pilot, .dispatcher, .atc, .viewer]

/-- Name of a role, in messages and on the wire. -/
def name : Role → String
  | .unidentified => "unidentified"
  | .pilot => "pilot"
  | .dispatcher => "dispatcher"
  | .atc => "atc"
  | .viewer => "viewer"

/-- The role of a name. -/
def ofName? (s : String) : Option Role :=
  all.find? fun r => r.name = s

/-- Whether clients in this role show other aircraft. -/
def rendersTraffic : Role → Bool
  | .pilot | .viewer => true
  | _ => false

/-- Reads a role. -/
def read? (lenient : Bool) (v : Json.Value) : Option Role :=
  (v.caseName? lenient).bind ofName?

end Role

/-- How the frames of a connection are packed. -/
inductive Compression where
  | none
  | deflate
  deriving DecidableEq, Repr, Inhabited

namespace Compression

/-- Name of a packing on the wire. -/
def name : Compression → String
  | .none => "none"
  | .deflate => "deflate"

/-- The packing of a name. -/
def ofName? (s : String) : Option Compression :=
  [.none, .deflate].find? fun c => c.name = s

/-- Reads a packing. -/
def read? (lenient : Bool) (v : Json.Value) : Option Compression :=
  (v.caseName? lenient).bind ofName?

end Compression

end FlightRelay

/-!
# The stages of the relay

A message passes the stages from the first to the last but one; the last watches for silent connections.
-/

namespace FlightRelay

/-- A stage of the relay. -/
inductive Stage where
  | accept
  | read
  | decode
  | logic
  | enrich
  | serialize
  | bandwidth
  | write
  | idleSweep
  deriving DecidableEq, Repr, Inhabited

namespace Stage

/-- All stages, in the order in which a message passes them. -/
def all : List Stage :=
  [.accept, .read, .decode, .logic, .enrich, .serialize, .bandwidth, .write, .idleSweep]

/-- Place of a stage in that order. -/
def place : Stage → Nat
  | .accept => 0
  | .read => 1
  | .decode => 2
  | .logic => 3
  | .enrich => 4
  | .serialize => 5
  | .bandwidth => 6
  | .write => 7
  | .idleSweep => 8

/-- Name of a stage in reports. -/
def name : Stage → String
  | .accept => "accept"
  | .read => "read"
  | .decode => "decode"
  | .logic => "logic"
  | .enrich => "enrich"
  | .serialize => "serialize"
  | .bandwidth => "bandwidth"
  | .write => "write"
  | .idleSweep => "idle-sweep"

end Stage

end FlightRelay

import FlightRelay.Json.Value
import FlightRelay.Net.Address

/-!
# Admission

Who may connect: nobody from a banned address, and from any other address at most a given number at the
same time.  An address is tracked as long as connections are held from it.  Every refusal is counted.
-/

namespace FlightRelay

/-- Why a connection is not admitted. -/
inductive AdmissionError where
  | banned (address : Net.Address)
  /-- The address holds as many connections as it may. -/
  | tooMany (address : Net.Address)
  /-- The relay holds as many connections as it may. -/
  | full (connections : Nat)
  deriving DecidableEq, Repr

namespace AdmissionError

/-- Wording of a refusal. -/
def message : AdmissionError → String
  | .banned address => s!"IP address {address.text} is banned"
  | .tooMany address => s!"Too many connections from IP {address.text}"
  | .full connections => s!"Server is full ({connections} connections)"

/-- Kind of a refusal, for programs. -/
def kind : AdmissionError → String
  | .banned _ => "BannedIp"
  | .tooMany _ => "TooManyConnections"
  | .full _ => "ServerFull"

/-- The error as a JSON value. -/
def toJson (e : AdmissionError) : Json.Value := .failure e.kind e.message

end AdmissionError

/-- Admission state. -/
structure Admission where
  /-- Banned addresses, each once. -/
  banned : List Net.Address
  /-- How many connections are held from an address; an address without connections has no entry. -/
  held : List (Net.Address × Nat)
  /-- Greatest number of connections from one address; zero sets no limit. -/
  limit : Nat
  /-- How many connections were refused, one at a time: a 64-bit word while these are fewer than
  `2 ^ 64`. -/
  refused : Nat
  deriving Inhabited

/-- Admission as it reports itself. -/
structure AdmissionStats where
  trackedAddresses : Nat
  refused : Nat
  bannedAddresses : Nat
  deriving DecidableEq, Repr

/-- The counts as a JSON value. -/
def AdmissionStats.toJson (s : AdmissionStats) : Json.Value :=
  .object [("tracked_ips", .ofNat s.trackedAddresses), ("refused_connections", .ofNat s.refused),
    ("banned_ips", .ofNat s.bannedAddresses)]

namespace Admission

/-- Nothing is held yet. -/
def start (banned : List Net.Address) (limit : Nat) : Admission :=
  ⟨banned.eraseDups, [], limit, 0⟩

/-- How many connections are held from an address. -/
def count (a : Admission) (address : Net.Address) : Nat :=
  (a.held.lookup address).getD 0

/-- The address is banned. -/
def isBanned (a : Admission) (address : Net.Address) : Bool :=
  a.banned.contains address

/-- Sets the number of connections held from an address. -/
def setCount (a : Admission) (address : Net.Address) (n : Nat) : Admission :=
  let others := a.held.filter fun e => e.1 ≠ address
  { a with held := if n = 0 then others else (address, n) :: others }

/-- Counts a refusal. -/
def refuse (a : Admission) : Admission := { a with refused := a.refused + 1 }

/-- Admits a connection from an address, or says why not. -/
def enter (a : Admission) (address : Net.Address) : Except AdmissionError Unit × Admission :=
  if a.isBanned address then (.error (.banned address), a.refuse)
  else if 0 < a.limit && a.limit ≤ a.count address then (.error (.tooMany address), a.refuse)
  else (.ok (), a.setCount address (a.count address + 1))

/-- Gives a connection back; an address that holds none is left as it is. -/
def release (a : Admission) (address : Net.Address) : Admission :=
  a.setCount address (a.count address - 1)

/-- Bans an address; tells whether it was not banned before. -/
def ban (a : Admission) (address : Net.Address) : Bool × Admission :=
  if a.isBanned address then (false, a) else (true, { a with banned := address :: a.banned })

/-- Lifts a ban; tells whether there was one. -/
def unban (a : Admission) (address : Net.Address) : Bool × Admission :=
  (a.isBanned address, { a with banned := a.banned.filter fun b => b ≠ address })

/-- What there is to report. -/
def stats (a : Admission) : AdmissionStats := ⟨a.held.length, a.refused, a.banned.length⟩

end Admission

end FlightRelay

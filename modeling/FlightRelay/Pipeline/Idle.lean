import FlightRelay.CloseReason
import FlightRelay.Pipeline.Intake
import FlightRelay.Registry.Query
import FlightRelay.Worker.StageError

/-!
# Silent connections

A sweep reports every connection that has been silent for longer than the timeout, once in its life:
what was reported is remembered as long as the connection lives.
-/

namespace FlightRelay

/-- The sweep: its timeout in milliseconds, and the live connections that it has reported. -/
structure IdleSweep where
  /-- Zero reports nothing. -/
  timeout : Nat
  reported : List ConnectionId
  deriving DecidableEq, Repr, Inhabited

namespace IdleSweep

/-- Nothing was reported yet. -/
def start (timeout : Nat) : IdleSweep := ⟨timeout, []⟩

/-- Forgets connections that are gone. -/
def prune (s : IdleSweep) (r : Registry) : IdleSweep :=
  { s with reported := s.reported.filter r.contains }

/-- The connection has been silent for longer than the timeout and was not reported. -/
def isDue (s : IdleSweep) (now : Nat) (c : Connection) : Bool :=
  !s.reported.contains c.id && s.timeout < now - c.session.lastActivity

/-- The connections to report, in ascending order. -/
def due (s : IdleSweep) (r : Registry) (now : Nat) : List ConnectionId :=
  ((r.select (s.isDue now)).map Connection.id).mergeSort fun a b => a ≤ b

/-- One sweep; `taken` tells that somebody takes the reports. -/
def sweep (s : IdleSweep) (r : Registry) (now : Nat) (taken : Bool) :
    Except StageError (List Inbound) × IdleSweep :=
  if s.timeout = 0 then (.ok [], s)
  else
    let s := s.prune r
    let ids := s.due r now
    if ids.isEmpty then (.ok [], s)
    else if taken then
      (.ok (ids.map fun id => .closed id .idleTimeout), { s with reported := s.reported ++ ids })
    else (.error (.queueClosed "logic"), s)

end IdleSweep

end FlightRelay

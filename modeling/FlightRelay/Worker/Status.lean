import FlightRelay.Json.Fields
import FlightRelay.Worker.Latency

/-!
# What workers are doing

A worker is idle, runs one unit of work, or is shut down.  The record of a worker says what it did last
and how long its last units took; a unit is open from its beginning to its end, and a shutdown drops it.
-/

namespace FlightRelay

/-- State of a worker. -/
inductive ExecutionState where
  | idle
  | running
  /-- No further unit is begun. -/
  | shutdown
  deriving DecidableEq, Repr, Inhabited

namespace ExecutionState

/-- Name of a state. -/
def name : ExecutionState → String
  | .idle => "Idle"
  | .running => "Running"
  | .shutdown => "Shutdown"

/-- Reads a state. -/
def read? (v : Json.Value) : Option ExecutionState :=
  (v.caseName? false).bind fun s => [.idle, .running, .shutdown].find? fun e => e.name = s

end ExecutionState

/-- Record of a worker. -/
structure WorkerStatus where
  name : String
  /-- Place in listings. -/
  priority : UInt32
  state : ExecutionState
  /-- Clock reading, in nanoseconds, at the beginning of the open unit. -/
  started : Option Nat
  activity : String
  latencies : LatencyRing
  /-- How many units came to their end.  Each of them adds one, so that this is a 64-bit word for as long
  as there were fewer than `2 ^ 64`. -/
  executed : Nat
  deriving DecidableEq, Repr, Inhabited

namespace WorkerStatus

/-- How many latencies are kept. -/
def latencyCapacity : Nat := 64

/-- The record of a worker that has done nothing yet. -/
def created (name : String) (priority : UInt32) : WorkerStatus :=
  ⟨name, priority, .idle, none, "created", .empty latencyCapacity, 0⟩

/-- Begins a unit of work, unless the worker is shut down. -/
def begin (s : WorkerStatus) (activity : String) (now : Nat) : WorkerStatus :=
  if s.state = .shutdown then s
  else { s with state := .running, started := some now, activity := activity }

/-- Ends the open unit of work, if there is one. -/
def finish (s : WorkerStatus) (now : Nat) : WorkerStatus :=
  let s :=
    match s.started with
    | none => s
    | some started =>
      { s with
        started := none
        latencies := s.latencies.record (now - started)
        executed := s.executed + 1 }
  { s with state := if s.state = .running then .idle else s.state }

/-- Replaces the text of what the worker does. -/
def setActivity (s : WorkerStatus) (activity : String) : WorkerStatus :=
  { s with activity := activity }

/-- Shuts the worker down; an open unit is dropped. -/
def shutDown (s : WorkerStatus) : WorkerStatus :=
  { s with state := .shutdown, started := none, activity := "shutdown" }

/-- Opens the worker again; an open unit is dropped. -/
def reopen (s : WorkerStatus) : WorkerStatus :=
  { s with state := .idle, started := none }

/-- Since when the worker runs its unit. -/
def runningSince (s : WorkerStatus) : Option Nat :=
  if s.state = .running then s.started else none

/-- One whole unit of work that took no time to speak of. -/
def unit (s : WorkerStatus) (activity : String) (now : Nat) : WorkerStatus :=
  (s.begin activity now).finish now

/-- The record as a JSON value. -/
def toJson (s : WorkerStatus) : Json.Value :=
  .object
    [("name", .string s.name), ("priority", .ofNat s.priority.toNat),
      ("state", .string s.state.name), ("running", .bool s.runningSince.isSome),
      ("activity", .string s.activity), ("executed", .ofNat s.executed),
      ("has_latency", .bool s.latencies.mean?.isSome)]

/-- The record comes before another in listings, or stands level with it. -/
def precedes (a b : WorkerStatus) : Bool :=
  a.priority < b.priority || (a.priority = b.priority && a.name ≤ b.name)

/-- Records in the order of listings: by priority, then by name. -/
def sort (l : List WorkerStatus) : List WorkerStatus := l.mergeSort precedes

end WorkerStatus

/-- The record of a worker and how many guards of it are out.  A guard is handed out when a unit is begun,
and dropping it ends whatever unit is open then; so guards need not be told apart. -/
structure GuardedStatus where
  status : WorkerStatus
  guards : Nat
  deriving DecidableEq, Repr, Inhabited

namespace GuardedStatus

/-- Begins a unit of work, unless the worker is shut down, and hands out a guard in any case. -/
def execute (g : GuardedStatus) (activity : String) (now : Nat) : GuardedStatus :=
  ⟨g.status.begin activity now, g.guards + 1⟩

/-- Drops a guard, if one is out. -/
def dropGuard (g : GuardedStatus) (now : Nat) : GuardedStatus :=
  if g.guards = 0 then g else ⟨g.status.finish now, g.guards - 1⟩

end GuardedStatus

end FlightRelay

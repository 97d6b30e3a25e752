import FlightRelay.Worker.Status

/-!
# Records of workers at one instant

A snapshot is what a report says of a worker: latencies in whole microseconds, and how long the open
unit has been running in whole milliseconds.
-/

namespace FlightRelay

/-- A worker at one instant. -/
structure WorkerSnapshot where
  name : String
  priority : UInt32
  state : ExecutionState
  /-- Milliseconds since the beginning of the open unit. -/
  runningFor : Option Nat
  activity : String
  executed : Nat
  /-- Mean of the recent latencies in microseconds. -/
  averageLatency : Option Nat
  /-- Greatest of the recent latencies in microseconds. -/
  greatestLatency : Option Nat
  deriving DecidableEq, Repr, Inhabited

/-- The record of a worker as it is reported; the clock counts nanoseconds. -/
def WorkerStatus.snapshot (s : WorkerStatus) (now : Nat) : WorkerSnapshot where
  name := s.name
  priority := s.priority
  state := s.state
  runningFor := s.runningSince.map fun started => (now - started) / 1000000
  activity := s.activity
  executed := s.executed
  averageLatency := s.latencies.mean?.map (· / 1000)
  greatestLatency := s.latencies.greatest.map (· / 1000)

namespace WorkerSnapshot

/-- Reads a snapshot. -/
def read? (v : Json.Value) : Option WorkerSnapshot := do
  let f ← v.fields? ["name", "priority", "state", "running_for_ms", "activity", "executed",
    "avg_latency_us", "max_latency_us"]
  let count (v : Json.Value) : Option Nat := v.below? (Nat.pow 2 64)
  let name ← f.required 0 "name" Json.Value.string?
  let priority ← f.required 1 "priority" Json.Value.halfWord?
  let state ← f.required 2 "state" ExecutionState.read?
  let runningFor ← f.nullable 3 "running_for_ms" count
  let activity ← f.required 4 "activity" Json.Value.string?
  let executed ← f.required 5 "executed" count
  let averageLatency ← f.nullable 6 "avg_latency_us" count
  let greatestLatency ← f.nullable 7 "max_latency_us" count
  return ⟨name, priority, state, runningFor, activity, executed, averageLatency, greatestLatency⟩

end WorkerSnapshot

/-- A stage at one instant, as its supervisor sees it. -/
structure StageReport where
  name : String
  /-- How often a task was started for the stage. -/
  generation : Nat
  restarts : Nat
  /-- A task is at work for the stage. -/
  alive : Bool
  status : WorkerSnapshot
  deriving DecidableEq, Repr, Inhabited

namespace StageReport

/-- The report as members of an object. -/
def members (r : StageReport) : List (String × Json.Value) :=
  [("name", .string r.name), ("generation", .ofNat r.generation), ("restarts", .ofNat r.restarts),
    ("alive", .bool r.alive), ("state", .string r.status.state.name),
    ("activity", .string r.status.activity), ("executed", .ofNat r.status.executed)]

/-- Reads a report. -/
def read? (v : Json.Value) : Option StageReport := do
  let f ← v.fields? ["name", "generation", "restarts", "alive", "status"]
  let count (v : Json.Value) : Option Nat := v.below? (Nat.pow 2 64)
  let name ← f.required 0 "name" Json.Value.string?
  let generation ← f.required 1 "generation" count
  let restarts ← f.required 2 "restarts" count
  let alive ← f.required 3 "alive" Json.Value.bool?
  let status ← f.required 4 "status" WorkerSnapshot.read?
  return ⟨name, generation, restarts, alive, status⟩

end StageReport

end FlightRelay

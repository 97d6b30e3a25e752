import FlightRelay.Pool.Basic
import FlightRelay.Worker.Snapshot

/-!
# The pool as it reports itself
-/

namespace FlightRelay

/-- Counters, queues and threads of a pool at one instant. -/
structure PoolStats where
  name : String
  threads : Nat
  idleThreads : Nat
  primaryQueued : Nat
  overflowQueued : Nat
  /-- Milliseconds for which the first task of the overflow queue has waited. -/
  oldestOverflowWait : Nat
  submitted : Nat
  completed : Nat
  panicked : Nat
  overflowed : Nat
  escalations : Nat
  workers : List WorkerSnapshot
  deriving DecidableEq, Repr, Inhabited

namespace PoolStats

/-- Reads the numbers of a pool. -/
def read? (v : Json.Value) : Option PoolStats := do
  let f ← v.fields? ["name", "threads", "idle_threads", "primary_queued", "overflow_queued",
    "oldest_overflow_wait_ms", "submitted", "completed", "panicked", "overflowed", "escalations",
    "workers"]
  let count (place : Nat) (name : String) : Option Nat := f.required place name Json.Value.count?
  let name ← f.required 0 "name" Json.Value.string?
  let threads ← count 1 "threads"
  let idleThreads ← count 2 "idle_threads"
  let primaryQueued ← count 3 "primary_queued"
  let overflowQueued ← count 4 "overflow_queued"
  let oldestOverflowWait ← count 5 "oldest_overflow_wait_ms"
  let submitted ← count 6 "submitted"
  let completed ← count 7 "completed"
  let panicked ← count 8 "panicked"
  let overflowed ← count 9 "overflowed"
  let escalations ← count 10 "escalations"
  let workers ← f.required 11 "workers" (Json.Value.list? WorkerSnapshot.read?)
  return ⟨name, threads, idleThreads, primaryQueued, overflowQueued, oldestOverflowWait, submitted,
    completed, panicked, overflowed, escalations, workers⟩

/-- The numbers of the pool, without its workers, as a JSON value. -/
def toJson (s : PoolStats) : Json.Value :=
  .object
    [("name", .string s.name), ("threads", .ofNat s.threads), ("idle", .ofNat s.idleThreads),
      ("primary", .ofNat s.primaryQueued), ("overflow", .ofNat s.overflowQueued),
      ("submitted", .ofNat s.submitted), ("completed", .ofNat s.completed),
      ("panicked", .ofNat s.panicked), ("overflowed", .ofNat s.overflowed),
      ("escalations", .ofNat s.escalations)]

end PoolStats

namespace Pool

variable {α : Type}

/-- How many threads are asleep. -/
def idle (p : Pool α) : Nat := p.threads.countP Thread.isWaiting

/-- Records of the threads there are, in the order of listings. -/
def workers (p : Pool α) : List WorkerStatus :=
  WorkerStatus.sort ((p.statuses.filter fun e => p.ids.contains e.1).map Prod.snd)

/-- What there is to report. -/
def stats (p : Pool α) (now : Nat) : PoolStats where
  name := p.limits.name
  threads := p.threads.length
  idleThreads := p.idle
  primaryQueued := p.primary.length
  overflowQueued := p.overflow.size
  oldestOverflowWait := p.overflow.oldestWait now / nanosPerMilli
  submitted := p.counters.submitted
  completed := p.counters.completed
  panicked := p.counters.panicked
  overflowed := p.counters.overflowed
  escalations := p.counters.escalations
  workers := p.workers.map fun s => s.snapshot now

end Pool

end FlightRelay

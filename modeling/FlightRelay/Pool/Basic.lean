import FlightRelay.Pool.Backlog
import FlightRelay.Pool.Ids
import FlightRelay.Pool.Overflow
import FlightRelay.Settings.Relay
import FlightRelay.Worker.Status

/-!
# The pool

Tasks run on a bounded number of threads.  A task goes to a new thread while there are fewer than the
core threads, else to the primary queue while that has room, else to a new thread while there are fewer
than the most threads, else to the overflow queue, which has no bound.

A thread that has run its task moves overflow into the room of the primary queue, then takes the first
task of the primary queue or waits for one.  What a thread does between two tasks is done in separate
moves, `drain` and `seek`, so that other threads and submissions may come in between.
-/

namespace FlightRelay

/-- Why the pool does not take a task. -/
inductive PoolError where
  | shutDown (name : String)
  deriving DecidableEq, Repr

namespace PoolError

/-- Wording of a pool error. -/
def message : PoolError → String
  | .shutDown name => s!"Pool '{name}' is shut down"

/-- Kind of a pool error, for programs. -/
def kind : PoolError → String
  | .shutDown _ => "ShutDown"

/-- The error as a JSON value. -/
def toJson (e : PoolError) : Json.Value := .failure e.kind e.message

end PoolError

namespace Pool

/-- Bounds of a pool: at least one core thread, no fewer threads in all, and room for a task. -/
structure Limits where
  /-- Starts the names of the threads. -/
  name : String
  core : Nat
  most : Nat
  capacity : Nat
  backlog : BacklogPolicy
  core_pos : 0 < core
  core_le_most : core ≤ most
  capacity_pos : 0 < capacity

/-- Nanoseconds in a millisecond. -/
def nanosPerMilli : Nat := 1000000

namespace Limits

/-- The bounds that settings ask for, raised where they are too low. -/
def ofSettings (s : PoolSettings) (processors : Nat) : Limits where
  name := s.name
  core := max (s.core processors) 1
  most := max (s.most processors) (max (s.core processors) 1)
  capacity := max s.primaryCapacity 1
  backlog := ⟨s.backlogSize, s.backlogWait * nanosPerMilli, s.backlogInterval * nanosPerMilli⟩
  core_pos := by omega
  core_le_most := by omega
  capacity_pos := by omega

end Limits

/-- Work with the text that tells what it is. -/
structure Task (α : Type) where
  label : String
  work : α
  deriving DecidableEq, Repr, Inhabited

/-- What a thread is at. -/
inductive Phase (α : Type) where
  | running (task : Task α)
  /-- The task has ended; overflow is to be moved next. -/
  | finished
  /-- About to look for a task: between two tasks, or just woken. -/
  | seeking
  /-- Asleep until there is work. -/
  | waiting
  deriving Inhabited

/-- A thread of the pool. -/
structure Thread (α : Type) where
  id : Nat
  phase : Phase α
  deriving Inhabited

namespace Thread

variable {α : Type}

/-- The thread is asleep. -/
def isWaiting (t : Thread α) : Bool :=
  match t.phase with
  | .waiting => true
  | _ => false

end Thread

/-- What the pool counts.  A submission or a step of a thread adds at most one to each number, so that these
are 64-bit words for as long as there were fewer than `2 ^ 64`. -/
structure Counters where
  submitted : Nat
  completed : Nat
  panicked : Nat
  overflowed : Nat
  escalations : Nat
  deriving DecidableEq, Repr, Inhabited

end Pool

/-- The state of a pool; its clock counts nanoseconds. -/
structure Pool (α : Type) where
  limits : Pool.Limits
  /-- The primary queue, the next task first. -/
  primary : List (Pool.Task α)
  overflow : Pool.Overflow (Pool.Task α)
  /-- The threads; of those asleep, the one that has slept longest comes first. -/
  threads : List (Pool.Thread α)
  ids : Pool.Ids
  /-- Records of all threads there ever were. -/
  statuses : List (Nat × WorkerStatus)
  isShutDown : Bool
  /-- Submission number of the next task. -/
  nextSeq : UInt64
  monitor : Pool.BacklogMonitor
  counters : Pool.Counters

namespace Pool

variable {α : Type}

/-- A pool without threads. -/
def start (limits : Limits) : Pool α where
  limits := limits
  primary := []
  overflow := .empty
  threads := []
  ids := .empty
  statuses := []
  isShutDown := false
  nextSeq := 0
  monitor := .start
  counters := ⟨0, 0, 0, 0, 0⟩

/-! ## Threads -/

/-- Changes the record of a thread. -/
def withStatus (p : Pool α) (id : Nat) (f : WorkerStatus → WorkerStatus) : Pool α :=
  { p with statuses := p.statuses.map fun e => if e.1 = id then (id, f e.2) else e }

/-- Puts a thread into a phase. -/
def setPhase (p : Pool α) (id : Nat) (phase : Phase α) : Pool α :=
  { p with threads := p.threads.map fun t => if t.id = id then ⟨id, phase⟩ else t }

/-- Puts a thread to sleep, behind all that sleep already. -/
def sleep (p : Pool α) (id : Nat) : Pool α :=
  let asleep : Thread α := ⟨id, .waiting⟩
  { p with threads := (p.threads.filter fun t => t.id ≠ id) ++ [asleep] }

/-- Wakes the first `n` sleeping threads. -/
def wakeFirst : Nat → List (Thread α) → List (Thread α)
  | _, [] => []
  | 0, ts => ts
  | n + 1, t :: ts =>
    if t.isWaiting then ⟨t.id, .seeking⟩ :: wakeFirst n ts else t :: wakeFirst (n + 1) ts

/-- Wakes up to `n` sleeping threads. -/
def wake (p : Pool α) (n : Nat) : Pool α := { p with threads := wakeFirst n p.threads }

/-- Sets a thread to work on a task. -/
def run (p : Pool α) (id : Nat) (task : Task α) (now : Nat) : Pool α :=
  (p.setPhase id (.running task)).withStatus id fun s => s.begin task.label now

/-- The record of the thread with a number when it is new. -/
def freshStatus (p : Pool α) (id : Nat) : WorkerStatus :=
  .created (p.limits.name ++ "-" ++ toString id) id.toUInt32

/-- Starts a thread with its first task. -/
def spawn (p : Pool α) (task : Task α) (now : Nat) : Pool α :=
  let (id, ids) := p.ids.acquire
  let statuses :=
    if (p.statuses.lookup id).isSome then p.statuses else p.statuses ++ [(id, p.freshStatus id)]
  let thread : Thread α := ⟨id, .seeking⟩
  let p := { p with ids, statuses, threads := p.threads ++ [thread] }
  (p.withStatus id WorkerStatus.reopen).run id task now

/-- Ends a thread. -/
def retire (p : Pool α) (id : Nat) : Pool α :=
  let p :=
    { p with
      threads := p.threads.filter fun t => t.id ≠ id
      ids := (p.ids.release id).2 }
  p.withStatus id WorkerStatus.shutDown

/-! ## Queues -/

/-- Changes the counters. -/
def tally (p : Pool α) (f : Counters → Counters) : Pool α := { p with counters := f p.counters }

/-- Looks at the backlog and reports it. -/
def observe (p : Pool α) (now : Nat) : Pool α :=
  let (alert, monitor) :=
    p.monitor.observe p.limits.backlog p.overflow.size (p.overflow.oldestWait now) now
  let p := { p with monitor }
  if alert = .escalate then p.tally fun c => { c with escalations := c.escalations + 1 } else p

/-- Moves up to `room` tasks from the overflow queue to the end of the primary queue. -/
def moveUpTo : Nat → Pool α → Pool α
  | 0, p => p
  | room + 1, p =>
    match p.overflow.pop? with
    | none => p
    | some (w, overflow) => moveUpTo room { p with primary := p.primary ++ [w.task], overflow }

/-- Fills the primary queue from the overflow queue. -/
def moveOverflow (p : Pool α) : Pool α := moveUpTo (p.limits.capacity - p.primary.length) p

/-! ## Moves -/

/-- Takes work in under a submission number that was drawn before. -/
def enter (p : Pool α) (seq : UInt64) (label : String) (work : α) (now : Nat) :
    Except PoolError (Pool α) :=
  if p.isShutDown then .error (.shutDown p.limits.name)
  else
    let task : Task α := ⟨label, work⟩
    let p := p.tally fun c => { c with submitted := c.submitted + 1 }
    .ok
      (if p.threads.length < p.limits.core then p.spawn task now
      else if p.primary.length < p.limits.capacity then
        { p with primary := p.primary ++ [task] }.wake 1
      else if p.threads.length < p.limits.most then p.spawn task now
      else
        let p := p.tally fun c => { c with overflowed := c.overflowed + 1 }
        { p with overflow := p.overflow.push ⟨seq, now, task⟩ }.observe now)

/-- Draws the next submission number. -/
def draw (p : Pool α) : UInt64 × Pool α := (p.nextSeq, { p with nextSeq := p.nextSeq + 1 })

/-- Submits work. -/
def submit (p : Pool α) (label : String) (work : α) (now : Nat) : Except PoolError (Pool α) :=
  let (seq, p) := p.draw
  p.enter seq label work now

/-- The task of a thread has come to its end, or has panicked. -/
def finish (p : Pool α) (id : Nat) (panicked : Bool) (now : Nat) : Pool α :=
  let p := (p.setPhase id .finished).withStatus id fun s => s.finish now
  p.tally fun c =>
    if panicked then { c with panicked := c.panicked + 1 }
    else { c with completed := c.completed + 1 }

/-- After a task: moves overflow into the primary queue and wakes threads for all but one of the tasks
that were moved. -/
def drain (p : Pool α) (id : Nat) (now : Nat) : Pool α :=
  let p := p.setPhase id .seeking
  if p.overflow.size = 0 then p
  else
    let queued := p.primary.length
    let p := p.moveOverflow
    (p.wake (p.primary.length - queued - 1)).observe now

/-- Takes the next task; without one the thread goes to sleep, or ends if the pool is shut down. -/
def seek (p : Pool α) (id : Nat) (now : Nat) : Pool α :=
  let p := p.moveOverflow
  match p.primary with
  | task :: rest => { p with primary := rest }.run id task now
  | [] => if p.isShutDown then p.retire id else p.sleep id

/-- A thread has slept as long as it may: above the core it ends if nothing is queued. -/
def expire (p : Pool α) (id : Nat) (now : Nat) : Pool α :=
  if p.primary.isEmpty && p.overflow.size = 0 && p.limits.core < p.threads.length then p.retire id
  else p.seek id now

/-- Takes no more work and wakes every thread; what is queued is still run. -/
def shutDown (p : Pool α) : Pool α :=
  if p.isShutDown then p else { p with isShutDown := true }.wake p.threads.length

end Pool

end FlightRelay

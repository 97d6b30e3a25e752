import FlightRelay.Pipeline.Stage
import FlightRelay.Worker.StageError
import FlightRelay.Worker.Status

/-!
# The workers of the stages

A crew is the workers of all stages, in order.  A worker is opened before its stage begins and closed
when it ends; the crew keeps a journal of both.  Workers outlive the tasks that run them.
-/

namespace FlightRelay

/-- The worker of a stage. -/
structure StageWorker where
  status : WorkerStatus
  /-- Why the worker does not open, if it does not. -/
  obstacle : Option StageError
  /-- Closing the worker also shuts its record down. -/
  signsOff : Bool
  deriving DecidableEq, Repr, Inhabited

/-- What was asked of a worker; workers are counted from zero. -/
inductive WorkerCall where
  | opened (worker : Nat)
  | closed (worker : Nat)
  deriving DecidableEq, Repr, Inhabited

/-- The workers of all stages. -/
structure Crew where
  workers : List StageWorker
  /-- What was asked of the workers, oldest first. -/
  journal : List WorkerCall
  deriving DecidableEq, Repr, Inhabited

/-- How opening a crew ended. -/
structure Opening where
  /-- The worker that did not open, and why. -/
  failure : Option (Nat × StageError)
  /-- The workers that opened, the last one first. -/
  opened : List Nat
  deriving DecidableEq, Repr, Inhabited

namespace Crew

/-- The crew of the relay.  Only the worker that accepts connections leaves its record as it is when it
is closed. -/
def relay : Crew :=
  ⟨Stage.all.map fun s => ⟨.created s.name s.place.toUInt32, none, s ≠ .accept⟩, []⟩

/-- The record of a worker. -/
def status? (crew : Crew) (i : Nat) : Option WorkerStatus := crew.workers[i]?.map StageWorker.status

/-- The record of the worker of a stage. -/
def status (crew : Crew) (s : Stage) : WorkerStatus := (crew.status? s.place).getD default

/-- Changes the record of a worker. -/
def modify (crew : Crew) (i : Nat) (f : WorkerStatus → WorkerStatus) : Crew :=
  { crew with workers := crew.workers.modify i fun w => { w with status := f w.status } }

/-- The worker of a stage runs one whole unit of work. -/
def unit (crew : Crew) (s : Stage) (activity : String) (now : Nat) : Crew :=
  crew.modify s.place fun w => w.unit activity now

/-- Changes the records of all workers. -/
def modifyAll (crew : Crew) (f : WorkerStatus → WorkerStatus) : Crew :=
  { crew with workers := crew.workers.map fun w => { w with status := f w.status } }

/-- How often a worker was asked something. -/
def timesAsked (crew : Crew) (call : WorkerCall) : Nat := crew.journal.count call

/-! ## Opening and closing -/

/-- Writes a call down. -/
def note (crew : Crew) (call : WorkerCall) : Crew :=
  { crew with journal := crew.journal ++ [call] }

/-- Closes a worker. -/
def close (crew : Crew) (i : Nat) : Crew :=
  let crew := crew.note (.closed i)
  if (crew.workers[i]?.map StageWorker.signsOff).getD false then crew.modify i WorkerStatus.shutDown
  else crew

/-- Closes workers one after the other. -/
def closeEach (crew : Crew) (places : List Nat) : Crew := places.foldl close crew

/-- Opens workers one after the other, the first of them at place `i`, until one does not open. -/
def openFrom (crew : Crew) (i : Nat) (opened : List Nat) : List StageWorker → Opening × Crew
  | [] => (⟨none, opened⟩, crew)
  | w :: rest =>
    let crew := crew.note (.opened i)
    match w.obstacle with
    | some e => (⟨some (i, e), opened⟩, crew)
    | none => crew.openFrom (i + 1) (i :: opened) rest

/-- Opens all workers in order, until one does not open; then those that opened are closed again, the
last one first. -/
def openAll (crew : Crew) : Opening × Crew :=
  match crew.openFrom 0 [] crew.workers with
  | (⟨none, opened⟩, crew) => (⟨none, opened⟩, crew)
  | (⟨some failure, opened⟩, crew) => (⟨some failure, opened⟩, crew.closeEach opened)

/-- Closes all workers in order. -/
def closeAll (crew : Crew) : Crew := crew.closeEach (List.range crew.workers.length)

end Crew

end FlightRelay

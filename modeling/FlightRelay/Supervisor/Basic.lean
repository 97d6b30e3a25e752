import FlightRelay.Registry.Basic
import FlightRelay.Supervisor.Crew
import FlightRelay.Supervisor.SlotTable
import FlightRelay.Worker.Snapshot

/-!
# Supervision

The supervisor opens the workers and starts a task for each.  A task that ends is reported by its
watcher; a sweep finds tasks that ended and ends tasks that hang.  Both restart the stage on the same
worker.  Once the stop has begun nothing is restarted: tasks end, workers are closed in order, and all
connections are dropped.
-/

namespace FlightRelay

/-- The workers, and the tasks that run them. -/
structure Supervisor where
  crew : Crew
  table : SlotTable
  deriving DecidableEq, Repr, Inhabited

/-- Why a start failed. -/
inductive StartError where
  /-- The relay runs. -/
  | alreadyStarted
  | stageOpen (stage : String) (cause : StageError)
  deriving DecidableEq, Repr

namespace StartError

/-- Wording of a failed start. -/
def message : StartError → String
  | .alreadyStarted => "Internal error: server already started"
  | .stageOpen stage cause => s!"Stage '{stage}' failed to open: {cause.message}"

/-- Kind of a failed start, for programs. -/
def kind : StartError → String
  | .alreadyStarted => "Internal"
  | .stageOpen _ _ => "StageOpen"

/-- The error as a JSON value. -/
def toJson (e : StartError) : Json.Value := .failure e.kind e.message

end StartError

/-- What a sweep saw of a slot. -/
structure Observation where
  stage : String
  slot : Slot
  /-- The task of the slot had come to its end. -/
  ended : Bool
  deriving DecidableEq, Repr, Inhabited

namespace Supervisor

/-- Nothing was started yet. -/
def create (crew : Crew) : Supervisor := ⟨crew, .empty⟩

/-! ## Start -/

/-- Gives every worker a first task. -/
def spawnAll (s : Supervisor) : Supervisor :=
  let spawn (t : SlotTable) (w : StageWorker × Nat) : SlotTable := t.spawn w.1.status.name w.2 0 0
  { s with
    crew := s.crew.modifyAll WorkerStatus.reopen
    table := s.crew.workers.zipIdx.foldl spawn s.table }

/-- Opens the workers, then starts a task for each and the sweep. -/
def start (s : Supervisor) : Except StartError Unit × Supervisor :=
  match s.crew.openAll with
  | (⟨some (i, cause), _⟩, crew) =>
    let stage := ((crew.status? i).map WorkerStatus.name).getD ""
    (.error (.stageOpen stage cause), { s with crew })
  | (⟨none, _⟩, crew) =>
    let s := { s with crew }.spawnAll
    (.ok (), { s with table := { s.table with sweeping := !s.table.shuttingDown } })

/-! ## Healing -/

/-- Restarts a stage that failed at a generation; its worker is idle again. -/
def restart (s : Supervisor) (stage : String) (generation : Nat) : Supervisor :=
  match s.table.restart? stage generation with
  | some (worker, table) => ⟨s.crew.modify worker WorkerStatus.reopen, table⟩
  | none => s

/-- The watcher of a task reports that the task came to its end. -/
def taskExited (s : Supervisor) (task : Nat) : Supervisor :=
  match s.table.tasks[task]? with
  | some k => { s with table := s.table.setState task .ended }.restart k.stage k.generation
  | none => s

/-- A task ends, and its unit of work with it, unless it cannot be ended. -/
def endTask (s : Supervisor) (task : Nat) (now : Nat) : Supervisor :=
  match s.table.tasks[task]? with
  | none => s
  | some k =>
    match k.state with
    | .ready => s.taskExited task
    | .working => { s with crew := s.crew.modify k.worker fun w => w.finish now }.taskExited task
    | .stuck => s
    | .ended => s

/-- An operator ends the task of a stage; tells whether the stage is known. -/
def abort (s : Supervisor) (stage : String) (now : Nat) : Bool × Supervisor :=
  match s.table.find? stage with
  | some slot => (true, s.endTask slot.task now)
  | none => (false, s)

/-! ## Sweeps -/

/-- What a sweep sees before it does anything. -/
def observe (s : Supervisor) : List Observation :=
  s.table.slots.map fun (stage, slot) => ⟨stage, slot, s.table.hasEnded slot.task⟩

/-- Since when the worker that was seen runs its unit. -/
def runningSince (s : Supervisor) (o : Observation) : Option Nat :=
  (s.crew.status? o.slot.worker).bind WorkerStatus.runningSince

/-- What a sweep does about something it saw, perhaps long ago.  A task that ended is replaced; one whose
worker runs its unit for longer than the threshold is ended and replaced, even if it did not end. -/
def actOn (threshold now : Nat) (s : Supervisor) (o : Observation) : Supervisor :=
  if o.ended then s.restart o.stage o.slot.generation
  else
    match s.runningSince o with
    | none => s
    | some started =>
      if now - started ≤ threshold then s
      else (s.endTask o.slot.task now).restart o.stage o.slot.generation

/-- One sweep; the threshold and the clock count nanoseconds. -/
def sweep (s : Supervisor) (threshold now : Nat) : Supervisor :=
  s.observe.foldl (actOn threshold now) s

/-! ## Stop -/

/-- The open units of work of all tasks that can be ended come to their end. -/
def finishUnits (s : Supervisor) (now : Nat) : Supervisor :=
  let finish (crew : Crew) (k : StageTask) : Crew :=
    if k.state = .working then crew.modify k.worker fun w => w.finish now else crew
  { s with crew := s.table.tasks.foldl finish s.crew }

/-- Ends the tasks, closes the workers in order and drops all connections.  A second stop does
nothing. -/
def stop (s : Supervisor) (r : Registry) (now : Nat) : Supervisor × Registry :=
  if s.table.shuttingDown then (s, r)
  else
    let s := { s with table := s.table.shutDown }.finishUnits now
    let s := { s with table := s.table.endTasks, crew := s.crew.closeAll }
    (s, r.clear)

/-! ## Reports -/

/-- A stage as it is now; the clock counts nanoseconds. -/
def report (s : Supervisor) (now : Nat) (w : StageWorker) : StageReport :=
  let slot := s.table.find? w.status.name
  ⟨w.status.name, (slot.map Slot.generation).getD 0, (slot.map Slot.restarts).getD 0,
    (slot.map fun slot => !s.table.hasEnded slot.task).getD false, w.status.snapshot now⟩

/-- All stages, by priority; stages of one priority stay in order. -/
def reports (s : Supervisor) (now : Nat) : List StageReport :=
  (s.crew.workers.map (s.report now)).mergeSort fun a b => a.status.priority ≤ b.status.priority

end Supervisor

end FlightRelay

/-!
# Who runs what

The table has a slot for every stage that was started, and keeps all tasks that ever ran.  A slot is
replaced when its stage is restarted: the worker stays and the generation grows.  Whoever asks for a
restart names the generation that was seen to fail, so however many ask, and however late, a failure is
answered by one restart.

A task may outlive its slot: one that cannot be ended does, and so do all tasks if the stages are started
twice, or if two workers have one name.  Such a task goes on working, and its end is a failure of its
stage only if the slot is at its generation.
-/

namespace FlightRelay

/-- What a task does. -/
inductive TaskState where
  /-- It waits for work. -/
  | ready
  /-- It is in a unit of work. -/
  | working
  /-- It holds its thread and cannot be ended. -/
  | stuck
  /-- It came to its end. -/
  | ended
  deriving DecidableEq, Repr, Inhabited

/-- A task that runs a worker. -/
structure StageTask where
  /-- The stage whose slot was made for the task. -/
  stage : String
  /-- Place of the worker in the crew. -/
  worker : Nat
  generation : Nat
  state : TaskState
  deriving DecidableEq, Repr, Inhabited

/-- What is known of the task that runs a stage. -/
structure Slot where
  /-- Place of the worker in the crew. -/
  worker : Nat
  /-- How many tasks ran the stage before. -/
  generation : Nat
  restarts : Nat
  /-- Number of the task; tasks are counted from zero. -/
  task : Nat
  deriving DecidableEq, Repr, Inhabited

/-- The slots of the stages, by name, and their tasks. -/
structure SlotTable where
  slots : List (String × Slot)
  /-- All tasks, oldest first. -/
  tasks : List StageTask
  /-- How often any stage was restarted.  This and the numbers of the slots go up by one for a restart, and
  are 64-bit words while there were fewer than `2 ^ 64`. -/
  restarts : Nat
  /-- No stage is restarted any more, and tasks are told to end. -/
  shuttingDown : Bool
  /-- The periodic sweep is at work. -/
  sweeping : Bool
  deriving DecidableEq, Repr, Inhabited

namespace SlotTable

/-- Nothing was started yet. -/
def empty : SlotTable := ⟨[], [], 0, false, false⟩

/-! ## Tasks -/

/-- What a task does. -/
def state? (t : SlotTable) (task : Nat) : Option TaskState := t.tasks[task]?.map StageTask.state

/-- A task came to its end. -/
def hasEnded (t : SlotTable) (task : Nat) : Bool := t.state? task = some .ended

/-- A task goes over to something else. -/
def setState (t : SlotTable) (task : Nat) (state : TaskState) : SlotTable :=
  { t with tasks := t.tasks.modify task fun k => { k with state } }

/-- The tasks that wait for work, by number. -/
def ready (t : SlotTable) : List Nat :=
  (t.tasks.zipIdx.filter fun e => e.1.state = .ready).map Prod.snd

/-- Every task ends that can be ended. -/
def endTasks (t : SlotTable) : SlotTable :=
  let finish (k : StageTask) : StageTask := if k.state = .stuck then k else { k with state := .ended }
  { t with tasks := t.tasks.map finish }

/-! ## Slots -/

/-- The slot of a stage. -/
def find? (t : SlotTable) (stage : String) : Option Slot := t.slots.lookup stage

/-- Gives a stage a slot, in place of the one it had. -/
def put (t : SlotTable) (stage : String) (slot : Slot) : SlotTable :=
  { t with slots := (stage, slot) :: t.slots.filter fun e => e.1 ≠ stage }

/-- Starts a task for a stage and gives the stage a slot for it.  The task ends at once when everything
ends. -/
def spawn (t : SlotTable) (stage : String) (worker generation restarts : Nat) : SlotTable :=
  let state := if t.shuttingDown then .ended else .ready
  { t.put stage ⟨worker, generation, restarts, t.tasks.length⟩ with
    tasks := t.tasks ++ [⟨stage, worker, generation, state⟩] }

/-- Restarts a stage that failed at a generation, and tells whose worker it is.  There is nothing to do for
an unknown stage, for one that is at another generation, and when everything ends. -/
def restart? (t : SlotTable) (stage : String) (generation : Nat) : Option (Nat × SlotTable) :=
  if t.shuttingDown then none
  else
    match t.find? stage with
    | none => none
    | some slot =>
      if slot.generation = generation then
        let table := t.spawn stage slot.worker (slot.generation + 1) (slot.restarts + 1)
        some (slot.worker, { table with restarts := t.restarts + 1 })
      else none

/-- Tasks are told to end. -/
def shutDown (t : SlotTable) : SlotTable := { t with shuttingDown := true, sweeping := false }

end SlotTable

end FlightRelay

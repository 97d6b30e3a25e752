import FlightRelay.Supervisor.Basic

/-!
# Stages that are fed

Every worker has a queue, and its tasks take items off it one at a time.  The queue belongs to the worker,
not to a task: a task that fails or is ended is replaced, and the next one goes on with what is left.  An
item that a task took is gone, whatever became of the task.  If several tasks run one worker they take
turns: a task that waits for work stands in line behind all that waited before.
-/

namespace FlightRelay

/-- What an item does to the task that takes it. -/
inductive ItemEffect where
  | handled
  /-- The task fails. -/
  | fails
  /-- The task waits for ever, but it can be ended. -/
  | hangs
  /-- The task holds its thread for good. -/
  | seizes
  deriving DecidableEq, Repr

/-- Supervised stages with their queues. -/
structure FedStages where
  supervisor : Supervisor
  /-- What waits for each worker. -/
  queues : List (Nat × List String)
  /-- The tasks that wait for work, in the order of their turns. -/
  line : List Nat
  /-- The items that were handled, each with its worker, oldest first. -/
  seen : List (Nat × String)
  deriving DecidableEq, Repr, Inhabited

namespace FedStages

/-- Nothing was started, and nothing waits. -/
def create (crew : Crew) : FedStages := ⟨.create crew, [], [], []⟩

/-- The worker of a stage; the first one if there are several. -/
def workerOf? (s : FedStages) (stage : String) : Option Nat :=
  s.supervisor.crew.workers.findIdx? fun w => w.status.name = stage

/-- What waits for a worker. -/
def queue (s : FedStages) (worker : Nat) : List String := (s.queues.lookup worker).getD []

/-- Replaces what waits for a worker. -/
def setQueue (s : FedStages) (worker : Nat) (items : List String) : FedStages :=
  { s with queues := (worker, items) :: s.queues.filter fun q => q.1 ≠ worker }

/-- Puts items behind what waits for a stage. -/
def push (s : FedStages) (stage : String) (items : List String) : FedStages :=
  match s.workerOf? stage with
  | some worker => s.setQueue worker (s.queue worker ++ items)
  | none => s

/-- New tasks get in line, and those that wait no longer leave it. -/
def lineUp (s : FedStages) : FedStages :=
  let ready := s.supervisor.table.ready
  { s with
    line := (s.line.filter fun k => ready.contains k) ++ ready.filter fun k => !s.line.contains k }

/-- The task whose turn it is to take an item of a worker. -/
def next? (s : FedStages) (worker : Nat) : Option Nat :=
  s.line.find? fun k => s.supervisor.table.tasks[k]?.map StageTask.worker = some worker

/-- Changes the record of a worker. -/
def note (s : FedStages) (worker : Nat) (f : WorkerStatus → WorkerStatus) : FedStages :=
  { s with supervisor := { s.supervisor with crew := s.supervisor.crew.modify worker f } }

/-- A task goes over to something else. -/
def setState (s : FedStages) (task : Nat) (state : TaskState) : FedStages :=
  { s with supervisor := { s.supervisor with table := s.supervisor.table.setState task state } }

/-- A task, which runs a worker, takes an item. -/
def takeItem (effect : String → ItemEffect) (now : Nat) (s : FedStages) (worker task : Nat)
    (item : String) : FedStages :=
  let s := (s.note worker fun w => w.begin s!"handling {item}" now).setState task .working
  match effect item with
  | .handled =>
    let s := (s.note worker fun w => w.finish now).setState task .ready
    { s with line := s.line.erase task ++ [task], seen := s.seen ++ [(worker, item)] }
  | .fails => { s with supervisor := s.supervisor.endTask task now }
  | .hangs => s
  | .seizes => s.setState task .stuck

/-- The tasks of a worker take items in turn while they can. -/
def takeEach (effect : String → ItemEffect) (now : Nat) (worker : Nat) :
    FedStages → List String → FedStages
  | s, [] => s.setQueue worker []
  | s, item :: rest =>
    let s := s.lineUp
    match s.next? worker with
    | none => s.setQueue worker (item :: rest)
    | some task => takeEach effect now worker (s.takeItem effect now worker task item) rest

/-- All tasks take what they can. -/
def settle (effect : String → ItemEffect) (now : Nat) (s : FedStages) : FedStages :=
  (s.queues.foldl (fun s q => takeEach effect now q.1 s q.2) s).lineUp

/-- The items of a stage that were handled. -/
def seenBy (s : FedStages) (stage : String) : List String :=
  (s.seen.filter fun e => some e.1 = s.workerOf? stage).map Prod.snd

end FedStages

end FlightRelay

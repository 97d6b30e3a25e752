/-!
# The overflow queue

Tasks that the pool has no room for wait in the order of their submission numbers.  The moment a task
was submitted decides nothing; it only tells how long the task has waited.
-/

namespace FlightRelay.Pool

/-- A task that waits. -/
structure Waiting (α : Type) where
  /-- Submission number. -/
  seq : UInt64
  /-- Clock reading at submission. -/
  since : Nat
  task : α
  deriving Repr, DecidableEq, Inhabited

namespace Waiting

variable {α : Type}

/-- The lower its submission number, the greater a task is: it comes out first.  Tasks of one number are
level, whatever they are and whenever they were submitted. -/
instance : Ord (Waiting α) := ⟨fun v w => compare w.seq v.seq⟩

/-- How long a task has waited; none before it was submitted. -/
def waited (w : Waiting α) (now : Nat) : Nat := now - w.since

end Waiting

/-- Tasks that wait, the lowest submission number first. -/
structure Overflow (α : Type) where
  entries : List (Waiting α)
  deriving Repr, Inhabited

namespace Overflow

variable {α : Type}

/-- Nothing waits. -/
def empty : Overflow α := ⟨[]⟩

/-- Puts a task behind all tasks with no higher number. -/
def insertBySeq (w : Waiting α) : List (Waiting α) → List (Waiting α)
  | [] => [w]
  | v :: rest => if w.seq < v.seq then w :: v :: rest else v :: insertBySeq w rest

/-- Adds a task. -/
def push (q : Overflow α) (w : Waiting α) : Overflow α := ⟨insertBySeq w q.entries⟩

/-- The task with the lowest number. -/
def peek? (q : Overflow α) : Option (Waiting α) := q.entries.head?

/-- Takes the task with the lowest number. -/
def pop? (q : Overflow α) : Option (Waiting α × Overflow α) :=
  match q.entries with
  | [] => none
  | w :: rest => some (w, ⟨rest⟩)

/-- How many tasks wait. -/
def size (q : Overflow α) : Nat := q.entries.length

/-- How long the task with the lowest number has waited. -/
def oldestWait (q : Overflow α) (now : Nat) : Nat :=
  (q.peek?.map fun w => w.waited now).getD 0

end Overflow

end FlightRelay.Pool

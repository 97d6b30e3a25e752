import FlightRelay.Pool.Basic

/-!
# Letting the threads go on

`settle` lets the threads of a pool make their moves, one at a time, until every thread is asleep or
held by its task.  Which tasks come to their end is for the caller to say.
-/

namespace FlightRelay.Pool

variable {α : Type}

/-- What a thread would do next. -/
inductive Move (α : Type) where
  | drain (id : Nat)
  | seek (id : Nat)
  /-- The task ends, perhaps by panicking. -/
  | finish (id : Nat) (task : Task α) (panicked : Bool)

/-- The next move of a thread; `ending` tells whether a task comes to its end, and whether it panics. -/
def Thread.move? (ending : α → Option Bool) (t : Thread α) : Option (Move α) :=
  match t.phase with
  | .running task => (ending task.work).map (.finish t.id task)
  | .finished => some (.drain t.id)
  | .seeking => some (.seek t.id)
  | .waiting => none

/-- Lets threads go on for at most so many moves; gives the tasks that ended, in order. -/
def settleFor (ending : α → Option Bool) (now : Nat) : Nat → Pool α → List (Task α) × Pool α
  | 0, p => ([], p)
  | fuel + 1, p =>
    match p.threads.findSome? (Thread.move? ending) with
    | none => ([], p)
    | some (.drain id) => settleFor ending now fuel (p.drain id now)
    | some (.seek id) => settleFor ending now fuel (p.seek id now)
    | some (.finish id task panicked) =>
      let (ended, p) := settleFor ending now fuel (p.finish id panicked now)
      (task :: ended, p)

/-- Greatest number of moves until the pool is at rest: three for every task and two more for every
thread. -/
def movesLeft (p : Pool α) : Nat :=
  3 * (p.primary.length + p.overflow.size + p.threads.length) + 2 * p.threads.length + 1

/-- Lets threads go on until none can; gives the tasks that ended, in order. -/
def settle (p : Pool α) (ending : α → Option Bool) (now : Nat) : List (Task α) × Pool α :=
  settleFor ending now p.movesLeft p

/-- Lets sleeping threads end, the longest asleep first, until there are no more than `threads`. -/
def retireTo (threads now : Nat) : Nat → Pool α → Pool α
  | 0, p => p
  | fuel + 1, p =>
    if p.threads.length ≤ threads then p
    else
      match p.threads.find? Thread.isWaiting with
      | none => p
      | some t => retireTo threads now fuel (p.expire t.id now)

end FlightRelay.Pool

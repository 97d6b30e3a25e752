/-!
# Small numbers for workers

A worker takes the least positive number that is free, and gives it back when it retires, so the numbers
stay as small as the greatest number of workers that ever ran together.
-/

namespace FlightRelay.Pool

/-- The first number from `candidate` on that ascending numbers skip. -/
def firstGap (candidate : Nat) : List Nat → Nat
  | [] => candidate
  | id :: rest => if id = candidate then firstGap (candidate + 1) rest else candidate

/-- Numbers in use, ascending. -/
structure Ids where
  inUse : List Nat
  deriving DecidableEq, Repr, Inhabited

namespace Ids

/-- No number is in use. -/
def empty : Ids := ⟨[]⟩

/-- Puts a number at its place among ascending numbers that do not hold it yet. -/
def insertAscending (n : Nat) : List Nat → List Nat
  | [] => [n]
  | m :: rest =>
    if n < m then n :: m :: rest
    else if n = m then m :: rest
    else m :: insertAscending n rest

/-- Marks a number as in use. -/
def insert (s : Ids) (n : Nat) : Ids := ⟨insertAscending n s.inUse⟩

/-- The numbers of a list. -/
def ofList (ns : List Nat) : Ids := ns.foldl insert empty

/-- The least positive number that is not in use. -/
def leastFree (s : Ids) : Nat := firstGap 1 (s.inUse.filter (0 < ·))

/-- Takes the least positive number that is free. -/
def acquire (s : Ids) : Nat × Ids := (s.leastFree, s.insert s.leastFree)

/-- Gives a number back; tells whether it was in use. -/
def release (s : Ids) (n : Nat) : Bool × Ids := (s.inUse.contains n, ⟨s.inUse.erase n⟩)

/-- The number is in use. -/
def contains (s : Ids) (n : Nat) : Bool := s.inUse.contains n

/-- How many numbers are in use. -/
def size (s : Ids) : Nat := s.inUse.length

end Ids

end FlightRelay.Pool

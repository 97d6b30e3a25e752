import FlightRelay.Pipeline.Intake

/-!
# Lanes

What comes from one connection is handled one item at a time, in order, while connections go on side by
side.  Each connection with work has a lane, and each lane has one task on the pool: the task takes one
item, handles it, and then, in one step, either finds more and is submitted again or removes the lane.
-/

namespace FlightRelay

/-- What waits of one connection. -/
structure Lane where
  /-- The items, the next one first. -/
  queue : List Inbound
  /-- A task works on the items, or is about to. -/
  running : Bool
  deriving Inhabited

/-- A lane as it is made: without items, and without a task. -/
def Lane.idle : Lane := ⟨[], false⟩

/-- The lanes of the connections that have work, each connection once. -/
structure Lanes where
  lanes : List (ConnectionId × Lane)
  deriving Inhabited

namespace Lanes

/-- No connection has work. -/
def empty : Lanes := ⟨[]⟩

/-- The lane of a connection, if it has one. -/
def lane? (l : Lanes) (id : ConnectionId) : Option Lane := l.lanes.lookup id

/-- Replaces the lane of a connection, or makes one. -/
def put (l : Lanes) (id : ConnectionId) (lane : Lane) : Lanes :=
  if (l.lane? id).isSome then ⟨l.lanes.map fun e => if e.1 = id then (id, lane) else e⟩
  else ⟨l.lanes ++ [(id, lane)]⟩

/-- Removes a lane. -/
def drop (l : Lanes) (id : ConnectionId) : Lanes := ⟨l.lanes.filter fun e => e.1 ≠ id⟩

/-- Puts an item at the end of its lane, which has a task from then on; tells whether that has to be
submitted. -/
def enqueue (l : Lanes) (item : Inbound) : Bool × Lanes :=
  let lane := (l.lane? item.connection).getD .idle
  (!lane.running, l.put item.connection ⟨lane.queue ++ [item], true⟩)

/-- Takes the first item of a lane. -/
def take (l : Lanes) (id : ConnectionId) : Option Inbound × Lanes :=
  match l.lane? id with
  | some ⟨item :: rest, running⟩ => (some item, l.put id ⟨rest, running⟩)
  | _ => (none, l)

/-- After an item: tells whether the lane has more; if not, the lane is removed. -/
def settle (l : Lanes) (id : ConnectionId) : Bool × Lanes :=
  match l.lane? id with
  | some ⟨_ :: _, _⟩ => (true, l)
  | _ => (false, l.drop id)

end Lanes

end FlightRelay

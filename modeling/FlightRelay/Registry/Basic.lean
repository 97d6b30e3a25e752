import FlightRelay.Session

/-!
# The registry

The registry holds every live connection, each number once, and hands out the numbers.  Sessions change
through `modify` alone; a removed connection is gone for good, and whatever pointed at it is reset in
the same step.
-/

namespace FlightRelay

/-- Why the registry could not do what it was asked. -/
inductive RegistryError where
  | duplicate (id : ConnectionId)
  | notFound (id : ConnectionId)
  deriving DecidableEq, Repr

namespace RegistryError

/-- Wording of a registry error. -/
def message : RegistryError → String
  | .duplicate id => s!"Connection {id} is already registered"
  | .notFound id => s!"Connection {id} not found"

/-- Kind of a registry error, for programs. -/
def kind : RegistryError → String
  | .duplicate _ => "DuplicateConnection"
  | .notFound _ => "NotFound"

/-- The error as a JSON value. -/
def toJson (e : RegistryError) : Json.Value := .failure e.kind e.message

end RegistryError

/-- All live connections, and the next number to hand out. -/
structure Registry where
  /-- The connections, oldest registration first. -/
  connections : List Connection
  nextId : ConnectionId
  /-- Numbers whose connection has been closed, last closed first. -/
  closed : List ConnectionId
  ids_nodup : (connections.map Connection.id).Nodup

namespace Registry

/-- The registry of a relay that has just been built. -/
def empty : Registry := ⟨[], 1, [], List.nodup_nil⟩

instance : Inhabited Registry := ⟨empty⟩

/-! ## Looking up -/

/-- The connection under a number. -/
def find? (r : Registry) (id : ConnectionId) : Option Connection :=
  r.connections.find? fun c => c.id = id

/-- A connection is registered under the number. -/
def contains (r : Registry) (id : ConnectionId) : Bool :=
  (r.find? id).isSome

/-- How many connections are live. -/
def size (r : Registry) : Nat := r.connections.length

/-- The numbers of the live connections, ascending. -/
def ids (r : Registry) : List ConnectionId :=
  (r.connections.map Connection.id).mergeSort fun a b => a ≤ b

/-! ## Adding and changing -/

/-- Hands out the next number. -/
def allocate (r : Registry) : ConnectionId × Registry :=
  (r.nextId, { r with nextId := r.nextId + 1 })

theorem not_mem_of_contains_eq_false {r : Registry} {id : ConnectionId}
    (h : r.contains id = false) : id ∉ r.connections.map Connection.id := by
  simpa [contains, find?] using h

/-- Registers a connection under a number that is free. -/
def add (r : Registry) (c : Connection) : Except RegistryError Registry :=
  if h : r.contains c.id then .error (.duplicate c.id)
  else .ok
    { r with
      connections := r.connections ++ [c]
      ids_nodup := by
        have fresh := not_mem_of_contains_eq_false (Bool.eq_false_iff.2 h)
        rw [List.map_append, List.nodup_append]
        refine ⟨r.ids_nodup, by simp, ?_⟩
        rintro a ha b hb rfl
        simp only [List.map_cons, List.map_nil, List.mem_singleton] at hb
        exact fresh (hb ▸ ha) }

/-- Changes every connection by a function that keeps its number. -/
def mapConnections (r : Registry) (f : Connection → Connection) (keeps : ∀ c, (f c).id = c.id) :
    Registry :=
  { r with
    connections := r.connections.map f
    ids_nodup := by
      rw [List.map_map]
      have same : Connection.id ∘ f = Connection.id := funext keeps
      rw [same]
      exact r.ids_nodup }

/-- Changes one session; a number without a connection changes nothing. -/
def modify (r : Registry) (id : ConnectionId) (f : Session → Session) : Registry :=
  r.mapConnections (fun c => if c.id = id then c.withSession f else c) fun c => by
    split <;> rfl

/-- Changes one session, which must be there. -/
def update (r : Registry) (id : ConnectionId) (f : Session → Session) :
    Except RegistryError Registry :=
  if r.contains id then .ok (r.modify id f) else .error (.notFound id)

/-- Changes the traffic counters of one connection. -/
def count (r : Registry) (id : ConnectionId) (f : IoCounters → IoCounters) : Registry :=
  r.mapConnections (fun c => if c.id = id then { c with counters := f c.counters } else c) fun c => by
    split <;> rfl

/-- Notes a sign of life. -/
def touch (r : Registry) (id : ConnectionId) (now : Nat) : Registry :=
  r.modify id fun s => { s with lastActivity := now }

/-! ## Removing -/

/-- Which binding was reset. -/
inductive BindingKind where
  | dispatcher
  | viewer
  deriving DecidableEq, Repr

/-- A binding that pointed at a removed connection. -/
structure ClearedBinding where
  /-- The connection whose field was reset. -/
  connection : ConnectionId
  kind : BindingKind
  deriving DecidableEq, Repr

/-- What a removal leaves: the last state of the connection, and the bindings that were reset. -/
structure Removal where
  snapshot : Connection
  cleared : List ClearedBinding
  deriving Inhabited

/-- The bindings of a connection that point at `id`. -/
def bindingsTo (id : ConnectionId) (c : Connection) : List ClearedBinding :=
  (if c.session.dispatcher = id then [⟨c.id, .dispatcher⟩] else [])
    ++ (if c.session.viewer = id then [⟨c.id, .viewer⟩] else [])

/-- The session without any binding to `id`. -/
def forget (id : ConnectionId) (s : Session) : Session :=
  { s with
    dispatcher := if s.dispatcher = id then noConnection else s.dispatcher
    dispatcherUser := if s.dispatcher = id then none else s.dispatcherUser
    viewer := if s.viewer = id then noConnection else s.viewer
    viewing := if s.viewing = id then noConnection else s.viewing }

/-- The registry without the connection under `id`. -/
def without (r : Registry) (id : ConnectionId) : Registry :=
  { r with
    connections := r.connections.filter fun c => c.id ≠ id
    closed := id :: r.closed
    ids_nodup := r.ids_nodup.sublist (List.filter_sublist.map _) }

/-- Closes and evicts a connection, and resets every binding that pointed at it. -/
def remove (r : Registry) (id : ConnectionId) : Option (Removal × Registry) :=
  (r.find? id).map fun gone =>
    let rest := r.without id
    (⟨gone, rest.connections.flatMap (bindingsTo id)⟩,
      rest.mapConnections (Connection.withSession (forget id)) fun _ => rfl)

/-- Removes every connection. -/
def clear (r : Registry) : Registry :=
  r.ids.foldl (fun r id => ((r.remove id).map Prod.snd).getD r) r

end Registry

end FlightRelay

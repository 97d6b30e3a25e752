import FlightRelay.Registry.Binding
import FlightRelay.Registry.Query
import FlightRelay.Router.Error

/-!
# The relay and its outbox

The relay is the registry, the store, the outbox and the counters of the router.  A handler is an action
on the relay that may refuse; what it has sent and counted before it refuses stays.  A message reaches
the outbox only if its target is registered at that moment.
-/

namespace FlightRelay

/-- A message on its way to one connection. -/
structure Outbound where
  target : ConnectionId
  message : ServerMessage
  /-- To be written at once, not with the next batch. -/
  immediate : Bool
  deriving Inhabited

/-- Messages handed on, oldest first. -/
structure Outbox where
  /-- Somebody takes the messages. -/
  isOpen : Bool
  sent : List Outbound
  /-- How many messages were handed on. -/
  delivered : Nat
  /-- How many messages had no fitting target. -/
  misses : Nat
  deriving Inhabited

/-- What the router counts.  A message or a connection adds at most one to each number, so that these are
64-bit words for as long as there were fewer than `2 ^ 64`. -/
structure RouterCounters where
  handled : Nat
  rejected : Nat
  staleSenders : Nat
  dispatchBindings : Nat
  viewerBindings : Nat
  persistenceFailures : Nat
  deriving DecidableEq, Repr, Inhabited

/-- Counters of the router as it reports them. -/
structure RouterStats where
  handled : Nat
  rejected : Nat
  staleSenders : Nat
  delivered : Nat
  routingMisses : Nat
  dispatchBindings : Nat
  viewerBindings : Nat
  persistenceFailures : Nat
  deriving DecidableEq, Repr, Inhabited

/-- The counters as a JSON value. -/
def RouterStats.toJson (s : RouterStats) : Json.Value :=
  .object [("handled", .ofNat s.handled), ("rejected", .ofNat s.rejected),
    ("stale_senders", .ofNat s.staleSenders), ("delivered", .ofNat s.delivered),
    ("routing_misses", .ofNat s.routingMisses), ("dispatch_bindings", .ofNat s.dispatchBindings),
    ("viewer_bindings", .ofNat s.viewerBindings),
    ("persistence_failures", .ofNat s.persistenceFailures)]

/-- The state that client messages work on. -/
structure Relay where
  registry : Registry
  store : Store
  outbox : Outbox
  counters : RouterCounters
  deriving Inhabited

/-- What a handler may consult and not change. -/
structure RelayContext where
  authenticate : Authenticator
  defaults : SessionDefaults
  /-- Clock reading in milliseconds. -/
  now : UInt64

/-- A client message with its sender. -/
structure Envelope where
  message : ClientMessage
  sender : ConnectionId
  /-- The user who was logged in when the message arrived. -/
  owner : Option UserId
  deriving Inhabited

namespace Relay

/-- A relay without connections. -/
def empty (store : Store) : Relay :=
  ⟨.empty, store, ⟨true, [], 0, 0⟩, ⟨0, 0, 0, 0, 0, 0⟩⟩

/-- The counters of the router. -/
def stats (s : Relay) : RouterStats where
  handled := s.counters.handled
  rejected := s.counters.rejected
  staleSenders := s.counters.staleSenders
  delivered := s.outbox.delivered
  routingMisses := s.outbox.misses
  dispatchBindings := s.counters.dispatchBindings
  viewerBindings := s.counters.viewerBindings
  persistenceFailures := s.counters.persistenceFailures

/-! ## Sending -/

/-- Counts a message that had no fitting target. -/
def miss (s : Relay) : Relay :=
  { s with outbox := { s.outbox with misses := s.outbox.misses + 1 } }

/-- Hands a message on to its target; tells whether it was handed on. -/
def deliver (s : Relay) (message : ServerMessage) (target : ConnectionId) (immediate : Bool) :
    Bool × Relay :=
  if !s.registry.contains target then (false, s.miss)
  else if !s.outbox.isOpen then (false, s)
  else
    (true,
      { s with
        outbox :=
          { s.outbox with
            sent := s.outbox.sent ++ [⟨target, message, immediate⟩]
            delivered := s.outbox.delivered + 1 } })

/-- Sends a message to one connection. -/
def send (s : Relay) (message : ServerMessage) (target : ConnectionId) : Bool × Relay :=
  s.deliver message target false

/-- Sends a message to one connection, past the batching. -/
def sendNow (s : Relay) (message : ServerMessage) (target : ConnectionId) : Bool × Relay :=
  s.deliver message target true

/-- Sends a message to one connection if that is a live dispatcher. -/
def sendToDispatcher (s : Relay) (message : ServerMessage) (target : ConnectionId) : Bool × Relay :=
  if (s.registry.find? target).any fun c => c.role = .dispatcher then s.deliver message target false
  else (false, s.miss)

/-- Sends a message to several connections in turn; tells how many were reached. -/
def sendToAll (s : Relay) (message : ServerMessage) (targets : List ConnectionId) : Nat × Relay :=
  targets.foldl (fun (n, s) target =>
    let (reached, s) := s.send message target
    (if reached then n + 1 else n, s)) (0, s)

/-- Sends messages in turn, each to its target. -/
def sendEach (s : Relay) (messages : List (ServerMessage × ConnectionId)) : Relay :=
  messages.foldl (fun s m => (s.send m.1 m.2).2) s

/-- Sends a message to every dispatcher on duty but one. -/
def sendToDutyExcept (s : Relay) (message : ServerMessage) (skip : Option ConnectionId) :
    Nat × Relay :=
  let targets := s.registry.select fun c => c.session.isOnDutyDispatcher && some c.id ≠ skip
  s.sendToAll message (targets.map Connection.id)

/-- Sends a message to every dispatcher on duty. -/
def sendToDuty (s : Relay) (message : ServerMessage) : Nat × Relay :=
  s.sendToDutyExcept message none

/-- Takes the messages out of the outbox. -/
def drain (s : Relay) : List Outbound × Relay :=
  (s.outbox.sent, { s with outbox := { s.outbox with sent := [] } })

end Relay

/-! ## Handlers -/

/-- An action on the relay that may refuse. -/
abbrev Handler := ExceptT RouteError (StateM Relay)

namespace Handler

/-- Runs a step that cannot refuse. -/
def step {α : Type} (f : Relay → α × Relay) : Handler α := modifyGet f

/-- Runs a step for its effect. -/
def perform {α : Type} (f : Relay → α × Relay) : Handler Unit := modifyGet fun s => ((), (f s).2)

/-- Refuses. -/
def refuse {α : Type} (e : RouteError) : Handler α := throw e

/-- Refuses unless a condition holds. -/
def require (condition : Bool) (e : RouteError) : Handler Unit :=
  if condition then pure () else refuse e

/-- The registry as it stands. -/
def registry : Handler Registry := do return (← get).registry

/-- Replaces the registry. -/
def setRegistry (r : Registry) : Handler Unit := modify fun s => { s with registry := r }

/-- Changes one session, which must be there. -/
def update (id : ConnectionId) (f : Session → Session) : Handler Unit := do
  match (← registry).update id f with
  | .ok r => setRegistry r
  | .error e => refuse (.registry e)

/-- Changes the counters. -/
def tally (f : RouterCounters → RouterCounters) : Handler Unit :=
  modify fun s => { s with counters := f s.counters }

/-- Refuses unless the connection has a role. -/
def requireRole (me : Connection) (role : Role) : Handler Unit :=
  require (me.role = role) (.wrongRole me.role)

/-- The live connection under a number, which must have a role. -/
def counterpart (id : ConnectionId) (role : Role) : Handler Connection := do
  match (← registry).find? id with
  | some c => if c.role = role then return c else refuse (.unavailable id)
  | none => refuse (.unavailable id)

/-- Answers the sender that its request was carried out. -/
def acknowledge (sender : ConnectionId) (request : String) : Handler Unit :=
  perform fun s => s.send (.accepted request) sender

end Handler

end FlightRelay

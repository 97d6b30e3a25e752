import FlightRelay.Router.Dispatch
import FlightRelay.Router.SavedRoutes
import FlightRelay.Router.Viewing

/-!
# Handling messages and departures

`Relay.handle` takes one client message: an unknown sender is counted and nothing else; a known one gets
its answer, and a refused message is answered with the refusal.  `Relay.depart` removes a connection and
tells everyone who was concerned with it.
-/

namespace FlightRelay

namespace Handler

/-- Handles a message of a connection that is logged in. -/
def handleAuthenticated (ctx : RelayContext) (me : Connection) (m : ClientMessage) : Handler Unit :=
  match m with
  | .position p => position me p
  | .flightInfo plan => flightInfo me plan
  | .dispatcherStatus form => dispatcherStatus me form
  | .serviceRequest note => serviceRequest me note
  | .serviceAccept pilot => serviceAccept me pilot
  | .serviceCancel pilot reason => serviceCancel ctx me pilot reason
  | .serviceComplete remarks => serviceComplete ctx me remarks
  | .viewerRequest pilot => viewerRequest me pilot
  | .viewerAccept viewer => viewerAccept me viewer
  | .viewerReject viewer => viewerReject me viewer
  | .viewerCancel pilot => viewerCancel me pilot
  | .saveRoute route => saveRoute me route
  | .loadRoutes => loadRoutes me
  | .login _ | .ping _ => pure ()

/-- Handles a message; all but a login and a ping need a login first. -/
def handleMessage (ctx : RelayContext) (me : Connection) (m : ClientMessage) : Handler Unit :=
  match m with
  | .login form => login ctx me form
  | .ping nonce => ping ctx me.id nonce
  | m =>
    if me.session.isAuthenticated then handleAuthenticated ctx me m else refuse .notLoggedIn

end Handler

namespace Relay

/-- Counts a refusal and tells the sender. -/
def reject (s : Relay) (e : RouteError) (kind : String) (sender : ConnectionId) : Relay :=
  let failures := if e.isStoreFailure then 1 else 0
  let s :=
    { s with
      counters :=
        { s.counters with
          rejected := s.counters.rejected + 1
          persistenceFailures := s.counters.persistenceFailures + failures } }
  (s.send (.refused kind e.message) sender).2

/-- Handles one client message. -/
def handle (ctx : RelayContext) (s : Relay) (envelope : Envelope) : Relay :=
  match s.registry.find? envelope.sender with
  | none => { s with counters := { s.counters with staleSenders := s.counters.staleSenders + 1 } }
  | some me =>
    let s := { s with counters := { s.counters with handled := s.counters.handled + 1 } }
    match (Handler.handleMessage ctx me envelope.message).run.run s with
    | (.ok (), s) => s
    | (.error e, s) => s.reject e envelope.message.kind envelope.sender

/-! ## Departures -/

/-- What a connection hears when a binding of its own was reset. -/
def clearedNotice (gone : ConnectionId) (b : Registry.ClearedBinding) :
    ServerMessage × ConnectionId :=
  match b.kind with
  | .dispatcher => (.serviceCancelled b.connection "dispatcher disconnected", b.connection)
  | .viewer => (.viewerCancelled b.connection gone, b.connection)

/-- Tells the dispatchers that a pilot with a service or an open request is gone. -/
def withdrawService (s : Relay) (gone : Connection) : Relay :=
  let dispatcher := gone.session.dispatcher
  if dispatcher = noConnection && !gone.session.servicePending then s
  else
    let cancel := ServerMessage.serviceCancelled gone.id "pilot disconnected"
    let (relayed, s) :=
      if dispatcher = noConnection then (false, s) else s.sendToDispatcher cancel dispatcher
    if relayed then s else (s.sendToDuty cancel).2

/-- Tells the viewer, or else the displays in range, that a pilot is gone. -/
def withdrawTraffic (s : Relay) (gone : Connection) : Relay :=
  if gone.session.viewer ≠ noConnection then
    (s.send (.viewerCancelled gone.id gone.session.viewer) gone.session.viewer).2
  else
    match gone.session.location with
    | none => s
    | some location =>
      let displays := s.registry.within location gone.session.range fun c =>
        c.role.rendersTraffic && c.id ≠ gone.id
      s.sendEach (displays.map fun (c, _) => (.trafficRemoved gone.id, c.id))

/-- Tells everyone concerned that a connection was removed. -/
def announce (s : Relay) (removal : Registry.Removal) : Relay :=
  let gone := removal.snapshot
  let s := s.sendEach (removal.cleared.map (clearedNotice gone.id))
  if gone.role = .pilot then (s.withdrawService gone).withdrawTraffic gone else s

/-- Registers a connection under the next number. -/
def enroll (s : Relay) (remote : Option Net.Socket) (session : Session) :
    Except RegistryError ConnectionId × Relay :=
  let (id, registry) := s.registry.allocate
  match registry.add (.accepted id remote session) with
  | .ok registry => (.ok id, { s with registry })
  | .error e => (.error e, { s with registry })

/-- Removes a connection without a word. -/
def evict (s : Relay) (id : ConnectionId) : Option (Registry.Removal × Relay) :=
  (s.registry.remove id).map fun (removal, registry) => (removal, { s with registry })

/-- Removes a connection and tells everyone concerned. -/
def depart (s : Relay) (id : ConnectionId) : Option (Registry.Removal × Relay) :=
  (s.evict id).map fun (removal, s) => (removal, s.announce removal)

end Relay

end FlightRelay

import FlightRelay.Router.Basic

/-!
# Dispatch service

A pilot's request is offered to every available dispatcher whose service range covers the pilot.  The
first dispatcher who accepts is bound; either side may cancel, and the pilot completes the service.  Ends
of a service are recorded: a completion must be, a cancellation is if it can be.
-/

namespace FlightRelay.Handler

/-- The distance from a point to where a dispatcher serves, if that is within its service range. -/
def offerDistance (location : Geo.Point) (dispatcher : Connection) : Option Float :=
  (dispatcher.session.serviceLocation.map fun center => location.distance center).bind fun d =>
    if d ≤ dispatcher.session.serviceRange then some d else none

/-- What offering a request came to. -/
structure Offered where
  /-- Offers that were handed on. -/
  offers : Nat
  /-- Available dispatchers who are too far away or nowhere. -/
  outOfRange : Nat
  deriving Inhabited

/-- Offers a pilot's request to one dispatcher. -/
def offerTo (me : Connection) (location : Geo.Point) (note : String) (so : Offered)
    (dispatcher : Connection) : Handler Offered :=
  match offerDistance location dispatcher with
  | none => return { so with outOfRange := so.outOfRange + 1 }
  | some d => do
    let offer := ServerMessage.serviceOffer me.id me.session.callsign (some location) d note
    let reached ← step fun s => s.sendToDispatcher offer dispatcher.id
    return if reached then { so with offers := so.offers + 1 } else so

/-- Asks for service. -/
def serviceRequest (me : Connection) (note : String) : Handler Unit := do
  requireRole me .pilot
  match me.session.location with
  | none => refuse .positionRequired
  | some location =>
    require (me.session.dispatcher = noConnection) .alreadyServed
    let available := (← registry).select fun c => c.session.isAvailableDispatcher
    let outcome ← available.foldlM (offerTo me location note) ⟨0, 0⟩
    update me.id fun s => { s with servicePending := 0 < outcome.offers }
    acknowledge me.id "service_request"
    if 0 < outcome.outOfRange then
      perform fun s => s.send (.notice s!"{outcome.outOfRange} dispatchers out of range") me.id
    if outcome.offers = 0 then
      perform fun s => s.send (.notice "No dispatcher is available right now") me.id

/-- Takes a pilot's request. -/
def serviceAccept (me : Connection) (pilot : ConnectionId) : Handler Unit := do
  requireRole me .dispatcher
  require me.session.isAvailableDispatcher .dutyRequired
  let _ ← counterpart pilot .pilot
  match (← registry).bindDispatcher pilot me.id with
  | .error e => refuse (.registry e)
  | .ok (.bound, r) =>
    setRegistry r
    tally fun c => { c with dispatchBindings := c.dispatchBindings + 1 }
    acknowledge me.id "service_accept"
    perform fun s => s.send (.serviceBound pilot me.id me.session.callsign) pilot
  | .ok (.alreadyBound, _) => acknowledge me.id "service_accept"
  | .ok (.taken owner, _) =>
    perform fun s =>
      s.sendToDutyExcept (.serviceCancelled pilot "taken by another dispatcher") (some owner)
    refuse .alreadyTaken
  | .ok (.notRequested, _) => refuse (.notRequested pilot)

/-- Records the end of a service in the store. -/
def storeRecord (store : Store) (record : DispatchRecord) : Except StoreError Store := do
  let t ← store.begin
  let t ← store.recordDispatch t record
  store.commit t

/-- Records a cancelled service if the store takes it; counts it if not. -/
def recordCancelled (ctx : RelayContext) (pilot : Connection) (dispatcherUser : Option UserId)
    (remarks : String) : Handler Unit := do
  let record : DispatchRecord :=
    ⟨pilot.session.userId, dispatcherUser, .cancelled, remarks, ctx.now⟩
  match storeRecord (← get).store record with
  | .ok store => modify fun s => { s with store }
  | .error _ => tally fun c => { c with persistenceFailures := c.persistenceFailures + 1 }

/-- A pilot withdraws its request or leaves its service. -/
def cancelFromPilot (ctx : RelayContext) (me : Connection) (reason : String) : Handler Unit := do
  let cancel := ServerMessage.serviceCancelled me.id reason
  update me.id fun s => { s with servicePending := false }
  let relayed ←
    match (← registry).clearDispatcher me.id none with
    | some ((dispatcher, user), r) => do
      setRegistry r
      recordCancelled ctx me user reason
      step fun s => s.sendToDispatcher cancel dispatcher
    | none => pure false
  if !relayed then
    perform fun s => s.sendToDuty cancel
  acknowledge me.id "service_cancel"

/-- A dispatcher leaves a service. -/
def cancelFromDispatcher (ctx : RelayContext) (me : Connection) (pilot : ConnectionId)
    (reason : String) : Handler Unit := do
  match (← registry).clearDispatcher pilot (some me.id) with
  | none => refuse (.notServing pilot)
  | some (_, r) =>
    setRegistry r
    match r.find? pilot with
    | some p => recordCancelled ctx p me.session.userId reason
    | none => pure ()
    perform fun s => s.send (.serviceCancelled pilot reason) pilot
    acknowledge me.id "service_cancel"

/-- Ends a request or a service from either side. -/
def serviceCancel (ctx : RelayContext) (me : Connection) (pilot : Option ConnectionId)
    (reason : String) : Handler Unit :=
  match me.role, pilot with
  | .pilot, _ => cancelFromPilot ctx me reason
  | .dispatcher, some pilot => cancelFromDispatcher ctx me pilot reason
  | .dispatcher, none => refuse .pilotRequired
  | role, _ => refuse (.wrongRole role)

/-- Reports a service as done.  The dispatcher is looked up by user, so that one who has connected
again hears of it too. -/
def serviceComplete (ctx : RelayContext) (me : Connection) (remarks : String) : Handler Unit := do
  requireRole me .pilot
  let bound := me.session.dispatcher
  require (bound ≠ noConnection) .noActiveService
  let user := me.session.dispatcherUser
  let record : DispatchRecord := ⟨me.session.userId, user, .completed, remarks, ctx.now⟩
  match storeRecord (← get).store record with
  | .error e => refuse (.store e)
  | .ok store => modify fun s => { s with store }
  match (← registry).clearDispatcher me.id (some bound) with
  | some (_, r) => setRegistry r
  | none => pure ()
  let r ← registry
  match user.bind fun u => r.byUser? u (some .dispatcher) with
  | some dispatcher =>
    perform fun s => s.sendToDispatcher (.serviceCompleted me.id remarks) dispatcher.id
  | none => pure ()
  acknowledge me.id "service_complete"

end FlightRelay.Handler

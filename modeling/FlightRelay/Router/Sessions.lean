import FlightRelay.Router.Basic

/-!
# Login, keep-alive and telemetry

A login names a user, a role and wishes; it may be repeated within a session, but not with another role.
A pilot's position goes to its viewer alone if it has one, and else to its dispatcher and to every
aircraft display in range.  A display gets the nearest pilots once, when it first has a position.
-/

namespace FlightRelay.Handler

/-- A range that a client may choose: a positive number, or none. -/
def requireRange (range : Option Float) : Handler Unit :=
  match range with
  | none => pure ()
  | some r => require (r.isFinite && 0.0 < r) (.invalidRange r)

/-- The traffic report of a connection at a position. -/
def trafficAt (c : Connection) (position : Position) : ServerMessage :=
  .traffic c.id c.session.callsign position none 0

/-- The traffic report of a connection, if it has reported a position. -/
def trafficOf (c : Connection) : Option ServerMessage :=
  c.session.position.map (trafficAt c)

/-- The pilots that the first traffic picture of a connection is made of, nearest first. -/
def pictureOf (r : Registry) (me : Connection) (location : Geo.Point) : List Connection :=
  let near := r.within location me.session.range fun c =>
    c.id ≠ me.id && c.role = .pilot && c.session.viewer = noConnection
  (near.take me.session.maxAircraft.toNat).map Prod.fst

/-- Sends a connection its first traffic picture, if it has a position. -/
def sendPicture (id : ConnectionId) : Handler Unit := do
  let r ← registry
  match r.find? id with
  | none => pure ()
  | some me =>
    match me.session.location with
    | none => pure ()
    | some location =>
      let traffic := (pictureOf r me location).filterMap trafficOf
      modify fun s => s.sendEach (traffic.map fun m => (m, id))
      setRegistry ((← registry).modify id fun s => { s with snapshotPending := false })

/-- The session after a login. -/
def loggedIn (form : LoginForm) (callsign : String) (user : UserId) (d : SessionDefaults)
    (s : Session) : Session :=
  { s with
    user := some ⟨user, callsign⟩
    role := form.role
    protocolVersion := form.protocolVersion
    compression := form.compression
    range := form.range.getD d.range
    maxAircraft := form.maxAircraft.getD d.maxAircraft
    snapshotPending := form.role.rendersTraffic }

/-- Starts a session or renews it. -/
def login (ctx : RelayContext) (me : Connection) (form : LoginForm) : Handler Unit := do
  require (form.role ≠ .unidentified) .roleRequired
  let callsign := Text.trim form.callsign
  require (callsign ≠ "") .callsignRequired
  requireRange form.range
  require (!me.session.isAuthenticated || me.role = form.role) .roleFixed
  let profile ←
    match ctx.authenticate form.userId form.token with
    | .ok profile => pure profile
    | .error e => refuse (.auth e)
  require (profile.permits form.role) (.wrongRole form.role)
  update me.id (loggedIn form callsign profile.userId ctx.defaults)
  let hasPosition := ((← registry).find? me.id).any fun c => c.session.position.isSome
  perform fun s => s.sendNow (.accepted "login") me.id
  if hasPosition && form.role.rendersTraffic then sendPicture me.id

/-- Answers a sign of life. -/
def ping (ctx : RelayContext) (sender : ConnectionId) (nonce : UInt64) : Handler Unit :=
  perform fun s => s.sendNow (.pong nonce ctx.now) sender

/-- Takes in a position and passes it on. -/
def position (me : Connection) (p : Position) : Handler Unit := do
  require p.location.isValid .invalidCoordinates
  update me.id fun s => { s with position := some p }
  let s := (((← registry).find? me.id).getD me).session
  if s.snapshotPending then sendPicture me.id
  if me.role = .pilot then
    let traffic := trafficAt me p
    if s.viewer ≠ noConnection then
      perform fun w => w.send traffic s.viewer
    else
      if s.dispatcher ≠ noConnection then
        perform fun w => w.sendToDispatcher traffic s.dispatcher
      let displays := (← registry).within p.location me.session.range fun c =>
        c.id ≠ me.id && c.role.rendersTraffic
      modify fun w => w.sendEach (displays.map fun (c, _) => (traffic, c.id))

/-- Takes in a flight plan and passes it on to the dispatcher and the viewer. -/
def flightInfo (me : Connection) (plan : FlightPlan) : Handler Unit := do
  requireRole me .pilot
  update me.id fun s => { s with flightPlan := some plan }
  let s := (((← registry).find? me.id).getD me).session
  let relay := ServerMessage.flightInfo me.id me.session.callsign plan
  if s.dispatcher ≠ noConnection then
    perform fun w => w.sendToDispatcher relay s.dispatcher
  if s.viewer ≠ noConnection then
    perform fun w => w.send relay s.viewer

/-- The session after a change of duty. -/
def dutyChanged (form : DutyForm) (s : Session) : Session :=
  { s with
    onDuty := form.onDuty
    busy := form.busy
    hidden := form.hidden
    serviceRange := form.range.getD s.serviceRange
    serviceCenter := form.center.or s.serviceCenter }

/-- Changes the duty of a dispatcher. -/
def dispatcherStatus (me : Connection) (form : DutyForm) : Handler Unit := do
  requireRole me .dispatcher
  requireRange form.range
  require (form.center.all Geo.Point.isValid) .invalidServiceCenter
  update me.id (dutyChanged form)
  acknowledge me.id "dispatcher_status"

end FlightRelay.Handler

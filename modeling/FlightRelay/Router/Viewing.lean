import FlightRelay.Router.Sessions

/-!
# Flight viewing

A spectator asks to follow a pilot, and the pilot accepts or declines.  Either side ends the viewing.
-/

namespace FlightRelay.Handler

/-- A spectator asks to follow a pilot. -/
def viewerRequest (me : Connection) (pilot : ConnectionId) : Handler Unit := do
  requireRole me .viewer
  let p ← counterpart pilot .pilot
  let following := me.session.viewing
  if following ≠ noConnection && following ≠ pilot then
    perform fun s => s.send (.viewerRejected pilot RouteError.alreadyFollowing.message) me.id
    refuse .alreadyFollowing
  else if p.session.viewer = noConnection then
    perform fun s => s.send (.viewerRequested me.id me.session.callsign) pilot
    acknowledge me.id "viewer_request"
  else if p.session.viewer = me.id then
    acknowledge me.id "viewer_request"
  else
    perform fun s => s.send (.viewerRejected pilot RouteError.alreadyViewed.message) me.id
    refuse .alreadyViewed

/-- A pilot lets a spectator follow. -/
def viewerAccept (me : Connection) (viewer : ConnectionId) : Handler Unit := do
  requireRole me .pilot
  let _ ← counterpart viewer .viewer
  match (← registry).bindViewer me.id viewer with
  | .error e => refuse (.registry e)
  | .ok (.bound, r) =>
    setRegistry r
    tally fun c => { c with viewerBindings := c.viewerBindings + 1 }
    perform fun s => s.send (.viewerBound me.id viewer) viewer
    match trafficOf me with
    | some traffic => perform fun s => s.send traffic viewer
    | none => pure ()
    acknowledge me.id "viewer_accept"
  | .ok (.alreadyBound, r) =>
    setRegistry r
    acknowledge me.id "viewer_accept"
  | .ok (.rejected _, r) =>
    setRegistry r
    perform fun s => s.send (.viewerRejected me.id RouteError.alreadyViewed.message) viewer
    refuse .alreadyViewed
  | .ok (.following _, r) =>
    setRegistry r
    perform fun s => s.send (.viewerRejected me.id RouteError.alreadyFollowing.message) viewer
    refuse .alreadyFollowing

/-- A pilot declines a spectator, and drops it if it was already following. -/
def viewerReject (me : Connection) (viewer : ConnectionId) : Handler Unit := do
  requireRole me .pilot
  match (← registry).clearViewer me.id (some viewer) with
  | some (_, r) => setRegistry r
  | none => pure ()
  perform fun s => s.send (.viewerRejected me.id "declined by pilot") viewer
  acknowledge me.id "viewer_reject"

/-- Ends a viewing and tells the other side of it. -/
def endViewing (pilot : ConnectionId) (expected : Option ConnectionId)
    (told : ConnectionId → ConnectionId) : Handler Unit := do
  match (← registry).clearViewer pilot expected with
  | some (viewer, r) =>
    setRegistry r
    perform fun s => s.send (.viewerCancelled pilot viewer) (told viewer)
  | none => pure ()

/-- Ends a viewing from either side. -/
def viewerCancel (me : Connection) (pilot : Option ConnectionId) : Handler Unit := do
  match me.role, pilot with
  | .viewer, some pilot => endViewing pilot (some me.id) fun _ => pilot
  | .viewer, none => refuse .pilotRequired
  | .pilot, _ => endViewing me.id none fun viewer => viewer
  | role, _ => refuse (.wrongRole role)
  acknowledge me.id "viewer_cancel"

end FlightRelay.Handler

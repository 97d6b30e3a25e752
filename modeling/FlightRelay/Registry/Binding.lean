import FlightRelay.Registry.Basic

/-!
# Bindings between connections

A pilot is bound to at most one dispatcher, and a pilot and a spectator at most to each other.  Binding
and clearing are made of sections, each of which looks at one session and changes it; sections of
different connections may run in any order, so each decides on what it sees itself.
-/

namespace FlightRelay

namespace Registry

/-! ## Dispatchers -/

/-- How an attempt to bind a dispatcher ended. -/
inductive DispatchBind where
  | bound
  | alreadyBound
  /-- Another dispatcher was first. -/
  | taken (owner : ConnectionId)
  /-- The pilot has no open request. -/
  | notRequested
  deriving DecidableEq, Repr

/-- What became of the bind, in short. -/
def DispatchBind.text : DispatchBind → String
  | .bound => "Bound"
  | .alreadyBound => "AlreadyBound"
  | .taken owner => s!"Taken({owner})"
  | .notRequested => "NotRequested"

/-- What a pilot's session answers to a dispatcher who wants to serve it. -/
def dispatchBind (s : Session) (dispatcher : ConnectionId) : DispatchBind :=
  if s.dispatcher = dispatcher then .alreadyBound
  else if s.dispatcher ≠ noConnection then .taken s.dispatcher
  else if !s.servicePending then .notRequested
  else .bound

/-- Binds a dispatcher to a pilot that has an open request and no dispatcher; the request is closed. -/
def bindDispatcher (r : Registry) (pilot dispatcher : ConnectionId) :
    Except RegistryError (DispatchBind × Registry) :=
  match r.find? dispatcher, r.find? pilot with
  | none, _ => .error (.notFound dispatcher)
  | some _, none => .error (.notFound pilot)
  | some d, some p =>
    let outcome := dispatchBind p.session dispatcher
    .ok (outcome,
      if outcome = .bound then
        r.modify pilot fun s =>
          { s with dispatcher, dispatcherUser := d.session.userId, servicePending := false }
      else r)

/-- Ends the binding of a pilot to its dispatcher, or to the expected one only; gives the dispatcher
and the user behind it. -/
def clearDispatcher (r : Registry) (pilot : ConnectionId) (expected : Option ConnectionId) :
    Option ((ConnectionId × Option UserId) × Registry) := do
  let p ← r.find? pilot
  let s := p.session
  if s.dispatcher = noConnection || expected.any (· ≠ s.dispatcher) then none
  else
    some ((s.dispatcher, s.dispatcherUser),
      r.modify pilot fun s => { s with dispatcher := noConnection, dispatcherUser := none })

/-! ## Viewers -/

/-- How an attempt to bind a viewer ended. -/
inductive ViewerBind where
  | bound
  | alreadyBound
  /-- The pilot has another viewer. -/
  | rejected (current : ConnectionId)
  /-- The viewer follows another pilot. -/
  | following (other : ConnectionId)
  deriving DecidableEq, Repr

/-- What became of the bind, in short. -/
def ViewerBind.text : ViewerBind → String
  | .bound => "Bound"
  | .alreadyBound => "AlreadyBound"
  | .rejected current => s!"Rejected({current})"
  | .following other => s!"Following({other})"

/-- What became of a claim on a viewer. -/
inductive Claim where
  /-- The viewer was free and now follows the pilot. -/
  | fresh
  /-- The viewer follows the pilot already. -/
  | held
  | following (other : ConnectionId)
  deriving DecidableEq, Repr

/-- First section of a bind: the viewer is claimed for the pilot. -/
def claimViewer (r : Registry) (pilot viewer : ConnectionId) : Claim × Registry :=
  match r.find? viewer with
  | none => (.held, r)
  | some v =>
    if v.session.viewing = noConnection then
      (.fresh, r.modify viewer fun s => { s with viewing := pilot })
    else if v.session.viewing = pilot then (.held, r)
    else (.following v.session.viewing, r)

/-- Second section of a bind: the pilot takes the viewer unless it has another one. -/
def attachViewer (r : Registry) (pilot viewer : ConnectionId) : ViewerBind × Registry :=
  match r.find? pilot with
  | none => (.alreadyBound, r)
  | some p =>
    if p.session.viewer = noConnection then
      (.bound, r.modify pilot fun s => { s with viewer })
    else if p.session.viewer = viewer then (.alreadyBound, r)
    else (.rejected p.session.viewer, r)

/-- Last section of a bind that was rejected, and of clearing: the viewer no longer follows the pilot. -/
def releaseViewer (r : Registry) (pilot viewer : ConnectionId) : Registry :=
  r.modify viewer fun s => if s.viewing = pilot then { s with viewing := noConnection } else s

/-- Binds a viewer to a pilot, one to one. -/
def bindViewer (r : Registry) (pilot viewer : ConnectionId) :
    Except RegistryError (ViewerBind × Registry) :=
  if !r.contains viewer then .error (.notFound viewer)
  else if !r.contains pilot then .error (.notFound pilot)
  else
    match r.claimViewer pilot viewer with
    | (.following other, r) => .ok (.following other, r)
    | (claim, r) =>
      match r.attachViewer pilot viewer with
      | (.rejected current, r) =>
        .ok (.rejected current, if claim = .fresh then r.releaseViewer pilot viewer else r)
      | (outcome, r) => .ok (outcome, r)

/-- First section of clearing: the pilot drops its viewer, or the expected one only. -/
def detachViewer (r : Registry) (pilot : ConnectionId) (expected : Option ConnectionId) :
    Option (ConnectionId × Registry) := do
  let p ← r.find? pilot
  let s := p.session
  if s.viewer = noConnection || expected.any (· ≠ s.viewer) then none
  else some (s.viewer, r.modify pilot fun s => { s with viewer := noConnection })

/-- Ends the binding of a pilot to its viewer, or to the expected one only; gives the viewer. -/
def clearViewer (r : Registry) (pilot : ConnectionId) (expected : Option ConnectionId) :
    Option (ConnectionId × Registry) :=
  (r.detachViewer pilot expected).map fun (viewer, r) => (viewer, r.releaseViewer pilot viewer)

end Registry

end FlightRelay

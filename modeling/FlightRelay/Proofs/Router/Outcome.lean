import FlightRelay.Proofs.Registry.Binding
import FlightRelay.Proofs.Router.Mail
import FlightRelay.Router.Handle

/-!
# Outcomes

All that one client message can do.  `Carried` lists the ways in which a message is carried out, each with
what it found and what it leaves; a message that is not carried out is refused, and then nothing is left
of it but warnings to those whom it concerned.
-/

namespace FlightRelay

open Outbound

/-- What is left of a message: the registry, the store and the counters, and what was posted. -/
structure Outcome where
  registry : Registry
  store : Store
  counters : RouterCounters
  posts : List Outbound

/-! ## What is posted -/

/-- The traffic picture of a connection at a place. -/
def Registry.picture (r : Registry) (me : Connection) (location : Geo.Point) : List Outbound :=
  ((Handler.pictureOf r me location).filterMap Handler.trafficOf).map fun m => batched m me.id

/-- The traffic picture of a connection, if it has a position. -/
def Registry.firstPicture (r : Registry) (me : Connection) : List Outbound :=
  match me.session.location with
  | some location => r.picture me location
  | none => []

/-- Who hears of a pilot's new position. -/
def Registry.positionReports (r : Registry) (me : Connection) (p : Position) : List Outbound :=
  if me.session.viewer ≠ noConnection then [batched (Handler.trafficAt me p) me.session.viewer]
  else
    (if me.session.dispatcher ≠ noConnection
      then r.toDispatcher (Handler.trafficAt me p) me.session.dispatcher else [])
      ++ (r.within p.location me.session.range fun c => c.id ≠ me.id && c.role.rendersTraffic).map
        fun d => batched (Handler.trafficAt me p) d.1.id

/-- Who hears of a pilot's flight plan. -/
def Registry.planReports (r : Registry) (me : Connection) (plan : FlightPlan) : List Outbound :=
  (if me.session.dispatcher ≠ noConnection
    then r.toDispatcher (.flightInfo me.id me.session.callsign plan) me.session.dispatcher else [])
    ++ if me.session.viewer ≠ noConnection
      then [batched (.flightInfo me.id me.session.callsign plan) me.session.viewer] else []

/-- The offer of a pilot's request to one dispatcher, if that covers the pilot. -/
def Connection.offer? (me : Connection) (location : Geo.Point) (note : String)
    (dispatcher : Connection) : Option Outbound :=
  (Handler.offerDistance location dispatcher).map fun d =>
    batched (.serviceOffer me.id me.session.callsign (some location) d note) dispatcher.id

/-- The dispatchers who may be offered a request. -/
def Registry.available (r : Registry) : List Connection :=
  r.select fun c => c.session.isAvailableDispatcher

/-- The offers of a pilot's request. -/
def Registry.offers (r : Registry) (me : Connection) (location : Geo.Point) (note : String) :
    List Outbound :=
  r.available.filterMap (me.offer? location note)

/-- How many available dispatchers do not cover a place. -/
def Registry.uncovered (r : Registry) (location : Geo.Point) : Nat :=
  r.available.countP fun d => (Handler.offerDistance location d).isNone

/-- How many offers of a pilot's request are handed on. -/
def Relay.offered (s : Relay) (me : Connection) (location : Geo.Point) (note : String) : Nat :=
  (s.registry.mail s.outbox.isOpen (s.registry.offers me location note)).length

/-- What a pilot is told about its request. -/
def requestNotices (me : ConnectionId) (offered uncovered : Nat) : List Outbound :=
  (if 0 < uncovered then [batched (.notice s!"{uncovered} dispatchers out of range") me] else [])
    ++ if offered = 0 then [batched (.notice "No dispatcher is available right now") me] else []

/-- Who hears that a service is done: the newest connection of the user behind the dispatcher. -/
def Registry.completion (r : Registry) (message : ServerMessage) (user : Option UserId) :
    List Outbound :=
  match user.bind fun u => r.byUser? u (some .dispatcher) with
  | some dispatcher => r.toDispatcher message dispatcher.id
  | none => []

/-! ## What sessions become -/

namespace Session

/-- The session after a position report; a picture that was owed has been sent. -/
def reported (p : Position) (s : Session) : Session :=
  { s with position := some p, snapshotPending := false }

/-- The session after a login; the picture is owed to a display without a position. -/
def welcomed (form : LoginForm) (callsign : String) (user : UserId) (d : SessionDefaults)
    (s : Session) : Session :=
  { Handler.loggedIn form callsign user d s with
    snapshotPending := form.role.rendersTraffic && s.position.isNone }

/-- The session with an open request, or with none. -/
def requesting (pending : Bool) (s : Session) : Session := { s with servicePending := pending }

end Session

open Session

/-! ## What the store and the counters become -/

/-- The store after an attempt to record a cancelled service. -/
def Store.noted (store : Store) (record : DispatchRecord) : Store :=
  match Handler.storeRecord store record with
  | .ok store => store
  | .error _ => store

/-- The counters after an attempt to record a cancelled service. -/
def RouterCounters.noted (counters : RouterCounters) (store : Store) (record : DispatchRecord) :
    RouterCounters :=
  match Handler.storeRecord store record with
  | .ok _ => counters
  | .error _ => { counters with persistenceFailures := counters.persistenceFailures + 1 }

/-- The ways in which a message of a live connection is carried out. -/
inductive Carried (ctx : RelayContext) (s : Relay) (me : Connection) : ClientMessage → Outcome → Prop
  | login {form : LoginForm} {profile : Profile} {k : Session → Session}
      (role : form.role ≠ .unidentified)
      (fixed : me.session.isAuthenticated = true → me.role = form.role)
      (known : ctx.authenticate form.userId form.token = .ok profile)
      (permitted : profile.permits form.role = true)
      (session : k = Handler.loggedIn form (Text.trim form.callsign) profile.userId ctx.defaults) :
      Carried ctx s me (.login form)
        { registry := s.registry.modify me.id
            (welcomed form (Text.trim form.callsign) profile.userId ctx.defaults)
          store := s.store
          counters := s.counters
          posts := urgent (.accepted "login") me.id ::
            if form.role.rendersTraffic
              then (s.registry.modify me.id k).firstPicture (me.withSession k) else [] }
  | ping {nonce : UInt64} :
      Carried ctx s me (.ping nonce)
        ⟨s.registry, s.store, s.counters, [urgent (.pong nonce ctx.now) me.id]⟩
  | position {p : Position} {k : Session → Session}
      (authenticated : me.session.isAuthenticated = true)
      (valid : p.location.isValid = true)
      (session : k = fun s => { s with position := some p }) :
      Carried ctx s me (.position p)
        { registry := s.registry.modify me.id (reported p)
          store := s.store
          counters := s.counters
          posts :=
            (if me.session.snapshotPending
              then (s.registry.modify me.id k).firstPicture (me.withSession k) else [])
              ++ if me.role = .pilot
                then (s.registry.modify me.id (reported p)).positionReports me p else [] }
  | flightInfo {plan : FlightPlan} {k : Session → Session}
      (role : me.role = .pilot)
      (session : k = fun s => { s with flightPlan := some plan }) :
      Carried ctx s me (.flightInfo plan)
        ⟨s.registry.modify me.id k, s.store, s.counters,
          (s.registry.modify me.id k).planReports me plan⟩
  | dispatcherStatus {form : DutyForm}
      (role : me.role = .dispatcher) :
      Carried ctx s me (.dispatcherStatus form)
        ⟨s.registry.modify me.id (Handler.dutyChanged form), s.store, s.counters,
          [batched (.accepted "dispatcher_status") me.id]⟩
  | requested {note : String} {location : Geo.Point}
      (role : me.role = .pilot)
      (place : me.session.location = some location)
      (unserved : me.session.dispatcher = noConnection) :
      Carried ctx s me (.serviceRequest note)
        { registry := s.registry.modify me.id (requesting (0 < s.offered me location note))
          store := s.store
          counters := s.counters
          posts := s.registry.offers me location note
            ++ batched (.accepted "service_request") me.id ::
              requestNotices me.id (s.offered me location note) (s.registry.uncovered location) }
  | serviceBound {pilot : ConnectionId} {p : Connection}
      (role : me.role = .dispatcher)
      (available : me.session.isAvailableDispatcher = true)
      (live : s.registry.find? pilot = some p)
      (pilotRole : p.role = .pilot)
      (unserved : p.session.dispatcher = noConnection)
      (pending : p.session.servicePending = true) :
      Carried ctx s me (.serviceAccept pilot)
        { registry := s.registry.modify pilot (servedBy me.id me.session.userId)
          store := s.store
          counters := { s.counters with dispatchBindings := s.counters.dispatchBindings + 1 }
          posts := [batched (.accepted "service_accept") me.id,
            batched (.serviceBound pilot me.id me.session.callsign) pilot] }
  | serviceKept {pilot : ConnectionId} {p : Connection}
      (role : me.role = .dispatcher)
      (live : s.registry.find? pilot = some p)
      (served : p.session.dispatcher = me.id) :
      Carried ctx s me (.serviceAccept pilot)
        ⟨s.registry, s.store, s.counters, [batched (.accepted "service_accept") me.id]⟩
  | pilotLeft {pilot : Option ConnectionId} {reason : String} {record : DispatchRecord}
      (role : me.role = .pilot)
      (served : me.session.dispatcher ≠ noConnection)
      (written : record
        = ⟨me.session.userId, me.session.dispatcherUser, .cancelled, reason, ctx.now⟩) :
      Carried ctx s me (.serviceCancel pilot reason)
        { registry := s.registry.modify me.id (released ∘ requesting false)
          store := s.store.noted record
          counters := s.counters.noted s.store record
          posts := (s.registry.modify me.id (released ∘ requesting false)).withdrawal
              (.serviceCancelled me.id reason) me.session.dispatcher
            ++ [batched (.accepted "service_cancel") me.id] }
  | pilotWithdrew {pilot : Option ConnectionId} {reason : String}
      (role : me.role = .pilot)
      (unserved : me.session.dispatcher = noConnection) :
      Carried ctx s me (.serviceCancel pilot reason)
        { registry := s.registry.modify me.id (requesting false)
          store := s.store
          counters := s.counters
          posts := (s.registry.modify me.id (requesting false)).toDuty
              (.serviceCancelled me.id reason) none
            ++ [batched (.accepted "service_cancel") me.id] }
  | dispatcherLeft {pilot : ConnectionId} {p : Connection} {reason : String}
      {record : DispatchRecord}
      (role : me.role = .dispatcher)
      (live : s.registry.find? pilot = some p)
      (served : p.session.dispatcher = me.id)
      (bound : me.id ≠ noConnection)
      (written : record = ⟨p.session.userId, me.session.userId, .cancelled, reason, ctx.now⟩) :
      Carried ctx s me (.serviceCancel (some pilot) reason)
        { registry := s.registry.modify pilot released
          store := s.store.noted record
          counters := s.counters.noted s.store record
          posts := [batched (.serviceCancelled pilot reason) pilot,
            batched (.accepted "service_cancel") me.id] }
  | completed {remarks : String} {store : Store}
      (role : me.role = .pilot)
      (served : me.session.dispatcher ≠ noConnection)
      (committed : Handler.storeRecord s.store
        ⟨me.session.userId, me.session.dispatcherUser, .completed, remarks, ctx.now⟩ = .ok store) :
      Carried ctx s me (.serviceComplete remarks)
        { registry := s.registry.modify me.id released
          store
          counters := s.counters
          posts := (s.registry.modify me.id released).completion (.serviceCompleted me.id remarks)
              me.session.dispatcherUser
            ++ [batched (.accepted "service_complete") me.id] }
  | viewerAsked {pilot : ConnectionId} {p : Connection}
      (role : me.role = .viewer)
      (live : s.registry.find? pilot = some p)
      (pilotRole : p.role = .pilot)
      (unviewed : p.session.viewer = noConnection) :
      Carried ctx s me (.viewerRequest pilot)
        ⟨s.registry, s.store, s.counters,
          [batched (.viewerRequested me.id me.session.callsign) pilot,
            batched (.accepted "viewer_request") me.id]⟩
  | viewerKnown {pilot : ConnectionId} {p : Connection}
      (role : me.role = .viewer)
      (live : s.registry.find? pilot = some p)
      (viewed : p.session.viewer = me.id) :
      Carried ctx s me (.viewerRequest pilot)
        ⟨s.registry, s.store, s.counters, [batched (.accepted "viewer_request") me.id]⟩
  | viewerBound {viewer : ConnectionId} {v : Connection}
      (role : me.role = .pilot)
      (live : s.registry.find? viewer = some v)
      (viewerRole : v.role = .viewer)
      (unviewed : me.session.viewer = noConnection)
      (idle : v.session.viewing = noConnection ∨ v.session.viewing = me.id) :
      Carried ctx s me (.viewerAccept viewer)
        { registry :=
            (s.registry.modify viewer (following me.id)).modify me.id (followedBy viewer)
          store := s.store
          counters := { s.counters with viewerBindings := s.counters.viewerBindings + 1 }
          posts := batched (.viewerBound me.id viewer) viewer ::
            (((Handler.trafficOf me).map fun m => batched m viewer).toList
              ++ [batched (.accepted "viewer_accept") me.id]) }
  | viewerKept {viewer : ConnectionId} {v : Connection}
      (role : me.role = .pilot)
      (live : s.registry.find? viewer = some v)
      (viewerRole : v.role = .viewer)
      (viewed : me.session.viewer = viewer)
      (idle : v.session.viewing = noConnection ∨ v.session.viewing = me.id) :
      Carried ctx s me (.viewerAccept viewer)
        ⟨s.registry.modify viewer (following me.id), s.store, s.counters,
          [batched (.accepted "viewer_accept") me.id]⟩
  | viewerDropped {viewer : ConnectionId} {r : Registry}
      (role : me.role = .pilot)
      (cleared : s.registry.clearViewer me.id (some viewer) = some (viewer, r)) :
      Carried ctx s me (.viewerReject viewer)
        ⟨r, s.store, s.counters, [batched (.viewerRejected me.id "declined by pilot") viewer,
          batched (.accepted "viewer_reject") me.id]⟩
  | viewerDeclined {viewer : ConnectionId}
      (role : me.role = .pilot)
      (kept : s.registry.clearViewer me.id (some viewer) = none) :
      Carried ctx s me (.viewerReject viewer)
        ⟨s.registry, s.store, s.counters, [batched (.viewerRejected me.id "declined by pilot") viewer,
          batched (.accepted "viewer_reject") me.id]⟩
  | viewerLeft {pilot : ConnectionId} {r : Registry}
      (role : me.role = .viewer)
      (cleared : s.registry.clearViewer pilot (some me.id) = some (me.id, r)) :
      Carried ctx s me (.viewerCancel (some pilot))
        ⟨r, s.store, s.counters, [batched (.viewerCancelled pilot me.id) pilot,
          batched (.accepted "viewer_cancel") me.id]⟩
  | viewingEnded {pilot : Option ConnectionId} {viewer : ConnectionId} {r : Registry}
      (role : me.role = .pilot)
      (cleared : s.registry.clearViewer me.id none = some (viewer, r)) :
      Carried ctx s me (.viewerCancel pilot)
        ⟨r, s.store, s.counters, [batched (.viewerCancelled me.id viewer) viewer,
          batched (.accepted "viewer_cancel") me.id]⟩
  | nothingEnded {pilot : Option ConnectionId}
      (nothing : (∃ p, me.role = .viewer ∧ pilot = some p ∧
          s.registry.clearViewer p (some me.id) = none) ∨
        (me.role = .pilot ∧ s.registry.clearViewer me.id none = none)) :
      Carried ctx s me (.viewerCancel pilot)
        ⟨s.registry, s.store, s.counters, [batched (.accepted "viewer_cancel") me.id]⟩
  | routeSaved {route : Route} {user : UserId} {store : Store}
      (known : me.session.userId = some user)
      (committed : Handler.storeRoute s.store user { route with name := Text.trim route.name }
        = .ok store) :
      Carried ctx s me (.saveRoute route)
        ⟨s.registry, store, s.counters, [batched (.accepted "save_route") me.id]⟩
  | routesLoaded {routes : List Route} {user : UserId}
      (known : me.session.userId = some user)
      (read : Handler.storedRoutes s.store user = .ok routes) :
      Carried ctx s me .loadRoutes
        ⟨s.registry, s.store, s.counters, [batched (.routes routes) me.id]⟩

/-- A message that warns somebody of a refusal. -/
def ServerMessage.isWarning : ServerMessage → Bool
  | .viewerRejected _ _ | .serviceCancelled _ _ => true
  | _ => false

/-- The role of those whom a warning is for. -/
def ServerMessage.warnedRole : ServerMessage → Role
  | .serviceCancelled _ _ => .dispatcher
  | _ => .viewer

namespace Relay

/-- The relay `t` is what `s` has become with an outcome. -/
structure Reaches (s : Relay) (o : Outcome) (t : Relay) : Prop where
  registry : t.registry = o.registry
  store : t.store = o.store
  counters : t.counters = o.counters
  /-- Nobody comes or goes. -/
  live : ∀ i, o.registry.contains i = s.registry.contains i
  isOpen : t.outbox.isOpen = s.outbox.isOpen
  sent : t.outbox.sent = s.outbox.sent ++ s.registry.mail s.outbox.isOpen o.posts

variable {s t u : Relay} {r r' : Registry} {store store' : Store}
  {counters counters' : RouterCounters} {posts more : List Outbound} {message : ServerMessage}
  {target : ConnectionId}

theorem Reaches.refl : s.Reaches ⟨s.registry, s.store, s.counters, []⟩ s :=
  ⟨rfl, rfl, rfl, fun _ => rfl, rfl, by rw [Registry.mail_nil, List.append_nil]⟩

/-- A change of sessions alone lets nobody come or go, so that the same messages find their targets. -/
theorem Reaches.withRegistry (h : s.Reaches ⟨r, store, counters, posts⟩ t)
    (live : ∀ i, r'.contains i = s.registry.contains i) :
    s.Reaches ⟨r', store, counters, posts⟩ { t with registry := r' } :=
  ⟨rfl, h.store, h.counters, live, h.isOpen, h.sent⟩

theorem Reaches.withStore (h : s.Reaches ⟨r, store, counters, posts⟩ t) :
    s.Reaches ⟨r, store', counters, posts⟩ { t with store := store' } :=
  ⟨h.registry, rfl, h.counters, h.live, h.isOpen, h.sent⟩

theorem Reaches.withCounters (h : s.Reaches ⟨r, store, counters, posts⟩ t) :
    s.Reaches ⟨r, store, counters', posts⟩ { t with counters := counters' } :=
  ⟨h.registry, h.store, rfl, h.live, h.isOpen, h.sent⟩

/-- What is handed on later comes after what was handed on before. -/
theorem Reaches.post (h : s.Reaches ⟨r, store, counters, posts⟩ t) (h' : t.Posts more u) :
    s.Reaches ⟨r, store, counters, posts ++ more⟩ u where
  registry := h'.registry.trans h.registry
  store := h'.store.trans h.store
  counters := h'.counters.trans h.counters
  live := h.live
  isOpen := h'.isOpen.trans h.isOpen
  sent := by
    have hmail : t.registry.mail t.outbox.isOpen more
        = s.registry.mail s.outbox.isOpen more := by
      have hlive := h.live
      unfold Registry.mail
      simp only at hlive
      simp only [h.isOpen, h.registry, hlive]
    rw [h'.sent, h.sent, hmail, Registry.mail_append, List.append_assoc]

theorem Reaches.send (h : s.Reaches ⟨r, store, counters, posts⟩ t) :
    s.Reaches ⟨r, store, counters, posts ++ [batched message target]⟩ (t.send message target).2 :=
  h.post posts_send

/-- One more message, if its target is a dispatcher. -/
theorem Reaches.sendToDispatcher (h : s.Reaches ⟨r, store, counters, posts⟩ t) :
    s.Reaches ⟨r, store, counters, posts ++ r.toDispatcher message target⟩
      (t.sendToDispatcher message target).2 := by
  have hposts := posts_sendToDispatcher (s := t) message target
  rw [h.registry] at hposts
  exact h.post hposts

/-- One more message to each dispatcher on duty. -/
theorem Reaches.sendToDuty (h : s.Reaches ⟨r, store, counters, posts⟩ t) :
    s.Reaches ⟨r, store, counters, posts ++ r.toDuty message none⟩ (t.sendToDuty message).2 := by
  have hposts := posts_sendToDuty (s := t) message
  rw [h.registry] at hposts
  exact h.post hposts

end Relay

/-- What a handler answers to a message: it refuses, and nothing is left but warnings to those whom they
are for, or it carries the message out. -/
inductive Answered (ctx : RelayContext) (s : Relay) (me : Connection) (m : ClientMessage) :
    Except RouteError Unit × Relay → Prop
  | refused {e : RouteError} (warnings : List Outbound) {t : Relay}
      (warn : ∀ o ∈ warnings, o.message.isWarning = true)
      (turn : s.Reaches ⟨s.registry, s.store, s.counters, warnings⟩ t)
      (warned : ∀ o ∈ warnings,
        s.registry.aspect Session.role o.target = some o.message.warnedRole) :
      Answered ctx s me m (.error e, t)
  | carried {o : Outcome} {t : Relay} (how : Carried ctx s me m o) (turn : s.Reaches o t) :
      Answered ctx s me m (.ok (), t)

/-- A handler has carried a message out. -/
inductive CarriedOut (ctx : RelayContext) (s : Relay) (me : Connection) (m : ClientMessage) :
    Except RouteError Unit × Relay → Prop
  | carried {o : Outcome} {t : Relay} (how : Carried ctx s me m o) (turn : s.Reaches o t) :
      CarriedOut ctx s me m (.ok (), t)

/-- What is carried out is answered. -/
theorem CarriedOut.answered {ctx : RelayContext} {s : Relay} {me : Connection} {m : ClientMessage}
    {answer : Except RouteError Unit × Relay} (h : CarriedOut ctx s me m answer) :
    Answered ctx s me m answer := by
  cases h with
  | carried how turn => exact .carried how turn

/-- A message that is refused before anything was posted. -/
theorem Answered.plain {ctx : RelayContext} {s : Relay} {me : Connection} {m : ClientMessage}
    {e : RouteError} : Answered ctx s me m (.error e, s) :=
  .refused [] (fun _ h => by cases h) .refl fun _ h => by cases h

/-- A message that is refused with one warning. -/
theorem Answered.warned {ctx : RelayContext} {s : Relay} {me c : Connection} {m : ClientMessage}
    {e : RouteError} {message : ServerMessage} {target : ConnectionId}
    (h : message.isWarning = true) (hc : s.registry.find? target = some c)
    (hrole : c.role = message.warnedRole) :
    Answered ctx s me m (.error e, (s.send message target).2) := by
  refine .refused [batched message target] (fun o ho => ?_) Relay.Reaches.refl.send fun o ho => ?_
  · rw [List.mem_singleton.mp ho]
    exact h
  · rw [List.mem_singleton.mp ho]
    exact Registry.aspect_eq_some_iff.mpr ⟨c, hc, hrole⟩

end FlightRelay

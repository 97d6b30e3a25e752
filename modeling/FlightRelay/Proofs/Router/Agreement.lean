import FlightRelay.Proofs.Router.Run
import FlightRelay.Proofs.Store

/-!
# What an answer depends on

Handlers decide by the registry, by the store without its records, and by whether somebody takes the
messages.  Relays that agree in these give a message the same answer and still agree afterwards, whatever
was sent, counted and recorded before, and whatever the clock says.
-/

namespace FlightRelay

/-! ## Stores without their records -/

namespace Store

/-- The store without its records, which no message reads. -/
def unrecorded (s : Store) : Store := { s with data := { s.data with records := [] } }

/-- Two attempts to write come to the same, the records aside. -/
inductive Alike : Except StoreError Store → Except StoreError Store → Prop
  | failed (e : StoreError) : Alike (.error e) (.error e)
  | written {s t : Store} (h : s.unrecorded = t.unrecorded) : Alike (.ok s) (.ok t)

variable {s t : Store}

/-- Two stores are the same without their records if they have the same routes and the same troubles. -/
theorem unrecorded_eq_iff : s.unrecorded = t.unrecorded ↔
    s.data.routes = t.data.routes ∧ s.refusesCommits = t.refusesCommits ∧ s.outages = t.outages := by
  simp [unrecorded]

/-- What a user reads does not depend on the records. -/
theorem storedRoutes_congr (h : s.unrecorded = t.unrecorded) (user : UserId) :
    Handler.storedRoutes s user = Handler.storedRoutes t user := by
  obtain ⟨⟨routes, records⟩, refuses, outages⟩ := s
  obtain ⟨⟨routes', records'⟩, refuses', outages'⟩ := t
  obtain ⟨rfl, rfl, rfl⟩ := unrecorded_eq_iff.mp h
  rfl

/-- Whether a record is written depends neither on the record nor on those that are there. -/
theorem alike_storeRecord (h : s.unrecorded = t.unrecorded) (record record' : DispatchRecord) :
    Alike (Handler.storeRecord s record) (Handler.storeRecord t record') := by
  obtain ⟨⟨routes, records⟩, refuses, begin?, save?, load?, record?⟩ := s
  obtain ⟨⟨routes', records'⟩, refuses', outages'⟩ := t
  obtain ⟨rfl, rfl, rfl⟩ := unrecorded_eq_iff.mp h
  cases begin? with
  | some e => exact .failed e
  | none =>
    cases record? with
    | some e => exact .failed e
    | none =>
      cases refuses with
      | true => exact .failed _
      | false => exact .written rfl

/-- Whether a route is saved, and among which others, does not depend on the records. -/
theorem alike_storeRoute (h : s.unrecorded = t.unrecorded) (user : UserId) (route : Route) :
    Alike (Handler.storeRoute s user route) (Handler.storeRoute t user route) := by
  obtain ⟨⟨routes, records⟩, refuses, begin?, save?, load?, record?⟩ := s
  obtain ⟨⟨routes', records'⟩, refuses', outages'⟩ := t
  obtain ⟨rfl, rfl, rfl⟩ := unrecorded_eq_iff.mp h
  unfold Handler.storeRoute saveRoute
  cases begin? with
  | some e => exact .failed e
  | none =>
    cases save? with
    | some e => exact .failed e
    | none =>
      cases Text.isAllBlank route.name with
      | true => exact .failed _
      | false =>
        cases refuses with
        | true => exact .failed _
        | false =>
          refine .written (unrecorded_eq_iff.mpr ⟨?_, rfl, rfl⟩)
          show (Data.saveRoute _ _ _).routes = (Data.saveRoute _ _ _).routes
          unfold Data.saveRoute
          split <;> rfl

end Store

/-! ## Handlers -/

/-- What handlers decide by. -/
structure Grounds where
  registry : Registry
  store : Store
  isOpen : Bool

/-- What a relay gives its handlers to decide by. -/
def Relay.grounds (s : Relay) : Grounds := ⟨s.registry, s.store.unrecorded, s.outbox.isOpen⟩

namespace Relay

variable {s t : Relay} {posts : List Outbound}

/-- Messages that are posted do not touch the grounds. -/
theorem Posts.grounds (h : s.Posts posts t) : t.grounds = s.grounds := by
  rw [Relay.grounds, h.registry, h.store, h.isOpen, Relay.grounds]

end Relay

namespace Handler

open Relay

variable {α β : Type} {h h' : Handler α} {k k' : α → Handler β}

/-- Two handlers answer the same wherever they have the same grounds, and leave the same grounds. -/
structure Agree (h h' : Handler α) : Prop where
  run : ∀ {s t : Relay}, s.grounds = t.grounds →
    (h.exec s).1 = (h'.exec t).1 ∧ (h.exec s).2.grounds = (h'.exec t).2.grounds

/-- A handler that is decided by its grounds. -/
abbrev Grounded (h : Handler α) : Prop := Agree h h

/-! ### Steps -/

theorem grounded_pure (a : α) : Grounded (pure a) := ⟨fun hst => ⟨rfl, hst⟩⟩

theorem grounded_refuse (e : RouteError) : Grounded (refuse e : Handler α) :=
  ⟨fun hst => ⟨rfl, hst⟩⟩

/-- After the same refusal, it does not matter what would have come next. -/
theorem agree_refuse_bind (e : RouteError) : Agree (refuse e >>= k) (refuse e >>= k') :=
  ⟨fun hst => ⟨rfl, hst⟩⟩

/-- What two handlers go on with depends on what they have found out, and that is the same. -/
theorem Agree.bind (hh : Agree h h') (hk : ∀ a, Agree (k a) (k' a)) :
    Agree (h >>= k) (h' >>= k') where
  run {s t} hst := by
    obtain ⟨hanswer, hleft⟩ := hh.run hst
    rw [exec_bind, exec_bind]
    generalize h.exec s = x at hanswer hleft
    generalize h'.exec t = y at hanswer hleft
    obtain ⟨a, s'⟩ := x
    obtain ⟨b, t'⟩ := y
    obtain rfl : a = b := hanswer
    cases a with
    | ok a => exact (hk a).run hleft
    | error e => exact ⟨rfl, hleft⟩

theorem Agree.ite {c : Prop} [Decidable c] {l l' : Handler α} (hh : Agree h h') (hl : Agree l l') :
    Agree (if c then h else l) (if c then h' else l') := by
  split
  · exact hh
  · exact hl

/-- A step that is left out in some cases. -/
theorem Agree.ite_bind {c : Prop} [Decidable c] {x x' : Handler Unit} {k k' : Unit → Handler β}
    (hx : Agree x x') (hk : ∀ u, Agree (k u) (k' u)) :
    Agree (if c then x >>= k else k ()) (if c then x' >>= k' else k' ()) :=
  .ite (hx.bind hk) (hk ())

theorem grounded_registry : Grounded registry where
  run hst := ⟨congrArg (fun g : Grounds => Except.ok g.registry) hst, hst⟩

/-- A handler that looks at the whole relay agrees with another one if they agree wherever they find the
same grounds. -/
theorem agree_get_bind {k k' : Relay → Handler β}
    (hk : ∀ {s t : Relay}, s.grounds = t.grounds → Agree (k s) (k' t)) :
    Agree (get >>= k) (get >>= k') := ⟨fun hst => (hk hst).run hst⟩

theorem grounded_setRegistry (r : Registry) : Grounded (setRegistry r) :=
  ⟨fun hst => ⟨rfl, congrArg (fun g : Grounds => { g with registry := r }) hst⟩⟩

/-- Stores that differ in their records alone are the same ground. -/
theorem agree_setStore {a b : Store} (hab : a.unrecorded = b.unrecorded) :
    Agree (modify fun s => { s with store := a }) (modify fun s => { s with store := b }) where
  run {s t} hst := by
    refine ⟨rfl, ?_⟩
    show Grounds.mk s.registry a.unrecorded s.outbox.isOpen
      = ⟨t.registry, b.unrecorded, t.outbox.isOpen⟩
    rw [hab]
    exact congrArg (fun g : Grounds => { g with store := b.unrecorded }) hst

theorem grounded_tally (u : RouterCounters → RouterCounters) : Grounded (tally u) :=
  ⟨fun hst => ⟨rfl, hst⟩⟩

/-- To update a session is decided by whether there is one. -/
theorem grounded_update (id : ConnectionId) (f : Session → Session) : Grounded (update id f) := by
  refine grounded_registry.bind fun r => ?_
  cases r.update id f with
  | ok r => exact grounded_setRegistry r
  | error e => exact grounded_refuse _

theorem grounded_require (condition : Bool) (e : RouteError) :
    Grounded (require condition e) := .ite (grounded_pure ()) (grounded_refuse e)

theorem grounded_requireRole (me : Connection) (role : Role) :
    Grounded (requireRole me role) := grounded_require _ _

/-- Whether there is a counterpart in a role is decided by the registry. -/
theorem grounded_counterpart (id : ConnectionId) (role : Role) :
    Grounded (counterpart id role) := by
  refine grounded_registry.bind fun r => ?_
  cases r.find? id with
  | none => exact grounded_refuse _
  | some c => exact .ite (grounded_pure c) (grounded_refuse _)

/-! ### Sending -/

/-- What is sent does not matter. -/
theorem agree_perform {g g' : Relay → α × Relay} (hg : ∀ s, (g s).2.grounds = s.grounds)
    (hg' : ∀ s, (g' s).2.grounds = s.grounds) : Agree (perform g) (perform g') where
  run {s t} hst := ⟨rfl, (hg s).trans (hst.trans (hg' t).symm)⟩

theorem grounded_send (message : ServerMessage) (target : ConnectionId) :
    Grounded (perform fun s => s.send message target) :=
  agree_perform (fun _ => posts_send.grounds) fun _ => posts_send.grounds

/-- The text of a message decides nothing; a pong may have another time in it. -/
theorem agree_sendNow (message message' : ServerMessage) (target : ConnectionId) :
    Agree (perform fun s => s.sendNow message target) (perform fun s => s.sendNow message' target) :=
  agree_perform (fun _ => (posts_sendNow _ _).grounds) fun _ => (posts_sendNow _ _).grounds

theorem grounded_sendToDispatcher (message : ServerMessage) (target : ConnectionId) :
    Grounded (perform fun s => s.sendToDispatcher message target) :=
  agree_perform (fun _ => (posts_sendToDispatcher _ _).grounds)
    fun _ => (posts_sendToDispatcher _ _).grounds

theorem grounded_sendToDutyExcept (message : ServerMessage) (skip : Option ConnectionId) :
    Grounded (perform fun s => s.sendToDutyExcept message skip) :=
  agree_perform (fun _ => posts_sendToDutyExcept.grounds) fun _ => posts_sendToDutyExcept.grounds

/-- Whether a dispatcher is reached depends on the registry and on whether somebody takes the
messages. -/
theorem grounded_reach (message : ServerMessage) (target : ConnectionId) :
    Grounded (step fun s => s.sendToDispatcher message target) where
  run {s t} hst := by
    have hreached : (s.sendToDispatcher message target).1 = (t.sendToDispatcher message target).1 := by
      rw [sendToDispatcher_reached, sendToDispatcher_reached]
      exact congrArg (fun g : Grounds =>
        (g.registry.find? target).any (fun c => c.role = .dispatcher) && g.isOpen) hst
    exact ⟨congrArg Except.ok hreached, (posts_sendToDispatcher _ _).grounds.trans
      (hst.trans (posts_sendToDispatcher _ _).grounds.symm)⟩

theorem grounded_sendEach (messages : List (ServerMessage × ConnectionId)) :
    Grounded (modify fun s => s.sendEach messages) :=
  ⟨fun hst => ⟨rfl, (posts_sendEach _).grounds.trans
    (hst.trans (posts_sendEach _).grounds.symm)⟩⟩

theorem grounded_acknowledge (sender : ConnectionId) (request : String) :
    Grounded (acknowledge sender request) := grounded_send _ _

/-! ## Login, keep-alive and telemetry -/

variable (ctx : RelayContext) (later : UInt64) (me : Connection)

theorem grounded_requireRange (range : Option Float) : Grounded (requireRange range) := by
  cases range with
  | none => exact grounded_pure ()
  | some r => exact grounded_require _ _

theorem grounded_sendPicture (id : ConnectionId) : Grounded (sendPicture id) := by
  unfold sendPicture
  refine grounded_registry.bind fun r => ?_
  split
  · exact grounded_pure ()
  · split
    · exact grounded_pure ()
    · exact (grounded_sendEach _).bind fun _ => grounded_registry.bind fun r => grounded_setRegistry _

/-- A login is decided by the grounds; the clock is read for its answer only. -/
theorem agree_login (form : LoginForm) :
    Agree (login ctx me form) (login { ctx with now := later } me form) := by
  refine (grounded_require _ _).bind fun _ => ?_
  refine (grounded_require _ _).bind fun _ => ?_
  refine (grounded_requireRange _).bind fun _ => ?_
  refine (grounded_require _ _).bind fun _ => ?_
  dsimp only
  cases ctx.authenticate form.userId form.token with
  | error e => exact agree_refuse_bind _
  | ok profile =>
    refine (grounded_pure _).bind fun profile => ?_
    refine (grounded_require _ _).bind fun _ => ?_
    refine (grounded_update _ _).bind fun _ => ?_
    refine grounded_registry.bind fun r => ?_
    refine (agree_sendNow _ _ _).bind fun _ => ?_
    exact .ite (grounded_sendPicture _) (grounded_pure ())

/-- A position is decided and fanned out by the registry. -/
theorem grounded_position (p : Position) : Grounded (position me p) := by
  refine (grounded_require _ _).bind fun _ => ?_
  refine (grounded_update _ _).bind fun _ => ?_
  refine grounded_registry.bind fun r => ?_
  refine Agree.ite_bind (grounded_sendPicture _) fun _ => ?_
  refine .ite ?_ (grounded_pure ())
  refine .ite (grounded_send _ _) ?_
  refine Agree.ite_bind (grounded_sendToDispatcher _ _) fun _ => ?_
  exact grounded_registry.bind fun r => grounded_sendEach _

theorem grounded_flightInfo (plan : FlightPlan) : Grounded (flightInfo me plan) := by
  refine (grounded_requireRole _ _).bind fun _ => ?_
  refine (grounded_update _ _).bind fun _ => ?_
  refine grounded_registry.bind fun r => ?_
  refine Agree.ite_bind (grounded_sendToDispatcher _ _) fun _ => ?_
  exact .ite (grounded_send _ _) (grounded_pure ())

theorem grounded_dispatcherStatus (form : DutyForm) : Grounded (dispatcherStatus me form) := by
  refine (grounded_requireRole _ _).bind fun _ => ?_
  refine (grounded_requireRange _).bind fun _ => ?_
  refine (grounded_require _ _).bind fun _ => ?_
  exact (grounded_update _ _).bind fun _ => grounded_acknowledge _ _

/-! ## Dispatch service -/

theorem grounded_offerTo (location : Geo.Point) (note : String) (so : Offered) (dispatcher : Connection) :
    Grounded (offerTo me location note so dispatcher) := by
  unfold offerTo
  split
  · exact grounded_pure _
  · exact (grounded_reach _ _).bind fun reached => grounded_pure _

/-- The offers made, and the dispatchers passed over, are decided by the grounds. -/
theorem grounded_offers (location : Geo.Point) (note : String) (dispatchers : List Connection)
    (so : Offered) : Grounded (dispatchers.foldlM (offerTo me location note) so) := by
  induction dispatchers generalizing so with
  | nil => exact grounded_pure so
  | cons d ds ih =>
    rw [List.foldlM_cons]
    exact (grounded_offerTo me location note so d).bind ih

/-- A request is decided by the registry, and by who is reached. -/
theorem grounded_serviceRequest (note : String) : Grounded (serviceRequest me note) := by
  refine (grounded_requireRole _ _).bind fun _ => ?_
  cases me.session.location with
  | none => exact grounded_refuse _
  | some location =>
    refine (grounded_require _ _).bind fun _ => ?_
    refine grounded_registry.bind fun r => ?_
    refine (grounded_offers me location note _ _).bind fun outcome => ?_
    refine (grounded_update _ _).bind fun _ => ?_
    refine (grounded_acknowledge _ _).bind fun _ => ?_
    refine Agree.ite_bind (grounded_send _ _) fun _ => ?_
    exact .ite (grounded_send _ _) (grounded_pure ())

theorem grounded_serviceAccept (pilot : ConnectionId) : Grounded (serviceAccept me pilot) := by
  refine (grounded_requireRole _ _).bind fun _ => ?_
  refine (grounded_require _ _).bind fun _ => ?_
  refine (grounded_counterpart _ _).bind fun p => ?_
  refine grounded_registry.bind fun r => ?_
  split
  · exact grounded_refuse _
  · refine (grounded_setRegistry _).bind fun _ => ?_
    refine (grounded_tally _).bind fun _ => ?_
    exact (grounded_acknowledge _ _).bind fun _ => grounded_send _ _
  · exact grounded_acknowledge _ _
  · exact (grounded_sendToDutyExcept _ _).bind fun _ => grounded_refuse _
  · exact grounded_refuse _

/-- The time that is put down in a record decides nothing. -/
theorem agree_recordCancelled (pilot : Connection) (user : Option UserId) (remarks : String) :
    Agree (recordCancelled ctx pilot user remarks)
      (recordCancelled { ctx with now := later } pilot user remarks) := by
  refine agree_get_bind fun {s t} hst => ?_
  have hwrite := Store.alike_storeRecord (congrArg Grounds.store hst)
    ⟨pilot.session.userId, user, .cancelled, remarks, ctx.now⟩
    ⟨pilot.session.userId, user, .cancelled, remarks, later⟩
  dsimp only
  generalize storeRecord s.store _ = x at hwrite
  generalize storeRecord t.store _ = y at hwrite
  cases hwrite with
  | failed e => exact grounded_tally _
  | written hab => exact agree_setStore hab

theorem agree_cancelFromPilot (reason : String) :
    Agree (cancelFromPilot ctx me reason) (cancelFromPilot { ctx with now := later } me reason) := by
  have hnotice (relayed : Bool) : Grounded
      (do if !relayed then perform fun s => s.sendToDuty (.serviceCancelled me.id reason)
          acknowledge me.id "service_cancel" : Handler Unit) :=
    Agree.ite_bind (grounded_sendToDutyExcept _ _) fun _ => grounded_acknowledge _ _
  refine (grounded_update _ _).bind fun _ => ?_
  refine grounded_registry.bind fun r => ?_
  dsimp only
  split
  · refine (grounded_setRegistry _).bind fun _ => ?_
    refine (agree_recordCancelled ctx later me _ reason).bind fun _ => ?_
    exact (grounded_reach _ _).bind hnotice
  · exact (grounded_pure _).bind hnotice

theorem agree_cancelFromDispatcher (pilot : ConnectionId) (reason : String) :
    Agree (cancelFromDispatcher ctx me pilot reason)
      (cancelFromDispatcher { ctx with now := later } me pilot reason) := by
  refine grounded_registry.bind fun r => ?_
  split
  · exact grounded_refuse _
  · have hnotice : Grounded
        (do perform fun s => s.send (.serviceCancelled pilot reason) pilot
            acknowledge me.id "service_cancel" : Handler Unit) :=
      (grounded_send _ _).bind fun _ => grounded_acknowledge _ _
    refine (grounded_setRegistry _).bind fun _ => ?_
    dsimp only
    split
    · exact (agree_recordCancelled ctx later _ _ reason).bind fun _ => hnotice
    · exact hnotice

theorem agree_serviceCancel (pilot : Option ConnectionId) (reason : String) :
    Agree (serviceCancel ctx me pilot reason)
      (serviceCancel { ctx with now := later } me pilot reason) := by
  unfold serviceCancel
  cases me.role with
  | pilot => exact agree_cancelFromPilot ctx later me reason
  | dispatcher =>
    cases pilot with
    | some pilot => exact agree_cancelFromDispatcher ctx later me pilot reason
    | none => exact grounded_refuse _
  | _ => exact grounded_refuse _

/-- A completion is decided by the grounds, at whatever time; the record it writes is no ground. -/
theorem agree_serviceComplete (remarks : String) :
    Agree (serviceComplete ctx me remarks) (serviceComplete { ctx with now := later } me remarks) := by
  have hnotice (dispatcher : ConnectionId) : Grounded
      (do perform fun s => s.sendToDispatcher (.serviceCompleted me.id remarks) dispatcher
          acknowledge me.id "service_complete" : Handler Unit) :=
    (grounded_sendToDispatcher _ _).bind fun _ => grounded_acknowledge _ _
  refine (grounded_requireRole _ _).bind fun _ => ?_
  refine (grounded_require _ _).bind fun _ => ?_
  refine agree_get_bind fun {s t} hst => ?_
  have hwrite := Store.alike_storeRecord (congrArg Grounds.store hst)
    ⟨me.session.userId, me.session.dispatcherUser, .completed, remarks, ctx.now⟩
    ⟨me.session.userId, me.session.dispatcherUser, .completed, remarks, later⟩
  dsimp only
  generalize storeRecord s.store _ = x at hwrite
  generalize storeRecord t.store _ = y at hwrite
  cases hwrite with
  | failed e => exact agree_refuse_bind _
  | written hab =>
    refine (agree_setStore hab).bind fun _ => ?_
    refine grounded_registry.bind fun r => ?_
    split
    · refine (grounded_setRegistry _).bind fun _ => grounded_registry.bind fun r => ?_
      split
      · exact hnotice _
      · exact grounded_acknowledge _ _
    · refine grounded_registry.bind fun r => ?_
      split
      · exact hnotice _
      · exact grounded_acknowledge _ _

/-! ## Flight viewing -/

theorem grounded_viewerRequest (pilot : ConnectionId) : Grounded (viewerRequest me pilot) := by
  refine (grounded_requireRole _ _).bind fun _ => ?_
  refine (grounded_counterpart _ _).bind fun p => ?_
  refine .ite ?_ (.ite ?_ (.ite ?_ ?_))
  · exact (grounded_send _ _).bind fun _ => grounded_refuse _
  · exact (grounded_send _ _).bind fun _ => grounded_acknowledge _ _
  · exact grounded_acknowledge _ _
  · exact (grounded_send _ _).bind fun _ => grounded_refuse _

theorem grounded_viewerAccept (viewer : ConnectionId) : Grounded (viewerAccept me viewer) := by
  refine (grounded_requireRole _ _).bind fun _ => ?_
  refine (grounded_counterpart _ _).bind fun v => ?_
  refine grounded_registry.bind fun r => ?_
  split
  · exact grounded_refuse _
  · refine (grounded_setRegistry _).bind fun _ => ?_
    refine (grounded_tally _).bind fun _ => ?_
    refine (grounded_send _ _).bind fun _ => ?_
    dsimp only
    split
    · exact (grounded_send _ _).bind fun _ => grounded_acknowledge _ _
    · exact grounded_acknowledge _ _
  · exact (grounded_setRegistry _).bind fun _ => grounded_acknowledge _ _
  · refine (grounded_setRegistry _).bind fun _ => ?_
    exact (grounded_send _ _).bind fun _ => grounded_refuse _
  · refine (grounded_setRegistry _).bind fun _ => ?_
    exact (grounded_send _ _).bind fun _ => grounded_refuse _

theorem grounded_viewerReject (viewer : ConnectionId) : Grounded (viewerReject me viewer) := by
  have hanswer : Grounded
      (do perform fun s => s.send (.viewerRejected me.id "declined by pilot") viewer
          acknowledge me.id "viewer_reject") :=
    (grounded_send _ _).bind fun _ => grounded_acknowledge _ _
  refine (grounded_requireRole _ _).bind fun _ => ?_
  refine grounded_registry.bind fun r => ?_
  dsimp only
  split
  · exact (grounded_setRegistry _).bind fun _ => hanswer
  · exact hanswer

/-- The end of a viewing is decided by the registry. -/
theorem grounded_endViewing (pilot : ConnectionId) (expected : Option ConnectionId)
    (told : ConnectionId → ConnectionId) :
    Grounded (endViewing pilot expected told) := by
  refine grounded_registry.bind fun r => ?_
  split
  · exact (grounded_setRegistry _).bind fun _ => grounded_send _ _
  · exact grounded_pure ()

theorem grounded_viewerCancel (pilot : Option ConnectionId) : Grounded (viewerCancel me pilot) := by
  unfold viewerCancel
  cases me.role with
  | viewer =>
    cases pilot with
    | some pilot => exact (grounded_endViewing _ _ _).bind fun _ => grounded_acknowledge _ _
    | none => exact agree_refuse_bind _
  | pilot => exact (grounded_endViewing _ _ _).bind fun _ => grounded_acknowledge _ _
  | _ => exact agree_refuse_bind _

/-! ## Saved routes -/

theorem grounded_requireUser : Grounded (requireUser me) := by
  unfold requireUser
  split
  · exact grounded_pure _
  · exact grounded_refuse _

/-- Whether a route is saved is decided by the routes there are and by the troubles of the store. -/
theorem grounded_saveRoute (route : Route) : Grounded (saveRoute me route) := by
  refine (grounded_requireUser me).bind fun user => ?_
  refine (grounded_require _ _).bind fun _ => ?_
  refine agree_get_bind fun {s t} hst => ?_
  have hwrite := Store.alike_storeRoute (congrArg Grounds.store hst) user
    { route with name := Text.trim route.name }
  generalize storeRoute s.store _ _ = x at hwrite
  generalize storeRoute t.store _ _ = y at hwrite
  cases hwrite with
  | failed e => exact grounded_refuse _
  | written hab => exact (agree_setStore hab).bind fun _ => grounded_acknowledge _ _

/-- The routes that are listed are grounds. -/
theorem grounded_loadRoutes : Grounded (loadRoutes me) := by
  refine (grounded_requireUser me).bind fun user => ?_
  refine agree_get_bind fun {s t} hst => ?_
  rw [Store.storedRoutes_congr (congrArg Grounds.store hst) user]
  split
  · exact grounded_refuse _
  · exact grounded_send _ _

/-! ## All messages -/

/-- A ping is answered at whatever time. -/
theorem agree_ping (sender : ConnectionId) (nonce : UInt64) :
    Agree (ping ctx sender nonce) (ping { ctx with now := later } sender nonce) := agree_sendNow _ _ _

/-- What a message does is decided by the grounds alone. -/
theorem agree_handleMessage (m : ClientMessage) :
    Agree (handleMessage ctx me m) (handleMessage { ctx with now := later } me m) := by
  cases m with
  | login form => exact agree_login ctx later me form
  | ping nonce => exact agree_ping ctx later me.id nonce
  | position p => exact .ite (grounded_position me p) (grounded_refuse _)
  | flightInfo plan => exact .ite (grounded_flightInfo me plan) (grounded_refuse _)
  | dispatcherStatus form => exact .ite (grounded_dispatcherStatus me form) (grounded_refuse _)
  | serviceRequest note => exact .ite (grounded_serviceRequest me note) (grounded_refuse _)
  | serviceAccept pilot => exact .ite (grounded_serviceAccept me pilot) (grounded_refuse _)
  | serviceCancel pilot reason =>
    exact .ite (agree_serviceCancel ctx later me pilot reason) (grounded_refuse _)
  | serviceComplete remarks =>
    exact .ite (agree_serviceComplete ctx later me remarks) (grounded_refuse _)
  | viewerRequest pilot => exact .ite (grounded_viewerRequest me pilot) (grounded_refuse _)
  | viewerAccept viewer => exact .ite (grounded_viewerAccept me viewer) (grounded_refuse _)
  | viewerReject viewer => exact .ite (grounded_viewerReject me viewer) (grounded_refuse _)
  | viewerCancel pilot => exact .ite (grounded_viewerCancel me pilot) (grounded_refuse _)
  | saveRoute route => exact .ite (grounded_saveRoute me route) (grounded_refuse _)
  | loadRoutes => exact .ite (grounded_loadRoutes me) (grounded_refuse _)

end Handler

end FlightRelay

import FlightRelay.Proofs.Router.Exclusivity

/-!
# Service messages in sections

A handler of the dispatch service works on what the sender was when it began, and asks the registry more
than once: between two of its questions the handlers of other connections go on.  `ServiceStage` says how
far such a handler has come, and `ServiceStage.turn` is what it does up to its next question.  Without a
break in between, the turns are the handler.
-/

namespace FlightRelay

open Outbound Session Registry

namespace Handler

/-! ## The parts of the handlers -/

/-- The end of a request: the pilot has an open request if an offer was handed on, and is told so. -/
def noteRequest (me : Connection) (outcome : Offered) : Handler Unit := do
  update me.id fun s => { s with servicePending := 0 < outcome.offers }
  acknowledge me.id "service_request"
  if 0 < outcome.outOfRange then
    perform fun s => s.send (.notice s!"{outcome.outOfRange} dispatchers out of range") me.id
  if outcome.offers = 0 then
    perform fun s => s.send (.notice "No dispatcher is available right now") me.id

/-- The end of an accept: the dispatcher is bound to the pilot if that has an open request. -/
def takeRequest (me : Connection) (pilot : ConnectionId) : Handler Unit := do
  match (← registry).bindDispatcher pilot me.id with
  | .error e => refuse (.registry e)
  | .ok (.bound, r) =>
    setRegistry r
    tally fun c => { c with dispatchBindings := c.dispatchBindings + 1 }
    acknowledge me.id "service_accept"
    perform fun s => s.send (.serviceBound pilot me.id me.session.callsign) pilot
  | .ok (.alreadyBound, _) => acknowledge me.id "service_accept"
  | .ok (.taken owner, _) =>
    perform fun s =>
      s.sendToDutyExcept (.serviceCancelled pilot "taken by another dispatcher") (some owner)
    refuse .alreadyTaken
  | .ok (.notRequested, _) => refuse (.notRequested pilot)

/-- The end of a pilot's cancel: the pilot leaves its dispatcher. -/
def leaveDispatcher (ctx : RelayContext) (me : Connection) (reason : String) : Handler Unit := do
  let cancel := ServerMessage.serviceCancelled me.id reason
  let relayed ←
    match (← registry).clearDispatcher me.id none with
    | some ((dispatcher, user), r) => do
      setRegistry r
      recordCancelled ctx me user reason
      step fun s => s.sendToDispatcher cancel dispatcher
    | none => pure false
  if !relayed then
    perform fun s => s.sendToDuty cancel
  acknowledge me.id "service_cancel"

/-- The end of a completion: the pilot is released from the dispatcher that it had. -/
def closeService (me : Connection) (remarks : String) : Handler Unit := do
  match (← registry).clearDispatcher me.id (some me.session.dispatcher) with
  | some (_, r) => setRegistry r
  | none => pure ()
  let r ← registry
  match me.session.dispatcherUser.bind fun u => r.byUser? u (some .dispatcher) with
  | some dispatcher =>
    perform fun s => s.sendToDispatcher (.serviceCompleted me.id remarks) dispatcher.id
  | none => pure ()
  acknowledge me.id "service_complete"

end Handler

/-! ## Stages -/

/-- How far the handler of a service message has come: what it does next. -/
inductive ServiceStage where
  /-- The sender was looked up, and nothing else was done. -/
  | received (m : ClientMessage)
  /-- A request is offered to those who are left. -/
  | offering (note : String) (location : Geo.Point) (left : List Connection) (so : Handler.Offered)
  /-- The pilot was there, and is to be bound. -/
  | binding (pilot : ConnectionId)
  /-- The pilot's request is closed, and its dispatcher is to be left. -/
  | clearing (reason : String)
  /-- The completion is recorded, and the dispatcher is to be left. -/
  | closing (remarks : String)

namespace ServiceStage

open Handler

/-- The first turn of a handler: all that it checks, up to its second question to the registry. -/
def firstTurn (ctx : RelayContext) (me : Connection) : ClientMessage → Handler (Option ServiceStage)
  | .serviceRequest note => do
    requireRole me .pilot
    match me.session.location with
    | none => refuse .positionRequired
    | some location =>
      require (me.session.dispatcher = noConnection) .alreadyServed
      let available := (← registry).select fun c => c.session.isAvailableDispatcher
      return some (.offering note location available ⟨0, 0⟩)
  | .serviceAccept pilot => do
    requireRole me .dispatcher
    require me.session.isAvailableDispatcher .dutyRequired
    let _ ← counterpart pilot .pilot
    return some (.binding pilot)
  | .serviceCancel pilot reason =>
    match me.role, pilot with
    | .pilot, _ => do
      update me.id fun s => { s with servicePending := false }
      return some (.clearing reason)
    | .dispatcher, some pilot => do
      cancelFromDispatcher ctx me pilot reason
      return none
    | .dispatcher, none => refuse .pilotRequired
    | role, _ => refuse (.wrongRole role)
  | .serviceComplete remarks => do
    requireRole me .pilot
    require (me.session.dispatcher ≠ noConnection) .noActiveService
    match storeRecord (← get).store
        ⟨me.session.userId, me.session.dispatcherUser, .completed, remarks, ctx.now⟩ with
    | .error e => refuse (.store e)
    | .ok store => modify fun s => { s with store }
    return some (.closing remarks)
  | _ => return none

/-- What a handler does next, and how far it has come then; nothing is left if it is done. -/
def turn (ctx : RelayContext) (me : Connection) : ServiceStage → Handler (Option ServiceStage)
  | .received m => if me.session.isAuthenticated then firstTurn ctx me m else refuse .notLoggedIn
  | .offering note location (d :: ds) so => do
    return some (.offering note location ds (← offerTo me location note so d))
  | .offering _ _ [] so => do
    noteRequest me so
    return none
  | .binding pilot => do
    takeRequest me pilot
    return none
  | .clearing reason => do
    leaveDispatcher ctx me reason
    return none
  | .closing remarks => do
    closeService me remarks
    return none

/-- All that a handler is yet to do. -/
def rest (ctx : RelayContext) (me : Connection) : ServiceStage → Handler Unit
  | .received m => handleMessage ctx me m
  | .offering note location left so => do
    noteRequest me (← left.foldlM (offerTo me location note) so)
  | .binding pilot => takeRequest me pilot
  | .clearing reason => leaveDispatcher ctx me reason
  | .closing remarks => closeService me remarks

/-- What is to be done after a turn. -/
def after (ctx : RelayContext) (me : Connection) : Option ServiceStage → Handler Unit
  | some stage => stage.rest ctx me
  | none => pure ()

variable {ctx : RelayContext} {s : Relay} {me : Connection} {m : ClientMessage}
  {stage next : ServiceStage}

/-! ## All turns together -/

/-- The first turn and what comes after it are what is done with a service message. -/
theorem handleAuthenticated_eq (hm : m.isService = true) :
    handleAuthenticated ctx me m = firstTurn ctx me m >>= after ctx me := by
  cases m with
  | serviceRequest note =>
    show serviceRequest me note = _
    unfold serviceRequest firstTurn
    cases me.session.location <;> simp [bind_assoc, after, rest, noteRequest, refuse]
  | serviceAccept pilot =>
    show serviceAccept me pilot = _
    unfold serviceAccept firstTurn
    simp only [bind_assoc, pure_bind]
    rfl
  | serviceCancel pilot reason =>
    show serviceCancel ctx me pilot reason = _
    unfold serviceCancel firstTurn
    cases me.role with
    | pilot =>
      simp only [bind_assoc, pure_bind]
      rfl
    | dispatcher => cases pilot <;> simp [after, refuse]
    | _ => simp [refuse]
  | serviceComplete remarks =>
    show serviceComplete ctx me remarks = _
    unfold serviceComplete firstTurn
    simp only [bind_assoc]
    -- the two checks and the look at the store come before the first turn ends
    refine bind_congr fun _ => bind_congr fun _ => bind_congr fun s => ?_
    cases storeRecord s.store
      ⟨me.session.userId, me.session.dispatcherUser, .completed, remarks, ctx.now⟩ with
    | error e => simp [refuse]
    | ok store =>
      simp only [bind_assoc, pure_bind]
      rfl
  | _ => cases hm

/-- The turns of a service message, one after the other, are what is done with it. -/
theorem rest_eq_turn (stage : ServiceStage) (hm : ∀ m, stage = .received m → m.isService = true) :
    stage.rest ctx me = stage.turn ctx me >>= after ctx me := by
  cases stage with
  | received m =>
    have hservice := hm m rfl
    have hmessage : handleMessage ctx me m = if me.session.isAuthenticated
        then handleAuthenticated ctx me m else refuse .notLoggedIn := by
      cases m <;> first | rfl | cases hservice
    show handleMessage ctx me m = _
    rw [hmessage, turn]
    split
    · exact handleAuthenticated_eq hservice
    · simp [refuse]
  | offering note location left so =>
    cases left with
    | nil => simp [rest, turn, after]
    | cons d ds => simp [rest, turn, after, bind_assoc]
  | binding | clearing | closing => simp [rest, turn, after]

/-! ## What a turn does -/

/-- The handler is that of a request which found the pilot without a dispatcher, and has not been noted
yet. -/
def isRequesting (me : Connection) : ServiceStage → Bool
  | .received (.serviceRequest _) => me.session.dispatcher = noConnection
  | .offering _ _ _ _ => true
  | _ => false

/-- What a turn may do to the registry: nothing, or one change of one session. -/
inductive Alters (r : Registry) (me : Connection) : ServiceStage → Registry → Prop
  | nothing {stage : ServiceStage} : Alters r me stage r
  | noted {note : String} {location : Geo.Point} {so : Handler.Offered} :
      Alters r me (.offering note location [] so) (r.modify me.id (requesting (0 < so.offers)))
  | bound {pilot : ConnectionId} {p : Connection} {user : Option UserId}
      (live : r.find? pilot = some p) (pending : p.session.servicePending = true) :
      Alters r me (.binding pilot) (r.modify pilot (servedBy me.id user))
  | withdrawn {stage : ServiceStage} : Alters r me stage (r.modify me.id (requesting false))
  | released {stage : ServiceStage} {pilot : ConnectionId} :
      Alters r me stage (r.modify pilot released)

/-- What a turn comes to: the registry is one that it may leave, and no handler comes to be that of a
request. -/
structure Leads (r : Registry) (me : Connection) (stage : ServiceStage)
    (answer : Except RouteError (Option ServiceStage) × Relay) : Prop where
  alters : Alters r me stage answer.2.registry
  requesting : ∀ {next}, answer.1 = .ok (some next) → next.isRequesting me = true →
    stage.isRequesting me = true

variable {r : Registry} {t : Relay} {e : RouteError} {h : Handler Unit}

/-- A refusal needs no more than that the registry is altered as allowed. -/
theorem Leads.refused (halters : Alters r me stage t.registry) :
    Leads r me stage (.error e, t) := ⟨halters, fun h => by cases h⟩

/-- So does an end. -/
theorem Leads.done (halters : Alters r me stage t.registry) :
    Leads r me stage (.ok none, t) := ⟨halters, fun h => by cases h⟩

/-- A check that fails leaves everything as it was. -/
theorem Leads.stop : Leads s.registry me stage (.error e, s) := .refused .nothing

/-- A turn that leads on does not begin to write a request down. -/
theorem Leads.go (halters : Alters r me stage t.registry)
    (hrequesting : next.isRequesting me = true → stage.isRequesting me = true) :
    Leads r me stage (.ok (some next), t) := by
  refine ⟨halters, fun h => ?_⟩
  cases h
  exact hrequesting

/-- The last turn of a handler may leave what the rest of the handler leaves. -/
theorem Leads.last (halters : Alters r me stage (h.exec s).2.registry) :
    Leads r me stage ((h >>= fun _ => (return none : Handler (Option ServiceStage))).exec s) := by
  rw [exec_bind]
  generalize h.exec s = answer at halters
  rcases answer with ⟨_ | _, t⟩
  · exact .refused halters
  · exact .done halters

/-- A handler that only sends and counts on a registry leaves that registry. -/
theorem alters_of_reaches {u : Relay} {store : Store} {counters : RouterCounters}
    {posts : List Outbound} (hreach : u.Reaches ⟨r, store, counters, posts⟩ t)
    (halters : Alters u.registry me stage r) : Alters u.registry me stage t.registry := by
  rw [hreach.registry]
  exact halters

/-- The first turn changes one session at most, and no handler but that of a request begins to ask. -/
theorem leads_firstTurn : Leads s.registry me (.received m) ((firstTurn ctx me m).exec s) := by
  cases m with
  | serviceRequest note =>
    refine requireRole_then (fun _ => .stop) fun _ => ?_
    cases me.session.location with
    | none => exact .stop
    | some location => exact require_then (fun _ => .stop) fun hunserved => .go .nothing fun _ => hunserved
  | serviceAccept pilot =>
    refine requireRole_then (fun _ => .stop) fun _ => ?_
    refine require_then (fun _ => .stop) fun _ => ?_
    exact counterpart_then .stop fun _ _ _ => .go .nothing fun h => by cases h
  | serviceCancel pilot reason =>
    unfold firstTurn
    cases hrole : me.role with
    | pilot =>
      cases hme : s.registry.find? me.id with
      | none =>
        rw [exec_bind_of_error (exec_update_of_none hme)]
        exact .stop
      -- the pilot's request is withdrawn in the first turn, the dispatcher left in a later one
      | some c => exact update_then hme (.go .withdrawn fun h => by cases h)
    | dispatcher =>
      cases pilot with
      | none => exact .stop
      | some pilot =>
        have hanswer : Answered ctx s me (.serviceCancel (some pilot) reason)
            ((cancelFromDispatcher ctx me pilot reason).exec s) := answered_cancelFromDispatcher hrole
        refine .last ?_
        generalize (cancelFromDispatcher ctx me pilot reason).exec s = answer at hanswer
        cases hanswer with
        | refused warnings warn turn => exact alters_of_reaches turn .nothing
        | carried how turn =>
          cases how with
          | pilotLeft hpilot => cases hpilot.symm.trans hrole
          | pilotWithdrew hpilot => cases hpilot.symm.trans hrole
          | dispatcherLeft => exact alters_of_reaches turn .released
    | _ => exact .stop
  | serviceComplete remarks =>
    refine requireRole_then (fun _ => .stop) fun _ => ?_
    refine require_then (fun _ => .stop) fun _ => ?_
    simp only [exec_get_bind]
    cases storeRecord s.store
      ⟨me.session.userId, me.session.dispatcherUser, .completed, remarks, ctx.now⟩ with
    | error e => exact .stop
    | ok store => exact .go .nothing fun h => by cases h
  | _ => exact .done .nothing

/-- An offer changes nothing in the registry. -/
theorem exec_offerTo_registry (note : String) (location : Geo.Point) (so : Offered) (d : Connection) :
    ∃ so' t, (offerTo me location note so d).exec s = (.ok so', t) ∧ t.registry = s.registry := by
  unfold offerTo
  cases offerDistance location d with
  | none => exact ⟨_, s, rfl, rfl⟩
  | some distance =>
    have hposts := Relay.posts_sendToDispatcher (s := s)
      (.serviceOffer me.id me.session.callsign (some location) distance note) d.id
    exact ⟨_, _, rfl, hposts.registry⟩

/-- The request of a live pilot is noted as open if an offer was handed on. -/
theorem exec_noteRequest (so : Offered) {c : Connection} (hme : s.registry.find? me.id = some c) :
    ∃ t, (noteRequest me so).exec s = (.ok (), t) ∧
      t.registry = s.registry.modify me.id (requesting (0 < so.offers)) := by
  unfold noteRequest
  rw [exec_update_bind hme]
  have hnoted : s.Reaches ⟨s.registry.modify me.id (requesting (0 < so.offers)), s.store, s.counters,
      [] ++ [batched (.accepted "service_request") me.id]⟩ _ :=
    (Relay.Reaches.refl.withRegistry fun i => contains_modify).send
  obtain ⟨t, hrun, hreach⟩ := exec_requestNotices me so.offers so.outOfRange hnoted
  exact ⟨t, hrun, hreach.registry⟩

/-- The turn that notes the request changes nothing but that. -/
theorem alters_noteRequest {note : String} {location : Geo.Point} {so : Offered} :
    Alters s.registry me (.offering note location [] so) ((noteRequest me so).exec s).2.registry := by
  cases hme : s.registry.find? me.id with
  | none =>
    unfold noteRequest
    rw [exec_bind_of_error (exec_update_of_none hme)]
    exact .nothing
  | some c =>
    obtain ⟨t, hrun, hregistry⟩ := exec_noteRequest so hme
    rw [hrun]
    show Alters _ _ _ t.registry
    rw [hregistry]
    exact .noted

/-- A dispatcher who is bound to a pilot serves it from then on. -/
theorem exec_takeRequest {pilot : ConnectionId}
    (hbind : s.registry.bindDispatcher pilot me.id = .ok (.bound, r)) :
    ∃ t, (takeRequest me pilot).exec s = (.ok (), t) ∧ t.registry = r := by
  unfold takeRequest
  simp only [exec_registry_bind, hbind]
  exact ⟨_, rfl, Relay.posts_send.registry.trans Relay.posts_send.registry⟩

/-- The turn that takes a request binds a pilot who has one, or changes nothing. -/
theorem alters_takeRequest {pilot : ConnectionId} :
    Alters s.registry me (.binding pilot) ((takeRequest me pilot).exec s).2.registry := by
  unfold takeRequest
  simp only [exec_registry_bind]
  cases hbind : s.registry.bindDispatcher pilot me.id with
  | error e => exact .nothing
  | ok bind =>
    obtain ⟨outcome, r⟩ := bind
    cases outcome with
    | bound =>
      obtain ⟨p, d, hp, hd, hunserved, hpending, rfl⟩ := bindDispatcher_bound hbind
      exact alters_of_reaches (Relay.Reaches.refl.withRegistry fun i =>
        contains_modify).withCounters.send.send (.bound hp hpending)
    | alreadyBound => exact alters_of_reaches Relay.Reaches.refl.send .nothing
    | taken owner =>
      exact alters_of_reaches (Relay.Reaches.refl.post Relay.posts_sendToDutyExcept) .nothing
    | notRequested => exact .nothing

/-- The turn that leaves the dispatcher releases the pilot, or withdraws the request. -/
theorem alters_leaveDispatcher {reason : String} :
    Alters s.registry me stage ((leaveDispatcher ctx me reason).exec s).2.registry := by
  unfold leaveDispatcher
  simp only [exec_registry_bind]
  cases hclear : s.registry.clearDispatcher me.id none with
  | none => exact alters_of_reaches Relay.Reaches.refl.sendToDuty.send .nothing
  | some cleared =>
    obtain ⟨⟨dispatcher, user⟩, r⟩ := cleared
    obtain ⟨p, -, -, -, -, -, rfl⟩ := clearDispatcher_eq_some hclear
    have hcleared : s.Reaches ⟨s.registry.modify me.id released, s.store, s.counters, []⟩ _ :=
      Relay.Reaches.refl.withRegistry fun i => contains_modify
    obtain ⟨t, hrecord, hreach⟩ := exec_recordCancelled ctx me user reason hcleared
    obtain ⟨t', hrelay, hreach'⟩ :=
      exec_withdrawal me (.serviceCancelled me.id reason) dispatcher hreach
    have halters : Alters s.registry me stage
        ((.ok (), t') : Except RouteError Unit × Relay).2.registry := alters_of_reaches hreach' .released
    rw [← hrelay] at halters
    simp only [exec_setRegistry_bind]
    refine bind_then (P := fun answer => Alters s.registry me stage answer.2.registry) hrecord ?_
    exact halters

/-- The turn that closes a service releases the pilot at most. -/
theorem alters_closeService {remarks : String} :
    Alters s.registry me stage ((closeService me remarks).exec s).2.registry := by
  unfold closeService
  simp only [exec_registry_bind]
  cases hclear : s.registry.clearDispatcher me.id (some me.session.dispatcher) with
  | none =>
    simp only [exec_registry_bind]
    split
    · exact alters_of_reaches Relay.Reaches.refl.sendToDispatcher.send .nothing
    · exact alters_of_reaches Relay.Reaches.refl.send .nothing
  | some cleared =>
    obtain ⟨⟨dispatcher, user⟩, r⟩ := cleared
    obtain ⟨p, -, -, -, -, -, rfl⟩ := clearDispatcher_eq_some hclear
    have hcleared : s.Reaches ⟨s.registry.modify me.id released, s.store, s.counters, []⟩ _ :=
      Relay.Reaches.refl.withRegistry fun i => contains_modify
    simp only [exec_setRegistry_bind, exec_registry_bind]
    split
    · exact alters_of_reaches hcleared.sendToDispatcher.send .released
    · exact alters_of_reaches hcleared.send .released

/-- What any turn comes to. -/
theorem leads_turn (ctx : RelayContext) (me : Connection) (s : Relay) (stage : ServiceStage) :
    Leads s.registry me stage ((stage.turn ctx me).exec s) := by
  cases stage with
  | received m =>
    rw [turn]
    split
    · exact leads_firstTurn
    · exact .stop
  | offering note location left so =>
    cases left with
    | nil => exact .last alters_noteRequest
    | cons d ds =>
      obtain ⟨so', t, hrun, hregistry⟩ := exec_offerTo_registry note location so d
      refine bind_then hrun (.go ?_ fun _ => rfl)
      rw [hregistry]
      exact .nothing
  | binding pilot => exact .last alters_takeRequest
  | clearing reason => exact .last alters_leaveDispatcher
  | closing remarks => exact .last alters_closeService

/-! ## Turns that go on -/

/-- The request of a pilot who may ask goes on to be offered to those who are available. -/
theorem exec_received_request (ctx : RelayContext) (s : Relay) (note : String) {location : Geo.Point}
    (auth : me.session.isAuthenticated = true) (role : me.role = .pilot)
    (place : me.session.location = some location) (unserved : me.session.dispatcher = noConnection) :
    ((received (.serviceRequest note)).turn ctx me).exec s
      = (.ok (some (.offering note location s.registry.available ⟨0, 0⟩)), s) := by
  rw [turn, if_pos auth]
  refine requireRole_then (P := fun a => a = _) (fun h => absurd role h) fun _ => ?_
  simp only [place]
  exact require_then (P := fun a => a = _) (fun h => absurd unserved (of_decide_eq_false h))
    fun _ => rfl

/-- An offer to a live dispatcher who covers the pilot is counted as handed on. -/
theorem exec_offering (ctx : RelayContext) (me : Connection) (note : String) (so : Offered)
    {location : Geo.Point} {x : Float} {d : Connection} {ds : List Connection} (isOpen : s.outbox.isOpen = true)
    (live : s.registry.find? d.id = some d) (role : d.role = .dispatcher)
    (covered : offerDistance location d = some x) :
    ∃ t, ((offering note location (d :: ds) so).turn ctx me).exec s
        = (.ok (some (.offering note location ds ⟨so.offers + 1, so.outOfRange⟩)), t) ∧
      t.registry = s.registry := by
  have hreached := Relay.sendToDispatcher_reached (s := s)
    (.serviceOffer me.id me.session.callsign (some location) x note) d.id
  rw [live, Option.any_some, role, isOpen] at hreached
  refine ⟨_, ?_, (Relay.posts_sendToDispatcher (s := s)
    (.serviceOffer me.id me.session.callsign (some location) x note) d.id).registry⟩
  rw [turn, offerTo, covered]
  simp only [bind_assoc, exec_step_bind, hreached]
  rfl

/-- The accept of a dispatcher who is available goes on to bind a pilot who is live. -/
theorem exec_received_accept (ctx : RelayContext) {p : Connection} (auth : me.session.isAuthenticated = true)
    (available : me.session.isAvailableDispatcher = true) (live : s.registry.find? p.id = some p)
    (role : p.role = .pilot) :
    ((received (.serviceAccept p.id)).turn ctx me).exec s = (.ok (some (.binding p.id)), s) := by
  rw [turn, if_pos auth]
  refine requireRole_then (P := fun a => a = _)
    (fun h => absurd (isAvailableDispatcher_iff.mp available).1 h) fun _ => ?_
  refine require_then (P := fun a => a = _)
    (fun h => absurd (h.symm.trans available) Bool.false_ne_true) fun _ => ?_
  unfold counterpart
  simp only [bind_assoc, exec_registry_bind, live, role, if_true]
  rfl

end ServiceStage

end FlightRelay

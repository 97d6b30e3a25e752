import FlightRelay.Proofs.Router.Requests

/-!
# One dispatcher for each request

A pilot is free, has an open request, or is served.  `ServiceChange` lists the ways in which one event
takes a live connection from one of these states to another; along a run, every binding uses up a
request that was opened before it.
-/

namespace FlightRelay

open Outbound Session

variable {ctx : RelayContext} {s : Relay} {me c c' : Connection} {m : ClientMessage} {u : Outcome}
  {e : Event} {es : List Event} {p : ConnectionId}

/-! ## Messages outside the dispatch service -/

/-- The dispatcher of a session, and whether its request is open. -/
def Session.service (s : Session) : ConnectionId × Bool := (s.dispatcher, s.servicePending)

/-- The message is part of the dispatch service. -/
def ClientMessage.isService : ClientMessage → Bool
  | .serviceRequest _ | .serviceAccept _ | .serviceCancel _ _ | .serviceComplete _ => true
  | _ => false

/-- Messages that are not part of the dispatch service leave every service as it is. -/
theorem Carried.aspect_service (h : Carried ctx s me m u) (hm : m.isService = false) :
    u.registry.aspect service p = s.registry.aspect service p := by
  cases h with
  | requested => cases hm
  | serviceBound => cases hm
  | serviceKept => cases hm
  | pilotLeft => cases hm
  | pilotWithdrew => cases hm
  | dispatcherLeft => cases hm
  | completed => cases hm
  | login => exact Registry.aspect_modify fun _ => rfl
  | position => exact Registry.aspect_modify fun _ => rfl
  | flightInfo hrole hsession =>
    subst hsession
    exact Registry.aspect_modify fun _ => rfl
  | dispatcherStatus => exact Registry.aspect_modify fun _ => rfl
  | @viewerBound viewer v =>
    have hclaimed : (s.registry.modify viewer (following me.id)).aspect service p
        = s.registry.aspect service p := Registry.aspect_modify fun _ => rfl
    exact (Registry.aspect_modify (f := followedBy viewer) fun _ => rfl).trans hclaimed
  | viewerKept => exact Registry.aspect_modify fun _ => rfl
  | viewerDropped hrole hcleared =>
    exact Registry.aspect_clearViewer hcleared (fun _ _ => rfl) fun _ _ => rfl
  | viewerLeft hrole hcleared =>
    exact Registry.aspect_clearViewer hcleared (fun _ _ => rfl) fun _ _ => rfl
  | viewingEnded hrole hcleared =>
    exact Registry.aspect_clearViewer hcleared (fun _ _ => rfl) fun _ _ => rfl
  | _ => rfl

/-! ## Changes of a service -/

/-- The events that end the service of a connection, by what its session says before. -/
inductive ServiceEnd (e : Event) (before after : Store) (p : ConnectionId) (a : Session) : Prop
  /-- The pilot cancels. -/
  | left {ctx : RelayContext} {pilot : Option ConnectionId} {reason : String} {owner : Option UserId}
      (event : e = .message ctx ⟨.serviceCancel pilot reason, p, owner⟩)
  /-- The dispatcher cancels, and names the pilot. -/
  | dropped {ctx : RelayContext} {reason : String} {owner : Option UserId}
      (event : e = .message ctx ⟨.serviceCancel (some p) reason, a.dispatcher, owner⟩)
  /-- The pilot reports the service as done, and the record is committed. -/
  | completed {ctx : RelayContext} {remarks : String} {owner : Option UserId}
      (event : e = .message ctx ⟨.serviceComplete remarks, p, owner⟩)
      (committed : Handler.storeRecord before
        ⟨a.userId, a.dispatcherUser, .completed, remarks, ctx.now⟩ = .ok after)
  /-- The dispatcher is gone. -/
  | lost (event : e = .disconnect a.dispatcher)

/-- The ways in which an event changes the service of a live connection from what it says in `a` to what
it says in `b`. -/
inductive ServiceChange (s : Relay) (e : Event) (u : Outcome) (p : ConnectionId) (a b : Session) : Prop
  | same (dispatcher : b.dispatcher = a.dispatcher) (pending : b.servicePending = a.servicePending)
  | asked {ctx : RelayContext} {note : String} {owner : Option UserId}
      (event : e = .message ctx ⟨.serviceRequest note, p, owner⟩)
      (unserved : a.dispatcher = noConnection) (free : b.dispatcher = noConnection)
      (reached : b.servicePending = true → ∃ o ∈ u.posts, ∃ d callsign location distance,
        s.registry.find? o.target = some d ∧ d.role = .dispatcher ∧
          o.message = .serviceOffer p callsign location distance note)
  | taken {ctx : RelayContext} {owner : Option UserId} {d : Connection}
      (event : e = .message ctx ⟨.serviceAccept p, b.dispatcher, owner⟩)
      (live : s.registry.find? b.dispatcher = some d)
      (available : d.session.isAvailableDispatcher = true)
      (unserved : a.dispatcher = noConnection) (pending : a.servicePending = true)
      (closed : b.servicePending = false)
  | ended (why : ServiceEnd e s.store u.store p a) (free : b.dispatcher = noConnection)
      (pending : b.servicePending = true → a.servicePending = true)

/-- A connection whose service is the same before and after has not changed it. -/
theorem ServiceChange.of_aspect {s : Relay} {u : Outcome} (hc : s.registry.find? p = some c)
    (hc' : u.registry.find? p = some c')
    (h : u.registry.aspect service p = s.registry.aspect service p) :
    ServiceChange s e u p c.session c'.session := by
  rw [Registry.aspect_of_find? hc, Registry.aspect_of_find? hc'] at h
  obtain ⟨hdispatcher, hpending⟩ := Prod.mk.inj (Option.some.inj h)
  exact .same hdispatcher hpending

/-- A message changes the service of a connection in one of these ways. -/
theorem Carried.service {envelope : Envelope} {posts : List Outbound}
    (h : Carried ctx s.counted me envelope.message u)
    (hme : s.registry.find? envelope.sender = some me) (hc : s.registry.find? p = some c)
    (hc' : u.registry.find? p = some c') (hposts : posts = s.registry.mail true u.posts) :
    ServiceChange s (.message ctx envelope) { u with posts } p c.session c'.session := by
  obtain ⟨message, sender, owner⟩ := envelope
  obtain rfl : me.id = sender := Registry.id_of_find? hme
  cases hservice : message.isService with
  | false => exact .of_aspect hc hc' (h.aspect_service hservice)
  | true =>
    have elsewhere : ∀ {i : ConnectionId} {f : Session → Session}, p ≠ i →
        (s.registry.modify i f).aspect Session.service p = s.registry.aspect Session.service p := by
      intro i f hne
      rw [Registry.aspect, Registry.find?_modify_of_ne hne, Registry.aspect]
    cases h with
    | @requested note location hrole hplace hunserved =>
      by_cases he : p = me.id
      · subst he
        obtain rfl := Option.some.inj (hc.symm.trans hme)
        obtain rfl := Option.some.inj ((Registry.find?_modify_self hme).symm.trans hc')
        refine .asked rfl hunserved hunserved fun hpending => ?_
        -- the request is open because an offer was handed on
        obtain ⟨o, ho⟩ := List.exists_mem_of_length_pos (of_decide_eq_true hpending :
          0 < (s.registry.mail s.outbox.isOpen (s.registry.offers c location note)).length)
        obtain ⟨d, distance, hd, havailable, hoffer⟩ :=
          Registry.mem_offers (Registry.mem_of_mem_mail ho)
        have hposted : o ∈ posts := by
          rw [hposts, Registry.mail_append]
          exact List.mem_append_left _ (Registry.mem_mail_true ho)
        refine ⟨o, hposted, d, c.session.callsign, some location, distance, ?_,
          (isAvailableDispatcher_iff.mp havailable).1, ?_⟩
        · rw [hoffer]
          exact hd
        · rw [hoffer]
          rfl
      · exact .of_aspect hc hc' (elsewhere he)
    | @serviceBound pilot q hrole havailable hlive hpilot hunserved hpending =>
      by_cases he : p = pilot
      · subst he
        obtain rfl := Option.some.inj (hc.symm.trans hlive)
        obtain rfl := Option.some.inj ((Registry.find?_modify_self hlive).symm.trans hc')
        exact .taken rfl hme havailable hunserved hpending rfl
      · exact .of_aspect hc hc' (elsewhere he)
    | serviceKept => exact .of_aspect hc hc' rfl
    | pilotLeft =>
      by_cases he : p = me.id
      · subst he
        obtain rfl := Option.some.inj ((Registry.find?_modify_self hme).symm.trans hc')
        exact .ended (.left rfl) rfl fun h => by cases h
      · exact .of_aspect hc hc' (elsewhere he)
    | pilotWithdrew hrole hunserved =>
      by_cases he : p = me.id
      · subst he
        obtain rfl := Option.some.inj ((Registry.find?_modify_self hme).symm.trans hc')
        exact .ended (.left rfl) hunserved fun h => by cases h
      · exact .of_aspect hc hc' (elsewhere he)
    | @dispatcherLeft pilot q reason record hrole hlive hserved hbound hwritten =>
      by_cases he : p = pilot
      · subst he
        obtain rfl := Option.some.inj (hc.symm.trans hlive)
        obtain rfl := Option.some.inj ((Registry.find?_modify_self hlive).symm.trans hc')
        rw [← hserved]
        exact .ended (.dropped rfl) rfl id
      · exact .of_aspect hc hc' (elsewhere he)
    | completed hrole hserved hcommitted =>
      by_cases he : p = me.id
      · subst he
        obtain rfl := Option.some.inj (hc.symm.trans hme)
        obtain rfl := Option.some.inj ((Registry.find?_modify_self hme).symm.trans hc')
        exact .ended (.completed rfl hcommitted) rfl id
      · exact .of_aspect hc hc' (elsewhere he)
    | _ => cases hservice

/-- Whatever happens changes the service of a connection in one of these ways. -/
theorem Happened.service (h : Happened s e u) (hc : s.registry.find? p = some c)
    (hc' : u.registry.find? p = some c') : ServiceChange s e u p c.session c'.session := by
  cases h with
  | accepted hadded =>
    obtain ⟨hfresh, -, -, hfound⟩ := Registry.accept_eq_ok hadded
    have hne : p ≠ s.registry.nextId := by
      rintro rfl
      exact absurd (Registry.contains_of_find? hc) (by rw [hfresh]; exact Bool.false_ne_true)
    refine .of_aspect hc hc' ?_
    rw [Registry.aspect, hfound, if_neg hne]
    rfl
  | carried hme how => exact how.service hme hc hc' rfl
  | @departed id removal r hremoved =>
    obtain ⟨-, -, -, -, hfound⟩ := Registry.remove_eq_some hremoved
    rw [hfound] at hc'
    split at hc'
    · cases hc'
    · rw [hc, Option.map_some] at hc'
      obtain rfl := Option.some.inj hc'
      by_cases hlost : c.session.dispatcher = id
      · subst hlost
        exact .ended (.lost rfl) (if_pos rfl) id
      · exact .same (if_neg hlost) rfl
  | _ => exact .of_aspect hc hc' rfl

/-! ## Bindings -/

/-- The message tells that a pilot is bound to a dispatcher. -/
def ServerMessage.isBindingOf (p : ConnectionId) : ServerMessage → Bool
  | .serviceBound pilot _ _ => pilot = p
  | _ => false

/-- The connection is live and has an open request. -/
def Registry.hasRequest (r : Registry) (p : ConnectionId) : Bool :=
  (r.find? p).any fun c => c.session.servicePending

/-- Whether a live pilot has an open request is in its session. -/
theorem Registry.hasRequest_of_find? {r : Registry} (h : r.find? p = some c) :
    r.hasRequest p = c.session.servicePending := by
  rw [hasRequest, h, Option.any_some]

/-- How many of the posts tell that a pilot is bound. -/
def bindingsIn (p : ConnectionId) (posts : List Outbound) : Nat :=
  posts.countP fun o => o.message.isBindingOf p

/-- Posts without a binding of the pilot count for none. -/
theorem bindingsIn_of_without {posts : List Outbound}
    (h : Without (ServerMessage.isBindingOf p) posts) : bindingsIn p posts = 0 := by
  rw [bindingsIn, List.countP_eq_zero]
  intro o ho
  rw [h o ho]
  exact Bool.false_ne_true

/-- A message that is carried out binds a pilot at most once, and only by taking its open request. -/
theorem Carried.bindings (h : Carried ctx s me m u) (hm : m.discloses = true)
    (hme : s.registry.find? me.id = some me) :
    bindingsIn p (s.registry.mail true u.posts) = 0 ∨
      (bindingsIn p (s.registry.mail true u.posts) = 1 ∧ m = .serviceAccept p ∧
        s.registry.hasRequest p = true ∧ u.registry.hasRequest p = false) := by
  have none : Without (ServerMessage.isBindingOf p) u.posts →
      bindingsIn p (s.registry.mail true u.posts) = 0 := fun h => bindingsIn_of_without h.mail
  cases h with
  | @login form profile k hrole hfixed hknown hpermitted hsession =>
    exact .inl (none (.cons rfl (.ite (without_firstPicture fun _ _ _ _ _ => rfl))))
  | position =>
    refine .inl (none (.append (.ite (without_firstPicture fun _ _ _ _ _ => rfl)) (.ite ?_)))
    exact .of_message (fun p hp => (Registry.mem_positionReports hp).1) rfl
  | flightInfo =>
    exact .inl (none (.of_message (fun p hp => (Registry.mem_planReports hp).1) rfl))
  | @serviceBound pilot q hrole havailable hlive hpilot hunserved hpending =>
    by_cases he : pilot = p
    · subst he
      refine .inr ⟨?_, rfl, ?_, ?_⟩
      · rw [Registry.mail_eq_self]
        · simp [bindingsIn, batched, ServerMessage.isBindingOf, ServerMessage.accepted]
        · intro o ho
          rcases List.mem_cons.mp ho with rfl | ho
          · exact Registry.contains_of_find? hme
          · rw [List.mem_singleton.mp ho]
            exact Registry.contains_of_find? hlive
      · rw [Registry.hasRequest_of_find? hlive, hpending]
      · exact Registry.hasRequest_of_find? (Registry.find?_modify_self hlive)
    · exact .inl (none (.cons rfl (.singleton (decide_eq_false he))))
  | serviceKept => exact .inl (none (.singleton rfl))
  | viewerBound =>
    exact .inl (none (.cons rfl (.append (without_trafficOf fun _ _ _ _ _ => rfl) (.singleton rfl))))
  | viewerKept => exact .inl (none (.singleton rfl))
  | _ => cases hm

/-- An event binds a pilot at most once, and only if it takes the open request of the pilot. -/
theorem Happened.bindings (h : Happened s e u) :
    bindingsIn p u.posts = 0 ∨
      (bindingsIn p u.posts = 1 ∧ (∃ ctx d owner, e = .message ctx ⟨.serviceAccept p, d, owner⟩) ∧
        s.registry.hasRequest p = true ∧ u.registry.hasRequest p = false) := by
  rcases h.disclosure with hplain | ⟨ctx, envelope, me, w, rfl, hme, how, hdiscloses, rfl⟩
  · left
    refine bindingsIn_of_without fun o ho => ?_
    have himpersonal := hplain o ho
    cases hm : o.message <;> rw [hm] at himpersonal <;> first | rfl | cases himpersonal
  · obtain ⟨message, sender, owner⟩ := envelope
    obtain rfl : me.id = sender := Registry.id_of_find? hme
    rcases how.bindings (p := p) hdiscloses hme with hnone | ⟨hone, rfl, hopen, hclosed⟩
    · exact .inl hnone
    · exact .inr ⟨hone, ⟨ctx, me.id, owner, rfl⟩, hopen, hclosed⟩

/-! ## Along a run -/

namespace Relay

/-- The event is a request of the connection that opens one. -/
def opens (s : Relay) (p : ConnectionId) (e : Event) : Bool :=
  match e with
  | .message _ ⟨.serviceRequest _, sender, _⟩ =>
    sender = p && !s.registry.hasRequest p && (s.step e).registry.hasRequest p
  | _ => false

/-- How many requests of a pilot the events of a run open. -/
def openings (s : Relay) (p : ConnectionId) : List Event → Nat
  | [] => 0
  | e :: es => (s.opens p e).toNat + (s.step e).openings p es

/-- What one event may do to the service of a live connection. -/
structure Exclusive (s : Relay) (e : Event) : Prop where
  /-- A served pilot does not pass from one dispatcher to another. -/
  kept : ∀ {p c c'}, s.registry.find? p = some c → (s.step e).registry.find? p = some c' →
    c.session.dispatcher ≠ noConnection → c'.session.dispatcher ≠ noConnection →
    c'.session.dispatcher = c.session.dispatcher
  /-- A free pilot is taken only by a live, available dispatcher who accepts its open request, and this
  closes the request. -/
  taken : ∀ {p c c'}, s.registry.find? p = some c → (s.step e).registry.find? p = some c' →
    c.session.dispatcher = noConnection → c'.session.dispatcher ≠ noConnection →
    (∃ ctx owner, e = .message ctx ⟨.serviceAccept p, c'.session.dispatcher, owner⟩) ∧
      (∃ d, s.registry.find? c'.session.dispatcher = some d ∧ d.role = .dispatcher ∧
        d.session.onDuty = true ∧ d.session.busy = false ∧ d.session.hidden = false) ∧
      c.session.servicePending = true ∧ c'.session.servicePending = false
  /-- A service ends only when either side cancels it, when the pilot completes it and the record is
  committed, or when the dispatcher is disconnected. -/
  ended : ∀ {p c c'}, s.registry.find? p = some c → (s.step e).registry.find? p = some c' →
    c.session.dispatcher ≠ noConnection → c'.session.dispatcher = noConnection →
    ServiceEnd e s.store (s.step e).store p c.session
  /-- A request is opened only by a pilot without a dispatcher who asks for service and reaches a live
  dispatcher. -/
  opened : ∀ {p c c'}, s.registry.find? p = some c → (s.step e).registry.find? p = some c' →
    c.session.servicePending = false → c'.session.servicePending = true →
    c.session.dispatcher = noConnection ∧
      ∃ ctx note owner, e = .message ctx ⟨.serviceRequest note, p, owner⟩ ∧
        ∃ o ∈ s.emitted e, ∃ d callsign location distance,
          s.registry.find? o.target = some d ∧ d.role = .dispatcher ∧
            o.message = .serviceOffer p callsign location distance note
  /-- A binding is told at most once, on an accept that closes an open request. -/
  bound : ∀ {p}, bindingsIn p (s.emitted e) ≠ 0 →
    bindingsIn p (s.emitted e) = 1 ∧
      (∃ ctx d owner, e = .message ctx ⟨.serviceAccept p, d, owner⟩) ∧
      s.registry.hasRequest p = true ∧ (s.step e).registry.hasRequest p = false

/-- Every event is exclusive. -/
theorem exclusive_step (hopen : s.outbox.isOpen = true) : s.Exclusive e := by
  obtain ⟨u, happened, hbecomes⟩ := happened_step (e := e) hopen
  have hregistry := hbecomes.registry
  have change : ∀ {p c c'}, s.registry.find? p = some c → (s.step e).registry.find? p = some c' →
      ServiceChange s e u p c.session c'.session := by
    intro p c c' hc hc'
    rw [hregistry] at hc'
    exact happened.service hc hc'
  -- each field asks which of the four changes of a service there can be between the two sessions
  refine ⟨?_, ?_, ?_, ?_, ?_⟩
  · intro p c c' hc hc' hserved hserved'
    cases change hc hc' with
    | same hdispatcher hpending => exact hdispatcher
    | asked hevent hunserved hfree hreached => exact absurd hunserved hserved
    | taken hevent hlive havailable hunserved hpending hclosed => exact absurd hunserved hserved
    | ended hwhy hfree hpending => exact absurd hfree hserved'
  · intro p c c' hc hc' hfree hserved
    cases change hc hc' with
    | same hdispatcher hpending => exact absurd (hdispatcher.trans hfree) hserved
    | asked hevent hunserved hfree' hreached => exact absurd hfree' hserved
    | @taken ctx owner d hevent hlive havailable hunserved hpending hclosed =>
      exact ⟨⟨ctx, owner, hevent⟩, ⟨d, hlive, isAvailableDispatcher_iff.mp havailable⟩, hpending, hclosed⟩
    | ended hwhy hfree' hpending => exact absurd hfree' hserved
  · intro p c c' hc hc' hserved hfree
    rw [hbecomes.store]
    cases change hc hc' with
    | same hdispatcher hpending => exact absurd (hdispatcher.symm.trans hfree) hserved
    | asked hevent hunserved hfree' hreached => exact absurd hunserved hserved
    | taken hevent hlive havailable hunserved hpending hclosed => exact absurd hunserved hserved
    | ended hwhy hfree' hpending => exact hwhy
  · intro p c c' hc hc' hquiet hpending'
    rw [hbecomes.emitted]
    cases change hc hc' with
    | same hdispatcher hpending => cases hquiet.symm.trans (hpending.symm.trans hpending')
    | asked hevent hunserved hfree hreached => exact ⟨hunserved, _, _, _, hevent, hreached hpending'⟩
    | taken hevent hlive havailable hunserved hpending hclosed => cases hclosed.symm.trans hpending'
    | ended hwhy hfree hpending => cases hquiet.symm.trans (hpending hpending')
  · intro p hsome
    rw [hbecomes.emitted] at hsome ⊢
    rw [hregistry]
    rcases happened.bindings (p := p) with hnone | hone
    · exact absurd hnone hsome
    · exact hone

/-- An event that leaves a request open which was not open before is the request that opens it. -/
theorem opens_of_hasRequest (hopen : s.outbox.isOpen = true)
    (hbefore : s.registry.hasRequest p = false) (hafter : (s.step e).registry.hasRequest p = true) :
    s.opens p e = true := by
  obtain ⟨u, happened, hbecomes⟩ := happened_step (e := e) hopen
  obtain ⟨c', hc', hpending'⟩ := (Option.any_eq_true _ _).mp hafter
  cases hc : s.registry.find? p with
  | none =>
    -- a connection that has just been accepted has not asked for anything
    rw [hbecomes.registry] at hc'
    obtain ⟨remote, d, now, rfl⟩ := happened.fresh hc hc'
    cases hpending'
  | some c =>
    rw [Registry.hasRequest_of_find? hc] at hbefore
    obtain ⟨-, ctx, note, owner, rfl, -⟩ := (exclusive_step hopen).opened hc hc' hbefore hpending'
    unfold opens
    simp only [hafter, Registry.hasRequest_of_find? hc, hbefore, decide_true, Bool.not_false,
      Bool.and_self]

/-- On each event, bindings and open requests are paid for by requests. -/
theorem bindings_step (hopen : s.outbox.isOpen = true) :
    bindingsIn p (s.emitted e) + ((s.step e).registry.hasRequest p).toNat
      ≤ (s.registry.hasRequest p).toNat + (s.opens p e).toNat := by
  by_cases hsome : bindingsIn p (s.emitted e) = 0
  · rw [hsome, Nat.zero_add]
    cases hafter : (s.step e).registry.hasRequest p with
    | false => exact Nat.zero_le _
    | true =>
      cases hbefore : s.registry.hasRequest p with
      | true => exact Nat.le_add_right _ _
      | false =>
        -- nothing but a request opens one
        rw [opens_of_hasRequest hopen hbefore hafter]
        decide
  · obtain ⟨hone, -, hbefore, hafter⟩ := (exclusive_step hopen).bound hsome
    rw [hone, hbefore, hafter]
    exact Nat.le_add_right _ _

/-- Along a run, every binding of a pilot uses up a request that was open or was opened on the way. -/
theorem bindings_run (hopen : s.outbox.isOpen = true) :
    bindingsIn p (s.emissions es) + ((s.run es).registry.hasRequest p).toNat
      ≤ (s.registry.hasRequest p).toNat + s.openings p es := by
  -- an open request is what one event leaves to the next to be taken
  induction es generalizing s with
  | nil => exact Nat.le_of_eq (Nat.zero_add _)
  | cons e es ih =>
    have hstep := bindings_step (p := p) (e := e) hopen
    have hrest := ih (isOpen_step (e := e) hopen)
    have hsplit : bindingsIn p (s.emissions (e :: es))
        = bindingsIn p (s.emitted e) + bindingsIn p ((s.step e).emissions es) := by
      rw [emissions, bindingsIn, List.countP_append]
      rfl
    rw [hsplit, run_cons, openings]
    omega

/-- The open request of a pilot is bound to the available dispatcher who accepts it. -/
theorem binding_of_accept {d c : Connection} (sound : s.registry.Sound) (isOpen : s.outbox.isOpen = true)
    (hd : s.registry.find? d.id = some d) (available : d.session.isAvailableDispatcher = true)
    (hc : s.registry.find? c.id = some c) (pending : c.session.servicePending = true)
    (ctx : RelayContext) (owner : Option UserId) :
    bindingsIn c.id (s.emitted (.message ctx ⟨.serviceAccept c.id, d.id, owner⟩)) = 1 ∧
      (s.step (.message ctx ⟨.serviceAccept c.id, d.id, owner⟩)).registry
        = s.registry.modify c.id (servedBy d.id d.session.userId) := by
  obtain ⟨hpilot, hunserved⟩ := (sound.coherent hc).pending pending
  have hdispatcher : d.role = .dispatcher := (isAvailableDispatcher_iff.mp available).1
  have hcounted : s.counted.registry = s.registry := rfl
  obtain ⟨u, how, hbecomes⟩ := carried_message ctx ⟨.serviceAccept c.id, d.id, owner⟩ isOpen hd
    (Handler.carriedOut_accept_message (hcounted ▸ hd) (sound.numbered hd).1
      (sound.isAuthenticated hd (by rw [hdispatcher]; decide)) available (hcounted ▸ hc) hpilot hunserved
      pending)
  cases how with
  | serviceBound _ _ hc' =>
    refine ⟨?_, hbecomes.registry⟩
    rw [hbecomes.emitted, Registry.mail_eq_self]
    · exact (List.countP_cons_of_neg Bool.false_ne_true).trans
        (List.countP_cons_of_pos (decide_eq_true rfl))
    · intro o ho
      simp only [List.mem_cons, List.not_mem_nil, or_false] at ho
      rcases ho with rfl | rfl
      · exact Registry.contains_of_find? hd
      · exact Registry.contains_of_find? hc
  | serviceKept _ hc' hserved =>
    -- a free pilot has no dispatcher to keep
    obtain rfl := Option.some.inj (hc'.symm.trans hc)
    exact absurd (hserved.symm.trans hunserved) (sound.numbered hd).1

/-- Whatever happens, a pilot has one dispatcher at a time, gets it by an open request, and keeps it
until one of them ends the service; and no request is answered with more than one binding. -/
theorem dispatch_exclusive (h : s.Reachable) :
    (∀ e, s.Exclusive e) ∧
      ∀ (p : ConnectionId) (es : List Event),
        bindingsIn p (s.emissions es) + ((s.run es).registry.hasRequest p).toNat
          ≤ (s.registry.hasRequest p).toNat + s.openings p es := by
  obtain ⟨n, -, hsteady⟩ := h.steady
  exact ⟨fun e => exclusive_step hsteady.isOpen, fun p es => bindings_run hsteady.isOpen⟩

/-- A request that has reached a dispatcher is bound once, however often it is accepted. -/
theorem dispatch_exclusive_arrivals :
    let s := (empty .empty).run (arrivals ++ [.sent 1 (.serviceRequest "fuel")])
    let accepts := [Event.sent 2 (.serviceAccept 1), .sent 2 (.serviceAccept 1)]
    bindingsIn 1 (s.emissions accepts) ≤ 1 ∧
      ((⟨50, 8, 3000⟩ : Geo.Point).distance ⟨50, 8, 3000⟩ ≤ 500 →
        bindingsIn 1 (s.emissions accepts) = 1) := by
  intro s accepts
  have hreachable : s.Reachable := ⟨.empty, _, by decide, rfl⟩
  have hrun := (dispatch_exclusive hreachable).2 1 accepts
  have hnone : s.openings 1 accepts = 0 := rfl
  have hone := Bool.toNat_le (s.registry.hasRequest 1)
  refine ⟨by omega, fun near => ?_⟩
  obtain ⟨posts, hbecomes⟩ := becomes_asked near
  have hasked : s.registry = asked.registry := by
    have hlast : s = ((empty .empty).run arrivals).step (.sent 1 (.serviceRequest "fuel")) := run_append
    rw [hlast]
    exact hbecomes.registry
  obtain ⟨d, hd, available⟩ := Registry.aspect_eq_some_iff.mp
    (show asked.registry.aspect isAvailableDispatcher 2 = some true by decide +kernel)
  obtain ⟨c, hc, pending⟩ := Registry.aspect_eq_some_iff.mp
    (show asked.registry.aspect servicePending 1 = some true by decide +kernel)
  have hdispatcher : d.id = 2 := Registry.id_of_find? hd
  have hpilot : c.id = 1 := Registry.id_of_find? hc
  obtain ⟨n, -, hsteady⟩ := hreachable.steady
  have hbound := (binding_of_accept hsteady.sound hsteady.isOpen (by rw [hasked, hdispatcher, hd])
    available (by rw [hasked, hpilot, hc]) pending ⟨.trusting, .standard, 0⟩ none).1
  rw [hdispatcher, hpilot] at hbound
  have hsplit : bindingsIn 1 (s.emissions accepts)
      = bindingsIn 1 (s.emitted (.sent 2 (.serviceAccept 1)))
        + bindingsIn 1 ((s.step (.sent 2 (.serviceAccept 1))).emissions [.sent 2 (.serviceAccept 1)]) :=
    List.countP_append
  have hbound' : bindingsIn 1 (s.emitted (.sent 2 (.serviceAccept 1))) = 1 := hbound
  omega

end Relay

end FlightRelay

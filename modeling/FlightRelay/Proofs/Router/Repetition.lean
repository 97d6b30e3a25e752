import FlightRelay.Proofs.Router.Agreement
import FlightRelay.Proofs.Router.Soundness

/-!
# Messages that come twice

A message that is handled a second time changes neither a session nor the store.  If it was refused, it is
refused again, since nothing is left that could decide otherwise; if it was carried out, then whatever it
asks for is there already, or there is nothing left to end.
-/

namespace FlightRelay

open Registry Session

namespace Registry

variable {r r' : Registry} {id pilot viewer : ConnectionId} {c : Connection}
  {expected expected' : Option ConnectionId} {f : Session → Session}

/-- A change of one session that is not made again by itself. -/
theorem modify_modify_self (h : ∀ s, f (f s) = f s) :
    (r.modify id f).modify id f = r.modify id f := by
  rw [modify_modify]
  exact congrArg (r.modify id) (funext h)

/-- A change of a session that is selected neither before nor after it does not show in a selection. -/
theorem select_modify {p : Connection → Bool} (hc : r.find? id = some c) (before : p c = false)
    (after : p (c.withSession f) = false) : (r.modify id f).select p = r.select p := by
  have hself : ∀ d ∈ r.connections, d.id = id → d = c := by
    intro d hd he
    have hfound := find?_of_mem hd
    rw [he, hc] at hfound
    exact (Option.some.inj hfound).symm
  show (r.connections.map _).filter p = r.connections.filter p
  rw [List.filter_map, List.filter_congr (q := p)]
  · refine (List.map_congr_left fun d hd => ?_).trans (List.map_id _)
    obtain ⟨hmem, hkept⟩ := List.mem_filter.mp hd
    refine if_neg fun he => ?_
    rw [hself d hmem he, before] at hkept
    cases hkept
  · intro d hd
    rw [Function.comp]
    split
    · rename_i he
      rw [hself d hd he, before, after]
    · rfl

/-- A viewer who was dropped is not dropped again. -/
theorem clearViewer_again (h : r.clearViewer pilot expected = some (viewer, r')) :
    r'.clearViewer pilot expected' = none := by
  obtain ⟨p, hp, -, -, -, rfl⟩ := clearViewer_eq_some h
  have hfree : ((r.modify pilot (followedBy noConnection)).releaseViewer pilot viewer).aspect
      Session.viewer pilot = some noConnection := by
    unfold releaseViewer
    rw [aspect_modify, aspect_modify_self hp]
    · rfl
    · intro s
      split <;> rfl
  obtain ⟨p', hp', hviewer⟩ := aspect_eq_some_iff.mp hfree
  rw [clearViewer_of_find? hp', if_pos (.inl hviewer)]

end Registry

/-! ## A message that was carried out -/

/-- An outcome that is nothing but what the relay was before. -/
structure Outcome.Keeps (o : Outcome) (s : Relay) : Prop where
  registry : o.registry = s.registry
  store : o.store = s.store

/-- The relay `t` is what `s` has become with an outcome, and `me'` is the sender `me` there. -/
structure Turn (s : Relay) (me : Connection) (o : Outcome) (t : Relay) (me' : Connection) : Prop where
  sound : s.registry.Sound
  sender : s.registry.find? me.id = some me
  registry : t.registry = o.registry
  store : t.store = o.store
  isOpen : t.outbox.isOpen = s.outbox.isOpen
  sender' : t.registry.find? me.id = some me'

section Again

variable {ctx : RelayContext} {later : UInt64} {s t : Relay} {me me' : Connection} {o o' : Outcome}

theorem Turn.id_eq (h : Turn s me o t me') : me'.id = me.id := id_of_find? h.sender'

theorem Turn.id_ne (h : Turn s me o t me') : me.id ≠ noConnection := (h.sound.numbered h.sender).1

/-- After a change of its own session, the sender is there with the changed session. -/
theorem Turn.sender_eq {f : Session → Session} (h : Turn s me o t me')
    (hown : o.registry = s.registry.modify me.id f) : me' = me.withSession f := by
  have hfound := h.sender'
  rw [h.registry, hown, find?_modify_self h.sender] at hfound
  exact (Option.some.inj hfound).symm

/-- What is not changed of any session is not changed of the sender's. -/
theorem Turn.aspect_eq {α : Type} {k : Session → α} (h : Turn s me o t me')
    (hk : o.registry.aspect k me.id = s.registry.aspect k me.id) : k me'.session = k me.session := by
  rw [← h.registry, aspect_of_find? h.sender', aspect_of_find? h.sender] at hk
  exact Option.some.inj hk

/-- A change of the sender's own session is not made again. -/
theorem Turn.own_again {f : Session → Session} (h : Turn s me o t me')
    (hown : o.registry = s.registry.modify me.id f) (hf : ∀ s, f (f s) = f s) :
    t.registry.modify me'.id f = t.registry := by
  rw [h.id_eq, h.registry, hown]
  exact modify_modify_self hf

/-- A second login finds the role, the user and the ranges that it would set. -/
theorem login_again {form : LoginForm} (h : Turn s me o t me')
    (first : Carried ctx s me (.login form) o)
    (again : Carried { ctx with now := later } t me' (.login form) o') : o'.Keeps t := by
  cases first with
  | login _ _ hknown _ _ =>
    cases again with
    | login _ _ hknown' _ _ =>
      obtain rfl := Except.ok.inj (hknown.symm.trans hknown')
      exact ⟨h.own_again rfl fun _ => rfl, rfl⟩

/-- A second report of the position finds it, and no picture is owed any more. -/
theorem position_again {p : Position} (h : Turn s me o t me')
    (first : Carried ctx s me (.position p) o)
    (again : Carried { ctx with now := later } t me' (.position p) o') : o'.Keeps t := by
  cases first
  cases again
  exact ⟨h.own_again rfl fun _ => rfl, rfl⟩

/-- The plan is there already. -/
theorem flightInfo_again {plan : FlightPlan} (h : Turn s me o t me')
    (first : Carried ctx s me (.flightInfo plan) o)
    (again : Carried { ctx with now := later } t me' (.flightInfo plan) o') : o'.Keeps t := by
  cases first with
  | flightInfo _ hchange =>
    cases again with
    | flightInfo _ hchange' =>
      subst hchange hchange'
      exact ⟨h.own_again rfl fun _ => rfl, rfl⟩

/-- A wish that is not made leaves what was wished for before. -/
theorem dutyChanged_again (form : DutyForm) (s : Session) :
    Handler.dutyChanged form (Handler.dutyChanged form s) = Handler.dutyChanged form s := by
  unfold Handler.dutyChanged
  cases form.range <;> cases form.center <;> rfl

/-- The duty is as reported already. -/
theorem dispatcherStatus_again {form : DutyForm} (h : Turn s me o t me')
    (first : Carried ctx s me (.dispatcherStatus form) o)
    (again : Carried { ctx with now := later } t me' (.dispatcherStatus form) o') : o'.Keeps t := by
  cases first
  cases again
  exact ⟨h.own_again rfl (dutyChanged_again form), rfl⟩

/-- A request is offered again to the same dispatchers: a pilot is none of them. -/
theorem offered_again {pending : Bool} {location : Geo.Point} {note : String} (h : Turn s me o t me')
    (hown : o.registry = s.registry.modify me.id (requesting pending)) (hrole : me.role = .pilot) :
    t.offered me' location note = s.offered me location note := by
  have hsession : me.session.role = .pilot := hrole
  have hnone : ∀ session : Session, session.role = .pilot →
      session.isAvailableDispatcher = false := by
    intro session hpilot
    simp [isAvailableDispatcher, hpilot]
  have havailable : t.registry.available = s.registry.available := by
    rw [h.registry, hown]
    exact select_modify h.sender (hnone _ hsession) (hnone _ hsession)
  have hoffers : t.registry.offers me' location note = s.registry.offers me location note := by
    rw [Registry.offers, havailable, h.sender_eq hown]
    rfl
  rw [Relay.offered, hoffers, h.isOpen, h.registry, hown, Relay.offered]
  simp only [Registry.mail, contains_modify]

/-- The request is noted as it was the first time. -/
theorem serviceRequest_again {note : String} (h : Turn s me o t me')
    (first : Carried ctx s me (.serviceRequest note) o)
    (again : Carried { ctx with now := later } t me' (.serviceRequest note) o') : o'.Keeps t := by
  cases first with
  | @requested _ location hrole hplace hunserved =>
    cases again with
    | @requested _ location' _ hplace' _ =>
      have hsame : location' = location := by
        rw [h.sender_eq rfl] at hplace'
        exact Option.some.inj (hplace'.symm.trans hplace)
      refine ⟨?_, rfl⟩
      rw [hsame, offered_again h rfl hrole]
      exact h.own_again rfl fun _ => rfl

/-- The pilot is served already, and so a second acceptance is never carried out. -/
theorem serviceAccept_again {pilot : ConnectionId} (h : Turn s me o t me')
    (first : Carried ctx s me (.serviceAccept pilot) o)
    (again : Carried { ctx with now := later } t me' (.serviceAccept pilot) o') : o'.Keeps t := by
  -- the sender serves the pilot now, whether it did before or not
  have hserved : t.registry.aspect Session.dispatcher pilot = some me.id := by
    rw [h.registry]
    cases first with
    | serviceBound _ _ hlive _ _ _ => exact aspect_modify_self hlive
    | serviceKept _ hlive hserved => exact (aspect_of_find? hlive).trans (congrArg some hserved)
  cases again with
  | serviceBound _ _ hlive _ hunserved _ =>
    rw [aspect_of_find? hlive, hunserved] at hserved
    exact absurd (Option.some.inj hserved).symm h.id_ne
  | serviceKept => exact ⟨rfl, rfl⟩

/-- A pilot without a request and without a dispatcher has nothing to cancel. -/
theorem cancel_again_of_pilot {pilot : Option ConnectionId} {reason : String}
    (hpilot : me'.role = .pilot) (hpending : me'.session.servicePending = false)
    (hunserved : me'.session.dispatcher = noConnection) (hme : t.registry.find? me'.id = some me')
    (again : Carried ctx t me' (.serviceCancel pilot reason) o') : o'.Keeps t := by
  cases again with
  | pilotLeft _ hserved _ => exact absurd hunserved hserved
  | pilotWithdrew _ _ =>
    refine ⟨modify_eq_self hme ?_, rfl⟩
    rw [requesting, ← hpending]
  | dispatcherLeft hrole _ _ _ _ => cases hrole.symm.trans hpilot

/-- There is no service and no request to cancel any more. -/
theorem serviceCancel_again {pilot : Option ConnectionId} {reason : String} (h : Turn s me o t me')
    (first : Carried ctx s me (.serviceCancel pilot reason) o)
    (again : Carried { ctx with now := later } t me' (.serviceCancel pilot reason) o') :
    o'.Keeps t := by
  have hme' : t.registry.find? me'.id = some me' := by
    rw [h.id_eq]
    exact h.sender'
  cases first with
  | pilotLeft hrole _ _ =>
    have hsession := h.sender_eq rfl
    subst hsession
    refine cancel_again_of_pilot ?_ rfl rfl hme' again
    exact hrole
  | pilotWithdrew hrole hunserved =>
    have hsession := h.sender_eq rfl
    subst hsession
    refine cancel_again_of_pilot ?_ rfl ?_ hme' again
    · exact hrole
    · exact hunserved
  | @dispatcherLeft pilot p _ _ hrole hlive _ _ _ =>
    have hrole' : me'.role = .dispatcher :=
      (h.aspect_eq (k := Session.role) (aspect_modify fun _ => rfl)).trans hrole
    have hfree : t.registry.aspect Session.dispatcher pilot = some noConnection := by
      rw [h.registry]
      exact aspect_modify_self hlive
    cases again with
    | pilotLeft hpilot _ _ => cases hpilot.symm.trans hrole'
    | pilotWithdrew hpilot _ => cases hpilot.symm.trans hrole'
    | dispatcherLeft _ hlive' hserved' _ _ =>
      rw [aspect_of_find? hlive', hserved', h.id_eq] at hfree
      exact absurd (Option.some.inj hfree) h.id_ne

/-- There is no service to complete any more, and so a second completion is never carried out. -/
theorem serviceComplete_again {remarks : String} (h : Turn s me o t me')
    (first : Carried ctx s me (.serviceComplete remarks) o)
    (again : Carried { ctx with now := later } t me' (.serviceComplete remarks) o') : o'.Keeps t := by
  cases first
  cases again with
  | completed _ hserved _ =>
    rw [h.sender_eq rfl] at hserved
    exact absurd rfl hserved

/-- The two are bound already. -/
theorem viewerAccept_again {viewer : ConnectionId} (h : Turn s me o t me')
    (first : Carried ctx s me (.viewerAccept viewer) o)
    (again : Carried { ctx with now := later } t me' (.viewerAccept viewer) o') : o'.Keeps t := by
  -- the viewer follows the sender now, and the sender knows of it
  have hbound : viewer ≠ noConnection ∧ t.registry.aspect Session.viewer me.id = some viewer ∧
      t.registry.aspect Session.viewing viewer = some me.id := by
    rw [h.registry]
    cases first with
    | viewerBound _ hlive _ _ _ =>
      have hlast : (s.registry.modify viewer (following me.id)).contains me.id = true := by
        rw [contains_modify]
        exact contains_of_find? h.sender
      obtain ⟨c, hc⟩ := contains_iff.mp hlast
      exact ⟨(h.sound.numbered hlive).1, aspect_modify_self hc,
        (aspect_modify (f := followedBy viewer) fun _ => rfl).trans (aspect_modify_self hlive)⟩
    | viewerKept _ hlive _ hviewed _ =>
      have hbefore := (aspect_of_find? (k := Session.viewer) h.sender).trans (congrArg some hviewed)
      exact ⟨(h.sound.numbered hlive).1,
        (aspect_modify (f := following me.id) fun _ => rfl).trans hbefore,
        aspect_modify_self hlive⟩
  obtain ⟨hsome, hviewed, hviewing⟩ := hbound
  rw [aspect_of_find? h.sender'] at hviewed
  cases again with
  | viewerBound _ _ _ hunviewed _ =>
    exact absurd ((Option.some.inj hviewed).symm.trans hunviewed) hsome
  | viewerKept _ hlive _ _ _ =>
    refine ⟨modify_eq_self hlive ?_, rfl⟩
    rw [aspect_of_find? hlive] at hviewing
    rw [following, h.id_eq, ← Option.some.inj hviewing]

/-- The viewing is over already, or never was. -/
theorem viewerReject_again {viewer : ConnectionId} (h : Turn s me o t me')
    (first : Carried ctx s me (.viewerReject viewer) o)
    (again : Carried { ctx with now := later } t me' (.viewerReject viewer) o') : o'.Keeps t := by
  have hnone : t.registry.clearViewer me.id (some viewer) = none := by
    rw [h.registry]
    cases first with
    | viewerDropped _ hcleared => exact clearViewer_again hcleared
    | viewerDeclined _ hkept => exact hkept
  cases again with
  | viewerDropped _ hcleared =>
    rw [h.id_eq, hnone] at hcleared
    cases hcleared
  | viewerDeclined => exact ⟨rfl, rfl⟩

/-- There is no viewing to cancel any more. -/
theorem viewerCancel_again {pilot : Option ConnectionId} (h : Turn s me o t me')
    (first : Carried ctx s me (.viewerCancel pilot) o)
    (again : Carried { ctx with now := later } t me' (.viewerCancel pilot) o') : o'.Keeps t := by
  -- the sender keeps its role, and from its side nothing is left to end
  have hended : me'.role = me.role ∧
      (me.role = .viewer → ∀ p, pilot = some p → t.registry.clearViewer p (some me.id) = none) ∧
      (me.role = .pilot → t.registry.clearViewer me.id none = none) := by
    rw [h.registry]
    cases first with
    | @viewerLeft pilot _ hrole hcleared =>
      refine ⟨h.aspect_eq (aspect_clearViewer hcleared (fun _ _ => rfl) fun _ _ => rfl), ?_, ?_⟩
      · rintro - p hp
        obtain rfl := Option.some.inj hp
        exact clearViewer_again hcleared
      · intro hpilot
        cases hpilot.symm.trans hrole
    | viewingEnded hrole hcleared =>
      refine ⟨h.aspect_eq (aspect_clearViewer hcleared (fun _ _ => rfl) fun _ _ => rfl), ?_, ?_⟩
      · intro hviewer
        cases hviewer.symm.trans hrole
      · exact fun _ => clearViewer_again hcleared
    | nothingEnded hnothing =>
      refine ⟨h.aspect_eq (k := Session.role) rfl, ?_, ?_⟩
      · rintro hviewer p rfl
        rcases hnothing with ⟨p', -, hp, hnone⟩ | ⟨hpilot, -⟩
        · obtain rfl := Option.some.inj hp
          exact hnone
        · cases hviewer.symm.trans hpilot
      · intro hpilot
        rcases hnothing with ⟨-, hviewer, -⟩ | ⟨-, hnone⟩
        · cases hpilot.symm.trans hviewer
        · exact hnone
  obtain ⟨hrole, hviewer, hpilot⟩ := hended
  cases again with
  | viewerLeft hrole' hcleared =>
    rw [h.id_eq, hviewer (hrole.symm.trans hrole') _ rfl] at hcleared
    cases hcleared
  | viewingEnded hrole' hcleared =>
    rw [h.id_eq, hpilot (hrole.symm.trans hrole')] at hcleared
    cases hcleared
  | nothingEnded => exact ⟨rfl, rfl⟩

/-- The route replaces the one of its name, which is itself. -/
theorem saveRoute_again {route : Route} (h : Turn s me o t me')
    (first : Carried ctx s me (.saveRoute route) o)
    (again : Carried { ctx with now := later } t me' (.saveRoute route) o') : o'.Keeps t := by
  cases first with
  | routeSaved hknown hcommitted =>
    cases again with
    | routeSaved hknown' hcommitted' =>
      refine ⟨rfl, ?_⟩
      have huser := (h.aspect_eq (k := Session.userId) rfl).symm.trans hknown'
      obtain rfl := Option.some.inj (hknown.symm.trans huser)
      rw [h.store] at hcommitted' ⊢
      exact Store.eq_of_storeRoute_again hcommitted hcommitted'

/-- A message that was carried out and is carried out again leaves the relay as it is. -/
theorem Carried.again {m : ClientMessage} (h : Turn s me o t me') (first : Carried ctx s me m o)
    (again : Carried { ctx with now := later } t me' m o') : o'.Keeps t := by
  cases m with
  | login form => exact login_again h first again
  | ping nonce =>
    cases again
    exact ⟨rfl, rfl⟩
  | position p => exact position_again h first again
  | flightInfo plan => exact flightInfo_again h first again
  | dispatcherStatus form => exact dispatcherStatus_again h first again
  | serviceRequest note => exact serviceRequest_again h first again
  | serviceAccept pilot => exact serviceAccept_again h first again
  | serviceCancel pilot reason => exact serviceCancel_again h first again
  | serviceComplete remarks => exact serviceComplete_again h first again
  | viewerRequest pilot =>
    cases again
    · exact ⟨rfl, rfl⟩
    · exact ⟨rfl, rfl⟩
  | viewerAccept viewer => exact viewerAccept_again h first again
  | viewerReject viewer => exact viewerReject_again h first again
  | viewerCancel pilot => exact viewerCancel_again h first again
  | saveRoute route => exact saveRoute_again h first again
  | loadRoutes =>
    cases again
    exact ⟨rfl, rfl⟩

end Again

/-! ## Handling a message twice -/

namespace Relay

variable {ctx : RelayContext} {s : Relay} {me : Connection} {m : ClientMessage}
  {sender : ConnectionId}

/-- What a message of a live connection comes to: the answer of its handler and the relay afterwards. -/
inductive Handled (ctx : RelayContext) (s : Relay) (me : Connection) (m : ClientMessage) :
    Except RouteError Unit → Relay → Prop
  | refused {e : RouteError} {t : Relay} (registry : t.registry = s.registry)
      (store : t.store = s.store) (isOpen : t.outbox.isOpen = s.outbox.isOpen) :
      Handled ctx s me m (.error e) t
  | carried {o : Outcome} {t : Relay} (how : Carried ctx s.counted me m o)
      (registry : t.registry = o.registry) (store : t.store = o.store)
      (isOpen : t.outbox.isOpen = s.outbox.isOpen) : Handled ctx s me m (.ok ()) t

/-- What a live sender's message comes to, as the handler leaves it. -/
theorem handled (ctx : RelayContext) (m : ClientMessage) (owner : Option UserId)
    (hme : s.registry.find? sender = some me) :
    Handled ctx s me m ((Handler.handleMessage ctx me m).exec s.counted).1
      (handle ctx s ⟨m, sender, owner⟩) := by
  have hlive : s.counted.registry.find? me.id = some me := by
    rw [id_of_find? hme]
    exact hme
  have hanswer : Answered ctx s.counted me m ((Handler.handleMessage ctx me m).exec s.counted) :=
    Handler.answered_handleMessage hlive
  rw [handle_of_find? ctx hme]
  generalize (Handler.handleMessage ctx me m).exec s.counted = answer at hanswer
  cases hanswer with
  | refused warnings warn turn =>
    -- the refusal is one more message to the sender
    exact .refused (posts_send.registry.trans turn.registry) (posts_send.store.trans turn.store)
      (posts_send.isOpen.trans turn.isOpen)
  | carried how turn => exact .carried how turn.registry turn.store turn.isOpen

/-- A message of a stale sender changes neither the registry nor the store. -/
theorem handle_of_find?_eq_none (ctx : RelayContext) (owner : Option UserId)
    (h : s.registry.find? sender = none) :
    (handle ctx s ⟨m, sender, owner⟩).registry = s.registry ∧
      (handle ctx s ⟨m, sender, owner⟩).store = s.store := by
  unfold handle
  rw [h]
  exact ⟨rfl, rfl⟩

/-- A client may repeat any message: handled twice in a row, whatever the clock says the second time, it
leaves every session and the store exactly as handled once. -/
theorem handle_idempotent (h : s.Reachable) (ctx : RelayContext) (later : UInt64)
    (m : ClientMessage) (sender : ConnectionId) (owner owner' : Option UserId) :
    (handle { ctx with now := later } (handle ctx s ⟨m, sender, owner⟩) ⟨m, sender, owner'⟩).registry
        = (handle ctx s ⟨m, sender, owner⟩).registry ∧
      (handle { ctx with now := later } (handle ctx s ⟨m, sender, owner⟩) ⟨m, sender, owner'⟩).store
        = (handle ctx s ⟨m, sender, owner⟩).store := by
  obtain ⟨n, -, hsteady⟩ := h.steady
  cases hme : s.registry.find? sender with
  | none =>
    refine handle_of_find?_eq_none _ owner' ?_
    rw [(handle_of_find?_eq_none ctx owner hme).1]
    exact hme
  | some me =>
    have first := handled ctx m owner hme
    generalize handle ctx s ⟨m, sender, owner⟩ = t at first
    generalize hanswer : ((Handler.handleMessage ctx me m).exec s.counted).1 = answer at first
    cases first with
    | refused registry store isOpen =>
      -- nothing is left that could decide otherwise, so the answer is the same refusal
      have hgrounds : s.counted.grounds = t.counted.grounds := by
        show Grounds.mk s.registry s.store.unrecorded s.outbox.isOpen
          = ⟨t.registry, t.store.unrecorded, t.outbox.isOpen⟩
        rw [registry, store, isOpen]
      have hsame := ((Handler.agree_handleMessage ctx later me m).run hgrounds).1
      have second := handled { ctx with now := later } m owner'
        (show t.registry.find? sender = some me by rw [registry]; exact hme)
      rw [← hsame, hanswer] at second
      cases second with
      | refused registry' store' _ => exact ⟨registry', store'⟩
    | @carried o _ how registry store isOpen =>
      have hid : me.id = sender := id_of_find? hme
      obtain ⟨me', hme'⟩ : ∃ me', t.registry.find? sender = some me' := by
        rw [← contains_iff, registry, how.contains]
        exact contains_of_find? hme
      have hturn : Turn s.counted me o t.counted me' := by
        refine ⟨hsteady.sound, ?_, registry, store, isOpen, ?_⟩
        · rw [hid]
          exact hme
        · rw [hid]
          exact hme'
      have second := handled { ctx with now := later } m owner' hme'
      generalize ((Handler.handleMessage _ me' m).exec t.counted).1 = answer' at second
      cases second with
      | refused registry' store' _ => exact ⟨registry', store'⟩
      | carried how' registry' store' _ =>
        have hkeeps := how.again hturn how'
        exact ⟨registry'.trans hkeeps.registry, store'.trans hkeeps.store⟩

/-- The spectator leaves the pilot whom it follows; when it says so again, nothing is left to end. -/
theorem handle_idempotent_boarding :
    ((empty .empty).run Event.boarding).registry.aspect Session.viewer 1 = some 3 ∧
      ∃ once, once = handle ⟨.trusting, .standard, 0⟩ ((empty .empty).run Event.boarding)
          ⟨.viewerCancel (some 1), 3, some 3⟩ ∧
        once.registry.aspect Session.viewer 1 = some noConnection ∧
        (handle ⟨.trusting, .standard, 60000⟩ once ⟨.viewerCancel (some 1), 3, some 3⟩).registry
          = once.registry ∧
        (handle ⟨.trusting, .standard, 60000⟩ once ⟨.viewerCancel (some 1), 3, some 3⟩).store
          = once.store :=
  ⟨by decide, _, rfl, by decide, handle_idempotent reachable_boarding ⟨.trusting, .standard, 0⟩ 60000
    (.viewerCancel (some 1)) 3 (some 3) (some 3)⟩

end Relay

end FlightRelay

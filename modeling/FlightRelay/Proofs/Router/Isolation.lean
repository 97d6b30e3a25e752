import FlightRelay.Proofs.Router.Soundness
import FlightRelay.Proofs.Store

/-!
# Isolation

A message changes the session of its sender, and of any other session only the fields that tell of a
binding to the sender.  `Registry.Spares` says so of a change of the registry; each way in which a message
is carried out is made of changes that do.
-/

namespace FlightRelay

open Registry Session

/-! ## What the sender may do to another session -/

/-- The session `b` is what a message of the connection `id` of a user may make of the session `a` of
another connection: apart from its bindings to `id`, nothing is changed. -/
structure Session.BoundBy (id : ConnectionId) (user : Option UserId) (a b : Session) : Prop where
  rest : b = { a with
    dispatcher := b.dispatcher
    dispatcherUser := b.dispatcherUser
    servicePending := b.servicePending
    viewer := b.viewer
    viewing := b.viewing }
  /-- The sender takes the request of a pilot without a dispatcher, or leaves a pilot that it serves. -/
  service : (b.dispatcher = a.dispatcher ∧ b.dispatcherUser = a.dispatcherUser) ∨
    (a.dispatcher = noConnection ∧ b.dispatcher = id ∧ b.dispatcherUser = user) ∨
    (a.dispatcher = id ∧ b.dispatcher = noConnection ∧ b.dispatcherUser = none)
  /-- An open request is closed only by the sender who takes it. -/
  pending : b.servicePending = a.servicePending ∨
    (a.servicePending = true ∧ b.servicePending = false ∧
      a.dispatcher = noConnection ∧ b.dispatcher = id)
  /-- The sender stops following a pilot. -/
  viewer : b.viewer = a.viewer ∨ (a.viewer = id ∧ b.viewer = noConnection)
  /-- The sender lets a free spectator follow, or drops one that follows it. -/
  viewing : b.viewing = a.viewing ∨ (a.viewing = noConnection ∧ b.viewing = id) ∨
    (a.viewing = id ∧ b.viewing = noConnection)

namespace Session.BoundBy

variable {id other : ConnectionId} {user : Option UserId} {a b : Session}

/-- A session that is left alone is bound as it was. -/
theorem refl : a.BoundBy id user a := ⟨rfl, .inl ⟨rfl, rfl⟩, .inl rfl, .inl rfl, .inl rfl⟩

/-- The sender takes an open request. -/
theorem serve (unserved : a.dispatcher = noConnection) (pending : a.servicePending = true) :
    a.BoundBy id user (a.servedBy id user) :=
  ⟨rfl, .inr (.inl ⟨unserved, rfl, rfl⟩), .inr ⟨pending, rfl, unserved, rfl⟩, .inl rfl, .inl rfl⟩

/-- The sender leaves a pilot that it serves. -/
theorem release (served : a.dispatcher = id) : a.BoundBy id user a.released :=
  ⟨rfl, .inr (.inr ⟨served, rfl, rfl⟩), .inl rfl, .inl rfl, .inl rfl⟩

/-- The sender lets a spectator follow who follows nobody else. -/
theorem follow (idle : a.viewing = noConnection ∨ a.viewing = id) :
    a.BoundBy id user (a.following id) := by
  refine ⟨rfl, .inl ⟨rfl, rfl⟩, .inl rfl, .inl rfl, ?_⟩
  rcases idle with hfree | hheld
  · exact .inr (.inl ⟨hfree, rfl⟩)
  · exact .inl hheld.symm

/-- The sender stops following a pilot. -/
theorem unfollow (viewed : a.viewer = id) : a.BoundBy id user (a.followedBy noConnection) :=
  ⟨rfl, .inl ⟨rfl, rfl⟩, .inl rfl, .inr ⟨viewed, rfl⟩, .inl rfl⟩

/-- The sender drops a spectator if that follows it. -/
theorem drop : a.BoundBy id user (if a.viewing = id then { a with viewing := noConnection } else a) := by
  split
  · rename_i hheld
    exact ⟨rfl, .inl ⟨rfl, rfl⟩, .inl rfl, .inl rfl, .inr (.inr ⟨hheld, rfl⟩)⟩
  · exact refl

/-- Bindings to anybody else are neither made nor ended. -/
theorem binding_iff (h : a.BoundBy id user b) (hother : other ≠ id) (hsome : other ≠ noConnection) :
    (b.dispatcher = other ↔ a.dispatcher = other) ∧ (b.viewer = other ↔ a.viewer = other) ∧
      (b.viewing = other ↔ a.viewing = other) := by
  refine ⟨?_, ?_, ?_⟩
  · rcases h.service with ⟨hsame, -⟩ | ⟨ha, hb, -⟩ | ⟨ha, hb, -⟩
    · rw [hsame]
    · rw [ha, hb]
      exact ⟨fun he => absurd he.symm hother, fun he => absurd he.symm hsome⟩
    · rw [ha, hb]
      exact ⟨fun he => absurd he.symm hsome, fun he => absurd he.symm hother⟩
  · rcases h.viewer with hsame | ⟨ha, hb⟩
    · rw [hsame]
    · rw [ha, hb]
      exact ⟨fun he => absurd he.symm hsome, fun he => absurd he.symm hother⟩
  · rcases h.viewing with hsame | ⟨ha, hb⟩ | ⟨ha, hb⟩
    · rw [hsame]
    · rw [ha, hb]
      exact ⟨fun he => absurd he.symm hother, fun he => absurd he.symm hsome⟩
    · rw [ha, hb]
      exact ⟨fun he => absurd he.symm hsome, fun he => absurd he.symm hother⟩

end Session.BoundBy

/-! ## Changes of the registry -/

/-- Of every connection but `id`, at most the bindings to `id` differ. -/
structure Registry.Spares (r : Registry) (id : ConnectionId) (user : Option UserId) (r' : Registry) :
    Prop where
  others : ∀ {i a}, i ≠ id → r.find? i = some a →
    ∃ b, r'.find? i = some { a with session := b } ∧ a.session.BoundBy id user b

namespace Registry.Spares

variable {r r' : Registry} {id other : ConnectionId} {user : Option UserId} {f : Session → Session}

theorem refl : r.Spares id user r where
  others {_ a} _ ha := ⟨a.session, ha, .refl⟩

/-- What the sender does to its own session before spares everybody else. -/
theorem own_then (h : (r.modify id f).Spares id user r') : r.Spares id user r' where
  others hne ha := h.others hne ((find?_modify_of_ne hne).trans ha)

/-- What the sender does to its own session after spares everybody else. -/
theorem then_own (h : r.Spares id user r') : r.Spares id user (r'.modify id f) where
  others hne ha := by
    obtain ⟨b, hb, hbound⟩ := h.others hne ha
    exact ⟨b, (find?_modify_of_ne hne).trans hb, hbound⟩

/-- A change of the sender's own session spares everyone else. -/
theorem own : r.Spares id user (r.modify id f) := .then_own .refl

/-- A change of one session that binds it to the sender, or frees it, spares everybody else. -/
theorem modify (h : ∀ a, r.find? other = some a → a.session.BoundBy id user (f a.session)) :
    r.Spares id user (r.modify other f) where
  others {i a} hne ha := by
    by_cases hi : i = other
    · subst hi
      exact ⟨f a.session, find?_modify_self ha, h a ha⟩
    · exact ⟨a.session, (find?_modify_of_ne hi).trans ha, .refl⟩

/-- A change of one live session. -/
theorem modify_of_find? {c : Connection} (hc : r.find? other = some c)
    (h : c.session.BoundBy id user (f c.session)) : r.Spares id user (r.modify other f) := by
  refine .modify fun a ha => ?_
  obtain rfl := Option.some.inj (hc.symm.trans ha)
  exact h

/-- A pilot who parts from its viewer spares everybody else. -/
theorem clearViewer_own {viewer : ConnectionId} {expected : Option ConnectionId}
    (h : r.clearViewer id expected = some (viewer, r')) : r.Spares id user r' := by
  obtain ⟨p, -, -, -, -, rfl⟩ := clearViewer_eq_some h
  exact .own_then (.modify fun a _ => .drop)

/-- A viewer who parts from a pilot spares everybody else. -/
theorem clearViewer_viewer {pilot : ConnectionId} {expected : Option ConnectionId}
    (h : r.clearViewer pilot expected = some (id, r')) : r.Spares id user r' := by
  obtain ⟨p, hp, hviewer, -, -, rfl⟩ := clearViewer_eq_some h
  exact .then_own (.modify_of_find? hp (.unfollow hviewer))

end Registry.Spares

/-! ## Messages -/

variable {ctx : RelayContext} {s : Relay} {me : Connection} {m : ClientMessage} {o : Outcome}

/-- A message that is carried out spares everybody but its sender. -/
theorem Carried.spares (h : Carried ctx s me m o) :
    s.registry.Spares me.id me.session.userId o.registry := by
  cases h with
  | login => exact .own
  | position => exact .own
  | flightInfo => exact .own
  | dispatcherStatus => exact .own
  | requested => exact .own
  | serviceBound hrole havailable hlive hpilot hunserved hpending =>
    exact .modify_of_find? hlive (.serve hunserved hpending)
  | pilotLeft => exact .own
  | pilotWithdrew => exact .own
  | dispatcherLeft hrole hlive hserved => exact .modify_of_find? hlive (.release hserved)
  | completed => exact .own
  | viewerBound hrole hlive hviewer hunviewed hidle =>
    exact .then_own (.modify_of_find? hlive (.follow hidle))
  | viewerKept hrole hlive hviewer hviewed hidle => exact .modify_of_find? hlive (.follow hidle)
  | viewerDropped hrole hcleared => exact .clearViewer_own hcleared
  | viewerLeft hrole hcleared => exact .clearViewer_viewer hcleared
  | viewingEnded hrole hcleared => exact .clearViewer_own hcleared
  | _ => exact .refl

/-- A message that is carried out touches no routes but those of its sender's user. -/
theorem Carried.routes {user : UserId} (h : Carried ctx s me m o)
    (hother : me.session.userId ≠ some user) :
    o.store.data.routesOf user = s.store.data.routesOf user := by
  cases h with
  | pilotLeft => rw [Store.Data.routesOf, Store.routes_noted, Store.Data.routesOf]
  | dispatcherLeft => rw [Store.Data.routesOf, Store.routes_noted, Store.Data.routesOf]
  | completed hrole hserved hcommitted =>
    rw [(Store.storeRecord_eq_ok.mp hcommitted).2]
    rfl
  | routeSaved hknown hcommitted =>
    refine Store.routesOf_storeRoute_of_ne hcommitted ?_
    rintro rfl
    exact hother hknown
  | _ => rfl

namespace Relay

/-- From `s` to `t`, nothing is done to anybody but `me` that is not a matter of a binding to `me`. -/
structure Isolated (s : Relay) (me : Connection) (t : Relay) : Prop where
  others : ∀ {i a}, i ≠ me.id → s.registry.find? i = some a →
    ∃ b, t.registry.find? i = some { a with session := b } ∧
      a.session.BoundBy me.id me.session.userId b
  /-- Nobody comes or goes. -/
  live : ∀ i, t.registry.contains i = s.registry.contains i
  /-- Bindings between two others are neither made nor ended. -/
  bindings : ∀ {i j a b}, i ≠ me.id → j ≠ me.id → j ≠ noConnection →
    s.registry.find? i = some a → t.registry.find? i = some b →
    (b.session.dispatcher = j ↔ a.session.dispatcher = j) ∧
      (b.session.viewer = j ↔ a.session.viewer = j) ∧
      (b.session.viewing = j ↔ a.session.viewing = j)
  /-- The routes of every other user are as before. -/
  routes : ∀ {user}, me.session.userId ≠ some user →
    t.store.data.routesOf user = s.store.data.routesOf user

/-- Whatever a connection sends, other connections are changed by it only where they are bound to the
sender, and other users keep their routes. -/
theorem senders_isolated (h : s.Reachable) (ctx : RelayContext) (envelope : Envelope)
    (hme : s.registry.find? envelope.sender = some me) : s.Isolated me (handle ctx s envelope) := by
  obtain ⟨n, -, hsteady⟩ := h.steady
  obtain ⟨o, happened, hbecomes⟩ := happened_message ctx hsteady.isOpen hme
  have hregistry := hbecomes.registry
  have hstore := hbecomes.store
  -- a message that is refused, or comes from nobody, leaves the registry as it is
  have hspares : s.registry.Spares me.id me.session.userId (handle ctx s envelope).registry := by
    rw [hregistry]
    cases happened with
    | stale => exact .refl
    | refused => exact .refl
    | carried hlive how =>
      obtain rfl := Option.some.inj (hlive.symm.trans hme)
      exact how.spares
  refine ⟨hspares.others, fun i => ?_, fun {i j a b} hi hj hsome ha hb => ?_,
    fun {user} hother => ?_⟩
  · rw [hregistry]
    cases happened with
    | stale => rfl
    | refused => rfl
    | carried hlive how => exact how.contains i
  · obtain ⟨b', hb', hbound⟩ := hspares.others hi ha
    obtain rfl := Option.some.inj (hb'.symm.trans hb)
    exact hbound.binding_iff hj hsome
  · rw [hstore]
    cases happened with
    | stale => rfl
    | refused => rfl
    | carried hlive how =>
      obtain rfl := Option.some.inj (hlive.symm.trans hme)
      exact how.routes hother

/-- The spectator who follows the pilot stops doing so, and that is all that happens to the pilot. -/
theorem senders_isolated_boarding :
    ∃ a b, ((empty .empty).run Event.boarding).registry.find? 1 = some a ∧
      (handle ⟨.trusting, .standard, 0⟩ ((empty .empty).run Event.boarding)
        ⟨.viewerCancel (some 1), 3, none⟩).registry.find? 1 = some { a with session := b } ∧
      a.session.viewer = 3 ∧ b.viewer = noConnection ∧ a.session.BoundBy 3 (some 3) b := by
  obtain ⟨me, hme⟩ := contains_iff.mp
    (show ((empty .empty).run Event.boarding).registry.contains 3 = true by decide)
  obtain ⟨a, ha⟩ := contains_iff.mp
    (show ((empty .empty).run Event.boarding).registry.contains 1 = true by decide)
  have hid : me.id = 3 := id_of_find? hme
  have huser : ((empty .empty).run Event.boarding).registry.aspect Session.userId 3 = some (some 3) := by
    decide
  have hbefore : ((empty .empty).run Event.boarding).registry.aspect Session.viewer 1 = some 3 := by
    decide
  have hafter : (handle ⟨.trusting, .standard, 0⟩ ((empty .empty).run Event.boarding)
      ⟨.viewerCancel (some 1), 3, none⟩).registry.aspect Session.viewer 1 = some noConnection := by
    decide
  obtain ⟨b, hb, hbound⟩ := (senders_isolated reachable_boarding ⟨.trusting, .standard, 0⟩
    ⟨.viewerCancel (some 1), 3, none⟩ hme).others (by rw [hid]; decide) ha
  rw [aspect_of_find? hme] at huser
  rw [aspect_of_find? ha] at hbefore
  rw [aspect_of_find? hb] at hafter
  rw [hid, Option.some.inj huser] at hbound
  exact ⟨a, b, ha, hb, Option.some.inj hbefore, Option.some.inj hafter, hbound⟩

end Relay

end FlightRelay

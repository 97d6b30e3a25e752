import FlightRelay.Proofs.Router.Notices
import FlightRelay.Proofs.Router.Soundness

/-!
# Who hears of an end

A service and a viewing can be ended by either side, in a message or by its departure, and an open
request by the pilot who made it.  `Event.EndsService`, `Event.EndsViewing` and `Event.EndsRequest` list
these events, each with what it tells and to whom; whatever else an event posts, that is told once.
-/

namespace FlightRelay

open Outbound Session

/-! ## Ends and what is told of them -/

namespace ServerMessage

/-- The message tells that the service of a pilot, or its request, is over. -/
def isCancelOf (p : ConnectionId) : ServerMessage → Bool
  | .serviceCancelled pilot _ => pilot = p
  | _ => false

/-- The message tells that a pilot and its viewer have parted. -/
def isPartingOf (p v : ConnectionId) : ServerMessage → Bool
  | .viewerCancelled pilot viewer => pilot = p && viewer = v
  | .viewerRejected pilot _ => pilot = p
  | _ => false

/-- A viewing that is over is the parting of its own pilot only. -/
theorem isPartingOf_viewerCancelled {i p v : ConnectionId} :
    (viewerCancelled i v).isPartingOf p v = decide (i = p) := by
  rw [isPartingOf, decide_eq_true (rfl : v = v), Bool.and_true]

end ServerMessage

namespace Event

/-- The events by which the service of the pilot `p` by the dispatcher `d` ends, each with what it tells
the other side. -/
inductive EndsService (p d : ConnectionId) : Event → Outbound → Prop
  | pilotCancels {ctx : RelayContext} {pilot : Option ConnectionId} {reason : String}
      {owner : Option UserId} :
      EndsService p d (.message ctx ⟨.serviceCancel pilot reason, p, owner⟩)
        (batched (.serviceCancelled p reason) d)
  | pilotGone : EndsService p d (.disconnect p) (batched (.serviceCancelled p "pilot disconnected") d)
  | dispatcherCancels {ctx : RelayContext} {reason : String} {owner : Option UserId} :
      EndsService p d (.message ctx ⟨.serviceCancel (some p) reason, d, owner⟩)
        (batched (.serviceCancelled p reason) p)
  | dispatcherGone :
      EndsService p d (.disconnect d) (batched (.serviceCancelled p "dispatcher disconnected") p)

/-- The events by which the pilot `p` and its viewer `v` part, each with what it tells the other side. -/
inductive EndsViewing (p v : ConnectionId) : Event → Outbound → Prop
  | viewerCancels {ctx : RelayContext} {pilot : Option ConnectionId} {owner : Option UserId} :
      EndsViewing p v (.message ctx ⟨.viewerCancel pilot, v, owner⟩) (batched (.viewerCancelled p v) p)
  | viewerGone : EndsViewing p v (.disconnect v) (batched (.viewerCancelled p v) p)
  | pilotCancels {ctx : RelayContext} {pilot : Option ConnectionId} {owner : Option UserId} :
      EndsViewing p v (.message ctx ⟨.viewerCancel pilot, p, owner⟩) (batched (.viewerCancelled p v) v)
  | pilotGone : EndsViewing p v (.disconnect p) (batched (.viewerCancelled p v) v)
  | pilotRejects {ctx : RelayContext} {viewer : ConnectionId} {owner : Option UserId} :
      EndsViewing p v (.message ctx ⟨.viewerReject viewer, p, owner⟩)
        (batched (.viewerRejected p "declined by pilot") v)

/-- The events by which the open request of the pilot `p` ends without a service, each with the reason
that it gives. -/
inductive EndsRequest (p : ConnectionId) : Event → String → Prop
  | cancels {ctx : RelayContext} {pilot : Option ConnectionId} {reason : String}
      {owner : Option UserId} :
      EndsRequest p (.message ctx ⟨.serviceCancel pilot reason, p, owner⟩) reason
  | gone : EndsRequest p (.disconnect p) "pilot disconnected"

end Event

/-- The ends that an event brings about are told as they should be. -/
structure Relay.Heard (s : Relay) (e : Event) : Prop where
  /-- The end of a service is told once, to the other side. -/
  service : ∀ {p c notice}, s.registry.find? p = some c → c.session.dispatcher ≠ noConnection →
    (s.step e).registry.aspect Session.dispatcher p ≠ some c.session.dispatcher →
    e.EndsService p c.session.dispatcher notice →
    (s.emitted e).filter (fun o => o.message.isCancelOf p) = [notice]
  /-- The end of a viewing is told once, to the other side. -/
  viewing : ∀ {p c notice}, s.registry.find? p = some c → c.session.viewer ≠ noConnection →
    (s.step e).registry.aspect Session.viewer p ≠ some c.session.viewer →
    e.EndsViewing p c.session.viewer notice →
    (s.emitted e).filter (fun o => o.message.isPartingOf p c.session.viewer) = [notice]
  /-- The end of an open request is told to every dispatcher on duty, and once to each. -/
  request : ∀ {p c reason}, s.registry.find? p = some c → c.session.servicePending = true →
    c.session.dispatcher = noConnection → e.EndsRequest p reason →
    ∀ {d w}, s.registry.find? d = some w → w.session.isOnDutyDispatcher = true →
      (s.emitted e).filter (fun o => o.target = d && o.message.isCancelOf p)
        = [batched (.serviceCancelled p reason) d]

variable {ctx : RelayContext} {s : Relay} {me c : Connection} {m : ClientMessage} {u : Outcome}
  {e : Event} {r r' : Registry} {removal : Registry.Removal} {id p v : ConnectionId}
  {kind : ServerMessage → Bool} {before told after posts : List Outbound}

/-! ## Messages to all on duty -/

/-- Of a message to all on duty, every dispatcher on duty hears once. -/
theorem Registry.filter_mail_toDuty {message : ServerMessage}
    (hlive : ∀ i, r.contains i = r'.contains i) (hbefore : Without kind before)
    (hafter : Without kind after) (hkind : kind message = true) (hc : r'.find? id = some c)
    (hduty : c.session.isOnDutyDispatcher = true) :
    (r.mail true (before ++ (r'.toDuty message none ++ after))).filter
        (fun o => o.target = id && kind o.message)
      = [batched message id] := by
  have hsame : ∀ o ∈ r'.toDuty message none, kind o.message = true := by
    intro o ho
    rw [mem_toDuty ho, hkind]
  have htold := filter_mail (r := r) (filter_around hbefore hafter hsame) fun o ho => by
    rw [hlive, contains_of_mem_toDuty ho]
  rw [← List.filter_filter, htold, filter_toDuty hc hduty]

/-- Only dispatchers are on duty. -/
theorem role_of_isOnDuty (h : c.session.isOnDutyDispatcher = true) : c.role = .dispatcher := by
  rw [Session.isOnDutyDispatcher, Bool.and_eq_true, decide_eq_true_eq] at h
  exact h.1

/-! ## Messages -/

/-- A message that changes something in the registry has been carried out. -/
theorem Happened.carried_of_aspect {envelope : Envelope} {α : Type} {k : Session → α} {a : α}
    (h : Happened s (.message ctx envelope) u) (hme : s.registry.find? envelope.sender = some me)
    (hbefore : s.registry.aspect k p = some a) (hafter : u.registry.aspect k p ≠ some a) :
    ∃ w, Carried ctx s.counted me envelope.message w ∧ u.registry = w.registry ∧
      u.posts = s.registry.mail true w.posts := by
  cases h with
  | stale => exact absurd hbefore hafter
  | refused => exact absurd hbefore hafter
  | @carried ctx envelope me' w hlive how =>
    obtain rfl := Option.some.inj (hlive.symm.trans hme)
    exact ⟨w, how, rfl, rfl⟩

namespace Carried

/-- A pilot who cancels its service tells its dispatcher. -/
theorem pilotCancel_told {pilot : Option ConnectionId} {reason : String}
    (h : Carried ctx s me (.serviceCancel pilot reason) u) (hs : s.registry.Sound)
    (hme : s.registry.find? me.id = some me) (hserved : me.session.dispatcher ≠ noConnection) :
    (s.registry.mail true u.posts).filter (fun o => o.message.isCancelOf me.id)
      = [batched (.serviceCancelled me.id reason) me.session.dispatcher] := by
  obtain ⟨d, hd, hdispatcher⟩ := hs.served hme hserved
  have hpilot := ((hs.coherent hme).served hserved).1
  cases h with
  | pilotLeft =>
    have hne : me.session.dispatcher ≠ me.id :=
      Registry.ne_of_role hd hme hdispatcher hpilot (by decide)
    rw [Registry.withdrawal_of_find? ((Registry.find?_modify_of_ne hne).trans hd) hdispatcher]
    exact Registry.filter_mail_singleton (filter_one .nil (.singleton rfl) (decide_eq_true rfl))
      (Registry.contains_of_find? hd)
  | pilotWithdrew hrole hunserved => exact absurd hunserved hserved
  | dispatcherLeft hrole => exact absurd (hrole.symm.trans hpilot) (by decide)

/-- A dispatcher who leaves a pilot tells it. -/
theorem dispatcherCancel_told {reason : String}
    (h : Carried ctx s me (.serviceCancel (some p) reason) u) (hrole : me.role = .dispatcher)
    (hlive : s.registry.contains p = true) :
    (s.registry.mail true u.posts).filter (fun o => o.message.isCancelOf p)
      = [batched (.serviceCancelled p reason) p] := by
  cases h with
  | pilotLeft hpilot => exact absurd (hpilot.symm.trans hrole) (by decide)
  | pilotWithdrew hpilot => exact absurd (hpilot.symm.trans hrole) (by decide)
  | dispatcherLeft =>
    exact Registry.filter_mail_singleton (filter_one .nil (.singleton rfl) (decide_eq_true rfl)) hlive

/-- A viewer who stops following tells the pilot. -/
theorem viewerCancel_told {pilot : Option ConnectionId}
    (h : Carried ctx s me (.viewerCancel pilot) u) (hrole : me.role = .viewer)
    (hc : s.registry.find? p = some c) (hviewed : c.session.viewer = me.id)
    (hended : u.registry.aspect Session.viewer p ≠ some me.id) :
    (s.registry.mail true u.posts).filter (fun o => o.message.isPartingOf p me.id)
      = [batched (.viewerCancelled p me.id) p] := by
  have hbefore : s.registry.aspect Session.viewer p = some me.id := by
    rw [Registry.aspect_of_find? hc, hviewed]
  cases h with
  | @viewerLeft pilot r hviewer hcleared =>
    -- the pilot that was named is the one that lost its viewer
    have hnamed : p = pilot := by
      by_contra hne
      exact hended ((Registry.aspect_viewer_clearViewer hcleared hne).trans hbefore)
    subst hnamed
    have hkind : (ServerMessage.viewerCancelled p me.id).isPartingOf p me.id = true := by
      rw [ServerMessage.isPartingOf_viewerCancelled, decide_eq_true rfl]
    exact Registry.filter_mail_singleton (filter_one .nil (.singleton rfl) hkind)
      (Registry.contains_of_find? hc)
  | viewingEnded hpilot => exact absurd (hpilot.symm.trans hrole) (by decide)
  | nothingEnded => exact absurd hbefore hended

/-- A pilot who parts from its viewer tells it. -/
theorem pilotPart_told {pilot : Option ConnectionId}
    (h : Carried ctx s me (.viewerCancel pilot) u) (hs : s.registry.Sound)
    (hme : s.registry.find? me.id = some me) (hviewed : me.session.viewer ≠ noConnection)
    (hended : u.registry.aspect Session.viewer me.id ≠ some me.session.viewer) :
    (s.registry.mail true u.posts).filter (fun o => o.message.isPartingOf me.id me.session.viewer)
      = [batched (.viewerCancelled me.id me.session.viewer) me.session.viewer] := by
  obtain ⟨hpilot, w, hw, -, -⟩ := hs.viewed hme hviewed
  cases h with
  | viewerLeft hviewer => exact absurd (hviewer.symm.trans hpilot) (by decide)
  | @viewingEnded pilot viewer r hrole hcleared =>
    obtain ⟨me', hme', rfl, -, -, -⟩ := Registry.clearViewer_eq_some hcleared
    obtain rfl := Option.some.inj (hme'.symm.trans hme)
    have hkind : (ServerMessage.viewerCancelled me'.id me'.session.viewer).isPartingOf me'.id
        me'.session.viewer = true := by
      rw [ServerMessage.isPartingOf_viewerCancelled, decide_eq_true rfl]
    exact Registry.filter_mail_singleton (filter_one .nil (.singleton rfl) hkind)
      (Registry.contains_of_find? hw)
  | nothingEnded => exact absurd (Registry.aspect_of_find? hme) hended

/-- A pilot who declines its viewer tells it. -/
theorem viewerReject_told {viewer : ConnectionId}
    (h : Carried ctx s me (.viewerReject viewer) u) (hs : s.registry.Sound)
    (hme : s.registry.find? me.id = some me) (hviewed : me.session.viewer ≠ noConnection)
    (hended : u.registry.aspect Session.viewer me.id ≠ some me.session.viewer) :
    (s.registry.mail true u.posts).filter (fun o => o.message.isPartingOf me.id me.session.viewer)
      = [batched (.viewerRejected me.id "declined by pilot") me.session.viewer] := by
  obtain ⟨-, w, hw, -, -⟩ := hs.viewed hme hviewed
  cases h with
  | viewerDropped hrole hcleared =>
    obtain ⟨me', hme', rfl, -, -, -⟩ := Registry.clearViewer_eq_some hcleared
    obtain rfl := Option.some.inj (hme'.symm.trans hme)
    exact Registry.filter_mail_singleton (filter_one .nil (.singleton rfl) (decide_eq_true rfl))
      (Registry.contains_of_find? hw)
  | viewerDeclined => exact absurd (Registry.aspect_of_find? hme) hended

/-- A pilot who withdraws its request tells every dispatcher on duty. -/
theorem pilotWithdraw_told {pilot : Option ConnectionId} {reason : String} {d : ConnectionId}
    {w : Connection} (h : Carried ctx s me (.serviceCancel pilot reason) u)
    (hme : s.registry.find? me.id = some me) (hrole : me.role = .pilot)
    (hunserved : me.session.dispatcher = noConnection) (hw : s.registry.find? d = some w)
    (hduty : w.session.isOnDutyDispatcher = true) :
    (s.registry.mail true u.posts).filter (fun o => o.target = d && o.message.isCancelOf me.id)
      = [batched (.serviceCancelled me.id reason) d] := by
  cases h with
  | pilotLeft hpilot hserved => exact absurd hunserved hserved
  | dispatcherLeft hdispatcher => exact absurd (hrole.symm.trans hdispatcher) (by decide)
  | pilotWithdrew =>
    have hne : d ≠ me.id :=
      Registry.ne_of_role hw hme (role_of_isOnDuty hduty) hrole (by decide)
    exact Registry.filter_mail_toDuty (fun i => Registry.contains_modify.symm) .nil (.singleton rfl)
      (decide_eq_true rfl) ((Registry.find?_modify_of_ne hne).trans hw) hduty

end Carried

/-! ## Departures -/

namespace Registry

/-- What a connection hears when another is gone to which it was bound. -/
def farewellTo (gone : ConnectionId) (c : Connection) : List Outbound :=
  (if c.session.dispatcher = gone
    then [batched (.serviceCancelled c.id "dispatcher disconnected") c.id] else [])
    ++ if c.session.viewer = gone then [batched (.viewerCancelled c.id gone) c.id] else []

/-- Farewells go to those whose bindings with the departed are cleared. -/
theorem bindingFarewell_eq (h : r.remove id = some (removal, r')) :
    bindingFarewell removal = (r.without id).connections.flatMap (farewellTo id) := by
  obtain ⟨hgone, -, -, hcleared, -⟩ := remove_eq_some h
  rw [bindingFarewell, hcleared, List.map_flatMap, List.map_flatMap, id_of_find? hgone]
  congr 1
  funext c
  unfold bindingsTo farewellTo
  split <;> split <;> rfl

/-- What is said to those who were bound is said of each of them. -/
theorem mem_farewellTo {o : Outbound} (h : o ∈ farewellTo id c) :
    o.message = .serviceCancelled c.id "dispatcher disconnected" ∨
      o.message = .viewerCancelled c.id id := by
  unfold farewellTo at h
  rcases List.mem_append.mp h with h | h
  · split at h
    · rw [List.mem_singleton.mp h]
      exact .inl rfl
    · cases h
  · split at h
    · rw [List.mem_singleton.mp h]
      exact .inr rfl
    · cases h

/-- Of a connection, what is said to those who were bound is said to it alone. -/
theorem filter_bindingFarewell (h : r.remove id = some (removal, r')) (hc : r.find? p = some c)
    (hne : p ≠ id) (hkind : ∀ i, i ≠ p → kind (.serviceCancelled i "dispatcher disconnected") = false ∧
      kind (.viewerCancelled i id) = false) :
    (bindingFarewell removal).filter (fun o => kind o.message)
      = (farewellTo id c).filter fun o => kind o.message := by
  have hfound : (r.without id).find? p = some c := by rw [find?_without, if_neg hne, hc]
  rw [bindingFarewell_eq h, List.filter_flatMap]
  refine flatMap_connections hfound fun d hd => List.filter_eq_nil_iff.mpr fun o ho => ?_
  rcases mem_farewellTo ho with hm | hm
  · rw [hm, (hkind _ hd).1]
    exact Bool.false_ne_true
  · rw [hm, (hkind _ hd).2]
    exact Bool.false_ne_true

/-- Of the connection that is gone, nothing is said to those who were bound to it. -/
theorem without_bindingFarewell (h : r.remove id = some (removal, r'))
    (hkind : ∀ i, i ≠ id → kind (.serviceCancelled i "dispatcher disconnected") = false ∧
      kind (.viewerCancelled i id) = false) : Without kind (bindingFarewell removal) := by
  intro o ho
  rw [bindingFarewell_eq h] at ho
  obtain ⟨d, hd, ho⟩ := List.mem_flatMap.mp ho
  have hne : d.id ≠ id := of_decide_eq_true (List.mem_filter.mp hd).2
  rcases mem_farewellTo ho with hm | hm
  · rw [hm, (hkind _ hne).1]
  · rw [hm, (hkind _ hne).2]

/-- Whoever is no pilot leaves nobody but those who were bound to it. -/
theorem farewells_of_ne_pilot (h : removal.snapshot.role ≠ .pilot) :
    r'.farewells removal = bindingFarewell removal := by
  rw [farewells, if_neg h, List.append_nil]

/-- A departing pilot also ends its service, and is taken off the displays. -/
theorem farewells_of_pilot (h : removal.snapshot.role = .pilot) :
    r'.farewells removal = bindingFarewell removal
      ++ (r'.serviceFarewell removal.snapshot ++ r'.trafficFarewell removal.snapshot) := by
  rw [farewells, if_pos h]

/-- Whoever is left after a removal has its role, and its duty. -/
theorem find?_of_remove {w : Connection} (h : r.remove id = some (removal, r'))
    (hw : r.find? p = some w) (hne : p ≠ id) : r'.find? p = some (w.withSession (forget id)) := by
  obtain ⟨-, -, -, -, hfound⟩ := remove_eq_some h
  rw [hfound, if_neg hne, hw, Option.map_some]

/-- Where a pilot that is gone was seen, nothing is said of its service. -/
theorem without_trafficFarewell {gone : Connection} :
    Without (ServerMessage.isCancelOf p) (r'.trafficFarewell gone) := by
  intro o ho
  rcases mem_trafficFarewell ho with hm | hm
  · rw [hm]
    rfl
  · rw [hm]
    rfl

/-- The dispatcher of a pilot that is gone is told. -/
theorem pilotGone_service (h : r.remove c.id = some (removal, r')) (hs : r.Sound)
    (hc : r.find? c.id = some c) (hserved : c.session.dispatcher ≠ noConnection) :
    (r'.mail true (r'.farewells removal)).filter (fun o => o.message.isCancelOf c.id)
      = [batched (.serviceCancelled c.id "pilot disconnected") c.session.dispatcher] := by
  obtain ⟨hgone, -⟩ := remove_eq_some h
  obtain rfl := Option.some.inj (hc.symm.trans hgone)
  obtain ⟨d, hd, hdispatcher⟩ := hs.served hc hserved
  have hpilot := ((hs.coherent hc).served hserved).1
  have hne : removal.snapshot.session.dispatcher ≠ removal.snapshot.id :=
    ne_of_role hd hc hdispatcher hpilot (by decide)
  have hleft := find?_of_remove h hd hne
  have hbindings : Without (ServerMessage.isCancelOf removal.snapshot.id) (bindingFarewell removal) :=
    without_bindingFarewell h fun i hi => ⟨decide_eq_false hi, rfl⟩
  rw [farewells_of_pilot hpilot, serviceFarewell, if_neg hserved,
    withdrawal_of_find? hleft hdispatcher]
  exact filter_mail_singleton (filter_one hbindings without_trafficFarewell (decide_eq_true rfl))
    (contains_of_find? hleft)

/-- Every pilot of a dispatcher that is gone is told. -/
theorem dispatcherGone_service (h : r.remove c.session.dispatcher = some (removal, r')) (hs : r.Sound)
    (hc : r.find? p = some c) (hserved : c.session.dispatcher ≠ noConnection) :
    (r'.mail true (r'.farewells removal)).filter (fun o => o.message.isCancelOf p)
      = [batched (.serviceCancelled p "dispatcher disconnected") p] := by
  obtain rfl := id_of_find? hc
  obtain ⟨hgone, -⟩ := remove_eq_some h
  obtain ⟨d, hd, hdispatcher⟩ := hs.served hc hserved
  obtain rfl := Option.some.inj (hd.symm.trans hgone)
  have hpilot := ((hs.coherent hc).served hserved).1
  have hne : c.id ≠ c.session.dispatcher :=
    ne_of_role hc hd hpilot hdispatcher (by decide)
  have hother : removal.snapshot.role ≠ .pilot := by
    rw [hdispatcher]
    decide
  have hkind : ∀ i, i ≠ c.id →
      (ServerMessage.serviceCancelled i "dispatcher disconnected").isCancelOf c.id = false ∧
        (ServerMessage.viewerCancelled i c.session.dispatcher).isCancelOf c.id = false :=
    fun i hi => ⟨decide_eq_false hi, rfl⟩
  rw [farewells_of_ne_pilot hother]
  refine filter_mail_singleton ?_ (contains_of_find? (find?_of_remove h hc hne))
  rw [filter_bindingFarewell h hc hne hkind, farewellTo, if_pos rfl]
  exact filter_one .nil (.ite (.singleton rfl)) (decide_eq_true rfl)

/-- The viewer of a pilot that is gone is told. -/
theorem pilotGone_viewing (h : r.remove c.id = some (removal, r')) (hs : r.Sound)
    (hc : r.find? c.id = some c) (hviewed : c.session.viewer ≠ noConnection) :
    (r'.mail true (r'.farewells removal)).filter (fun o => o.message.isPartingOf c.id c.session.viewer)
      = [batched (.viewerCancelled c.id c.session.viewer) c.session.viewer] := by
  obtain ⟨hgone, -⟩ := remove_eq_some h
  obtain rfl := Option.some.inj (hc.symm.trans hgone)
  obtain ⟨hpilot, w, hw, hviewer, -⟩ := hs.viewed hc hviewed
  have hne : removal.snapshot.session.viewer ≠ removal.snapshot.id :=
    ne_of_role hw hc hviewer hpilot (by decide)
  have hbindings : Without (ServerMessage.isPartingOf removal.snapshot.id removal.snapshot.session.viewer)
      (bindingFarewell removal) := by
    refine without_bindingFarewell h fun i hi => ⟨rfl, ?_⟩
    rw [ServerMessage.isPartingOf, decide_eq_false hi, Bool.false_and]
  have hservice : Without (ServerMessage.isPartingOf removal.snapshot.id removal.snapshot.session.viewer)
      (r'.serviceFarewell removal.snapshot) := .of_message (fun o ho => mem_serviceFarewell ho) rfl
  have hkind : (ServerMessage.viewerCancelled removal.snapshot.id
      removal.snapshot.session.viewer).isPartingOf removal.snapshot.id
        removal.snapshot.session.viewer = true := by
    rw [ServerMessage.isPartingOf_viewerCancelled, decide_eq_true rfl]
  rw [farewells_of_pilot hpilot, trafficFarewell, if_pos hviewed, ← List.append_assoc]
  exact filter_mail_singleton (filter_one (hbindings.append hservice) .nil hkind)
    (contains_of_find? (find?_of_remove h hw hne))

/-- The pilot of a viewer that is gone is told. -/
theorem viewerGone_viewing (h : r.remove c.session.viewer = some (removal, r')) (hs : r.Sound)
    (hc : r.find? p = some c) (hviewed : c.session.viewer ≠ noConnection) :
    (r'.mail true (r'.farewells removal)).filter (fun o => o.message.isPartingOf p c.session.viewer)
      = [batched (.viewerCancelled p c.session.viewer) p] := by
  obtain rfl := id_of_find? hc
  obtain ⟨hgone, -⟩ := remove_eq_some h
  obtain ⟨hpilot, w, hw, hviewer, -⟩ := hs.viewed hc hviewed
  obtain rfl := Option.some.inj (hw.symm.trans hgone)
  have hne : c.id ≠ c.session.viewer := ne_of_role hc hw hpilot hviewer (by decide)
  have hother : removal.snapshot.role ≠ .pilot := by
    rw [hviewer]
    decide
  have hkind : ∀ i, i ≠ c.id →
      (ServerMessage.serviceCancelled i "dispatcher disconnected").isPartingOf c.id c.session.viewer
          = false ∧
        (ServerMessage.viewerCancelled i c.session.viewer).isPartingOf c.id c.session.viewer
          = false := by
    intro i hi
    refine ⟨rfl, ?_⟩
    rw [ServerMessage.isPartingOf_viewerCancelled, decide_eq_false hi]
  have hown : (ServerMessage.viewerCancelled c.id c.session.viewer).isPartingOf c.id c.session.viewer
      = true := by
    rw [ServerMessage.isPartingOf_viewerCancelled, decide_eq_true rfl]
  rw [farewells_of_ne_pilot hother]
  refine filter_mail_singleton ?_ (contains_of_find? (find?_of_remove h hc hne))
  rw [filter_bindingFarewell h hc hne hkind, farewellTo, if_pos (rfl : c.session.viewer = _)]
  exact filter_one (.ite (.singleton rfl)) .nil hown

/-- Every dispatcher on duty is told of a pilot that is gone with an open request. -/
theorem pilotGone_request {w : Connection} (h : r.remove c.id = some (removal, r')) (hs : r.Sound)
    (hc : r.find? c.id = some c) (hpending : c.session.servicePending = true)
    (hw : r.find? p = some w) (hduty : w.session.isOnDutyDispatcher = true) :
    (r'.mail true (r'.farewells removal)).filter
        (fun o => o.target = p && o.message.isCancelOf c.id)
      = [batched (.serviceCancelled c.id "pilot disconnected") p] := by
  obtain ⟨hgone, -⟩ := remove_eq_some h
  obtain rfl := Option.some.inj (hc.symm.trans hgone)
  obtain ⟨hpilot, hunserved⟩ := (hs.coherent hc).pending hpending
  have hne : p ≠ removal.snapshot.id :=
    ne_of_role hw hc (role_of_isOnDuty hduty) hpilot (by decide)
  have hbindings : Without (ServerMessage.isCancelOf removal.snapshot.id) (bindingFarewell removal) :=
    without_bindingFarewell h fun i hi => ⟨decide_eq_false hi, rfl⟩
  rw [farewells_of_pilot hpilot, serviceFarewell, if_pos hunserved, if_pos hpending]
  exact filter_mail_toDuty (fun _ => rfl) hbindings without_trafficFarewell (decide_eq_true rfl)
    (find?_of_remove h hw hne) hduty

end Registry

/-! ## Every end is told -/

namespace Happened

/-- When a service ends, the other side hears of it. -/
theorem service_told {notice : Outbound} (h : Happened s e u) (hs : s.registry.Sound)
    (hc : s.registry.find? c.id = some c) (hserved : c.session.dispatcher ≠ noConnection)
    (hended : u.registry.aspect Session.dispatcher c.id ≠ some c.session.dispatcher)
    (hevent : e.EndsService c.id c.session.dispatcher notice) :
    u.posts.filter (fun o => o.message.isCancelOf c.id) = [notice] := by
  have hbefore := Registry.aspect_of_find? (k := Session.dispatcher) hc
  obtain ⟨d, hd, hdispatcher⟩ := hs.served hc hserved
  cases hevent with
  | pilotCancels =>
    obtain ⟨w, how, -, hposts⟩ := h.carried_of_aspect hc hbefore hended
    rw [hposts]
    exact how.pilotCancel_told hs hc hserved
  | pilotGone =>
    cases h with
    | absent => exact absurd hbefore hended
    | departed hremoved => exact Registry.pilotGone_service hremoved hs hc hserved
  | dispatcherCancels =>
    obtain ⟨w, how, -, hposts⟩ := h.carried_of_aspect hd hbefore hended
    rw [hposts]
    exact how.dispatcherCancel_told hdispatcher (Registry.contains_of_find? hc)
  | dispatcherGone =>
    cases h with
    | absent => exact absurd hbefore hended
    | departed hremoved => exact Registry.dispatcherGone_service hremoved hs hc hserved

/-- When a pilot and its viewer part, the other side hears of it. -/
theorem viewing_told {notice : Outbound} (h : Happened s e u) (hs : s.registry.Sound)
    (hc : s.registry.find? c.id = some c) (hviewed : c.session.viewer ≠ noConnection)
    (hended : u.registry.aspect Session.viewer c.id ≠ some c.session.viewer)
    (hevent : e.EndsViewing c.id c.session.viewer notice) :
    u.posts.filter (fun o => o.message.isPartingOf c.id c.session.viewer) = [notice] := by
  have hbefore := Registry.aspect_of_find? (k := Session.viewer) hc
  obtain ⟨-, v, hv, hviewer, -⟩ := hs.viewed hc hviewed
  have hid := Registry.id_of_find? hv
  -- the cause decides who is told: the pilot by its viewer, the viewer by its pilot
  cases hevent with
  | viewerCancels =>
    obtain ⟨w, how, hafter, hposts⟩ := h.carried_of_aspect hv hbefore hended
    rw [hafter] at hended
    rw [hposts, ← hid]
    exact how.viewerCancel_told hviewer hc hid.symm (by rw [hid]; exact hended)
  | viewerGone =>
    cases h with
    | absent => exact absurd hbefore hended
    | departed hremoved => exact Registry.viewerGone_viewing hremoved hs hc hviewed
  | pilotCancels =>
    obtain ⟨w, how, hafter, hposts⟩ := h.carried_of_aspect hc hbefore hended
    rw [hafter] at hended
    rw [hposts]
    exact how.pilotPart_told hs hc hviewed hended
  | pilotGone =>
    cases h with
    | absent => exact absurd hbefore hended
    | departed hremoved => exact Registry.pilotGone_viewing hremoved hs hc hviewed
  | pilotRejects =>
    obtain ⟨w, how, hafter, hposts⟩ := h.carried_of_aspect hc hbefore hended
    rw [hafter] at hended
    rw [hposts]
    exact how.viewerReject_told hs hc hviewed hended

end Happened

namespace Relay

/-- When an open request is withdrawn, every dispatcher on duty hears of it. -/
theorem Steady.request_told {n : ℕ} {reason : String} {w : Connection} (h : s.Steady n)
    (hc : s.registry.find? c.id = some c) (hpending : c.session.servicePending = true)
    (hunserved : c.session.dispatcher = noConnection) (hevent : e.EndsRequest c.id reason)
    (hw : s.registry.find? p = some w) (hduty : w.session.isOnDutyDispatcher = true) :
    (s.emitted e).filter (fun o => o.target = p && o.message.isCancelOf c.id)
      = [batched (.serviceCancelled c.id reason) p] := by
  have hs := h.sound
  have hpilot := ((hs.coherent hc).pending hpending).1
  cases hevent with
  | @cancels ctx pilot reason owner =>
    have hauth := hs.isAuthenticated hc fun he => absurd (he.symm.trans hpilot) (by decide)
    obtain ⟨w', how, hcarried⟩ := carried_message ctx ⟨.serviceCancel pilot reason, c.id, owner⟩
      h.isOpen hc (Handler.carriedOut_cancel_message hc hpilot hauth)
    rw [hcarried.emitted]
    exact how.pilotWithdraw_told hc hpilot hunserved hw hduty
  | gone =>
    obtain ⟨u, happened, hbecomes⟩ := happened_step (e := .disconnect c.id) h.isOpen
    rw [hbecomes.emitted]
    cases happened with
    | absent hgone => cases hgone.symm.trans hc
    | departed hremoved => exact Registry.pilotGone_request hremoved hs hc hpending hw hduty

/-- Whatever happens, the other side hears that a service or a viewing is over, and all on duty hear that
an open request is. -/
theorem endings_heard (h : s.Reachable) (e : Event) : s.Heard e := by
  obtain ⟨n, -, hsteady⟩ := h.steady
  obtain ⟨u, happened, hbecomes⟩ := happened_step (e := e) hsteady.isOpen
  have hemitted := hbecomes.emitted
  have hregistry := hbecomes.registry
  refine ⟨?_, ?_, ?_⟩
  · intro p c notice hc hserved hended hevent
    obtain rfl := Registry.id_of_find? hc
    rw [hregistry] at hended
    rw [hemitted]
    exact happened.service_told hsteady.sound hc hserved hended hevent
  · intro p c notice hc hviewed hended hevent
    obtain rfl := Registry.id_of_find? hc
    rw [hregistry] at hended
    rw [hemitted]
    exact happened.viewing_told hsteady.sound hc hviewed hended hevent
  · intro p c reason hc hpending hunserved hevent d w hw hduty
    obtain rfl := Registry.id_of_find? hc
    exact hsteady.request_told hc hpending hunserved hevent hw hduty

/-- The viewer hears that its pilot is gone, or that it is declined; and the pilot hears that its viewer
has left. -/
theorem endings_heard_boarding :
    (((empty .empty).run Event.boarding).emitted (.disconnect 1)).filter
        (fun o => o.message.isPartingOf 1 3) = [batched (.viewerCancelled 1 3) 3] ∧
      (((empty .empty).run Event.boarding).emitted (.sent 1 (.viewerReject 3))).filter
        (fun o => o.message.isPartingOf 1 3) = [batched (.viewerRejected 1 "declined by pilot") 3] ∧
      (((empty .empty).run Event.boarding).emitted (.sent 3 (.viewerCancel (some 1)))).filter
        (fun o => o.message.isPartingOf 1 3) = [batched (.viewerCancelled 1 3) 1] := by
  obtain ⟨c, hc⟩ := Registry.contains_iff.mp
    (show ((empty .empty).run Event.boarding).registry.contains 1 = true by decide)
  have hviewer : ((empty .empty).run Event.boarding).registry.aspect Session.viewer 1 = some 3 := by
    decide
  have told : ∀ {e notice}, Event.EndsViewing 1 3 e notice →
      (((empty .empty).run Event.boarding).step e).registry.aspect Session.viewer 1 ≠ some 3 →
      (((empty .empty).run Event.boarding).emitted e).filter (fun o => o.message.isPartingOf 1 3)
        = [notice] := by
    intro e notice hevent hended
    have hsome : (3 : ConnectionId) ≠ noConnection := by decide
    rw [Registry.aspect_of_find? hc] at hviewer
    rw [← Option.some.inj hviewer] at hsome hevent hended ⊢
    exact (endings_heard reachable_boarding e).viewing hc hsome hended hevent
  exact ⟨told .pilotGone (by decide), told .pilotRejects (by decide), told .viewerCancels (by decide)⟩

end Relay

end FlightRelay

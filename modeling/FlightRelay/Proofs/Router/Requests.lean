import FlightRelay.Proofs.Router.Response

/-!
# Whom a request is offered to

A request is offered once to every dispatcher on duty who is neither busy nor hidden and who covers the
pilot.  The pilot has an open request afterwards exactly if there was somebody to offer it to, and is told
of the dispatchers who were passed over.
-/

namespace FlightRelay

open Outbound Session

/-- A dispatcher covers a place from a distance: it is on duty, neither busy nor hidden, and it serves
from a known point which is no farther away than its service range. -/
structure Session.Covers (s : Session) (place : Geo.Point) (distance : Float) : Prop where
  role : s.role = .dispatcher
  onDuty : s.onDuty = true
  idle : s.busy = false
  visible : s.hidden = false
  center : ∃ center, s.serviceCenter.or s.location = some center ∧ place.distance center = distance
  near : distance ≤ s.serviceRange

/-- How many dispatchers on duty, neither busy nor hidden, were not among the targets of the offers. -/
def Registry.passedOver (r : Registry) (offers : List Outbound) : Nat :=
  r.connections.countP fun c =>
    c.session.role = .dispatcher && c.session.onDuty && !c.session.busy && !c.session.hidden
      && c.id ∉ offers.map Outbound.target

/-- A request of a pilot at a place is offered, answered and noted. -/
structure Relay.OffersRequest (s : Relay) (e : Event) (me : Connection) (place : Geo.Point) (note : String)
    (offers : List Outbound) : Prop where
  /-- The offers go to those who cover the pilot, and tell how far away it is. -/
  covering : ∀ o, o ∈ offers ↔ ∃ id d distance, s.registry.find? id = some d ∧
    d.session.Covers place distance ∧
    o = batched (.serviceOffer me.id me.session.callsign (some place) distance note) id
  /-- Nobody is offered the request twice. -/
  once : (offers.map Outbound.target).Nodup
  /-- After the offers the pilot is answered, and told of those who were passed over, if there are any,
  and that nobody was asked, if so; nothing else is handed on. -/
  emitted : s.emitted e = offers ++ batched (.accepted "service_request") me.id ::
    ((if 0 < s.registry.passedOver offers
      then [batched (.notice s!"{s.registry.passedOver offers} dispatchers out of range") me.id]
      else [])
    ++ if offers = [] then [batched (.notice "No dispatcher is available right now") me.id] else [])
  /-- The request is open exactly if it was offered to somebody. -/
  pending : ∃ pending, (pending = true ↔ offers ≠ []) ∧
    (s.step e).registry.find? me.id
      = some (me.withSession fun session => { session with servicePending := pending })
  /-- Nobody else is changed. -/
  others : ∀ id, id ≠ me.id → (s.step e).registry.find? id = s.registry.find? id

variable {ctx : RelayContext} {s : Relay} {me d : Connection} {u : Outcome} {o : Outbound}
  {r : Registry} {place : Geo.Point} {note : String} {distance : Float}

/-! ## Offers -/

/-- A dispatcher covers a place whose distance from the centre is within the range. -/
theorem offerDistance_eq_some :
    Handler.offerDistance place d = some distance ↔
      (∃ center, d.session.serviceLocation = some center ∧ place.distance center = distance) ∧
        distance ≤ d.session.serviceRange := by
  unfold Handler.offerDistance
  rw [Option.bind_eq_some_iff]
  constructor
  · rintro ⟨measured, hmeasured, hinside⟩
    split at hinside
    · rename_i hle
      obtain rfl := Option.some.inj hinside
      exact ⟨Option.map_eq_some_iff.mp hmeasured, hle⟩
    · cases hinside
  · rintro ⟨hmeasured, hle⟩
    exact ⟨distance, Option.map_eq_some_iff.mpr hmeasured, if_pos hle⟩

/-- Those who cover a place are the available dispatchers at a distance to offer it from. -/
theorem Session.covers_iff : d.session.Covers place distance ↔
    d.session.isAvailableDispatcher = true ∧ Handler.offerDistance place d = some distance := by
  rw [isAvailableDispatcher_iff, offerDistance_eq_some]
  constructor
  · intro h
    exact ⟨⟨h.role, h.onDuty, h.idle, h.visible⟩, h.center, h.near⟩
  · rintro ⟨⟨hrole, hduty, hbusy, hhidden⟩, hcenter, hnear⟩
    exact ⟨hrole, hduty, hbusy, hhidden, hcenter, hnear⟩

/-- An offer names the pilot, the place and the distance at which the dispatcher covers it. -/
theorem Connection.offer?_eq_some : me.offer? place note d = some o ↔
    ∃ distance, Handler.offerDistance place d = some distance ∧
      batched (.serviceOffer me.id me.session.callsign (some place) distance note) d.id = o :=
  Option.map_eq_some_iff

namespace Registry

/-- Available are the live dispatchers on duty who are neither busy nor hidden. -/
theorem mem_available : d ∈ r.available ↔
    r.find? d.id = some d ∧ d.session.isAvailableDispatcher = true := by
  unfold available select
  rw [List.mem_filter]
  refine and_congr_left fun _ => ⟨find?_of_mem, List.mem_of_find?_eq_some⟩

/-- A request is offered to those who cover the pilot. -/
theorem mem_offers_iff : o ∈ r.offers me place note ↔
    ∃ id d distance, r.find? id = some d ∧ d.session.Covers place distance ∧
      o = batched (.serviceOffer me.id me.session.callsign (some place) distance note) id := by
  unfold offers
  rw [List.mem_filterMap]
  constructor
  · rintro ⟨d, hd, hoffer⟩
    obtain ⟨hlive, havailable⟩ := mem_available.mp hd
    obtain ⟨distance, hdistance, rfl⟩ := Connection.offer?_eq_some.mp hoffer
    exact ⟨d.id, d, distance, hlive, covers_iff.mpr ⟨havailable, hdistance⟩, rfl⟩
  · rintro ⟨id, d, distance, hlive, hcovers, rfl⟩
    obtain ⟨havailable, hdistance⟩ := covers_iff.mp hcovers
    obtain rfl := id_of_find? hlive
    exact ⟨d, mem_available.mpr ⟨hlive, havailable⟩,
      Connection.offer?_eq_some.mpr ⟨distance, hdistance, rfl⟩⟩

/-- No dispatcher is offered a request twice. -/
theorem nodup_offers : ((r.offers me place note).map Outbound.target).Nodup := by
  have hdistinct : r.connections.Pairwise fun c c' => c.id ≠ c'.id := List.pairwise_map.mp r.ids_nodup
  refine List.pairwise_map.mpr (List.pairwise_filterMap.mpr ?_)
  refine (hdistinct.filter _).imp ?_
  intro c c' hne o ho o' ho'
  obtain ⟨distance, -, rfl⟩ := Connection.offer?_eq_some.mp ho
  obtain ⟨distance', -, rfl⟩ := Connection.offer?_eq_some.mp ho'
  exact hne

/-- Offers go to live connections. -/
theorem contains_of_mem_offers (h : o ∈ r.offers me place note) : r.contains o.target = true := by
  obtain ⟨id, d, distance, hlive, -, rfl⟩ := mem_offers_iff.mp h
  exact contains_of_find? hlive

/-- An available dispatcher is offered a request exactly if there is a distance to offer it from. -/
theorem mem_targets_iff (hd : r.find? d.id = some d) (available : d.session.isAvailableDispatcher = true) :
    d.id ∈ (r.offers me place note).map Outbound.target
      ↔ (Handler.offerDistance place d).isSome = true := by
  rw [Option.isSome_iff_exists, List.mem_map]
  constructor
  · rintro ⟨o, ho, htarget⟩
    obtain ⟨id, d', distance, hlive, hcovers, rfl⟩ := mem_offers_iff.mp ho
    obtain rfl : id = d.id := htarget
    obtain rfl := Option.some.inj (hd.symm.trans hlive)
    exact ⟨distance, (covers_iff.mp hcovers).2⟩
  · rintro ⟨distance, hdistance⟩
    exact ⟨_, mem_offers_iff.mpr ⟨d.id, d, distance, hd, covers_iff.mpr ⟨available, hdistance⟩, rfl⟩,
      rfl⟩

/-- The available dispatchers who do not cover a place are those who are passed over. -/
theorem uncovered_eq_passedOver (me : Connection) (note : String) :
    r.uncovered place = r.passedOver (r.offers me place note) := by
  unfold uncovered passedOver available select
  rw [List.countP_filter]
  refine List.countP_congr fun d hd => ?_
  have hlive := find?_of_mem hd
  have havailable : (d.session.role = .dispatcher && d.session.onDuty && !d.session.busy
      && !d.session.hidden) = d.session.isAvailableDispatcher := rfl
  rw [havailable]
  cases hyes : d.session.isAvailableDispatcher with
  | false => simp
  | true =>
    have hmem : d.id ∈ (r.offers me place note).map Outbound.target
        ↔ (Handler.offerDistance place d).isSome = true := mem_targets_iff hlive hyes
    simp only [Bool.and_true, Bool.true_and, decide_eq_true_eq, hmem, Option.isNone_iff_eq_none,
      Option.not_isSome_iff_eq_none]

end Registry

/-! ## A request -/

namespace Relay

/-- Offers are counted as they are handed on, and all of them are. -/
theorem offered_of_open (hopen : s.outbox.isOpen = true) :
    s.offered me place note = (s.registry.offers me place note).length := by
  unfold offered
  rw [hopen, Registry.mail_eq_self fun o ho => Registry.contains_of_mem_offers ho]

/-- What the request of a pilot leaves who knows where it is and has no dispatcher. -/
theorem becomes_request (ctx : RelayContext) (owner : Option UserId) (note : String)
    (hopen : s.outbox.isOpen = true) (hme : s.registry.find? me.id = some me)
    (hauth : me.session.isAuthenticated = true) (hrole : me.role = .pilot)
    (hplace : me.session.location = some place) (hunserved : me.session.dispatcher = noConnection) :
    ∃ posts, s.Becomes
      { registry := s.registry.modify me.id
          (requesting (0 < (s.registry.offers me place note).length))
        store := s.store
        counters := s.counted.counters
        posts } (s.step (.message ctx ⟨.serviceRequest note, me.id, owner⟩)) := by
  have hcounted : s.counted.registry.find? me.id = some me := hme
  obtain ⟨o, how, hbecomes⟩ := carried_message ctx ⟨.serviceRequest note, me.id, owner⟩ hopen hme
    (Handler.carriedOut_request_message hcounted hrole hauth hplace hunserved)
  cases how with
  | requested _ hplace' _ =>
    obtain rfl := Option.some.inj (hplace.symm.trans hplace')
    have hoffered : s.counted.offered me place note = (s.registry.offers me place note).length :=
      offered_of_open hopen
    rw [hoffered] at hbecomes
    exact ⟨_, hbecomes⟩

/-- An accepted request is offered once to every available dispatcher who covers the pilot; it is open
afterwards exactly if there is one, and nobody but the pilot is changed. -/
theorem request_reaches_covering (h : s.Reachable) (ctx : RelayContext) {p : ConnectionId}
    {owner : Option UserId} {note : String} {me : Connection}
    (hme : s.registry.find? p = some me) (haccepts : s.Accepts ctx ⟨.serviceRequest note, p, owner⟩) :
    ∃ place offers, me.session.location = some place ∧
      s.OffersRequest (.message ctx ⟨.serviceRequest note, p, owner⟩) me place note offers := by
  obtain ⟨n, -, hsteady⟩ := h.steady
  obtain ⟨u, how, hbecomes⟩ := haccepts.carried hsteady.isOpen hme
  have hemitted := hbecomes.emitted
  have hregistry := hbecomes.registry
  obtain rfl := Registry.id_of_find? hme
  cases how with
  | @requested _ place hrole hplace hunserved =>
    have hoffered : s.counted.offered me place note = (s.registry.offers me place note).length :=
      offered_of_open hsteady.isOpen
    refine ⟨place, s.registry.offers me place note, hplace, ?_, Registry.nodup_offers, ?_, ?_, ?_⟩
    · exact fun o => Registry.mem_offers_iff
    -- all that is posted is mailed, since offers go to live dispatchers and the rest to the pilot
    · rw [hemitted]
      show s.registry.mail true (s.registry.offers me place note
        ++ batched (.accepted "service_request") me.id ::
          requestNotices me.id (s.counted.offered me place note) (s.registry.uncovered place)) = _
      rw [hoffered, Registry.uncovered_eq_passedOver me note, Registry.mail_eq_self]
      · unfold requestNotices
        simp only [List.length_eq_zero_iff]
      · intro o ho
        rcases List.mem_append.mp ho with ho | ho
        · exact Registry.contains_of_mem_offers ho
        · rcases List.mem_cons.mp ho with rfl | ho
          · exact Registry.contains_of_find? hme
          · obtain ⟨text, rfl⟩ := mem_requestNotices ho
            exact Registry.contains_of_find? hme
    · refine ⟨decide (0 < s.counted.offered me place note), ?_, ?_⟩
      · rw [hoffered, decide_eq_true_eq, List.length_pos_iff]
      · rw [hregistry]
        exact Registry.find?_modify_self hme
    · intro id hne
      rw [hregistry]
      exact Registry.find?_modify_of_ne hne

/-- A pilot in the air and a dispatcher on duty, nobody knows where. -/
def airborne : List Event :=
  [.accept none .standard 0, .accept none .standard 0, .login 1 .pilot, .login 2 .dispatcher,
    .sent 2 (.dispatcherStatus ⟨true, false, false, none, none⟩),
    .sent 1 (.position ⟨⟨50, 8, 3000⟩, 90, 120, false⟩)]

/-- A dispatcher who is nowhere is passed over, and the request of the pilot is not open. -/
theorem request_reaches_covering_airborne :
    ((empty .empty).run airborne).emitted (.sent 1 (.serviceRequest "fuel"))
        = [batched (.accepted "service_request") 1, batched (.notice "1 dispatchers out of range") 1,
          batched (.notice "No dispatcher is available right now") 1] ∧
      (((empty .empty).run airborne).step (.sent 1 (.serviceRequest "fuel"))).registry.aspect
        servicePending 1 = some false := by
  have hreachable : ((empty .empty).run airborne).Reachable := ⟨.empty, airborne, by decide, rfl⟩
  have hpilot : ((empty .empty).run airborne).registry.aspect
      (fun s => (s.role, s.isAuthenticated, s.location, s.dispatcher)) 1
        = some (.pilot, true, some ⟨50, 8, 3000⟩, noConnection) := by decide +kernel
  obtain ⟨me, hme, hsession⟩ := Registry.aspect_eq_some_iff.mp hpilot
  simp only [Prod.mk.injEq] at hsession
  obtain ⟨hrole, hauth, hplace, hunserved⟩ := hsession
  have hid : me.id = 1 := Registry.id_of_find? hme
  have haccepts : ((empty .empty).run airborne).Accepts ⟨.trusting, .standard, 0⟩
      ⟨.serviceRequest "fuel", 1, none⟩ := by
    have hself := hme
    rw [← hid] at hself
    obtain ⟨o, how, hbecomes⟩ := carried_message ⟨.trusting, .standard, 0⟩
      ⟨.serviceRequest "fuel", 1, none⟩ (isOpen_run rfl) hme
      (Handler.carriedOut_request_message hself hrole hauth hplace hunserved)
    exact accepts_of_carried hme how hbecomes
  obtain ⟨place, offers, -, h⟩ := request_reaches_covering hreachable ⟨.trusting, .standard, 0⟩ hme haccepts
  have hnowhere : ((empty .empty).run airborne).registry.connections.all (fun c =>
      c.role ≠ .dispatcher || (c.session.serviceCenter.or c.session.location).isNone) = true := by
    decide +kernel
  have hnone : offers = [] := by
    refine List.eq_nil_iff_forall_not_mem.mpr fun o ho => ?_
    obtain ⟨id, d, distance, hd, hcovers, -⟩ := (h.covering o).mp ho
    obtain ⟨center, hcenter, -⟩ := hcovers.center
    have hmem := List.all_eq_true.mp hnowhere d (List.mem_of_find?_eq_some hd)
    rw [hcenter] at hmem
    have hrole : d.role = .dispatcher := hcovers.role
    rw [hrole] at hmem
    cases hmem
  have hpassed : ((empty .empty).run airborne).registry.passedOver [] = 1 := by decide +kernel
  have hemitted := h.emitted
  obtain ⟨pending, hpending, hself⟩ := h.pending
  rw [hnone, hpassed, hid] at hemitted
  rw [hnone] at hpending
  rw [hid] at hself
  refine ⟨hemitted, Registry.aspect_eq_some_iff.mpr ⟨_, hself, ?_⟩⟩
  exact Bool.eq_false_iff.mpr fun h => hpending.mp h rfl

/-! ## An open request -/

/-- After boarding, the pilot tells where it is, and the dispatcher is on duty in the same place. -/
def arrivals : List Event :=
  Event.boarding ++ [.sent 1 (.position ⟨⟨50, 8, 3000⟩, 90, 120, false⟩),
    .sent 2 (.dispatcherStatus ⟨true, false, false, none, some ⟨50, 8, 3000⟩⟩)]

/-- The relay is sound after the arrivals, and three connections have come. -/
theorem steady_arrivals : ((empty .empty).run arrivals).Steady 3 :=
  (steady_empty .empty).run arrivals (by decide)

theorem pilot_arrivals : ((empty .empty).run arrivals).registry.aspect
    (fun s => (s.role, s.isAuthenticated, s.location, s.dispatcher)) 1
      = some (.pilot, true, some ⟨50, 8, 3000⟩, noConnection) := by decide +kernel

/-- The relay when this pilot has an open request. -/
def asked : Relay :=
  let s := ((empty .empty).run arrivals).counted
  { s with registry := s.registry.modify 1 (requesting true) }

/-- This is what the request of the pilot leaves, up to what is handed on, if the place is computed to be
in range of itself.  (Sines are not evaluated in the logic.) -/
theorem becomes_asked (near : (⟨50, 8, 3000⟩ : Geo.Point).distance ⟨50, 8, 3000⟩ ≤ 500) :
    ∃ posts, ((empty .empty).run arrivals).Becomes
      ⟨asked.registry, asked.store, asked.counters, posts⟩
      (((empty .empty).run arrivals).step (.sent 1 (.serviceRequest "fuel"))) := by
  obtain ⟨me, hme, hsession⟩ := Registry.aspect_eq_some_iff.mp pilot_arrivals
  simp only [Prod.mk.injEq] at hsession
  obtain ⟨hrole, hauth, hplace, hunserved⟩ := hsession
  have hduty : ((empty .empty).run arrivals).registry.aspect
      (fun s => (s.role, s.onDuty, s.busy, s.hidden)) 2 = some (.dispatcher, true, false, false) := by
    decide +kernel
  have hcenter : ((empty .empty).run arrivals).registry.aspect
      (fun s => (s.serviceCenter, s.serviceRange)) 2 = some (some ⟨50, 8, 3000⟩, 500) := by
    decide +kernel
  obtain ⟨d, hd, hduties⟩ := Registry.aspect_eq_some_iff.mp hduty
  rw [Registry.aspect_of_find? hd] at hcenter
  obtain ⟨hserves, hrange⟩ := Prod.mk.inj (Option.some.inj hcenter)
  simp only [Prod.mk.injEq] at hduties
  obtain ⟨hdispatcher, hon, hbusy, hhidden⟩ := hduties
  have hcovers : d.session.Covers ⟨50, 8, 3000⟩ _ :=
    ⟨hdispatcher, hon, hbusy, hhidden, ⟨_, by rw [hserves]; rfl, rfl⟩, by rw [hrange]; exact near⟩
  have hoffer : _ ∈ ((empty .empty).run arrivals).registry.offers me ⟨50, 8, 3000⟩ "fuel" :=
    Registry.mem_offers_iff.mpr ⟨2, d, _, hd, hcovers, rfl⟩
  have hsome : 0 < (((empty .empty).run arrivals).registry.offers me ⟨50, 8, 3000⟩ "fuel").length :=
    List.length_pos_of_mem hoffer
  have hid : me.id = 1 := Registry.id_of_find? hme
  obtain ⟨posts, hbecomes⟩ := becomes_request ⟨.trusting, .standard, 0⟩ none "fuel"
    steady_arrivals.isOpen (hid.symm ▸ hme) hauth hrole hplace hunserved
  rw [decide_eq_true hsome, hid] at hbecomes
  exact ⟨posts, hbecomes⟩

/-- The relay is sound after the request. -/
theorem steady_asked : asked.Steady 3 := by
  obtain ⟨me, hme, hsession⟩ := Registry.aspect_eq_some_iff.mp pilot_arrivals
  simp only [Prod.mk.injEq] at hsession
  exact ⟨steady_arrivals.sound.request hme fun _ => ⟨hsession.1, hsession.2.2.2⟩,
    steady_arrivals.isOpen, steady_arrivals.next⟩

end Relay

end FlightRelay

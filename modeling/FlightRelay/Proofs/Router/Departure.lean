import FlightRelay.Proofs.Router.Outcome

/-!
# Departures

Whoever was concerned with a connection that was removed is told: those who were bound to it, the
dispatchers if a service or an open request ends with it, and its viewer or the displays around it.
-/

namespace FlightRelay

open Outbound

namespace Registry

/-- What those who were bound to a connection hear. -/
def bindingFarewell (removal : Removal) : List Outbound :=
  (removal.cleared.map (Relay.clearedNotice removal.snapshot.id)).map fun m => batched m.1 m.2

/-- What dispatchers hear of a pilot with a service or an open request. -/
def serviceFarewell (r : Registry) (gone : Connection) : List Outbound :=
  if gone.session.dispatcher = noConnection then
    if gone.session.servicePending
      then r.toDuty (.serviceCancelled gone.id "pilot disconnected") none else []
  else r.withdrawal (.serviceCancelled gone.id "pilot disconnected") gone.session.dispatcher

/-- What the viewer of a pilot hears, or else the displays around it. -/
def trafficFarewell (r : Registry) (gone : Connection) : List Outbound :=
  if gone.session.viewer ≠ noConnection then
    [batched (.viewerCancelled gone.id gone.session.viewer) gone.session.viewer]
  else
    match gone.session.location with
    | none => []
    | some location =>
      (r.within location gone.session.range fun c => c.role.rendersTraffic && c.id ≠ gone.id).map
        fun d => batched (.trafficRemoved gone.id) d.1.id

/-- What is posted when a connection is gone. -/
def farewells (r : Registry) (removal : Removal) : List Outbound :=
  bindingFarewell removal ++
    if removal.snapshot.role = .pilot
      then r.serviceFarewell removal.snapshot ++ r.trafficFarewell removal.snapshot else []

end Registry

namespace Relay

variable {s t : Relay} {gone : Connection} {message : ServerMessage} {id : ConnectionId}

/-- Those who hear that the service of a departed pilot is over, or the request withdrawn, are the listed
ones. -/
theorem posts_withdrawService (gone : Connection) :
    s.Posts (s.registry.serviceFarewell gone) (s.withdrawService gone) := by
  unfold withdrawService Registry.serviceFarewell
  by_cases hserved : gone.session.dispatcher = noConnection
  · cases hpending : gone.session.servicePending with
    | false =>
      simp only [hserved, decide_true, Bool.true_and, Bool.not_false, if_true]
      exact .refl
    | true =>
      simp only [hserved, decide_true, Bool.true_and, Bool.not_true, Bool.false_eq_true, if_false,
        if_true]
      exact posts_sendToDuty _
  · simp only [hserved, decide_false, Bool.false_and, Bool.false_eq_true, if_false]
    split
    · exact posts_withdrawal_of_reached ‹_›
    · exact posts_withdrawal_of_missed (Bool.eq_false_iff.mpr ‹_›)

/-- Those from whose displays a departed pilot is taken are the listed ones. -/
theorem posts_withdrawTraffic (gone : Connection) :
    s.Posts (s.registry.trafficFarewell gone) (s.withdrawTraffic gone) := by
  unfold withdrawTraffic Registry.trafficFarewell
  by_cases hviewer : gone.session.viewer ≠ noConnection
  · simp only [if_pos hviewer]
    exact posts_send
  · simp only [if_neg hviewer]
    cases gone.session.location with
    | none => exact .refl
    | some location =>
      have hposts := posts_sendEach (s := s) ((s.registry.within location gone.session.range fun c =>
        c.role.rendersTraffic && c.id ≠ gone.id).map fun d => (.trafficRemoved gone.id, d.1.id))
      rw [List.map_map] at hposts
      exact hposts

/-- A departure is announced by exactly the listed farewells, and by nothing else. -/
theorem posts_announce {removal : Registry.Removal} :
    s.Posts (s.registry.farewells removal) (s.announce removal) := by
  unfold announce Registry.farewells
  have hbindings := posts_sendEach (s := s) (removal.cleared.map (clearedNotice removal.snapshot.id))
  have hregistry := hbindings.registry
  by_cases hrole : removal.snapshot.role = .pilot
  · simp only [if_pos hrole]
    have hservice := posts_withdrawService removal.snapshot
      (s := s.sendEach (removal.cleared.map (clearedNotice removal.snapshot.id)))
    have htraffic := posts_withdrawTraffic removal.snapshot
      (s := (s.sendEach (removal.cleared.map (clearedNotice removal.snapshot.id))).withdrawService
        removal.snapshot)
    rw [hservice.registry, hregistry] at htraffic
    rw [hregistry] at hservice
    exact hbindings.trans (hservice.trans htraffic)
  · simp only [if_neg hrole, List.append_nil]
    exact hbindings

/-- A departure is a removal and the farewells. -/
theorem depart_eq_some {removal : Registry.Removal} (h : s.depart id = some (removal, t)) :
    ∃ r, s.registry.remove id = some (removal, r) ∧
      Posts { s with registry := r } (r.farewells removal) t := by
  unfold depart evict at h
  rw [Option.map_map, Option.map_eq_some_iff] at h
  obtain ⟨⟨removal', r⟩, hremove, h⟩ := h
  obtain ⟨rfl, rfl⟩ := Prod.mk.inj h
  exact ⟨r, hremove, posts_announce⟩

/-- Only a connection that is not registered cannot depart. -/
theorem depart_eq_none (h : s.depart id = none) : s.registry.find? id = none := by
  unfold depart evict at h
  rw [Option.map_map, Option.map_eq_none_iff] at h
  exact Registry.remove_eq_none_iff.mp h

end Relay

end FlightRelay

import FlightRelay.Proofs.Router.Execution
import FlightRelay.Proofs.Router.Outcome

/-!
# What flight viewing answers

Binding a spectator to a pilot may fail after the spectator was claimed; the claim is taken back before
the refusal, so that a refusal leaves the registry as it was.
-/

namespace FlightRelay

namespace Handler

open Outbound Session Relay

variable {ctx : RelayContext} {s : Relay} {me : Connection}

/-- A request to view is refused, or handed on to the pilot. -/
theorem answered_viewerRequest {pilot : ConnectionId} (hme : s.registry.find? me.id = some me) :
    Answered ctx s me (.viewerRequest pilot) ((viewerRequest me pilot).exec s) := by
  unfold viewerRequest
  refine requireRole_then (fun _ => .plain) fun hrole => ?_
  refine counterpart_then .plain fun p hp hpilot => ?_
  dsimp only
  split
  · exact .warned rfl hme hrole
  · split
    · rename_i hunviewed
      exact .carried (.viewerAsked hrole hp hpilot hunviewed) Reaches.refl.send.send
    · split
      · rename_i hviewed
        exact .carried (.viewerKnown hrole hp hviewed) Reaches.refl.send
      · exact .warned rfl hme hrole

/-- An acceptance is refused, or binds the viewer and tells both. -/
theorem answered_viewerAccept {viewer : ConnectionId} (hme : s.registry.find? me.id = some me) :
    Answered ctx s me (.viewerAccept viewer) ((viewerAccept me viewer).exec s) := by
  unfold viewerAccept
  refine requireRole_then (fun _ => .plain) fun hrole => ?_
  refine counterpart_then .plain fun v hv hviewer => ?_
  have hne : me.id ≠ viewer := by
    rintro rfl
    obtain rfl := Option.some.inj (hme.symm.trans hv)
    exact absurd (hrole.symm.trans hviewer) (by decide)
  simp only [exec_registry_bind]
  rcases Registry.bindViewer_cases hme hv hne with ⟨other, hbind⟩ | ⟨hidle, hbind⟩
  · rw [hbind]
    exact .warned rfl hv hviewer
  · rcases hbind with ⟨hunviewed, hbind⟩ | ⟨hviewed, hbind⟩ | ⟨current, hbind⟩
    · have hbound : s.Reaches ⟨(s.registry.modify viewer (following me.id)).modify me.id
          (followedBy viewer), s.store, s.counters, []⟩ _ :=
        Reaches.refl.withRegistry fun i => by
          rw [Registry.contains_modify, Registry.contains_modify]
      have hcarried : Carried ctx s me (.viewerAccept viewer) _ :=
        .viewerBound hrole hv hviewer hunviewed hidle
      rw [hbind]
      simp only [exec_setRegistry_bind, exec_tally_bind, exec_perform_bind]
      cases htraffic : trafficOf me with
      | none =>
        rw [htraffic] at hcarried
        exact .carried hcarried hbound.withCounters.send.send
      | some traffic =>
        rw [htraffic] at hcarried
        exact .carried hcarried hbound.withCounters.send.send.send
    · rw [hbind]
      exact .carried (.viewerKept hrole hv hviewer hviewed hidle)
        (Reaches.refl.withRegistry fun i => Registry.contains_modify).send
    · rw [hbind]
      exact .warned rfl hv hviewer

/-- A rejection is refused, or ends the viewing if there is one, and reaches whoever it names. -/
theorem answered_viewerReject {viewer : ConnectionId} :
    Answered ctx s me (.viewerReject viewer) ((viewerReject me viewer).exec s) := by
  unfold viewerReject
  refine requireRole_then (fun _ => .plain) fun hrole => ?_
  simp only [exec_registry_bind]
  cases hclear : s.registry.clearViewer me.id (some viewer) with
  | none => exact .carried (.viewerDeclined hrole hclear) Reaches.refl.send.send
  | some cleared =>
    obtain ⟨dropped, r⟩ := cleared
    obtain ⟨hdropped, hlive⟩ := Registry.contains_of_clearViewer hclear
    obtain rfl := hdropped viewer rfl
    exact .carried (.viewerDropped hrole hclear)
      (Reaches.refl.withRegistry hlive).send.send

/-- A viewing that was ended is told to the other side. -/
theorem exec_endViewing {pilot viewer : ConnectionId} {expected : Option ConnectionId}
    (told : ConnectionId → ConnectionId) {r : Registry}
    (h : s.registry.clearViewer pilot expected = some (viewer, r)) :
    ∃ t, (endViewing pilot expected told).exec s = (.ok (), t) ∧
      s.Reaches ⟨r, s.store, s.counters, [batched (.viewerCancelled pilot viewer) (told viewer)]⟩ t := by
  unfold endViewing
  simp only [exec_registry_bind, h, exec_setRegistry_bind]
  exact ⟨_, rfl, (Reaches.refl.withRegistry (Registry.contains_of_clearViewer h).2).send⟩

/-- Without a viewing to end, nothing is done. -/
theorem exec_endViewing_none {pilot : ConnectionId} {expected : Option ConnectionId}
    {told : ConnectionId → ConnectionId} (h : s.registry.clearViewer pilot expected = none) :
    (endViewing pilot expected told).exec s = (.ok (), s) := by
  unfold endViewing
  rw [exec_registry_bind, h]
  rfl

/-- A cancellation is refused, or ends the viewing and tells the counterpart. -/
theorem answered_viewerCancel {pilot : Option ConnectionId} :
    Answered ctx s me (.viewerCancel pilot) ((viewerCancel me pilot).exec s) := by
  unfold viewerCancel
  cases hrole : me.role with
  | viewer =>
    cases pilot with
    | none => exact .plain
    | some pilot =>
      cases hclear : s.registry.clearViewer pilot (some me.id) with
      | none =>
        refine bind_then (exec_endViewing_none hclear) ?_
        exact .carried (.nothingEnded (.inl ⟨pilot, hrole, rfl, hclear⟩)) Reaches.refl.send
      | some cleared =>
        obtain ⟨viewer, r⟩ := cleared
        obtain rfl := (Registry.contains_of_clearViewer hclear).1 me.id rfl
        obtain ⟨t, hrun, hreach⟩ := exec_endViewing (fun _ => pilot) hclear
        refine bind_then hrun ?_
        exact .carried (.viewerLeft hrole hclear) hreach.send
  | pilot =>
    cases hclear : s.registry.clearViewer me.id none with
    | none =>
      refine bind_then (exec_endViewing_none hclear) ?_
      exact .carried (.nothingEnded (.inr ⟨hrole, hclear⟩)) Reaches.refl.send
    | some cleared =>
      obtain ⟨viewer, r⟩ := cleared
      obtain ⟨t, hrun, hreach⟩ := exec_endViewing (fun viewer => viewer) hclear
      refine bind_then hrun ?_
      exact .carried (.viewingEnded hrole hclear) hreach.send
  | _ => cases pilot <;> exact .plain

end Handler

end FlightRelay

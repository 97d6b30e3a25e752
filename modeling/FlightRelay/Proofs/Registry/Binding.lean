import FlightRelay.Proofs.Registry.Lookup

/-!
# What binding and clearing do

One statement for each way in which an attempt to bind or to clear ends: what the sessions on both sides
said before, and how the registry differs afterwards.
-/

namespace FlightRelay

namespace Session

/-- The session of a pilot whose request was taken. -/
def servedBy (dispatcher : ConnectionId) (user : Option UserId) (s : Session) : Session :=
  { s with dispatcher, dispatcherUser := user, servicePending := false }

/-- The session of a pilot without its dispatcher. -/
def released (s : Session) : Session :=
  { s with dispatcher := noConnection, dispatcherUser := none }

/-- The session of a pilot with a viewer, or with none. -/
def followedBy (viewer : ConnectionId) (s : Session) : Session := { s with viewer }

/-- The session of a spectator who follows a pilot, or nobody. -/
def following (pilot : ConnectionId) (s : Session) : Session := { s with viewing := pilot }

/-- Who is available for a request is a dispatcher on duty, and neither busy nor hidden. -/
theorem isAvailableDispatcher_iff {s : Session} :
    s.isAvailableDispatcher = true
      ↔ s.role = .dispatcher ∧ s.onDuty = true ∧ s.busy = false ∧ s.hidden = false := by
  simp only [isAvailableDispatcher, Bool.and_eq_true, decide_eq_true_eq, Bool.not_eq_true', and_assoc]

end Session

namespace Registry

open Session

variable {r r' : Registry} {pilot dispatcher viewer id : ConnectionId} {expected : Option ConnectionId}

/-! ## Dispatchers -/

/-- A bind succeeds on an open request only, and closes it. -/
theorem bindDispatcher_bound (h : r.bindDispatcher pilot dispatcher = .ok (.bound, r')) :
    ∃ p d, r.find? pilot = some p ∧ r.find? dispatcher = some d ∧
      p.session.dispatcher = noConnection ∧ p.session.servicePending = true ∧
      r' = r.modify pilot (servedBy dispatcher d.session.userId) := by
  unfold bindDispatcher at h
  split at h
  · cases h
  · cases h
  · rename_i d p hd hp
    obtain ⟨hbound, hr⟩ := Prod.mk.inj (Except.ok.inj h)
    rw [if_pos hbound] at hr
    unfold dispatchBind at hbound
    split at hbound
    · cases hbound
    · split at hbound
      · cases hbound
      · rename_i hfree
        split at hbound
        · cases hbound
        · rename_i hpending
          exact ⟨p, d, hp, hd, by simpa using hfree, by simpa using hpending, hr.symm⟩

/-- Both sides being live, a bind has an outcome: it is what the pilot's session answers. -/
theorem bindDispatcher_eq_ok {p d : Connection} (hp : r.find? pilot = some p)
    (hd : r.find? dispatcher = some d) :
    ∃ r', r.bindDispatcher pilot dispatcher = .ok (dispatchBind p.session dispatcher, r') := by
  unfold bindDispatcher
  rw [hd, hp]
  exact ⟨_, rfl⟩

/-- A free pilot with an open request gets the dispatcher who takes it. -/
theorem bindDispatcher_of_request {p d : Connection} (hp : r.find? pilot = some p)
    (hd : r.find? dispatcher = some d) (hunserved : p.session.dispatcher = noConnection)
    (hpending : p.session.servicePending = true) (hnumbered : dispatcher ≠ noConnection) :
    r.bindDispatcher pilot dispatcher
      = .ok (.bound, r.modify pilot (servedBy dispatcher d.session.userId)) := by
  have hbound : dispatchBind p.session dispatcher = .bound := by
    simp only [dispatchBind, hunserved, hnumbered.symm, hpending, if_false, ne_eq, not_true_eq_false,
      Bool.not_true, Bool.false_eq_true]
  unfold bindDispatcher
  simp only [hd, hp, hbound, if_true]
  rfl

/-- Nobody comes or goes when a dispatcher is bound. -/
theorem contains_of_bindDispatcher {outcome : DispatchBind}
    (h : r.bindDispatcher pilot dispatcher = .ok (outcome, r')) (i : ConnectionId) :
    r'.contains i = r.contains i := by
  unfold bindDispatcher at h
  split at h
  · cases h
  · cases h
  · obtain ⟨-, rfl⟩ := Prod.mk.inj (Except.ok.inj h)
    split
    · exact contains_modify
    · rfl

/-- Binding a dispatcher changes no session in other respects. -/
theorem aspect_bindDispatcher {α : Type} {k : Session → α} {outcome : DispatchBind}
    (h : r.bindDispatcher pilot dispatcher = .ok (outcome, r'))
    (hserved : ∀ s i u, k (servedBy i u s) = k s) : r'.aspect k id = r.aspect k id := by
  unfold bindDispatcher at h
  split at h
  · cases h
  · cases h
  · obtain ⟨-, rfl⟩ := Prod.mk.inj (Except.ok.inj h)
    split
    · exact aspect_modify fun s => hserved s _ _
    · rfl

/-- A pilot's binding is ended if there is one, and to the dispatcher that is expected. -/
theorem clearDispatcher_of_find? (expected : Option ConnectionId) {p : Connection}
    (hp : r.find? pilot = some p) :
    r.clearDispatcher pilot expected
      = if p.session.dispatcher = noConnection ∨ ∃ e ∈ expected, e ≠ p.session.dispatcher then none
        else some ((p.session.dispatcher, p.session.dispatcherUser), r.modify pilot released) := by
  have hany : (expected.any (· ≠ p.session.dispatcher) = true)
      ↔ ∃ e ∈ expected, e ≠ p.session.dispatcher := by
    cases expected <;> simp
  simp only [clearDispatcher, hp, Option.bind_eq_bind, Option.bind_some, Bool.or_eq_true,
    decide_eq_true_eq, hany]
  rfl

/-- A binding that was ended was there, and to the dispatcher that was expected. -/
theorem clearDispatcher_eq_some {user : Option UserId}
    (h : r.clearDispatcher pilot expected = some ((dispatcher, user), r')) :
    ∃ p, r.find? pilot = some p ∧ p.session.dispatcher = dispatcher ∧
      dispatcher ≠ noConnection ∧ p.session.dispatcherUser = user ∧
      (∀ e ∈ expected, e = dispatcher) ∧ r' = r.modify pilot released := by
  cases hp : r.find? pilot with
  | none => simp [clearDispatcher, hp] at h
  | some p =>
    rw [clearDispatcher_of_find? _ hp] at h
    split at h
    · cases h
    · rename_i hguard
      push Not at hguard
      obtain ⟨hwho, rfl⟩ := Prod.mk.inj (Option.some.inj h)
      obtain ⟨rfl, rfl⟩ := Prod.mk.inj hwho
      exact ⟨p, rfl, rfl, hguard.1, rfl, hguard.2, rfl⟩

/-! ## Viewers -/

/-- A viewer is claimed if it is free, and then follows the pilot. -/
theorem claimViewer_of_find? (pilot : ConnectionId) {v : Connection} (hv : r.find? viewer = some v) :
    r.claimViewer pilot viewer
      = if v.session.viewing = noConnection then (.fresh, r.modify viewer (following pilot))
        else if v.session.viewing = pilot then (.held, r)
        else (.following v.session.viewing, r) := by
  simp only [claimViewer, hv]
  rfl

/-- A pilot takes a viewer if it has none. -/
theorem attachViewer_of_find? (viewer : ConnectionId) {p : Connection} (hp : r.find? pilot = some p) :
    r.attachViewer pilot viewer
      = if p.session.viewer = noConnection then (.bound, r.modify pilot (followedBy viewer))
        else if p.session.viewer = viewer then (.alreadyBound, r)
        else (.rejected p.session.viewer, r) := by
  simp only [attachViewer, hp]
  rfl

/-- The viewer that was released does not follow the pilot any more. -/
theorem releaseViewer_of_find? {v : Connection} (hv : r.find? viewer = some v)
    (h : v.session.viewing = pilot) :
    r.releaseViewer pilot viewer = r.modify viewer (following noConnection) := by
  apply modify_congr hv
  rw [if_pos h]
  rfl

/-- A claim fails on a viewer who follows another pilot.  Otherwise the viewer follows this one, and
what a rejected bind does then brings the registry back to where it was. -/
theorem claimViewer_cases (pilot : ConnectionId) {v : Connection} (hv : r.find? viewer = some v) :
    (∃ other, r.claimViewer pilot viewer = (.following other, r)) ∨
    ((v.session.viewing = noConnection ∨ v.session.viewing = pilot) ∧
      ∃ claim, r.claimViewer pilot viewer = (claim, r.modify viewer (following pilot)) ∧
        (∀ other, claim ≠ .following other) ∧
        (if claim = .fresh then (r.modify viewer (following pilot)).releaseViewer pilot viewer
          else r.modify viewer (following pilot)) = r) := by
  have hclaim := claimViewer_of_find? pilot hv
  by_cases hfree : v.session.viewing = noConnection
  · rw [if_pos hfree] at hclaim
    refine .inr ⟨.inl hfree, .fresh, hclaim, fun _ h => (nomatch h), ?_⟩
    -- the viewer followed nobody before the claim, and the release leaves it following nobody
    have hself := find?_modify_self (f := following pilot) hv
    have hheld : (v.withSession (following pilot)).session.viewing = pilot := rfl
    rw [if_pos rfl, releaseViewer_of_find? hself hheld, modify_modify]
    apply modify_eq_self hv
    rw [Function.comp, following, following, ← hfree]
  · rw [if_neg hfree] at hclaim
    by_cases hheld : v.session.viewing = pilot
    · -- a viewer who follows the pilot already is not changed, so there is nothing to bring back
      have hkeep : r.modify viewer (following pilot) = r := by
        apply modify_eq_self hv
        rw [following, ← hheld]
      rw [if_pos hheld] at hclaim
      refine .inr ⟨.inr hheld, .held, ?_, fun _ h => (nomatch h), ?_⟩
      · rw [hclaim, hkeep]
      · rw [if_neg (by decide), hkeep]
    · rw [if_neg hheld] at hclaim
      exact .inl ⟨_, hclaim⟩

/-- How a bind of a viewer to another connection ends, by what both sides said before. -/
theorem bindViewer_cases {p v : Connection} (hp : r.find? pilot = some p)
    (hv : r.find? viewer = some v) (hne : pilot ≠ viewer) :
    (∃ other, r.bindViewer pilot viewer = .ok (.following other, r)) ∨
    ((v.session.viewing = noConnection ∨ v.session.viewing = pilot) ∧
      ((p.session.viewer = noConnection ∧
          r.bindViewer pilot viewer
            = .ok (.bound, (r.modify viewer (following pilot)).modify pilot (followedBy viewer))) ∨
        (p.session.viewer = viewer ∧
          r.bindViewer pilot viewer = .ok (.alreadyBound, r.modify viewer (following pilot))) ∨
        ∃ current, r.bindViewer pilot viewer = .ok (.rejected current, r))) := by
  have hlive : r.contains viewer = true ∧ r.contains pilot = true :=
    ⟨contains_of_find? hv, contains_of_find? hp⟩
  rcases claimViewer_cases pilot hv with ⟨other, hclaim⟩ | ⟨hidle, claim, hclaim, hclaimed, hback⟩
  · exact .inl ⟨other, by simp [bindViewer, hlive, hclaim]⟩
  · refine .inr ⟨hidle, ?_⟩
    -- the claim has left the pilot's session as it was, and that decides
    have hp' : (r.modify viewer (following pilot)).find? pilot = some p := by
      rw [find?_modify_of_ne hne, hp]
    have hattach := attachViewer_of_find? viewer hp'
    by_cases hnone : p.session.viewer = noConnection
    · rw [if_pos hnone] at hattach
      exact .inl ⟨hnone, by simp [bindViewer, hlive, hclaim, hattach]⟩
    · rw [if_neg hnone] at hattach
      by_cases hsame : p.session.viewer = viewer
      · rw [if_pos hsame] at hattach
        exact .inr (.inl ⟨hsame, by simp [bindViewer, hlive, hclaim, hattach]⟩)
      · rw [if_neg hsame] at hattach
        exact .inr (.inr ⟨p.session.viewer, by simp [bindViewer, hlive, hclaim, hattach, hback]⟩)

/-- A pilot's viewer is dropped if there is one, and the one that is expected. -/
theorem clearViewer_of_find? {p : Connection} (hp : r.find? pilot = some p) :
    r.clearViewer pilot expected
      = if p.session.viewer = noConnection ∨ ∃ e ∈ expected, e ≠ p.session.viewer then none
        else some (p.session.viewer,
          (r.modify pilot (followedBy noConnection)).releaseViewer pilot p.session.viewer) := by
  have hany : (expected.any (· ≠ p.session.viewer) = true)
      ↔ ∃ e ∈ expected, e ≠ p.session.viewer := by
    cases expected <;> simp
  simp only [clearViewer, detachViewer, hp, Option.bind_eq_bind, Option.bind_some, Bool.or_eq_true,
    decide_eq_true_eq, hany]
  split <;> rfl

/-- A viewer that was dropped was there, and was the one that was expected. -/
theorem clearViewer_eq_some (h : r.clearViewer pilot expected = some (viewer, r')) :
    ∃ p, r.find? pilot = some p ∧ p.session.viewer = viewer ∧ viewer ≠ noConnection ∧
      (∀ e ∈ expected, e = viewer) ∧
      r' = (r.modify pilot (followedBy noConnection)).releaseViewer pilot viewer := by
  cases hp : r.find? pilot with
  | none => simp [clearViewer, detachViewer, hp] at h
  | some p =>
    rw [clearViewer_of_find? hp] at h
    split at h
    · cases h
    · rename_i hguard
      push Not at hguard
      obtain ⟨rfl, rfl⟩ := Prod.mk.inj (Option.some.inj h)
      exact ⟨p, rfl, rfl, hguard.1, hguard.2, rfl⟩

/-- Whoever was expected is the viewer that was dropped, and nobody comes or goes. -/
theorem contains_of_clearViewer (h : r.clearViewer pilot expected = some (viewer, r')) :
    (∀ e ∈ expected, e = viewer) ∧ ∀ i, r'.contains i = r.contains i := by
  obtain ⟨p, -, -, -, hexpected, rfl⟩ := clearViewer_eq_some h
  refine ⟨hexpected, fun i => ?_⟩
  rw [releaseViewer, contains_modify, contains_modify]

section Aspects

variable {α : Type} {k : Session → α}

/-- A claim is seen in whom the viewer views, and nowhere else. -/
theorem aspect_claimViewer (hviewing : ∀ s i, k (following i s) = k s) :
    (r.claimViewer pilot viewer).2.aspect k id = r.aspect k id := by
  unfold claimViewer
  split
  · rfl
  · split
    · exact aspect_modify fun s => hviewing s _
    · split <;> rfl

/-- An attachment is seen in who views the pilot, and nowhere else. -/
theorem aspect_attachViewer (hviewer : ∀ s i, k (followedBy i s) = k s) :
    (r.attachViewer pilot viewer).2.aspect k id = r.aspect k id := by
  unfold attachViewer
  split
  · rfl
  · split
    · exact aspect_modify fun s => hviewer s _
    · split <;> rfl

/-- A release is seen in whom the viewer views, and nowhere else. -/
theorem aspect_releaseViewer (hviewing : ∀ s i, k (following i s) = k s) :
    (r.releaseViewer pilot viewer).aspect k id = r.aspect k id := by
  refine aspect_modify fun s => ?_
  split
  · exact hviewing s _
  · rfl

/-- Binding a viewer changes no session in other respects. -/
theorem aspect_bindViewer {outcome : ViewerBind} (h : r.bindViewer pilot viewer = .ok (outcome, r'))
    (hviewer : ∀ s i, k (followedBy i s) = k s) (hviewing : ∀ s i, k (following i s) = k s) :
    r'.aspect k id = r.aspect k id := by
  have hclaim : (r.claimViewer pilot viewer).2.aspect k id = r.aspect k id := aspect_claimViewer hviewing
  unfold bindViewer at h
  split at h
  · cases h
  · split at h
    · cases h
    · split at h
      · rename_i hfollowing
        rw [hfollowing] at hclaim
        obtain ⟨-, rfl⟩ := Prod.mk.inj (Except.ok.inj h)
        exact hclaim
      · rename_i claimed _ hclaimed
        rw [hclaimed] at hclaim
        have hattach : (claimed.attachViewer pilot viewer).2.aspect k id = claimed.aspect k id :=
          aspect_attachViewer hviewer
        split at h
        · rename_i hrejected
          rw [hrejected] at hattach
          obtain ⟨-, rfl⟩ := Prod.mk.inj (Except.ok.inj h)
          split
          · exact (aspect_releaseViewer hviewing).trans (hattach.trans hclaim)
          · exact hattach.trans hclaim
        · rename_i hattached
          rw [hattached] at hattach
          obtain ⟨-, rfl⟩ := Prod.mk.inj (Except.ok.inj h)
          exact hattach.trans hclaim

/-- Parting a pilot and its viewer changes no session in other respects. -/
theorem aspect_clearViewer (h : r.clearViewer pilot expected = some (viewer, r'))
    (hviewer : ∀ s i, k (followedBy i s) = k s) (hviewing : ∀ s i, k (following i s) = k s) :
    r'.aspect k id = r.aspect k id := by
  obtain ⟨c, -, -, -, -, rfl⟩ := clearViewer_eq_some h
  rw [aspect_releaseViewer hviewing, aspect_modify fun s => hviewer s _]

end Aspects

/-- Parting a pilot and its viewer leaves the viewer of every other pilot. -/
theorem aspect_viewer_clearViewer (h : r.clearViewer pilot expected = some (viewer, r'))
    (hne : id ≠ pilot) : r'.aspect Session.viewer id = r.aspect Session.viewer id := by
  obtain ⟨c, -, -, -, -, rfl⟩ := clearViewer_eq_some h
  unfold releaseViewer
  rw [aspect_modify, aspect_modify_of_ne hne]
  intro s
  split <;> rfl

end Registry

end FlightRelay

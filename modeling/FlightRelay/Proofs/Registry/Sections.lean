import FlightRelay.Proofs.Registry.Binding

/-!
# Calls and their sections

A call that binds or clears a viewer is carried out in sections, and other calls may run between two of
them.  `Call.step` carries out the next section of a call; a call whose sections follow each other
without a break does what `bindViewer` and `clearViewer` do.  `Call.Section` lists all that one section
can do.
-/

namespace FlightRelay

namespace Registry

/-- What a call has answered. -/
inductive Answer where
  | bound (outcome : Except RegistryError ViewerBind)
  | cleared (viewer : Option ConnectionId)

/-- A call that binds or clears a viewer, by how far it has come. -/
inductive Call where
  /-- The viewer is yet to be claimed. -/
  | bind (pilot viewer : ConnectionId)
  /-- The viewer is claimed, and was free before the claim if that is new. -/
  | claimed (pilot viewer : ConnectionId) (isNew : Bool)
  /-- The pilot has another viewer, and the new claim is yet to be released. -/
  | rejected (pilot viewer current : ConnectionId)
  /-- The pilot is yet to drop its viewer, or the expected one only. -/
  | clear (pilot : ConnectionId) (expected : Option ConnectionId)
  /-- The pilot has dropped its viewer, which is yet to be released. -/
  | detached (pilot viewer : ConnectionId)
  | answered (answer : Answer)

namespace Call

/-- The pilot for whom a call that has begun, and is not over, binds a viewer. -/
def binding? : Call → Option ConnectionId
  | .claimed pilot _ _ | .rejected pilot _ _ => some pilot
  | _ => none

/-- The pilot whose viewer a call that has begun, and is not over, clears. -/
def clearing? : Call → Option ConnectionId
  | .detached pilot _ => some pilot
  | _ => none

/-- The call has begun and is not over. -/
def inProgress (c : Call) : Bool := c.binding?.isSome || c.clearing?.isSome

/-- The pilot and the viewer that a call is yet to bind or to part. -/
def unsettled? : Call → Option (ConnectionId × ConnectionId)
  | .claimed pilot viewer true | .rejected pilot viewer _ | .detached pilot viewer =>
    some (pilot, viewer)
  | _ => none

/-- Carries out the next section of a call. -/
def step (r : Registry) : Call → Call × Registry
  | .bind pilot viewer =>
    if !r.contains viewer then (.answered (.bound (.error (.notFound viewer))), r)
    else if !r.contains pilot then (.answered (.bound (.error (.notFound pilot))), r)
    else
      match r.claimViewer pilot viewer with
      | (.following other, r) => (.answered (.bound (.ok (.following other))), r)
      | (claim, r) => (.claimed pilot viewer (claim = .fresh), r)
  | .claimed pilot viewer isNew =>
    match r.attachViewer pilot viewer with
    | (.rejected current, r) =>
      if isNew then (.rejected pilot viewer current, r)
      else (.answered (.bound (.ok (.rejected current))), r)
    | (outcome, r) => (.answered (.bound (.ok outcome)), r)
  | .rejected pilot viewer current =>
    (.answered (.bound (.ok (.rejected current))), r.releaseViewer pilot viewer)
  | .clear pilot expected =>
    match r.detachViewer pilot expected with
    | some (viewer, r) => (.detached pilot viewer, r)
    | none => (.answered (.cleared none), r)
  | .detached pilot viewer => (.answered (.cleared (some viewer)), r.releaseViewer pilot viewer)
  | .answered answer => (.answered answer, r)

/-- Carries out all sections of a call, of which there are three at most. -/
def finish (r : Registry) (c : Call) : Call × Registry :=
  let (c, r) := c.step r
  let (c, r) := c.step r
  c.step r

end Call

open Session

variable {r r' : Registry} {pilot viewer id : ConnectionId} {expected : Option ConnectionId}

/-! ## A call without a break -/

/-- A bind whose sections follow each other without a break is `bindViewer`. -/
theorem finish_bind : (Call.bind pilot viewer).finish r
    = match r.bindViewer pilot viewer with
      | .ok (outcome, r') => (.answered (.bound (.ok outcome)), r')
      | .error e => (.answered (.bound (.error e)), r) := by
  unfold Call.finish bindViewer
  by_cases hviewer : r.contains viewer
  · by_cases hpilot : r.contains pilot
    · rcases hclaim : r.claimViewer pilot viewer with ⟨_ | _ | _, r₁⟩
      · rcases hattach : r₁.attachViewer pilot viewer with ⟨_ | _ | _ | _, r₂⟩ <;>
          simp [Call.step, hviewer, hpilot, hclaim, hattach]
      · rcases hattach : r₁.attachViewer pilot viewer with ⟨_ | _ | _ | _, r₂⟩ <;>
          simp [Call.step, hviewer, hpilot, hclaim, hattach]
      · simp [Call.step, hviewer, hpilot, hclaim]
    · simp [Call.step, hviewer, hpilot]
  · simp [Call.step, hviewer]

/-- A clear whose sections follow each other without a break is `clearViewer`. -/
theorem finish_clear : (Call.clear pilot expected).finish r
    = match r.clearViewer pilot expected with
      | some (viewer, r') => (.answered (.cleared (some viewer)), r')
      | none => (.answered (.cleared none), r) := by
  unfold Call.finish clearViewer
  cases hdetach : r.detachViewer pilot expected with
  | none => simp [Call.step, hdetach]
  | some dropped => simp [Call.step, hdetach]

/-! ## Who follows whom -/

/-- The viewer of a live connection. -/
abbrev viewerOf (r : Registry) (id : ConnectionId) : Option ConnectionId := r.aspect Session.viewer id

/-- Whom a live connection follows. -/
abbrev viewingOf (r : Registry) (id : ConnectionId) : Option ConnectionId := r.aspect Session.viewing id

/-- The pilot gets the viewer, and nobody else. -/
theorem viewerOf_attach {x : ConnectionId} (h : r.viewerOf pilot = some x) :
    (r.modify pilot (followedBy viewer)).viewerOf id
      = if id = pilot then some viewer else r.viewerOf id := by
  obtain ⟨c, hc, -⟩ := aspect_eq_some_iff.mp h
  split
  · rename_i he
    rw [he]
    exact aspect_modify_self hc
  · exact aspect_modify_of_ne ‹_›

/-- To attach a viewer changes nothing on the viewers' side. -/
theorem viewingOf_attach : (r.modify pilot (followedBy viewer)).viewingOf id = r.viewingOf id :=
  aspect_modify fun _ => rfl

/-- The viewer views the pilot, and nobody else does. -/
theorem viewingOf_claim {x : ConnectionId} (h : r.viewingOf viewer = some x) :
    (r.modify viewer (following pilot)).viewingOf id
      = if id = viewer then some pilot else r.viewingOf id := by
  obtain ⟨c, hc, -⟩ := aspect_eq_some_iff.mp h
  split
  · rename_i he
    rw [he]
    exact aspect_modify_self hc
  · exact aspect_modify_of_ne ‹_›

/-- To claim a viewer changes nothing on the pilots' side. -/
theorem viewerOf_claim : (r.modify viewer (following pilot)).viewerOf id = r.viewerOf id :=
  aspect_modify fun _ => rfl

/-- A viewer is released from the pilot only if it still views that pilot. -/
theorem viewingOf_release :
    (r.releaseViewer pilot viewer).viewingOf id
      = if id = viewer ∧ r.viewingOf viewer = some pilot then some noConnection
        else r.viewingOf id := by
  unfold releaseViewer
  by_cases he : id = viewer
  · subst he
    cases hc : r.find? id with
    | none => simp [viewingOf, aspect, find?_modify, hc]
    | some c =>
      rw [viewingOf, aspect_modify_self hc, viewingOf, aspect_of_find? hc]
      by_cases hheld : c.session.viewing = pilot <;> simp [hheld]
  · rw [viewingOf, aspect_modify_of_ne he, if_neg fun h => he h.1]

/-- To release a viewer changes nothing on the pilots' side. -/
theorem viewerOf_release : (r.releaseViewer pilot viewer).viewerOf id = r.viewerOf id := by
  refine aspect_modify fun s => ?_
  split <;> rfl

/-! ## One section -/

/-- All that the next section of a call can do: how far the call has come then, and the registry that it
leaves. -/
inductive Call.Section (r : Registry) : Call → Call → Registry → Prop
  | refused {pilot viewer : ConnectionId} {a : Answer} :
      Section r (.bind pilot viewer) (.answered a) r
  | claimed {pilot viewer : ConnectionId} (live : r.contains pilot = true)
      (free : r.viewingOf viewer = some noConnection) :
      Section r (.bind pilot viewer) (.claimed pilot viewer true) (r.modify viewer (following pilot))
  | held {pilot viewer : ConnectionId} (live : r.contains pilot = true)
      (follows : r.viewingOf viewer = some pilot) :
      Section r (.bind pilot viewer) (.claimed pilot viewer false) r
  | attached {pilot viewer : ConnectionId} {isNew : Bool} {a : Answer}
      (free : r.viewerOf pilot = some noConnection) :
      Section r (.claimed pilot viewer isNew) (.answered a) (r.modify pilot (followedBy viewer))
  | kept {pilot viewer : ConnectionId} {isNew : Bool} {a : Answer}
      (viewed : r.viewerOf pilot = some viewer) :
      Section r (.claimed pilot viewer isNew) (.answered a) r
  | rejected {pilot viewer current : ConnectionId} (viewed : r.viewerOf pilot = some current)
      (taken : current ≠ noConnection) (other : current ≠ viewer) :
      Section r (.claimed pilot viewer true) (.rejected pilot viewer current) r
  | declined {pilot viewer : ConnectionId} {a : Answer} :
      Section r (.claimed pilot viewer false) (.answered a) r
  | released {pilot viewer current : ConnectionId} {a : Answer} :
      Section r (.rejected pilot viewer current) (.answered a) (r.releaseViewer pilot viewer)
  | detached {pilot viewer : ConnectionId} {expected : Option ConnectionId}
      (viewed : r.viewerOf pilot = some viewer) :
      Section r (.clear pilot expected) (.detached pilot viewer)
        (r.modify pilot (followedBy noConnection))
  | unbound {pilot : ConnectionId} {expected : Option ConnectionId} {a : Answer} :
      Section r (.clear pilot expected) (.answered a) r
  | freed {pilot viewer : ConnectionId} {a : Answer} :
      Section r (.detached pilot viewer) (.answered a) (r.releaseViewer pilot viewer)
  | finished {a : Answer} : Section r (.answered a) (.answered a) r

/-- A pilot is detached from the viewer it has. -/
theorem detachViewer_eq_some (h : r.detachViewer pilot expected = some (viewer, r')) :
    r.viewerOf pilot = some viewer ∧ r' = r.modify pilot (followedBy noConnection) := by
  cases hp : r.find? pilot with
  | none => simp [detachViewer, hp] at h
  | some p =>
    simp only [detachViewer, hp, Option.bind_eq_bind, Option.bind_some] at h
    split at h
    · cases h
    · obtain ⟨rfl, rfl⟩ := Prod.mk.inj (Option.some.inj h)
      exact ⟨aspect_of_find? hp, rfl⟩

/-- Whatever the next section of a call does is in the list; a call that has claimed a viewer has found
its pilot live. -/
theorem Call.section_step {c : Call}
    (live : ∀ {pilot viewer isNew}, c = .claimed pilot viewer isNew → r.contains pilot = true) :
    Section r c (c.step r).1 (c.step r).2 := by
  cases c with
  | bind pilot viewer =>
    unfold step
    by_cases hviewer : r.contains viewer
    · by_cases hpilot : r.contains pilot
      · obtain ⟨v, hv⟩ := contains_iff.mp hviewer
        have hviewing : r.viewingOf viewer = some v.session.viewing := aspect_of_find? hv
        have hclaim := claimViewer_of_find? pilot hv
        simp only [hviewer, hpilot, Bool.not_true, Bool.false_eq_true, if_false]
        -- the viewer is free, or claimed for this pilot already, or claimed for another one
        by_cases hfree : v.session.viewing = noConnection
        · rw [if_pos hfree] at hclaim
          rw [hclaim]
          exact .claimed hpilot (hviewing.trans (congrArg some hfree))
        · rw [if_neg hfree] at hclaim
          by_cases hheld : v.session.viewing = pilot
          · rw [if_pos hheld] at hclaim
            rw [hclaim]
            exact .held hpilot (hviewing.trans (congrArg some hheld))
          · rw [if_neg hheld] at hclaim
            rw [hclaim]
            exact .refused
      · simp only [hviewer, hpilot, Bool.not_true, Bool.not_false, Bool.false_eq_true, if_false, if_true]
        exact .refused
    · simp only [hviewer, Bool.not_false, if_true]
      exact .refused
  | claimed pilot viewer isNew =>
    unfold step
    obtain ⟨p, hp⟩ := contains_iff.mp (live rfl)
    have hviewer : r.viewerOf pilot = some p.session.viewer := aspect_of_find? hp
    have hattach := attachViewer_of_find? viewer hp
    -- and the same three cases on the side of the pilot
    by_cases hfree : p.session.viewer = noConnection
    · rw [if_pos hfree] at hattach
      simp only [hattach]
      exact .attached (hviewer.trans (congrArg some hfree))
    · rw [if_neg hfree] at hattach
      by_cases hsame : p.session.viewer = viewer
      · rw [if_pos hsame] at hattach
        simp only [hattach]
        exact .kept (hviewer.trans (congrArg some hsame))
      · rw [if_neg hsame] at hattach
        simp only [hattach]
        cases isNew with
        | true => exact .rejected hviewer hfree hsame
        | false => exact .declined
  | rejected pilot viewer current => exact .released
  | clear pilot expected =>
    cases hdetach : r.detachViewer pilot expected with
    | none =>
      simp only [step, hdetach]
      exact .unbound
    | some dropped =>
      obtain ⟨viewer, r'⟩ := dropped
      obtain ⟨hviewed, rfl⟩ := detachViewer_eq_some hdetach
      simp only [step, hdetach]
      exact .detached hviewed
  | detached pilot viewer => exact .freed
  | answered a => exact .finished

/-- A call that claims a viewer has found its pilot live. -/
theorem Call.Section.live {d : Call} {isNew : Bool}
    (h : Section r d (.claimed pilot viewer isNew) r') : r.contains pilot = true := by
  cases h with
  | claimed hlive hfree => exact hlive
  | held hlive hfollows => exact hlive

/-- Nobody comes or goes in a section. -/
theorem Call.Section.contains {c c' : Call} (h : Section r c c' r') (i : ConnectionId) :
    r'.contains i = r.contains i := by
  cases h with
  | claimed => exact contains_modify
  | attached => exact contains_modify
  | released => exact contains_modify
  | detached => exact contains_modify
  | freed => exact contains_modify
  | _ => rfl

/-- Nobody comes or goes in a call, unless it begins with a claim already made. -/
theorem contains_finish {c : Call} (unclaimed : ∀ {pilot viewer isNew}, c ≠ .claimed pilot viewer isNew)
    (i : ConnectionId) : (c.finish r).2.contains i = r.contains i := by
  have hfirst := Call.section_step (r := r) (c := c) fun h => absurd h unclaimed
  have hsecond := Call.section_step (r := (c.step r).2) (c := (c.step r).1) fun h => by
    rw [h] at hfirst
    exact (hfirst.contains _).trans hfirst.live
  have hthird := Call.section_step (r := ((c.step r).1.step (c.step r).2).2)
    (c := ((c.step r).1.step (c.step r).2).1) fun h => by
      rw [h] at hsecond
      exact (hsecond.contains _).trans hsecond.live
  exact (hthird.contains i).trans ((hsecond.contains i).trans (hfirst.contains i))

/-- Nobody comes or goes by a binding. -/
theorem contains_of_bindViewer {outcome : ViewerBind}
    (h : r.bindViewer pilot viewer = .ok (outcome, r')) (i : ConnectionId) :
    r'.contains i = r.contains i := by
  have hfinish := @finish_bind r pilot viewer
  have hsame := contains_finish (r := r) (c := .bind pilot viewer) (fun h => nomatch h) i
  rw [hfinish, h] at hsame
  exact hsame

end Registry

end FlightRelay

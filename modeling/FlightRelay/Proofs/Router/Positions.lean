import FlightRelay.Proofs.Router.Addressees
import FlightRelay.Proofs.Router.Response

/-!
# Positions along runs

A position is taken in when the message of a live connection that reports it is accepted.  So whoever has
a position reported it in the course of the run; it lies on the earth; and a display is owed its first
traffic picture as long as it has none.
-/

namespace FlightRelay

open Registry Session

variable {ctx : RelayContext} {s : Relay} {me c c' : Connection} {m : ClientMessage} {u : Outcome}
  {e : Event} {es fs : List Event} {id p : ConnectionId}

/-! ## What one event does to a position -/

/-- Only a position changes where a connection is. -/
theorem Carried.aspect_position (h : Carried ctx s me m u) (hposition : ∀ q, m ≠ .position q) :
    u.registry.aspect Session.position id = s.registry.aspect Session.position id := by
  cases h with
  | login => exact aspect_modify fun _ => rfl
  | position => exact absurd rfl (hposition _)
  | flightInfo hrole hsession =>
    subst hsession
    exact aspect_modify fun _ => rfl
  | dispatcherStatus => exact aspect_modify fun _ => rfl
  | requested => exact aspect_modify fun _ => rfl
  | serviceBound => exact aspect_modify fun _ => rfl
  | pilotLeft => exact aspect_modify fun _ => rfl
  | pilotWithdrew => exact aspect_modify fun _ => rfl
  | dispatcherLeft => exact aspect_modify fun _ => rfl
  | completed => exact aspect_modify fun _ => rfl
  | @viewerBound viewer v =>
    have hclaimed : (s.registry.modify viewer (following me.id)).aspect Session.position id
        = s.registry.aspect Session.position id := aspect_modify fun _ => rfl
    exact (aspect_modify (f := followedBy viewer) fun _ => rfl).trans hclaimed
  | viewerKept => exact aspect_modify fun _ => rfl
  | viewerDropped hrole hcleared => exact aspect_clearViewer hcleared (fun _ _ => rfl) fun _ _ => rfl
  | viewerLeft hrole hcleared => exact aspect_clearViewer hcleared (fun _ _ => rfl) fun _ _ => rfl
  | viewingEnded hrole hcleared => exact aspect_clearViewer hcleared (fun _ _ => rfl) fun _ _ => rfl
  | _ => rfl

/-- A session is in order as to its position: that lies on the earth, and the first traffic picture is
owed to a display without one. -/
structure Session.Placed (s : Session) : Prop where
  valid : ∀ q, s.position = some q → q.location.isValid = true
  owed : s.snapshotPending = (s.role.rendersTraffic && s.position.isNone)

/-- All sessions are in order as to their positions. -/
def Registry.Placed (r : Registry) : Prop := ∀ id c, r.find? id = some c → c.session.Placed

/-- A session that differs in nothing that has to do with positions stays in order. -/
theorem Session.Placed.congr {a b : Session} (h : a.Placed) (hdisplay : b.display = a.display)
    (hposition : b.position = a.position) : b.Placed := by
  obtain ⟨hrole, hpending⟩ := Prod.mk.inj hdisplay
  refine ⟨fun q hq => h.valid q (hposition.symm.trans hq), ?_⟩
  rw [hpending, hrole, hposition]
  exact h.owed

/-- A message leaves all sessions in order. -/
theorem Carried.placed (h : Carried ctx s me m u) (hs : s.registry.Placed)
    (hme : s.registry.find? me.id = some me) : u.registry.Placed := by
  intro id c' hc'
  have hlive : s.registry.contains id = true := by rw [← h.contains, contains_of_find? hc']
  obtain ⟨c, hc⟩ := contains_iff.mp hlive
  have keep : u.registry.aspect display id = s.registry.aspect display id →
      u.registry.aspect Session.position id = s.registry.aspect Session.position id →
      c'.session.Placed := by
    intro hdisplay hposition
    rw [aspect_of_find? hc, aspect_of_find? hc'] at hdisplay hposition
    exact (hs id c hc).congr (Option.some.inj hdisplay) (Option.some.inj hposition)
  by_cases hlogin : ∃ form, m = .login form
  · obtain ⟨form, rfl⟩ := hlogin
    cases h with
    | login =>
      by_cases he : id = me.id
      · subst he
        obtain rfl := Option.some.inj (hme.symm.trans hc)
        obtain rfl := Option.some.inj ((find?_modify_self hme).symm.trans hc')
        exact ⟨(hs _ me hme).valid, rfl⟩
      · exact keep (aspect_modify_of_ne he) (aspect_modify_of_ne he)
  · by_cases hposition : ∃ q, m = .position q
    · obtain ⟨q, rfl⟩ := hposition
      cases h with
      | position hauth hvalid =>
        by_cases he : id = me.id
        · subst he
          obtain rfl := Option.some.inj ((find?_modify_self hme).symm.trans hc')
          refine ⟨fun q' hq' => ?_, (Bool.and_false _).symm⟩
          obtain rfl := Option.some.inj hq'
          exact hvalid
        · exact keep (aspect_modify_of_ne he) (aspect_modify_of_ne he)
    · exact keep (h.aspect_display (fun form hm => hlogin ⟨form, hm⟩) fun q hm => hposition ⟨q, hm⟩)
        (h.aspect_position fun q hm => hposition ⟨q, hm⟩)

/-- An event leaves all sessions in order. -/
theorem Happened.placed (h : Happened s e u) (hs : s.registry.Placed) : u.registry.Placed := by
  cases h with
  | @accepted remote d now r hadded =>
    intro id c' hc'
    obtain ⟨-, -, -, hfound⟩ := accept_eq_ok hadded
    rw [hfound] at hc'
    split at hc'
    · obtain rfl := Option.some.inj hc'
      exact ⟨fun q hq => (nomatch hq), rfl⟩
    · exact hs id c' hc'
  | @carried ctx envelope me o hlive how =>
    have hme : s.counted.registry.find? me.id = some me := by
      rw [id_of_find? hlive]
      exact hlive
    exact how.placed hs hme
  | departed hremoved =>
    intro id c' hc'
    obtain ⟨-, -, -, -, hfound⟩ := remove_eq_some hremoved
    rw [hfound] at hc'
    split at hc'
    · cases hc'
    · obtain ⟨c, hc, rfl⟩ := Option.map_eq_some_iff.mp hc'
      exact (hs id c hc).congr rfl rfl
  | _ => exact hs

namespace Relay

/-- In every run, all sessions are in order as to their positions. -/
theorem placed_run (hopen : s.outbox.isOpen = true) (hs : s.registry.Placed) :
    (s.run es).registry.Placed := by
  induction es generalizing s with
  | nil => exact hs
  | cons e es ih =>
    obtain ⟨u, happened, hbecomes⟩ := happened_step (e := e) hopen
    refine ih (isOpen_step hopen) ?_
    rw [hbecomes.registry]
    exact happened.placed hs

/-- Wherever a run leads, all sessions are in order as to their positions. -/
theorem Reachable.placed (h : s.Reachable) : s.registry.Placed := by
  obtain ⟨store, es, -, rfl⟩ := h
  exact placed_run rfl fun id c hc => by cases hc

/-! ## Who has reported a position -/

/-- A valid position of whoever is logged in is accepted. -/
theorem accepts_position {ctx : RelayContext} {owner : Option UserId} {q : Position}
    (hopen : s.outbox.isOpen = true) (hme : s.registry.find? p = some me)
    (hauth : me.session.isAuthenticated = true) (hvalid : q.location.isValid = true) :
    s.Accepts ctx ⟨.position q, p, owner⟩ := by
  obtain rfl := Registry.id_of_find? hme
  obtain ⟨u, how, hbecomes⟩ := carried_message ctx ⟨.position q, me.id, owner⟩ hopen hme
    (Handler.carriedOut_position_message hme hauth hvalid)
  exact accepts_of_carried hme how hbecomes

/-- A live connection reports a position, and that is accepted. -/
def Reports (s : Relay) (e : Event) (id : ConnectionId) : Prop :=
  ∃ ctx q owner, e = .message ctx ⟨.position q, id, owner⟩ ∧ s.registry.contains id = true ∧
    s.Accepts ctx ⟨.position q, id, owner⟩

/-- A connection has reported a position in the course of a run. -/
def HasReported (s : Relay) (es : List Event) (id : ConnectionId) : Prop :=
  ∃ fs e gs, es = fs ++ e :: gs ∧ (s.run fs).Reports e id

/-- What was reported in a run was reported before its last event or by it. -/
theorem hasReported_concat :
    s.HasReported (es ++ [e]) id ↔ s.HasReported es id ∨ (s.run es).Reports e id := by
  constructor
  · rintro ⟨fs, e', gs, hsplit, hreports⟩
    rcases List.eq_nil_or_concat gs with rfl | ⟨gs, last, rfl⟩
    · obtain ⟨rfl, hlast⟩ := List.append_inj' hsplit rfl
      obtain rfl := List.singleton_inj.mp hlast
      exact .inr hreports
    · rw [List.concat_eq_append, ← List.cons_append, ← List.append_assoc] at hsplit
      obtain ⟨rfl, -⟩ := List.append_inj' hsplit rfl
      exact .inl ⟨fs, e', gs, rfl, hreports⟩
  · rintro (⟨fs, e', gs, rfl, hreports⟩ | hreports)
    · exact ⟨fs, e', gs ++ [e], by rw [List.append_assoc, List.cons_append], hreports⟩
    · exact ⟨es, e, [], rfl, hreports⟩

/-- A report that is accepted is where the connection is. -/
theorem position_of_reports (hopen : s.outbox.isOpen = true) (h : s.Reports e id)
    (hc' : (s.step e).registry.find? id = some c') : c'.session.position.isSome = true := by
  obtain ⟨ctx, q, owner, rfl, hlive, haccepts⟩ := h
  obtain ⟨c, hc⟩ := contains_iff.mp hlive
  obtain ⟨u, how, hbecomes⟩ := haccepts.carried hopen hc
  rw [hbecomes.registry] at hc'
  obtain rfl := id_of_find? hc
  cases how with
  | position =>
    obtain rfl := Option.some.inj ((find?_modify_self hc).symm.trans hc')
    rfl

/-- Without a report of its own, a connection stays where it is. -/
theorem position_of_not_reports (hopen : s.outbox.isOpen = true) (h : ¬ s.Reports e id)
    (hc : s.registry.find? id = some c) (hc' : (s.step e).registry.find? id = some c') :
    c'.session.position = c.session.position := by
  obtain ⟨u, happened, hbecomes⟩ := happened_step (e := e) hopen
  rw [hbecomes.registry] at hc'
  have same : u.registry.aspect Session.position id = s.registry.aspect Session.position id →
      c'.session.position = c.session.position := by
    intro hsame
    rw [aspect_of_find? hc, aspect_of_find? hc'] at hsame
    exact Option.some.inj hsame
  cases happened with
  | accepted hadded =>
    obtain ⟨hfree, -, -, hfound⟩ := accept_eq_ok hadded
    rw [hfound, if_neg] at hc'
    · exact congrArg (fun d => d.session.position) (Option.some.inj (hc'.symm.trans hc))
    · rintro rfl
      exact absurd (contains_of_find? hc) (by rw [hfree]; exact Bool.false_ne_true)
  | @carried ctx envelope me o hlive how =>
    -- a position that is carried out is that of its sender, who did not report
    by_cases hposition : ∃ q, envelope.message = .position q
    · obtain ⟨message, sender, owner⟩ := envelope
      obtain ⟨q, rfl : message = .position q⟩ := hposition
      have haccepts := accepts_of_carried hlive how hbecomes
      obtain rfl : me.id = sender := id_of_find? hlive
      have hother : id ≠ me.id := by
        rintro rfl
        exact h ⟨ctx, q, owner, rfl, contains_of_find? hlive, haccepts⟩
      cases how with
      | position => exact same (aspect_modify_of_ne hother)
    · exact same (how.aspect_position fun q hq => hposition ⟨q, hq⟩)
  | departed hremoved =>
    obtain ⟨-, -, -, -, hfound⟩ := remove_eq_some hremoved
    rw [hfound, hc] at hc'
    split at hc'
    · cases hc'
    · obtain rfl := Option.some.inj hc'
      rfl
  | _ => exact same rfl

/-- Whoever has just been accepted has not reported anything before. -/
theorem not_hasReported_of_fresh (store : Store) (few : es.countP Event.isAccept < 2 ^ 64 - 1)
    (hnext : id = ((empty store).run es).registry.nextId) : ¬ (empty store).HasReported es id := by
  rintro ⟨fs, e, gs, rfl, ctx, q, owner, -, hlive, -⟩
  obtain ⟨c, hc⟩ := contains_iff.mp hlive
  -- whoever was live on the way has a number below the one that was next then, and so below this one
  have hcount : (fs ++ e :: gs).countP Event.isAccept
      = fs.countP Event.isAccept + (e :: gs).countP Event.isAccept := List.countP_append
  have hbefore := (steady_empty store).run fs (by omega)
  have hafter := (steady_empty store).run (fs ++ e :: gs) (by omega)
  have hlt : id.toNat < ((empty store).run fs).registry.nextId.toNat :=
    (hbefore.sound.numbered hc).2
  rw [hbefore.next, hnext, hafter.next] at hlt
  omega

/-- After a run, a live connection has a position exactly if it has reported one on the way. -/
theorem isSome_position_run (store : Store) (few : es.countP Event.isAccept < 2 ^ 64 - 1)
    (hc : ((empty store).run es).registry.find? id = some c) :
    c.session.position.isSome = true ↔ (empty store).HasReported es id := by
  induction es using List.reverseRecOn generalizing c with
  | nil => cases hc
  | append_singleton es e ih =>
    have hcount : (es ++ [e]).countP Event.isAccept
        = es.countP Event.isAccept + [e].countP Event.isAccept := List.countP_append
    have hopen : ((empty store).run es).outbox.isOpen = true := isOpen_run rfl
    rw [run_append] at hc
    rw [hasReported_concat]
    by_cases hreports : ((empty store).run es).Reports e id
    · exact iff_of_true (position_of_reports hopen hreports hc) (.inr hreports)
    · rw [or_iff_left hreports]
      cases hbefore : ((empty store).run es).registry.find? id with
      | some d =>
        rw [position_of_not_reports hopen hreports hbefore hc]
        exact ih (by omega) hbefore
      | none =>
        obtain ⟨u, happened, hbecomes⟩ := happened_step (e := e) hopen
        have hfound : u.registry.find? id = some c := by
          rw [← hbecomes.registry]
          exact hc
        obtain ⟨hnext, remote, d, now, rfl⟩ := happened.enrolled hbefore hfound
        exact iff_of_false (fun h => nomatch h)
          (not_hasReported_of_fresh store (by omega) hnext)

end Relay

/-! ## Two pilots -/

/-- Two pilots log in, and the second one reports where it is. -/
def Event.meeting : List Event :=
  [.accept none .standard 0, .accept none .standard 0, login 1 .pilot, login 2 .pilot,
    sent 2 (.position ⟨⟨50, 8, 3000⟩, 90, 120, false⟩)]

/-- The relay at the meeting is one that a run leads to. -/
theorem Relay.reachable_meeting : ((empty .empty).run Event.meeting).Reachable :=
  ⟨.empty, Event.meeting, by decide, rfl⟩

end FlightRelay

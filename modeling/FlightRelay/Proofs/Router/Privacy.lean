import FlightRelay.Proofs.Router.Response

/-!
# Followed pilots

Where a followed pilot is, only its viewer is told; and a flight plan is told by nobody but its pilot, to
the dispatcher and the viewer of the pilot.
-/

namespace FlightRelay

open Outbound Handler Session

/-- The message tells where a connection is. -/
def ServerMessage.isTrafficOf (id : ConnectionId) : ServerMessage → Bool
  | .traffic connection _ _ _ _ => connection = id
  | _ => false

/-- The message is a flight plan. -/
def ServerMessage.isPlan : ServerMessage → Bool
  | .flightInfo _ _ _ => true
  | _ => false

/-- An event keeps the positions of followed pilots and all flight plans to those whom they concern. -/
structure Relay.Discreet (s : Relay) (e : Event) : Prop where
  /-- Whoever has a viewer after the event is shown to nobody else by it. -/
  traffic : ∀ {p c}, (s.step e).registry.find? p = some c → c.session.viewer ≠ noConnection →
    ∀ o ∈ s.emitted e, o.message.isTrafficOf p = true → o.target = c.session.viewer
  /-- An accepted position of a followed pilot is told once, to the viewer. -/
  position : ∀ {ctx location p owner c}, e = .message ctx ⟨.position location, p, owner⟩ →
    s.Accepts ctx ⟨.position location, p, owner⟩ → (s.step e).registry.find? p = some c →
    c.session.viewer ≠ noConnection →
    (s.emitted e).filter (fun o => o.message.isTrafficOf p)
      = [batched (.traffic p c.session.callsign location none 0) c.session.viewer]
  /-- A flight plan comes from its pilot, and goes to the dispatcher or the viewer of the pilot. -/
  plan : ∀ {p callsign plan}, ∀ o ∈ s.emitted e, o.message = .flightInfo p callsign plan →
    ∃ ctx owner c, e = .message ctx ⟨.flightInfo plan, p, owner⟩ ∧ s.registry.find? p = some c ∧
      ((c.session.dispatcher ≠ noConnection ∧ o.target = c.session.dispatcher) ∨
        (c.session.viewer ≠ noConnection ∧ o.target = c.session.viewer))

variable {ctx : RelayContext} {s : Relay} {me : Connection} {m : ClientMessage} {u : Outcome}
  {e : Event} {o : Outbound} {p : ConnectionId} {c : Connection}

/-- A pilot in a first picture is another connection, and has no viewer. -/
theorem unviewed_of_firstPicture {r : Registry} {k f : Session → Session}
    (h : o ∈ (r.modify me.id k).firstPicture (me.withSession k))
    (htraffic : o.message.isTrafficOf p = true) (hc : (r.modify me.id f).find? p = some c) :
    p ≠ me.id ∧ c.session.viewer = noConnection := by
  obtain ⟨d, q, hd, hne, -, hunviewed, rfl⟩ := Registry.mem_firstPicture h
  obtain rfl : d.id = p := of_decide_eq_true htraffic
  have hother : d.id ≠ me.id := hne
  rw [Registry.find?_modify_of_ne hother] at hd hc
  obtain rfl := Option.some.inj (hd.symm.trans hc)
  exact ⟨hother, hunviewed⟩

/-- The traffic that a message posts about a connection goes to the viewer that the connection has
afterwards, if it has one. -/
theorem Carried.traffic (h : Carried ctx s me m u) (hm : m.discloses = true)
    (hme : s.registry.find? me.id = some me) (ho : o ∈ u.posts)
    (htraffic : o.message.isTrafficOf p = true) (hc : u.registry.find? p = some c)
    (hviewed : c.session.viewer ≠ noConnection) : o.target = c.session.viewer := by
  cases h with
  | @login form profile k hrole hfixed hknown hpermitted hsession =>
    rcases List.mem_cons.mp ho with rfl | ho
    · cases htraffic
    · -- the pilots in a picture have no viewer, and a login gives none of them one
      split at ho
      · exact absurd (unviewed_of_firstPicture ho htraffic hc).2 hviewed
      · cases ho
  | @position q k hauth hvalid hsession =>
    -- the first picture is that of others; the report itself is for the viewer alone
    rcases List.mem_append.mp ho with ho | ho
    · split at ho
      · exact absurd (unviewed_of_firstPicture ho htraffic hc).2 hviewed
      · cases ho
    · split at ho
      · obtain ⟨hmessage, htarget⟩ := Registry.mem_positionReports ho
        rw [hmessage] at htraffic
        obtain rfl : me.id = p := of_decide_eq_true htraffic
        obtain rfl := Option.some.inj ((Registry.find?_modify_self hme).symm.trans hc)
        exact htarget hviewed
      · cases ho
  | flightInfo hrole hsession =>
    rw [(Registry.mem_planReports ho).1] at htraffic
    cases htraffic
  | serviceBound =>
    rcases List.mem_cons.mp ho with rfl | ho
    · cases htraffic
    · rw [List.mem_singleton.mp ho] at htraffic
      cases htraffic
  | serviceKept =>
    rw [List.mem_singleton.mp ho] at htraffic
    cases htraffic
  | @viewerBound viewer v hrole hlive hviewer hunviewed hidle =>
    have hne : me.id ≠ viewer := by
      rintro rfl
      obtain rfl := Option.some.inj (hme.symm.trans hlive)
      exact absurd (hrole.symm.trans hviewer) (by decide)
    rcases List.mem_cons.mp ho with rfl | ho
    · cases htraffic
    · rcases List.mem_append.mp ho with ho | ho
      · -- the viewer is shown where the pilot was last seen
        obtain ⟨message, hmessage, rfl⟩ := Option.map_eq_some_iff.mp (Option.mem_toList.mp ho)
        obtain ⟨q, -, rfl⟩ := Option.map_eq_some_iff.mp hmessage
        obtain rfl : me.id = p := of_decide_eq_true htraffic
        have hfound := Registry.find?_modify_self (f := followedBy viewer)
          ((Registry.find?_modify_of_ne (f := following me.id) hne).trans hme)
        obtain rfl := Option.some.inj (hfound.symm.trans hc)
        rfl
      · rw [List.mem_singleton.mp ho] at htraffic
        cases htraffic
  | viewerKept =>
    rw [List.mem_singleton.mp ho] at htraffic
    cases htraffic
  | _ => cases hm

/-- Of a pilot whose position is carried out, nothing is told but the reports of that position. -/
theorem Carried.own_traffic {q : Position} (h : Carried ctx s me (.position q) u)
    (hme : s.registry.find? me.id = some me) :
    (s.registry.mail true u.posts).filter (fun o => o.message.isTrafficOf me.id)
      = s.registry.mail true (if me.role = .pilot
        then (s.registry.modify me.id (reported q)).positionReports me q else []) := by
  cases h with
  | @position q k hauth hvalid hsession =>
    -- nobody is in its own picture
    have hpicture : ∀ o ∈ s.registry.mail true (if me.session.snapshotPending
        then (s.registry.modify me.id k).firstPicture (me.withSession k) else []),
        ¬ o.message.isTrafficOf me.id = true := by
      intro o ho htraffic
      have hmem := Registry.mem_of_mem_mail ho
      split at hmem
      · exact (unviewed_of_firstPicture hmem htraffic
          (Registry.find?_modify_self (f := k) hme)).1 rfl
      · cases hmem
    rw [Registry.mail_append, List.filter_append, List.filter_eq_nil_iff.mpr hpicture,
      List.nil_append, List.filter_eq_self]
    intro o ho
    have hmem := Registry.mem_of_mem_mail ho
    split at hmem
    · rw [(Registry.mem_positionReports hmem).1]
      exact decide_eq_true rfl
    · cases hmem

/-- A position of a followed pilot, if it is carried out, is told once, to the viewer. -/
theorem Carried.position_traffic {q : Position} (h : Carried ctx s me (.position q) u)
    (hs : s.registry.Sound) (hme : s.registry.find? me.id = some me)
    (hc : u.registry.find? me.id = some c) (hviewed : c.session.viewer ≠ noConnection) :
    (s.registry.mail true u.posts).filter (fun o => o.message.isTrafficOf me.id)
      = [batched (.traffic me.id c.session.callsign q none 0) c.session.viewer] := by
  rw [h.own_traffic hme]
  cases h with
  | position =>
    -- a report changes neither the viewer nor the callsign of its pilot
    obtain rfl := Option.some.inj ((Registry.find?_modify_self (f := reported q) hme).symm.trans hc)
    obtain ⟨hrole, v, hv, -, -⟩ := hs.viewed hme hviewed
    have hreports : (s.registry.modify me.id (reported q)).positionReports me q
        = [batched (trafficAt me q) me.session.viewer] := if_pos hviewed
    rw [if_pos hrole, hreports, Registry.mail_singleton (Registry.contains_of_find? hv), if_pos rfl]
    rfl

/-- A flight plan is posted only on the message of its pilot. -/
theorem Carried.plan {callsign : String} {plan : FlightPlan} (h : Carried ctx s me m u)
    (hm : m.discloses = true) (ho : o ∈ u.posts) (hplan : o.message = .flightInfo p callsign plan) :
    m = .flightInfo plan ∧ p = me.id ∧
      ((me.session.dispatcher ≠ noConnection ∧ o.target = me.session.dispatcher) ∨
        (me.session.viewer ≠ noConnection ∧ o.target = me.session.viewer)) := by
  have hkind : o.message.isPlan = true := by rw [hplan]; rfl
  have planless : Without ServerMessage.isPlan u.posts → False := by
    intro hwithout
    rw [hwithout o ho] at hkind
    cases hkind
  cases h with
  | @login form profile k hrole hfixed hknown hpermitted hsession =>
    exact (planless (.cons rfl (.ite (without_firstPicture fun _ _ _ _ _ => rfl)))).elim
  | position =>
    refine (planless (.append (.ite (without_firstPicture fun _ _ _ _ _ => rfl)) (.ite ?_))).elim
    exact .of_message (fun p hp => (Registry.mem_positionReports hp).1) rfl
  | flightInfo hrole hsession =>
    obtain ⟨hmessage, htarget⟩ := Registry.mem_planReports ho
    cases hmessage.symm.trans hplan
    exact ⟨rfl, rfl, htarget⟩
  | serviceBound => exact (planless (.cons rfl (.singleton rfl))).elim
  | serviceKept => exact (planless (.singleton rfl)).elim
  | viewerBound =>
    exact (planless (.cons rfl (.append (without_trafficOf fun _ _ _ _ _ => rfl) (.singleton rfl)))).elim
  | viewerKept => exact (planless (.singleton rfl)).elim
  | _ => cases hm

namespace Relay

/-- Whatever happens, the positions of followed pilots are told to their viewers alone, and flight plans
to those whom they concern. -/
theorem followed_discreetly (h : s.Reachable) (e : Event) : s.Discreet e := by
  obtain ⟨n, -, hsteady⟩ := h.steady
  obtain ⟨u, happened, hbecomes⟩ := happened_step (e := e) hsteady.isOpen
  have hemitted := hbecomes.emitted
  have hregistry := hbecomes.registry
  refine ⟨?_, ?_, ?_⟩
  · intro p c hc hviewed o ho htraffic
    rw [hemitted] at ho
    rw [hregistry] at hc
    -- of all that is handed on, only what a message discloses is personal
    have hpersonal : o.message.isPersonal = true := by
      cases hm : o.message <;> rw [hm] at htraffic <;> first | rfl | cases htraffic
    rcases happened.disclosure with hplain | ⟨ctx, envelope, me, w, rfl, hme, how, hdiscloses, rfl⟩
    · rw [hplain o ho] at hpersonal
      cases hpersonal
    · have hme' : s.counted.registry.find? me.id = some me := by
        rw [Registry.id_of_find? hme]
        exact hme
      have hposted : o ∈ w.posts :=
        Registry.mem_of_mem_mail (show o ∈ s.registry.mail true w.posts from ho)
      exact how.traffic hdiscloses hme' hposted htraffic hc hviewed
  · rintro ctx q p owner c rfl haccepts hc hviewed
    rw [hemitted]
    rw [hregistry] at hc
    cases happened with
    | stale hgone => cases hgone.symm.trans hc
    | refused =>
      have hrejected := haccepts.rejected
      have hcounted : (handle ctx s ⟨.position q, p, owner⟩).counters = _ := hbecomes.counters
      rw [hcounted] at hrejected
      exact absurd hrejected (Nat.succ_ne_self _)
    | carried hlive how =>
      obtain rfl := Registry.id_of_find? hlive
      exact how.position_traffic hsteady.sound hlive hc hviewed
  · intro p callsign plan o ho hplan
    rw [hemitted] at ho
    have hpersonal : o.message.isPersonal = true := by rw [hplan]; rfl
    rcases happened.disclosure with hplain | ⟨ctx, envelope, me, w, rfl, hme, how, hdiscloses, rfl⟩
    · rw [hplain o ho] at hpersonal
      cases hpersonal
    · have hposted : o ∈ w.posts :=
        Registry.mem_of_mem_mail (show o ∈ s.registry.mail true w.posts from ho)
      obtain ⟨hmessage, rfl, htarget⟩ := how.plan hdiscloses hposted hplan
      obtain ⟨message, sender, owner⟩ := envelope
      obtain rfl : message = .flightInfo plan := hmessage
      obtain rfl : me.id = sender := Registry.id_of_find? hme
      exact ⟨ctx, owner, me, rfl, hme, htarget⟩

/-- The pilot whom a spectator follows reports where it is, and only the spectator hears of it. -/
theorem followed_discreetly_boarding :
    (((empty .empty).run Event.boarding).emitted
        (.sent 1 (.position ⟨⟨50, 8, 3000⟩, 90, 120, false⟩))).filter
        (fun o => o.message.isTrafficOf 1)
      = [batched (.traffic 1 "AB12" ⟨⟨50, 8, 3000⟩, 90, 120, false⟩ none 0) 3] := by
  have haccepts : ((empty .empty).run Event.boarding).Accepts ⟨.trusting, .standard, 0⟩
      ⟨.position ⟨⟨50, 8, 3000⟩, 90, 120, false⟩, 1, none⟩ :=
    ⟨by decide +kernel, by decide +kernel, by decide +kernel,
      List.isEmpty_iff.mp (by decide +kernel)⟩
  obtain ⟨c, hc⟩ := Registry.contains_iff.mp
    (show (((empty .empty).run Event.boarding).step
      (.sent 1 (.position ⟨⟨50, 8, 3000⟩, 90, 120, false⟩))).registry.contains 1 = true by decide +kernel)
  have hsession : ((((empty .empty).run Event.boarding).step
      (.sent 1 (.position ⟨⟨50, 8, 3000⟩, 90, 120, false⟩))).registry.find? 1).map
      (fun c => (c.session.viewer, c.session.callsign)) = some (3, "AB12") := by decide +kernel
  rw [hc] at hsession
  obtain ⟨hviewer, hcallsign⟩ := Prod.mk.inj (Option.some.inj hsession)
  have hreport := (followed_discreetly reachable_boarding
    (.sent 1 (.position ⟨⟨50, 8, 3000⟩, 90, 120, false⟩))).position rfl haccepts hc
    (by rw [hviewer]; decide)
  rw [hviewer, hcallsign] at hreport
  exact hreport

end Relay

end FlightRelay

import FlightRelay.Proofs.Registry.Proximity
import FlightRelay.Proofs.Router.Positions

/-!
# First traffic pictures

A display is shown the pilots around it when it logs in with a position, and else once, when it first
reports one.  It is shown the nearest of those whom nobody follows, as many as it has asked for.
-/

namespace FlightRelay

open Outbound Handler Session

/-- The message shows a connection other than the one whose message it comes from. -/
def ServerMessage.showsOther (sender : Option ConnectionId) : ServerMessage → Bool
  | .traffic id _ _ _ _ => some id ≠ sender
  | _ => false

namespace Registry

/-- The pilots whom nobody follows and who are in range of a connection, with their distances from it:
the nearer ones come first, and of two equally near the one with the smaller number. -/
structure PilotsNear (r : Registry) (c : Connection) (near : List (Connection × Float)) : Prop where
  eligible : ∀ d, d ∈ near ↔ r.find? d.1.id = some d.1 ∧ d.1.id ≠ c.id ∧ d.1.role = .pilot ∧
    d.1.session.viewer = noConnection ∧ (∃ place here, c.session.location = some place ∧
      d.1.session.location = some here ∧ here.distance place = d.2) ∧ d.2 ≤ c.session.range
  once : (near.map fun d => d.1.id).Nodup
  sorted : near.Pairwise Precedes

/-- A picture shows a connection the pilots near it, each once and in order, as many as it has asked for;
nobody who was left out comes before one who is shown. -/
def Pictures (r : Registry) (c : Connection) (picture : List Outbound) : Prop :=
  ∃ near, r.PilotsNear c near ∧
    List.Forall₂ (fun d o => ∃ q, d.1.session.position = some q ∧
      o = batched (.traffic d.1.id d.1.session.callsign q none 0) c.id)
      (near.take c.session.maxAircraft.toNat) picture ∧
    ∀ a ∈ near.take c.session.maxAircraft.toNat, ∀ b ∈ near.drop c.session.maxAircraft.toNat,
      Precedes a b ∧ ¬ b.2 < a.2

end Registry

namespace Relay

/-- What an event shows of others than the connection whose message it is. -/
def shown (s : Relay) (e : Event) : List Outbound :=
  (s.emitted e).filter fun o => o.message.showsOther e.sender?

/-- The two kinds of events that call for the first traffic picture of a connection: the login of a display
that has a position, and the first position of a display. -/
inductive CallsForPicture (s : Relay) (reported : ConnectionId → Prop) : Event → ConnectionId → Prop
  | login {ctx : RelayContext} {form : LoginForm} {id : ConnectionId} {owner : Option UserId}
      {me : Connection} (live : s.registry.find? id = some me)
      (accepted : s.Accepts ctx ⟨.login form, id, owner⟩)
      (display : form.role = .pilot ∨ form.role = .viewer)
      (located : me.session.position ≠ none) :
      CallsForPicture s reported (.message ctx ⟨.login form, id, owner⟩) id
  | position {ctx : RelayContext} {q : Position} {id : ConnectionId} {owner : Option UserId}
      {me : Connection} (live : s.registry.find? id = some me)
      (accepted : s.Accepts ctx ⟨.position q, id, owner⟩)
      (display : me.role = .pilot ∨ me.role = .viewer)
      (first : ¬ reported id) :
      CallsForPicture s reported (.message ctx ⟨.position q, id, owner⟩) id

/-- Pictures are sent as they are called for. -/
structure ShowsPictures (s : Relay) (reported : ConnectionId → Prop) (e : Event) : Prop where
  /-- A picture is owed to displays without a position only. -/
  owed : ∀ {id c}, s.registry.find? id = some c → c.session.snapshotPending = true →
    (c.role = .pilot ∨ c.role = .viewer) ∧ c.session.position = none
  /-- An event that calls for the picture of a connection shows it that, and nothing else of others. -/
  called : ∀ {id}, s.CallsForPicture reported e id → ∃ c, (s.step e).registry.find? id = some c ∧
    (s.step e).registry.Pictures c (s.shown e)
  /-- Any other event shows nothing of others. -/
  uncalled : (∀ id, ¬ s.CallsForPicture reported e id) → s.shown e = []

end Relay

variable {ctx : RelayContext} {s : Relay} {me : Connection} {m : ClientMessage} {u : Outcome}
  {e : Event} {es : List Event} {o : Outbound} {r : Registry} {k f : Session → Session}
  {near : List (Connection × Float)} {place : Geo.Point}

/-! ## The picture -/

namespace Registry

/-- Whoever is near enough to be shown is where it has reported to be. -/
theorem forall₂_traffic {target : ConnectionId} (h : ∀ d ∈ near, d.1.session.location.isSome = true) :
    List.Forall₂ (fun d o => ∃ q, d.1.session.position = some q ∧ o = batched (trafficAt d.1 q) target)
      near (((near.map Prod.fst).filterMap trafficOf).map fun m => batched m target) := by
  induction near with
  | nil => exact .nil
  | cons d near ih =>
    obtain ⟨here, hhere⟩ := Option.isSome_iff_exists.mp (h d List.mem_cons_self)
    obtain ⟨q, hq, -⟩ := Option.map_eq_some_iff.mp hhere
    have htraffic : trafficOf d.1 = some (trafficAt d.1 q) := by rw [trafficOf, hq, Option.map_some]
    rw [List.map_cons, List.filterMap_cons_some htraffic, List.map_cons]
    exact .cons ⟨q, hq, rfl⟩ (ih fun d' hd' => h d' (List.mem_cons_of_mem _ hd'))

/-- A search for the pilots near a connection finds them. -/
theorem pilotsNear_within {c : Connection} (hplace : c.session.location = some place) :
    r.PilotsNear c (r.within place c.session.range fun d =>
      d.id ≠ c.id && d.role = .pilot && d.session.viewer = noConnection) := by
  refine ⟨fun d => ?_, nodup_within, sorted_within⟩
  rw [mem_within_iff]
  simp only [Bool.and_eq_true, decide_eq_true_eq, and_assoc, Session.distanceTo, Option.map_eq_some_iff]
  constructor
  · rintro ⟨hlive, hother, hpilot, hunviewed, ⟨here, hhere, hdistance⟩, hnear⟩
    exact ⟨hlive, hother, hpilot, hunviewed, ⟨place, here, hplace, hhere, hdistance⟩, hnear⟩
  · rintro ⟨hlive, hother, hpilot, hunviewed, ⟨place', here, hplace', hhere, hdistance⟩, hnear⟩
    obtain rfl := Option.some.inj (hplace'.symm.trans hplace)
    exact ⟨hlive, hother, hpilot, hunviewed, ⟨here, hhere, hdistance⟩, hnear⟩

/-- Only where a connection is and how far it wants to see decides who is near it. -/
theorem PilotsNear.modify (h : (r.modify me.id k).PilotsNear (me.withSession k) near)
    (hlocation : (f me.session).location = (k me.session).location)
    (hrange : (f me.session).range = (k me.session).range) :
    (r.modify me.id f).PilotsNear (me.withSession f) near := by
  refine ⟨fun d => (h.eligible d).trans ?_, h.once, h.sorted⟩
  show _ ∧ d.1.id ≠ me.id ∧ _ ↔ _ ∧ d.1.id ≠ me.id ∧ _
  simp only [Connection.withSession, hlocation, hrange]
  by_cases hother : d.1.id = me.id
  · simp [hother]
  · rw [find?_modify_of_ne hother, find?_modify_of_ne hother]

/-- The first picture of a connection shows the pilots near it, whatever becomes of the connection apart
from its place and its wishes. -/
theorem pictures_firstPicture (place : Geo.Point) (hplace : (k me.session).location = some place)
    (hlocation : (f me.session).location = (k me.session).location)
    (hrange : (f me.session).range = (k me.session).range)
    (hmax : (f me.session).maxAircraft = (k me.session).maxAircraft) :
    (r.modify me.id f).Pictures (me.withSession f)
      ((r.modify me.id k).firstPicture (me.withSession k)) := by
  have hnear := pilotsNear_within (r := r.modify me.id k) (c := me.withSession k) hplace
  refine ⟨_, hnear.modify hlocation hrange, ?_, ?_⟩
  · have hfirst : (r.modify me.id k).firstPicture (me.withSession k)
        = (r.modify me.id k).picture (me.withSession k) place := by
      unfold firstPicture
      rw [show (me.withSession k).session.location = some place from hplace]
    rw [hfirst, show (me.withSession f).session.maxAircraft = (me.withSession k).session.maxAircraft
      from hmax]
    refine forall₂_traffic fun d hd => ?_
    obtain ⟨-, -, -, -, ⟨place', here, -, hhere, -⟩, -⟩ :=
      (hnear.eligible d).mp (List.mem_of_mem_take hd)
    rw [hhere]
    rfl
  · intro a ha b hb
    have hsorted := hnear.sorted
    rw [← List.take_append_drop (me.withSession f).session.maxAircraft.toNat
      ((r.modify me.id k).within _ _ _), List.pairwise_append] at hsorted
    have hprecedes := hsorted.2.2 a ha b hb
    exact ⟨hprecedes, hprecedes.not_lt⟩

/-- Of what is posted on the message of a connection, that which shows others. -/
def shownBy (r : Registry) (id : ConnectionId) (posts : List Outbound) : List Outbound :=
  (r.mail true posts).filter fun o => o.message.showsOther (some id)

/-- The picture is shown in the order of the posts. -/
theorem shownBy_append {id : ConnectionId} {posts more : List Outbound} :
    r.shownBy id (posts ++ more) = r.shownBy id posts ++ r.shownBy id more := by
  rw [shownBy, mail_append, List.filter_append, shownBy, shownBy]

/-- Posts that show nobody else are no picture. -/
theorem shownBy_eq_nil {id : ConnectionId} {posts : List Outbound}
    (h : Without (ServerMessage.showsOther (some id)) posts) : r.shownBy id posts = [] :=
  h.mail.filter_eq_nil

/-- Nobody is in its own picture, and all of it goes to that live connection. -/
theorem shownBy_firstPicture (hme : r.find? me.id = some me) :
    r.shownBy me.id ((r.modify me.id k).firstPicture (me.withSession k))
      = (r.modify me.id k).firstPicture (me.withSession k) := by
  rw [shownBy, mail_eq_self, List.filter_eq_self]
  · intro o ho
    obtain ⟨c, p, -, hother, -, -, rfl⟩ := mem_firstPicture ho
    exact decide_eq_true fun h => hother (Option.some.inj h)
  · intro o ho
    obtain ⟨c, p, -, -, -, -, rfl⟩ := mem_firstPicture ho
    exact contains_of_find? hme

end Registry

/-! ## Messages -/

/-- What gives nothing away shows nobody. -/
theorem without_showsOther {posts : List Outbound} {sender : Option ConnectionId}
    (h : Without ServerMessage.isPersonal posts) : Without (ServerMessage.showsOther sender) posts := by
  intro o ho
  have himpersonal := h o ho
  cases hmessage : o.message <;> rw [hmessage] at himpersonal <;> first | rfl | cases himpersonal

namespace Carried

/-- A login shows others to a display that has a position, and to nobody else. -/
theorem login_shown {form : LoginForm} (h : Carried ctx s me (.login form) u)
    (hme : s.registry.find? me.id = some me) :
    (form.role.rendersTraffic = true ∧ me.session.position ≠ none →
      ∃ c, u.registry.find? me.id = some c ∧
        u.registry.Pictures c (s.registry.shownBy me.id u.posts)) ∧
    (¬ (form.role.rendersTraffic = true ∧ me.session.position ≠ none) →
      s.registry.shownBy me.id u.posts = []) := by
  cases h with
  | @login form profile k hrole hfixed hknown hpermitted hsession =>
    -- the acknowledgement shows nobody, so that all that is shown is the picture
    have hshown : s.registry.shownBy me.id (urgent (.accepted "login") me.id ::
          if form.role.rendersTraffic = true
            then (s.registry.modify me.id k).firstPicture (me.withSession k) else [])
        = if form.role.rendersTraffic = true
            then (s.registry.modify me.id k).firstPicture (me.withSession k) else [] := by
      have hack : Without (ServerMessage.showsOther (some me.id))
          [urgent (.accepted "login") me.id] := .cons rfl .nil
      rw [← List.singleton_append, Registry.shownBy_append, Registry.shownBy_eq_nil hack, List.nil_append]
      split
      · exact Registry.shownBy_firstPicture hme
      · exact Registry.shownBy_eq_nil .nil
    have hlocation : (k me.session).location = me.session.location := by rw [hsession]; rfl
    rw [hshown]
    refine ⟨fun ⟨hdisplay, hlocated⟩ => ?_, fun hnot => ?_⟩
    · obtain ⟨q, hq⟩ := Option.ne_none_iff_exists'.mp hlocated
      rw [if_pos hdisplay]
      refine ⟨_, Registry.find?_modify_self hme,
        Registry.pictures_firstPicture q.location ?_ ?_ ?_ ?_⟩
      · rw [hlocation, Session.location, hq, Option.map_some]
      all_goals rw [hsession]; rfl
    · split
      · -- without a position there is nothing to show
        have hnowhere : me.session.position = none := by
          by_contra hlocated
          exact hnot ⟨‹_›, hlocated⟩
        unfold Registry.firstPicture
        rw [show (me.withSession k).session.location = none from
          hlocation.trans (congrArg (Option.map Position.location) hnowhere)]
      · rfl

/-- A position shows others to a connection that is owed its first picture, and to nobody else. -/
theorem position_shown {q : Position} (h : Carried ctx s me (.position q) u)
    (hme : s.registry.find? me.id = some me) :
    (me.session.snapshotPending = true → ∃ c, u.registry.find? me.id = some c ∧
      u.registry.Pictures c (s.registry.shownBy me.id u.posts)) ∧
    (me.session.snapshotPending = false → s.registry.shownBy me.id u.posts = []) := by
  cases h with
  | @position q k hauth hvalid hsession =>
    have hreports : Without (ServerMessage.showsOther (some me.id)) (if me.role = .pilot
        then (s.registry.modify me.id (reported q)).positionReports me q else []) := by
      refine .ite (.of_message (fun o ho => (Registry.mem_positionReports ho).1) ?_)
      exact decide_eq_false fun h => h rfl
    rw [Registry.shownBy_append, Registry.shownBy_eq_nil hreports, List.append_nil]
    refine ⟨fun howed => ?_, fun hpaid => ?_⟩
    · rw [if_pos howed, Registry.shownBy_firstPicture hme]
      refine ⟨_, Registry.find?_modify_self hme,
        Registry.pictures_firstPicture q.location ?_ ?_ ?_ ?_⟩
      all_goals rw [hsession]; rfl
    · rw [hpaid]
      exact Registry.shownBy_eq_nil .nil

/-- Any other message shows nothing of others. -/
theorem not_shown (h : Carried ctx s me m u) (hlogin : ∀ form, m ≠ .login form)
    (hposition : ∀ q, m ≠ .position q) : s.registry.shownBy me.id u.posts = [] := by
  apply Registry.shownBy_eq_nil
  cases hm : m.discloses with
  | false => exact without_showsOther (h.impersonal hm)
  | true =>
    cases h with
    | login => exact absurd rfl (hlogin _)
    | position => exact absurd rfl (hposition _)
    | flightInfo => exact .of_message (fun o ho => (Registry.mem_planReports ho).1) rfl
    | serviceBound => exact .cons rfl (.singleton rfl)
    | serviceKept => exact .singleton rfl
    | @viewerBound viewer =>
      refine .cons rfl (.append (fun o ho => ?_) (.singleton rfl))
      -- the pilot itself is shown to its viewer
      obtain ⟨message, hmessage, rfl⟩ := Option.map_eq_some_iff.mp (Option.mem_toList.mp ho)
      obtain ⟨q, -, rfl⟩ := Option.map_eq_some_iff.mp hmessage
      exact decide_eq_false fun h => h rfl
    | viewerKept => exact .singleton rfl
    | _ => cases hm

end Carried

namespace Relay

/-- What is shown at an event is what its posts show. -/
theorem shown_of_becomes {ctx : RelayContext} {envelope : Envelope}
    (h : s.Becomes { u with posts := s.registry.mail true u.posts } (s.step (.message ctx envelope))) :
    s.shown (.message ctx envelope) = s.registry.shownBy envelope.sender u.posts := by
  rw [shown, h.emitted]
  rfl

/-- Whatever has happened before, an event shows a display the nearest pilots if it is its login and it
has a position, or if it is its first position; and no event shows anything else of others. -/
theorem pictures_shown_once (store : Store) (es : List Event)
    (few : es.countP Event.isAccept < 2 ^ 64 - 1) (e : Event) :
    ((empty store).run es).ShowsPictures ((empty store).HasReported es) e := by
  have hreachable : ((empty store).run es).Reachable := ⟨store, es, few, rfl⟩
  obtain ⟨n, -, hsteady⟩ := hreachable.steady
  have hopen := hsteady.isOpen
  have hplaced := hreachable.placed
  have hhistory {id : ConnectionId} {c : Connection}
      (hc : ((empty store).run es).registry.find? id = some c) :
      c.session.position.isSome = true ↔ (empty store).HasReported es id :=
    isSome_position_run store few hc
  generalize (empty store).run es = s at *
  -- a display is owed its picture as long as it has reported nothing
  have howed : ∀ {id c}, s.registry.find? id = some c →
      (c.session.snapshotPending = true ↔
        c.role.rendersTraffic = true ∧ ¬ (empty store).HasReported es id) := by
    intro id c hc
    rw [(hplaced id c hc).owed, Bool.and_eq_true, ← hhistory hc, Option.isNone_iff_eq_none,
      Option.not_isSome_iff_eq_none]
    rfl
  refine ⟨fun {id c} hc hpending => ?_, fun {id} hcalls => ?_, fun huncalled => ?_⟩
  · have hdisplay := (howed hc).mp hpending
    rw [← hhistory hc, Option.not_isSome_iff_eq_none] at hdisplay
    exact ⟨Role.rendersTraffic_iff.mp hdisplay.1, hdisplay.2⟩
  · cases hcalls with
    | login live accepted display located =>
      obtain ⟨u, how, hbecomes⟩ := accepted.carried hopen live
      obtain rfl := Registry.id_of_find? live
      rw [hbecomes.registry, shown_of_becomes hbecomes]
      exact (how.login_shown live).1 ⟨Role.rendersTraffic_iff.mpr display, located⟩
    | position live accepted display first =>
      obtain ⟨u, how, hbecomes⟩ := accepted.carried hopen live
      obtain rfl := Registry.id_of_find? live
      rw [hbecomes.registry, shown_of_becomes hbecomes]
      exact (how.position_shown live).1 ((howed live).mpr ⟨Role.rendersTraffic_iff.mpr display, first⟩)
  · obtain ⟨u, happened, hbecomes⟩ := happened_step (e := e) hopen
    rcases happened.disclosure with hplain | ⟨ctx, ⟨message, sender, owner⟩, me, o, rfl, hme, how, -, rfl⟩
    · rw [shown, hbecomes.emitted]
      exact (without_showsOther hplain).filter_eq_nil
    · have haccepts := accepts_of_carried hme how hbecomes
      obtain rfl : me.id = sender := Registry.id_of_find? hme
      rw [shown_of_becomes hbecomes]
      by_cases hlogin : ∃ form, message = .login form
      · obtain ⟨form, rfl⟩ := hlogin
        refine (how.login_shown hme).2 fun ⟨hdisplay, hlocated⟩ => ?_
        exact huncalled me.id (.login hme haccepts (Role.rendersTraffic_iff.mp hdisplay) hlocated)
      · by_cases hposition : ∃ q, message = .position q
        · obtain ⟨q, rfl⟩ := hposition
          refine (how.position_shown hme).2 (Bool.eq_false_iff.mpr fun hpending => ?_)
          obtain ⟨hdisplay, hfirst⟩ := (howed hme).mp hpending
          exact huncalled me.id (.position hme haccepts (Role.rendersTraffic_iff.mp hdisplay) hfirst)
        · exact how.not_shown (fun form hm => hlogin ⟨form, hm⟩) fun q hm => hposition ⟨q, hm⟩

/-- The first pilot reports its first position, and is shown what is around it. -/
theorem pictures_shown_once_meeting :
    ((empty .empty).run Event.meeting).CallsForPicture ((empty .empty).HasReported Event.meeting)
        (.sent 1 (.position ⟨⟨51, 9, 3000⟩, 90, 120, false⟩)) 1 ∧
      ∃ c, (((empty .empty).run Event.meeting).step
          (.sent 1 (.position ⟨⟨51, 9, 3000⟩, 90, 120, false⟩))).registry.find? 1 = some c ∧
        (((empty .empty).run Event.meeting).step
          (.sent 1 (.position ⟨⟨51, 9, 3000⟩, 90, 120, false⟩))).registry.Pictures c
            (((empty .empty).run Event.meeting).shown
              (.sent 1 (.position ⟨⟨51, 9, 3000⟩, 90, 120, false⟩))) := by
  have few : Event.meeting.countP Event.isAccept < 2 ^ 64 - 1 := by decide
  obtain ⟨me, hme, hsession⟩ := Registry.aspect_eq_some_iff.mp
    (show ((empty .empty).run Event.meeting).registry.aspect
        (fun s => (s.role, s.isAuthenticated, s.position.isSome)) 1 = some (.pilot, true, false) by
      decide +kernel)
  simp only [Prod.mk.injEq] at hsession
  obtain ⟨hrole, hauth, hnowhere⟩ := hsession
  have hfirst : ¬ (empty .empty).HasReported Event.meeting 1 := by
    rw [← isSome_position_run .empty few hme, hnowhere]
    exact Bool.false_ne_true
  have hcalls : ((empty .empty).run Event.meeting).CallsForPicture
      ((empty .empty).HasReported Event.meeting)
      (.sent 1 (.position ⟨⟨51, 9, 3000⟩, 90, 120, false⟩)) 1 :=
    .position hme (accepts_position (isOpen_run rfl) hme hauth (by decide +kernel)) (.inl hrole) hfirst
  exact ⟨hcalls, (pictures_shown_once .empty Event.meeting few _).called hcalls⟩

end Relay

end FlightRelay

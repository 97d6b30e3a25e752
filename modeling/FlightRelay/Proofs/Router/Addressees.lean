import FlightRelay.Proofs.Router.Notices
import FlightRelay.Proofs.Router.Soundness

/-!
# Who may be told what

Every kind of message is for connections of one role or another, and most name somebody whom they are
about.  `ServerMessage.IsFor` says this for each kind.  The numbers that messages go to come from clients,
from bindings and from searches of the registry; what an event posts goes to those whom it is for, but
for the word of a pilot who declines somebody: that goes to whomever the pilot names.
-/

namespace FlightRelay

open Outbound Session Registry

/-- The connection whose message an event is. -/
def Event.sender? : Event → Option ConnectionId
  | .message _ envelope => some envelope.sender
  | _ => none

/-- The message may be told to a connection, as an answer to `sender`.  Answers go to those who asked, and
everything else to live connections of a role; what concerns one pilot goes to that pilot or to those who
are bound to it. -/
def ServerMessage.IsFor (r : Registry) (sender : Option ConnectionId) (target : ConnectionId) :
    ServerMessage → Prop
  | .ack _ _ _ | .pong _ _ | .notice _ | .routes _ => sender = some target
  | .serviceOffer _ _ _ _ _ | .serviceCompleted _ _ => r.aspect role target = some .dispatcher
  | .serviceBound pilot _ _ => target = pilot ∧ r.aspect role target = some .pilot
  | .serviceCancelled pilot _ =>
    target = pilot ∧ r.aspect role target = some .pilot ∨ r.aspect role target = some .dispatcher
  | .viewerRequested _ _ => r.aspect role target = some .pilot
  | .viewerBound _ _ | .viewerRejected _ _ => r.aspect role target = some .viewer
  | .viewerCancelled pilot viewer =>
    target = pilot ∧ r.aspect role target = some .pilot ∨
      target = viewer ∧ r.aspect role target = some .viewer
  | .traffic pilot _ _ _ _ =>
    r.aspect role target = some .pilot ∨ r.aspect role target = some .viewer ∨
      r.aspect role target = some .dispatcher ∧ r.aspect Session.dispatcher pilot = some target
  | .trafficRemoved _ => r.aspect role target = some .pilot ∨ r.aspect role target = some .viewer
  | .flightInfo pilot _ _ =>
    r.aspect role target = some .dispatcher ∧ r.aspect Session.dispatcher pilot = some target ∨
      r.aspect role target = some .viewer ∧ r.aspect Session.viewer pilot = some target

/-- The message is the word of a live pilot who declines the connection that it names. -/
def Outbound.Declines (r : Registry) (e : Event) (o : Outbound) : Prop :=
  ∃ ctx pilot owner, e = .message ctx ⟨.viewerReject o.target, pilot, owner⟩ ∧
    r.aspect role pilot = some .pilot ∧ o = batched (.viewerRejected pilot "declined by pilot") o.target

/-- What an event hands on goes to those whom it is for, as they are when it is handed on. -/
structure Relay.Addressed (s : Relay) (e : Event) : Prop where
  /-- Every message is for its target, or tells it that a pilot has declined it. -/
  posts : ∀ o ∈ s.emitted e,
    o.message.IsFor (s.step e).registry e.sender? o.target ∨ o.Declines s.registry e
  /-- Whoever has a role when the event comes, and is live after it, has the same role all the while. -/
  roles : ∀ {id c c'}, s.registry.find? id = some c → c.role ≠ .unidentified →
    (s.step e).registry.find? id = some c' → c'.role = c.role

variable {ctx : RelayContext} {s : Relay} {me c c' : Connection} {m : ClientMessage} {u : Outcome}
  {e : Event} {es : List Event} {o : Outbound} {posts more : List Outbound} {r r' : Registry}
  {removal : Removal} {id : ConnectionId} {sender : Option ConnectionId}

theorem Registry.aspect_role {role : Role} (h : r.find? id = some c) (hrole : c.role = role) :
    r.aspect Session.role id = some role := aspect_eq_some_iff.mpr ⟨c, h, hrole⟩

/-- A display is a pilot or a spectator. -/
theorem Role.rendersTraffic_iff {role : Role} :
    role.rendersTraffic = true ↔ role = .pilot ∨ role = .viewer := by
  cases role <;> decide

/-- A display belongs to a pilot or to a viewer. -/
theorem Registry.aspect_role_display (h : r.find? id = some c) (hdisplay : c.role.rendersTraffic = true) :
    r.aspect role id = some .pilot ∨ r.aspect role id = some .viewer := by
  exact (Role.rendersTraffic_iff.mp hdisplay).imp (aspect_role h) (aspect_role h)

/-! ## Roles -/

/-- The role of a session, and whether it is owed a traffic picture. -/
def Session.display (s : Session) : Role × Bool := (s.role, s.snapshotPending)

/-- Only a login changes the role of a connection, and only that and a position the picture it is owed. -/
theorem Carried.aspect_display (h : Carried ctx s me m u) (hlogin : ∀ form, m ≠ .login form)
    (hposition : ∀ q, m ≠ .position q) :
    u.registry.aspect display id = s.registry.aspect display id := by
  cases h with
  | login => exact absurd rfl (hlogin _)
  | position => exact absurd rfl (hposition _)
  | flightInfo hrole hsession =>
    subst hsession
    exact aspect_modify fun _ => rfl
  | dispatcherStatus => exact aspect_modify fun _ => rfl
  | requested => exact aspect_modify fun _ => rfl
  | serviceBound => exact aspect_modify fun _ => rfl
  | pilotLeft => exact aspect_modify fun _ => rfl
  | pilotWithdrew => exact aspect_modify fun _ => rfl
  | dispatcherLeft => exact aspect_modify fun _ => rfl
  | completed => exact aspect_modify fun _ => rfl
  | @viewerBound viewer v =>
    have hclaimed : (s.registry.modify viewer (following me.id)).aspect display id
        = s.registry.aspect display id := aspect_modify fun _ => rfl
    exact (aspect_modify (f := followedBy viewer) fun _ => rfl).trans hclaimed
  | viewerKept => exact aspect_modify fun _ => rfl
  | viewerDropped hrole hcleared => exact aspect_clearViewer hcleared (fun _ _ => rfl) fun _ _ => rfl
  | viewerLeft hrole hcleared => exact aspect_clearViewer hcleared (fun _ _ => rfl) fun _ _ => rfl
  | viewingEnded hrole hcleared => exact aspect_clearViewer hcleared (fun _ _ => rfl) fun _ _ => rfl
  | _ => rfl

/-- Only a login changes a role. -/
theorem Carried.aspect_role (h : Carried ctx s me m u) (hlogin : ∀ form, m ≠ .login form) :
    u.registry.aspect role id = s.registry.aspect role id := by
  by_cases hposition : ∃ q, m = .position q
  · obtain ⟨q, rfl⟩ := hposition
    cases h with
    | position => exact aspect_modify fun _ => rfl
  · have hdisplay : u.registry.aspect display id = s.registry.aspect display id :=
      h.aspect_display hlogin fun q hq => hposition ⟨q, hq⟩
    have hfst := congrArg (Option.map Prod.fst) hdisplay
    simp only [aspect, Option.map_map] at hfst
    exact hfst

/-- What an event may do to a session that has a role: it keeps the role, and a picture is owed to
displays only. -/
structure Session.Keeps (a b : Session) : Prop where
  role : a.role ≠ .unidentified → b.role = a.role
  owed : b.snapshotPending = true → b.role.rendersTraffic = true ∨
    a.snapshotPending = true ∧ b.role = a.role

/-- What an observer sees of a session depends on its display alone. -/
theorem Session.Keeps.of_display {a b : Session} (h : b.display = a.display) : a.Keeps b := by
  obtain ⟨hrole, hpending⟩ := Prod.mk.inj h
  exact ⟨fun _ => hrole, fun howed => .inr ⟨hpending.symm.trans howed, hrole⟩⟩

/-- A message leaves every session with the role that it has. -/
theorem Carried.keeps (h : Carried ctx s me m u) (hs : s.registry.Sound)
    (hme : s.registry.find? me.id = some me) (hc : s.registry.find? id = some c)
    (hc' : u.registry.find? id = some c') : c.session.Keeps c'.session := by
  have keep : u.registry.aspect display id = s.registry.aspect display id →
      c.session.Keeps c'.session := by
    intro hsame
    rw [aspect_of_find? hc, aspect_of_find? hc'] at hsame
    exact .of_display (Option.some.inj hsame)
  -- a login and a position change displays; each of them that of its sender only
  by_cases hlogin : ∃ form, m = .login form
  · obtain ⟨form, rfl⟩ := hlogin
    cases h with
    | login hrole hfixed =>
      by_cases he : id = me.id
      · subst he
        obtain rfl := Option.some.inj (hme.symm.trans hc)
        obtain rfl := Option.some.inj ((find?_modify_self hme).symm.trans hc')
        refine ⟨fun hidentified => (hfixed (hs.isAuthenticated hme hidentified)).symm, fun howed => ?_⟩
        exact .inl (Bool.and_eq_true_iff.mp howed).1
      · exact keep (aspect_modify_of_ne he)
  · by_cases hposition : ∃ q, m = .position q
    · obtain ⟨q, rfl⟩ := hposition
      cases h with
      | position =>
        by_cases he : id = me.id
        · subst he
          obtain rfl := Option.some.inj (hme.symm.trans hc)
          obtain rfl := Option.some.inj ((find?_modify_self hme).symm.trans hc')
          exact ⟨fun _ => rfl, fun howed => by cases howed⟩
        · exact keep (aspect_modify_of_ne he)
    · exact keep (h.aspect_display (fun form hm => hlogin ⟨form, hm⟩) fun q hm => hposition ⟨q, hm⟩)

/-- An event leaves every session with the role that it has. -/
theorem Happened.keeps (h : Happened s e u) (hs : s.registry.Sound)
    (hc : s.registry.find? id = some c) (hc' : u.registry.find? id = some c') :
    c.session.Keeps c'.session := by
  have keep : u.registry.find? id = s.registry.find? id → c.session.Keeps c'.session := by
    intro hsame
    rw [hc, hc'] at hsame
    obtain rfl := Option.some.inj hsame
    exact .of_display rfl
  cases h with
  | accepted hadded =>
    obtain ⟨hfree, -, -, hfound⟩ := accept_eq_ok hadded
    refine keep ?_
    rw [hfound, if_neg]
    rintro rfl
    exact absurd (contains_of_find? hc) (by rw [hfree]; exact Bool.false_ne_true)
  | @carried ctx envelope me o hlive how =>
    have hme : s.counted.registry.find? me.id = some me := by
      rw [id_of_find? hlive]
      exact hlive
    exact how.keeps hs hme hc hc'
  | departed hremoved =>
    obtain ⟨-, -, -, -, hfound⟩ := remove_eq_some hremoved
    rw [hfound, hc] at hc'
    split at hc'
    · cases hc'
    · obtain rfl := Option.some.inj hc'
      exact .of_display rfl
  | _ => exact keep rfl

/-- A picture is owed to displays only. -/
def Registry.OwesDisplays (r : Registry) : Prop :=
  ∀ id c, r.find? id = some c → c.session.snapshotPending = true → c.role.rendersTraffic = true

/-- No event owes a picture to anyone but a display. -/
theorem Happened.owesDisplays (h : Happened s e u) (hs : s.registry.Sound)
    (howes : s.registry.OwesDisplays) : u.registry.OwesDisplays := by
  intro id c' hc' howed
  cases hc : s.registry.find? id with
  | none =>
    obtain ⟨remote, d, now, rfl⟩ := h.fresh hc hc'
    cases howed
  | some c =>
    rcases (h.keeps hs hc hc').owed howed with hdisplay | ⟨hbefore, hrole⟩
    · exact hdisplay
    · show c'.session.role.rendersTraffic = true
      rw [hrole]
      exact howes id c hc hbefore

namespace Relay

/-- In every run, pictures are owed to displays only. -/
theorem owesDisplays_run {n : Nat} (h : s.Steady n) (howes : s.registry.OwesDisplays)
    (few : n + es.countP Event.isAccept < 2 ^ 64 - 1) : (s.run es).registry.OwesDisplays := by
  induction es generalizing s n with
  | nil => exact howes
  | cons e es ih =>
    rw [accepts_cons] at few
    obtain ⟨u, happened, hbecomes⟩ := happened_step (e := e) h.isOpen
    refine ih (h.step (by omega)) ?_ few
    rw [hbecomes.registry]
    exact happened.owesDisplays h.sound howes

/-- Wherever a run leads, pictures are owed to displays only. -/
theorem Reachable.owesDisplays (h : s.Reachable) : s.registry.OwesDisplays := by
  obtain ⟨store, es, few, rfl⟩ := h
  exact owesDisplays_run (steady_empty store) (fun id c h => by cases h) (by omega)

end Relay

/-! ## Groups of posts -/

/-- All posts are for those to whom they go. -/
def Registry.Suits (r : Registry) (sender : Option ConnectionId) (posts : List Outbound) : Prop :=
  ∀ o ∈ posts, o.message.IsFor r sender o.target

namespace Registry

theorem Suits.nil : r.Suits sender [] := fun _ h => by cases h

/-- One more message that its target may get. -/
theorem Suits.cons (h : o.message.IsFor r sender o.target) (hposts : r.Suits sender posts) :
    r.Suits sender (o :: posts) := by
  intro p hp
  rcases List.mem_cons.mp hp with rfl | hp
  · exact h
  · exact hposts p hp

/-- Messages that suit in two parts suit as a whole. -/
theorem Suits.append (h : r.Suits sender posts) (h' : r.Suits sender more) :
    r.Suits sender (posts ++ more) := by
  intro p hp
  rcases List.mem_append.mp hp with hp | hp
  · exact h p hp
  · exact h' p hp

theorem Suits.ite {condition : Prop} [Decidable condition] (h : condition → r.Suits sender posts) :
    r.Suits sender (if condition then posts else []) := by
  split
  · exact h ‹_›
  · exact .nil

/-- An answer is for whoever asked. -/
theorem suits_answer {request : String} {ok : Bool} {error : Option String} :
    r.Suits (some id) [batched (.ack request ok error) id] := .cons rfl .nil

/-- A picture is for a display. -/
theorem suits_firstPicture (hc : r.find? me.id = some c) (hdisplay : c.role.rendersTraffic = true) :
    r.Suits sender (r'.firstPicture me) := by
  intro o ho
  obtain ⟨d, q, -, -, -, -, rfl⟩ := mem_firstPicture ho
  exact (aspect_role_display hc hdisplay).imp_right .inl

/-- A pilot's position is for its viewer, or for its dispatcher and for displays. -/
theorem suits_positionReports {q : Position} (hs : r.Sound) (hc : r.find? me.id = some c)
    (hviewer : c.session.viewer = me.session.viewer)
    (hdispatcher : c.session.dispatcher = me.session.dispatcher) :
    r.Suits sender (r.positionReports me q) := by
  unfold positionReports
  split
  · rename_i hviewed
    rw [← hviewer] at hviewed ⊢
    obtain ⟨-, v, hv, hvrole, -⟩ := hs.viewed hc hviewed
    exact .cons (.inr (.inl (aspect_role hv hvrole))) .nil
  · refine .append (.ite fun _ o ho => ?_) fun o ho => ?_
    · have hrole := role_of_mem_toDispatcher ho
      obtain rfl := mem_toDispatcher ho
      exact .inr (.inr ⟨hrole, (aspect_of_find? hc).trans (congrArg some hdispatcher)⟩)
    · obtain ⟨d, hd, rfl⟩ := List.mem_map.mp ho
      obtain ⟨hlive, hkeep⟩ := mem_within hd
      exact (aspect_role_display hlive (Bool.and_eq_true_iff.mp hkeep).2).imp_right .inl

/-- A flight plan is for the dispatcher and the viewer of its pilot. -/
theorem suits_planReports {plan : FlightPlan} (hs : r.Sound) (hc : r.find? me.id = some c)
    (hviewer : c.session.viewer = me.session.viewer)
    (hdispatcher : c.session.dispatcher = me.session.dispatcher) :
    r.Suits sender (r.planReports me plan) := by
  refine .append (.ite fun _ o ho => ?_) (.ite fun hviewed => ?_)
  · have hrole := role_of_mem_toDispatcher ho
    obtain rfl := mem_toDispatcher ho
    exact .inl ⟨hrole, (aspect_of_find? hc).trans (congrArg some hdispatcher)⟩
  · rw [← hviewer] at hviewed ⊢
    obtain ⟨-, v, hv, hvrole, -⟩ := hs.viewed hc hviewed
    exact .cons (.inr ⟨aspect_role hv hvrole, aspect_of_find? hc⟩) .nil

/-- The dispatchers on duty may hear that a request is cancelled. -/
theorem suits_toDuty {reason : String} {skip : Option ConnectionId} :
    r.Suits sender (r.toDuty (.serviceCancelled id reason) skip) := by
  intro o ho
  have hrole := role_of_mem_toDuty ho
  rw [mem_toDuty ho]
  exact .inr hrole

/-- Whoever hears of a withdrawal is a dispatcher. -/
theorem suits_withdrawal {reason : String} {dispatcher : ConnectionId} :
    r.Suits sender (r.withdrawal (.serviceCancelled id reason) dispatcher) := by
  unfold withdrawal
  split
  · rename_i hlive
    obtain ⟨d, hd, hrole⟩ := (Option.any_eq_true _ _).mp hlive
    exact .cons (.inr (aspect_role hd (of_decide_eq_true hrole))) .nil
  · exact suits_toDuty

/-- Whoever hears of a completion is a dispatcher. -/
theorem suits_completion {remarks : String} {user : Option UserId} :
    r.Suits sender (r.completion (.serviceCompleted id remarks) user) := by
  unfold completion
  split
  · intro o ho
    have hrole := role_of_mem_toDispatcher ho
    rw [mem_toDispatcher ho] at hrole ⊢
    exact hrole
  · exact .nil

/-! ## Departures -/

/-- What those who were bound to a connection hear is for them. -/
theorem suits_bindingFarewell (hs : s.registry.Sound) (h : s.registry.remove id = some (removal, r)) :
    r.Suits sender (bindingFarewell removal) := by
  obtain ⟨hgone, -, -, hcleared, hfound⟩ := remove_eq_some h
  have hid : removal.snapshot.id = id := id_of_find? hgone
  have hbound : id ≠ noConnection := (hs.numbered hgone).1
  intro o ho
  obtain ⟨notice, hnotice, rfl⟩ := List.mem_map.mp ho
  obtain ⟨b, hb, rfl⟩ := List.mem_map.mp hnotice
  rw [hcleared] at hb
  obtain ⟨c, hc, hbinding⟩ := List.mem_flatMap.mp hb
  obtain ⟨hmem, hne⟩ := List.mem_filter.mp hc
  -- whoever is bound to another connection as a pilot is still one when that is gone
  have hlive := find?_of_mem hmem
  have hafter : c.role = .pilot → r.aspect role c.id = some .pilot := by
    intro hpilot
    refine aspect_eq_some_iff.mpr ⟨c.withSession (forget id), ?_, hpilot⟩
    rw [hfound, if_neg (of_decide_eq_true hne), hlive]
    rfl
  rcases List.mem_append.mp hbinding with hbinding | hbinding
  · split at hbinding
    · rename_i hserved
      rw [List.mem_singleton.mp hbinding]
      have hpilot := ((hs.coherent hlive).served (by rw [hserved]; exact hbound)).1
      exact .inl ⟨rfl, hafter hpilot⟩
    · cases hbinding
  · split at hbinding
    · rename_i hviewed
      rw [List.mem_singleton.mp hbinding]
      have hpilot := (hs.viewed hlive (by rw [hviewed]; exact hbound)).1
      exact .inl ⟨rfl, hafter hpilot⟩
    · cases hbinding

/-- All that is posted when a connection is gone is for those to whom it goes. -/
theorem suits_farewells (hs : s.registry.Sound) (h : s.registry.remove id = some (removal, r)) :
    r.Suits sender (r.farewells removal) := by
  refine .append (suits_bindingFarewell hs h) (.ite fun hpilot => .append ?_ ?_)
  · unfold serviceFarewell
    split
    · exact .ite fun _ => suits_toDuty
    · exact suits_withdrawal
  · unfold trafficFarewell
    split
    · -- the viewer follows the pilot that is gone, so it is not that one itself
      rename_i hviewed
      obtain ⟨hgone, -, -, -, hfound⟩ := remove_eq_some h
      obtain ⟨-, v, hv, hvrole, -⟩ := hs.viewed hgone hviewed
      have hne : removal.snapshot.session.viewer ≠ id :=
        ne_of_role hv hgone hvrole hpilot (by decide)
      have hafter : r.find? removal.snapshot.session.viewer = some (v.withSession (forget id)) := by
        rw [hfound, if_neg hne, hv]
        rfl
      exact .cons (.inr ⟨rfl, aspect_role hafter hvrole⟩) .nil
    · split
      · exact .nil
      · intro o ho
        obtain ⟨d, hd, rfl⟩ := List.mem_map.mp ho
        obtain ⟨hlive, hkeep⟩ := mem_within hd
        exact aspect_role_display hlive (Bool.and_eq_true_iff.mp hkeep).1

end Registry

/-! ## One message -/

/-- What a message other than a rejection posts when it is carried out is for those to whom it goes. -/
theorem Carried.suits (h : Carried ctx s me m u) (hs : s.registry.Sound)
    (howes : s.registry.OwesDisplays) (hme : s.registry.find? me.id = some me)
    (hm : ∀ viewer, m ≠ .viewerReject viewer) : u.registry.Suits (some me.id) u.posts := by
  have hsound := h.sound hs hme
  -- but for a login, whoever had a role when the message came still has it
  have hroles : (∀ form, m ≠ .login form) → ∀ {id c role}, s.registry.find? id = some c →
      c.role = role → u.registry.aspect Session.role id = some role :=
    fun hlogin {id c role} hc hrole => (h.aspect_role hlogin).trans (Registry.aspect_role hc hrole)
  cases h with
  | @login form profile k hrole hfixed hknown hpermitted hsession =>
    have hself := find?_modify_self (f := welcomed form (Text.trim form.callsign) profile.userId
      ctx.defaults) hme
    subst hsession
    exact .cons rfl (.ite fun hdisplay => suits_firstPicture hself hdisplay)
  | ping => exact .cons rfl .nil
  | @position q k hauth hvalid hsession =>
    have hself := find?_modify_self (f := reported q) hme
    subst hsession
    exact .append (.ite fun howed => suits_firstPicture hself (howes me.id me hme howed))
      (.ite fun _ => suits_positionReports hsound hself rfl rfl)
  | flightInfo hrole hsession =>
    subst hsession
    exact suits_planReports hsound (find?_modify_self hme) rfl rfl
  | requested =>
    refine .append (fun o ho => ?_) (.cons rfl fun o ho => ?_)
    · obtain ⟨d, distance, hd, havailable, rfl⟩ := mem_offers ho
      exact hroles (fun form h => by cases h) hd (isAvailableDispatcher_iff.mp havailable).1
    · obtain ⟨text, rfl⟩ := mem_requestNotices ho
      rfl
  | serviceBound hrole havailable hlive hpilot =>
    exact .cons rfl (.cons ⟨rfl, hroles (fun form h => by cases h) hlive hpilot⟩ .nil)
  | pilotLeft => exact .append suits_withdrawal suits_answer
  | pilotWithdrew => exact .append suits_toDuty suits_answer
  | dispatcherLeft hrole hlive hserved hbound =>
    -- whoever is served is a pilot
    have hpilot := ((hs.coherent hlive).served (by rw [hserved]; exact hbound)).1
    exact .cons (.inl ⟨rfl, hroles (fun form h => by cases h) hlive hpilot⟩) suits_answer
  | completed => exact .append suits_completion suits_answer
  | viewerAsked hrole hlive hpilot =>
    exact .cons (hroles (fun form h => by cases h) hlive hpilot) suits_answer
  | viewerBound hrole hlive hviewer =>
    have hspectator := hroles (fun form h => by cases h) hlive hviewer
    refine .cons hspectator (.append (fun o ho => ?_) suits_answer)
    obtain ⟨message, hmessage, rfl⟩ := Option.map_eq_some_iff.mp (Option.mem_toList.mp ho)
    obtain ⟨q, -, rfl⟩ := Option.map_eq_some_iff.mp hmessage
    exact .inr (.inl hspectator)
  | viewerDropped => exact absurd rfl (hm _)
  | viewerDeclined => exact absurd rfl (hm _)
  | viewerLeft hrole hcleared =>
    obtain ⟨p, hp, hviewer, hbound, -⟩ := clearViewer_eq_some hcleared
    have hpilot := (hs.viewed hp (hviewer ▸ hbound)).1
    exact .cons (.inl ⟨rfl, hroles (fun form h => by cases h) hp hpilot⟩) suits_answer
  | viewingEnded hrole hcleared =>
    obtain ⟨p, hp, rfl, hbound, -⟩ := clearViewer_eq_some hcleared
    obtain ⟨-, v, hv, hviewer, -⟩ := hs.viewed hp hbound
    exact .cons (.inr ⟨rfl, hroles (fun form h => by cases h) hv hviewer⟩) suits_answer
  | routesLoaded => exact .cons rfl .nil
  | _ => exact suits_answer

/-- A rejection is answered, and tells whomever it names that the pilot has declined. -/
theorem Carried.rejection {viewer : ConnectionId} (h : Carried ctx s me (.viewerReject viewer) u) :
    me.role = .pilot ∧ u.posts = [batched (.viewerRejected me.id "declined by pilot") viewer,
      batched (.accepted "viewer_reject") me.id] := by
  cases h with
  | viewerDropped hrole => exact ⟨hrole, rfl⟩
  | viewerDeclined hrole => exact ⟨hrole, rfl⟩

/-! ## One event -/

/-- What an event posts is for those to whom it goes, or declines somebody. -/
theorem Happened.addressed (h : Happened s e u) (hs : s.registry.Sound)
    (howes : s.registry.OwesDisplays) (ho : o ∈ u.posts) :
    o.message.IsFor u.registry e.sender? o.target ∨ o.Declines s.registry e := by
  cases h with
  | @refused ctx envelope me failure warnings failures hlive hwarn hwarned =>
    refine .inl ?_
    rcases List.mem_append.mp ho with ho | ho
    · have hwarning := hwarn o (mem_of_mem_mail ho)
      have hrole := hwarned o (mem_of_mem_mail ho)
      cases hmessage : o.message <;> rw [hmessage] at hwarning hrole <;>
        first | exact hrole | exact .inr hrole | cases hwarning
    · rw [List.mem_singleton.mp ho]
      rfl
  | @carried ctx envelope me u hlive how =>
    have hid := id_of_find? hlive
    have hme : s.counted.registry.find? me.id = some me := by
      rw [hid]
      exact hlive
    obtain ⟨message, sender, owner⟩ := envelope
    have hmail : o ∈ s.registry.mail true u.posts := ho
    have hposted := mem_of_mem_mail hmail
    -- a rejection goes to whoever it names, and is the one exception
    by_cases hrejects : ∃ viewer, message = .viewerReject viewer
    · obtain ⟨viewer, rfl⟩ := hrejects
      obtain ⟨hrole, hposts⟩ := how.rejection
      rw [hposts] at hposted
      rcases List.mem_cons.mp hposted with rfl | hposted
      · obtain rfl : me.id = sender := hid
        exact .inr ⟨ctx, me.id, owner, rfl, aspect_role hlive hrole, rfl⟩
      · rw [List.mem_singleton.mp hposted]
        exact .inl (congrArg some hid.symm)
    · have hsuits := how.suits hs howes hme (fun viewer hm => hrejects ⟨viewer, hm⟩) o hposted
      rw [hid] at hsuits
      exact .inl hsuits
  | @departed id removal r hremoved =>
    have hmail : o ∈ r.mail true (r.farewells removal) := ho
    exact .inl (suits_farewells hs hremoved o (mem_of_mem_mail hmail))
  | _ => cases ho

namespace Relay

/-- In every relay that a run leads to, what an event hands on goes to those whom it is for, whatever
number a client has put into its message; but a pilot who declines a connection is heard by that one,
whatever its role. -/
theorem emitted_addressed (h : s.Reachable) (e : Event) : s.Addressed e := by
  obtain ⟨n, -, hsteady⟩ := h.steady
  obtain ⟨u, happened, hbecomes⟩ := happened_step (e := e) hsteady.isOpen
  refine ⟨fun o ho => ?_, fun {id c c'} hc hrole hc' => ?_⟩
  · rw [hbecomes.emitted] at ho
    rw [hbecomes.registry]
    exact happened.addressed hsteady.sound h.owesDisplays ho
  · rw [hbecomes.registry] at hc'
    exact (happened.keeps hsteady.sound hc hc').role hrole

/-- A spectator stops following, and it is the pilot that hears of it. -/
theorem emitted_addressed_boarding :
    ((empty .empty).run Event.boarding).emitted (.sent 3 (.viewerCancel (some 1)))
        = [batched (.viewerCancelled 1 3) 1, batched (.accepted "viewer_cancel") 3] ∧
      (((empty .empty).run Event.boarding).step (.sent 3 (.viewerCancel (some 1)))).registry.aspect role 1
        = some .pilot := by
  have hemitted : ((empty .empty).run Event.boarding).emitted (.sent 3 (.viewerCancel (some 1)))
      = [batched (.viewerCancelled 1 3) 1, batched (.accepted "viewer_cancel") 3] := rfl
  refine ⟨hemitted, ?_⟩
  rcases (emitted_addressed reachable_boarding (.sent 3 (.viewerCancel (some 1)))).posts
    (batched (.viewerCancelled 1 3) 1) (by rw [hemitted]; exact List.mem_cons_self) with
    (⟨-, hpilot⟩ | ⟨hviewer, -⟩) | ⟨ctx, pilot, owner, hrejects, -⟩
  · exact hpilot
  · exact absurd hviewer (by decide)
  · cases hrejects

/-- A pilot declines a dispatcher, and the dispatcher is told what only a spectator should be told. -/
theorem rejection_to_dispatcher :
    ((empty .empty).run Event.boarding).Reachable ∧
      ((empty .empty).run Event.boarding).emitted (.sent 1 (.viewerReject 2))
        = [batched (.viewerRejected 1 "declined by pilot") 2,
          batched (.accepted "viewer_reject") 1] ∧
      ((empty .empty).run (Event.boarding ++ [.sent 1 (.viewerReject 2)])).registry.aspect role 2
        = some .dispatcher ∧
      ¬ (ServerMessage.viewerRejected 1 "declined by pilot").IsFor
        ((empty .empty).run (Event.boarding ++ [.sent 1 (.viewerReject 2)])).registry (some 1) 2 := by
  have hrole : ((empty .empty).run
      (Event.boarding ++ [.sent 1 (.viewerReject 2)])).registry.aspect role 2 = some .dispatcher := by
    decide
  refine ⟨reachable_boarding, rfl, hrole, fun hfor => ?_⟩
  cases hrole.symm.trans hfor

end Relay

end FlightRelay

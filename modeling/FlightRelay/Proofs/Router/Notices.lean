import FlightRelay.Proofs.Registry.Proximity
import FlightRelay.Proofs.Router.Run

/-!
# Who is told what

For each group of messages that an event posts: what each of them says, and to whom it goes.
-/

namespace FlightRelay

open Outbound Handler

variable {r : Registry} {me gone : Connection} {o : Outbound} {message : ServerMessage}
  {posts more before told after : List Outbound} {kind : ServerMessage → Bool}

/-! ## Posts without a kind of message -/

/-- None of the posts is of a kind. -/
def Without (kind : ServerMessage → Bool) (posts : List Outbound) : Prop :=
  ∀ p ∈ posts, kind p.message = false

namespace Without

theorem nil : Without kind [] := fun _ h => by cases h

theorem append (h : Without kind posts) (h' : Without kind more) : Without kind (posts ++ more) := by
  intro p hp
  rcases List.mem_append.mp hp with hp | hp
  · exact h p hp
  · exact h' p hp

theorem cons (h : kind o.message = false) (h' : Without kind posts) : Without kind (o :: posts) := by
  intro p hp
  rcases List.mem_cons.mp hp with rfl | hp
  · exact h
  · exact h' p hp

theorem ite {c : Prop} [Decidable c] (h : Without kind posts) :
    Without kind (if c then posts else []) := by
  split
  · exact h
  · exact nil

/-- Posts that all say the same are all of the kind of that. -/
theorem of_message (h : ∀ p ∈ posts, p.message = message) (hm : kind message = false) :
    Without kind posts := fun p hp => h p hp ▸ hm

theorem singleton {target : ConnectionId} (h : kind message = false) :
    Without kind [batched message target] := cons h nil

/-- What is handed on was posted. -/
theorem mail {isOpen : Bool} (h : Without kind posts) : Without kind (r.mail isOpen posts) :=
  fun p hp => h p (Registry.mem_of_mem_mail hp)

end Without

/-! ## Picking out one kind -/

theorem Without.filter_eq_nil (h : Without kind posts) :
    posts.filter (fun o => kind o.message) = [] := by
  rw [List.filter_eq_nil_iff]
  intro o ho
  rw [h o ho]
  exact Bool.false_ne_true

/-- Between posts without a kind, those of the kind are picked out. -/
theorem filter_around (hbefore : Without kind before) (hafter : Without kind after)
    (htold : ∀ o ∈ told, kind o.message = true) :
    (before ++ (told ++ after)).filter (fun o => kind o.message) = told := by
  rw [List.filter_append, List.filter_append, hbefore.filter_eq_nil, hafter.filter_eq_nil,
    List.filter_eq_self.mpr htold, List.nil_append, List.append_nil]

/-- One message of the kind among others is found alone. -/
theorem filter_one (hbefore : Without kind before) (hafter : Without kind after)
    (hkind : kind o.message = true) :
    (before ++ o :: after).filter (fun o => kind o.message) = [o] := by
  rw [List.filter_append, List.filter_cons, if_pos hkind, hbefore.filter_eq_nil,
    hafter.filter_eq_nil, List.nil_append]

/-- What was posted of a kind to live connections is what is handed on of it. -/
theorem Registry.filter_mail (h : posts.filter (fun o => kind o.message) = told)
    (hlive : ∀ o ∈ told, r.contains o.target = true) :
    (r.mail true posts).filter (fun o => kind o.message) = told := by
  rw [mail_true, List.filter_comm, h, ← mail_true, mail_eq_self hlive]

/-- One message of the kind is mailed if its target is live. -/
theorem Registry.filter_mail_singleton
    (h : posts.filter (fun o => kind o.message) = [o]) (hlive : r.contains o.target = true) :
    (r.mail true posts).filter (fun o => kind o.message) = [o] := by
  refine filter_mail h fun o' ho' => ?_
  rw [List.mem_singleton.mp ho']
  exact hlive

/-! ## Traffic -/

/-- A first picture is made of pilots whom nobody follows, and goes to its owner. -/
theorem Registry.mem_firstPicture (h : o ∈ r.firstPicture me) :
    ∃ c p, r.find? c.id = some c ∧ c.id ≠ me.id ∧ c.role = .pilot ∧ c.session.viewer = noConnection ∧
      o = batched (trafficAt c p) me.id := by
  unfold firstPicture at h
  split at h
  · obtain ⟨m, hm, rfl⟩ := List.mem_map.mp h
    obtain ⟨c, hc, htraffic⟩ := List.mem_filterMap.mp hm
    obtain ⟨p, -, rfl⟩ := Option.map_eq_some_iff.mp htraffic
    obtain ⟨⟨c', d⟩, hnear, rfl⟩ := List.mem_map.mp hc
    -- the nearest of those who are within range were selected by what they are
    obtain ⟨hlive, hkeep⟩ := mem_within (List.mem_of_mem_take hnear)
    simp only [Bool.and_eq_true, decide_eq_true_eq] at hkeep
    exact ⟨c', p, hlive, hkeep.1.1, hkeep.1.2, hkeep.2, rfl⟩
  · cases h

/-- Traffic reports are all that a first picture and a first sight consist of. -/
theorem without_firstPicture
    (h : ∀ id callsign p distance time, kind (.traffic id callsign p distance time) = false) :
    Without kind (r.firstPicture me) := by
  intro p hp
  obtain ⟨c, q, -, -, -, -, rfl⟩ := Registry.mem_firstPicture hp
  exact h _ _ _ _ _

/-- The sender's own position, shown to a viewer, is traffic and nothing else. -/
theorem without_trafficOf {target : ConnectionId}
    (h : ∀ id callsign p distance time, kind (.traffic id callsign p distance time) = false) :
    Without kind ((trafficOf me).map fun m => batched m target).toList := by
  intro p hp
  obtain ⟨traffic, htraffic, rfl⟩ := Option.map_eq_some_iff.mp (Option.mem_toList.mp hp)
  obtain ⟨q, -, rfl⟩ := Option.map_eq_some_iff.mp htraffic
  exact h _ _ _ _ _

/-- A pilot's new position is all that its report says; if it has a viewer, only that hears of it. -/
theorem Registry.mem_positionReports {p : Position} (h : o ∈ r.positionReports me p) :
    o.message = trafficAt me p ∧
      (me.session.viewer ≠ noConnection → o.target = me.session.viewer) := by
  unfold positionReports at h
  split at h
  · rw [List.mem_singleton.mp h]
    exact ⟨rfl, fun _ => rfl⟩
  · rename_i hunviewed
    refine ⟨?_, fun hviewed => absurd hviewed hunviewed⟩
    rcases List.mem_append.mp h with h | h
    · split at h
      · rw [mem_toDispatcher h]
        rfl
      · cases h
    · obtain ⟨d, -, rfl⟩ := List.mem_map.mp h
      rfl

/-- A flight plan goes to the dispatcher and the viewer of its pilot. -/
theorem Registry.mem_planReports {plan : FlightPlan} (h : o ∈ r.planReports me plan) :
    o.message = .flightInfo me.id me.session.callsign plan ∧
      ((me.session.dispatcher ≠ noConnection ∧ o.target = me.session.dispatcher) ∨
        (me.session.viewer ≠ noConnection ∧ o.target = me.session.viewer)) := by
  unfold planReports at h
  rcases List.mem_append.mp h with h | h
  · split at h
    · rename_i hserved
      rw [mem_toDispatcher h]
      exact ⟨rfl, .inl ⟨hserved, rfl⟩⟩
    · cases h
  · split at h
    · rename_i hviewed
      rw [List.mem_singleton.mp h]
      exact ⟨rfl, .inr ⟨hviewed, rfl⟩⟩
    · cases h

/-! ## Dispatch service -/

/-- An offer tells of the pilot who asks, and goes to a live dispatcher. -/
theorem Registry.mem_offers {location : Geo.Point} {note : String} (h : o ∈ r.offers me location note) :
    ∃ d distance, r.find? d.id = some d ∧ d.session.isAvailableDispatcher = true ∧
      o = batched (.serviceOffer me.id me.session.callsign (some location) distance note) d.id := by
  obtain ⟨d, hd, hoffer⟩ := List.mem_filterMap.mp h
  obtain ⟨hmem, havailable⟩ := List.mem_filter.mp hd
  obtain ⟨distance, -, rfl⟩ := Option.map_eq_some_iff.mp hoffer
  exact ⟨d, distance, find?_of_mem hmem, havailable, rfl⟩

/-- What is told of an open request besides the offers is told in notices. -/
theorem mem_requestNotices {id : ConnectionId} {offered uncovered : Nat}
    (h : o ∈ requestNotices id offered uncovered) : ∃ text, o = batched (.notice text) id := by
  unfold requestNotices at h
  rcases List.mem_append.mp h with h | h
  · split at h
    · exact ⟨_, List.mem_singleton.mp h⟩
    · cases h
  · split at h
    · exact ⟨_, List.mem_singleton.mp h⟩
    · cases h

/-- A withdrawal is the one message that is given. -/
theorem Registry.mem_withdrawal {dispatcher : ConnectionId} (h : o ∈ r.withdrawal message dispatcher) :
    o.message = message := by
  unfold withdrawal at h
  split at h
  · rw [List.mem_singleton.mp h]
    rfl
  · exact mem_toDuty h

/-- A completion is the one message that is given. -/
theorem Registry.mem_completion {user : Option UserId} (h : o ∈ r.completion message user) :
    o.message = message := by
  unfold completion at h
  split at h
  · rw [mem_toDispatcher h]
    rfl
  · cases h

/-! ## Departures -/

/-- A message that tells of an end. -/
def ServerMessage.isFarewell : ServerMessage → Bool
  | .serviceCancelled _ _ | .viewerCancelled _ _ | .trafficRemoved _ => true
  | _ => false

/-- To the counterparts of its bindings, the departed sends farewells. -/
theorem Registry.mem_bindingFarewell {removal : Removal} (h : o ∈ bindingFarewell removal) :
    o.message.isFarewell = true := by
  obtain ⟨m, hm, rfl⟩ := List.mem_map.mp h
  obtain ⟨b, -, rfl⟩ := List.mem_map.mp hm
  unfold Relay.clearedNotice
  cases b.kind <;> rfl

/-- The service of a departed pilot ends with the one reason. -/
theorem Registry.mem_serviceFarewell (h : o ∈ r.serviceFarewell gone) :
    o.message = .serviceCancelled gone.id "pilot disconnected" := by
  unfold serviceFarewell at h
  split at h
  · split at h
    · exact mem_toDuty h
    · cases h
  · exact mem_withdrawal h

/-- Whoever followed the pilot hears that the viewing is over; the other displays take it down. -/
theorem Registry.mem_trafficFarewell (h : o ∈ r.trafficFarewell gone) :
    o.message = .viewerCancelled gone.id gone.session.viewer ∨ o.message = .trafficRemoved gone.id := by
  unfold trafficFarewell at h
  split at h
  · rw [List.mem_singleton.mp h]
    exact .inl rfl
  · split at h
    · cases h
    · obtain ⟨d, -, rfl⟩ := List.mem_map.mp h
      exact .inr rfl

/-- All that is posted when a connection is gone tells of an end. -/
theorem Registry.mem_farewells {removal : Removal} (h : o ∈ r.farewells removal) :
    o.message.isFarewell = true := by
  unfold farewells at h
  rcases List.mem_append.mp h with h | h
  · exact mem_bindingFarewell h
  · split at h
    · rcases List.mem_append.mp h with h | h
      · rw [mem_serviceFarewell h]
        rfl
      · rcases mem_trafficFarewell h with hm | hm
        · rw [hm]
          rfl
        · rw [hm]
          rfl
    · cases h

/-! ## Messages that give something away -/

/-- The message tells where somebody is or where it flies to, or hands a pilot over. -/
def ServerMessage.isPersonal : ServerMessage → Bool
  | .traffic _ _ _ _ _ | .flightInfo _ _ _ | .serviceBound _ _ _ => true
  | _ => false

/-- Carrying out the message may give something away. -/
def ClientMessage.discloses : ClientMessage → Bool
  | .login _ | .position _ | .flightInfo _ | .serviceAccept _ | .viewerAccept _ => true
  | _ => false

/-- Most messages give nothing away. -/
theorem Carried.impersonal {ctx : RelayContext} {s : Relay} {m : ClientMessage} {u : Outcome}
    (h : Carried ctx s me m u) (hm : m.discloses = false) :
    Without ServerMessage.isPersonal u.posts := by
  cases h with
  | login => cases hm
  | ping => exact .cons rfl .nil
  | position => cases hm
  | flightInfo => cases hm
  | dispatcherStatus => exact .singleton rfl
  | requested =>
    refine .append (fun p hp => ?_) (.cons rfl fun p hp => ?_)
    · obtain ⟨d, distance, -, -, rfl⟩ := Registry.mem_offers hp
      rfl
    · obtain ⟨text, rfl⟩ := mem_requestNotices hp
      rfl
  | serviceBound => cases hm
  | serviceKept => cases hm
  | pilotLeft => exact .append (.of_message (fun p hp => Registry.mem_withdrawal hp) rfl) (.singleton rfl)
  | pilotWithdrew => exact .append (.of_message (fun p hp => Registry.mem_toDuty hp) rfl) (.singleton rfl)
  | dispatcherLeft => exact .cons rfl (.singleton rfl)
  | completed => exact .append (.of_message (fun p hp => Registry.mem_completion hp) rfl) (.singleton rfl)
  | viewerBound => cases hm
  | viewerKept => cases hm
  | viewerKnown => exact .singleton rfl
  | nothingEnded => exact .singleton rfl
  | routeSaved => exact .singleton rfl
  | routesLoaded => exact .singleton rfl
  | _ => exact .cons rfl (.singleton rfl)

/-- An event gives nothing away unless it is a message that does so and is carried out. -/
theorem Happened.disclosure {s : Relay} {e : Event} {u : Outcome} (h : Happened s e u) :
    Without ServerMessage.isPersonal u.posts ∨
      ∃ ctx envelope me o, e = .message ctx envelope ∧ s.registry.find? envelope.sender = some me ∧
        Carried ctx s.counted me envelope.message o ∧ envelope.message.discloses = true ∧
        u = { o with posts := s.registry.mail true o.posts } := by
  have farewell : ∀ {message : ServerMessage}, message.isFarewell = true →
      message.isPersonal = false := by
    intro message hm
    cases message <;> first | rfl | cases hm
  cases h with
  | refused failures hlive hwarn =>
    refine .inl (.append (.mail fun p hp => ?_) (.singleton rfl))
    have hwarning := hwarn p hp
    cases hm : p.message <;> rw [hm] at hwarning <;> first | rfl | cases hwarning
  | @carried ctx envelope me o hlive how =>
    cases hm : envelope.message.discloses with
    | false =>
      have hposts : Without ServerMessage.isPersonal (s.registry.mail true o.posts) :=
        (how.impersonal hm).mail
      exact .inl hposts
    | true => exact .inr ⟨ctx, envelope, me, o, rfl, hlive, how, hm, rfl⟩
  | @departed id removal r hremoved =>
    have hposts : Without ServerMessage.isPersonal (r.mail true (r.farewells removal)) :=
      .mail fun p hp => farewell (Registry.mem_farewells hp)
    exact .inl hposts
  | _ => exact .inl .nil

end FlightRelay

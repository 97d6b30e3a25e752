import FlightRelay.Proofs.Registry.Lookup
import FlightRelay.Router.Basic

/-!
# Mail

A relay posts messages; those whose target is registered at that moment are handed on, in the order in
which they were posted.  Sending in any of the ways of the router is posting, and changes nothing but the
outbox.
-/

namespace FlightRelay

namespace Outbound

/-- A message that goes with the next batch. -/
def batched (message : ServerMessage) (target : ConnectionId) : Outbound := ⟨target, message, false⟩

/-- A message that goes at once. -/
def urgent (message : ServerMessage) (target : ConnectionId) : Outbound := ⟨target, message, true⟩

end Outbound

open Outbound

namespace Registry

/-- Of the messages posted, those that are handed on. -/
def mail (r : Registry) (isOpen : Bool) (posts : List Outbound) : List Outbound :=
  if isOpen then posts.filter fun o => r.contains o.target else []

/-- A message that is posted only if its target is a live dispatcher. -/
def toDispatcher (r : Registry) (message : ServerMessage) (target : ConnectionId) : List Outbound :=
  if (r.find? target).any fun c => c.role = .dispatcher then [batched message target] else []

/-- A message to every dispatcher on duty but one. -/
def toDuty (r : Registry) (message : ServerMessage) (skip : Option ConnectionId) : List Outbound :=
  (r.select fun c => c.session.isOnDutyDispatcher && some c.id ≠ skip).map
    fun c => batched message c.id

/-- A message to a dispatcher, or to all on duty if that is gone. -/
def withdrawal (r : Registry) (message : ServerMessage) (dispatcher : ConnectionId) : List Outbound :=
  if (r.find? dispatcher).any fun c => c.role = .dispatcher then [batched message dispatcher]
  else r.toDuty message none

variable {r : Registry} {isOpen : Bool} {id target : ConnectionId} {f : Session → Session}
  {posts more : List Outbound} {message : ServerMessage}

@[simp] theorem mail_nil : r.mail isOpen [] = [] := by
  rw [mail]
  split <;> rfl

/-- Whether a message is mailed does not depend on the others. -/
theorem mail_append : r.mail isOpen (posts ++ more) = r.mail isOpen posts ++ r.mail isOpen more := by
  unfold mail
  split
  · rw [List.filter_append]
  · rfl

/-- From an open outbox, all that has a live target is mailed. -/
theorem mail_true : r.mail true posts = posts.filter fun o => r.contains o.target := if_pos rfl

/-- Nothing is mailed that was not posted. -/
theorem mem_of_mem_mail {o : Outbound} (h : o ∈ r.mail isOpen posts) : o ∈ posts := by
  unfold mail at h
  split at h
  · exact (List.mem_filter.mp h).1
  · cases h

/-- What is handed on at all is handed on when somebody takes the messages. -/
theorem mem_mail_true {o : Outbound} (h : o ∈ r.mail isOpen posts) : o ∈ r.mail true posts := by
  unfold mail at h
  split at h
  · exact h
  · cases h

/-- Everything posted to live connections is handed on. -/
theorem mail_eq_self (h : ∀ o ∈ posts, r.contains o.target = true) : r.mail true posts = posts := by
  rw [mail_true, List.filter_eq_self]
  exact h

/-- A message to a live target is mailed. -/
theorem mail_singleton {o : Outbound} (h : r.contains o.target = true) :
    r.mail isOpen [o] = if isOpen then [o] else [] := by
  unfold mail
  split
  · exact List.filter_eq_self.mpr fun p hp => (List.mem_singleton.mp hp) ▸ h
  · rfl

/-- A message to a dispatcher is posted. -/
theorem toDispatcher_of_find? {c : Connection} (h : r.find? target = some c)
    (role : c.role = .dispatcher) : r.toDispatcher message target = [batched message target] := by
  rw [toDispatcher, h]
  exact if_pos (decide_eq_true role)

/-- A withdrawal from a dispatcher is posted. -/
theorem withdrawal_of_find? {c : Connection} (h : r.find? target = some c)
    (role : c.role = .dispatcher) : r.withdrawal message target = [batched message target] := by
  rw [withdrawal, h]
  exact if_pos (decide_eq_true role)

/-- Only the one message is posted. -/
theorem mem_toDispatcher {o : Outbound} (h : o ∈ r.toDispatcher message target) :
    o = batched message target := by
  unfold toDispatcher at h
  split at h
  · exact List.mem_singleton.mp h
  · cases h

/-- A message to a dispatcher goes to a live one. -/
theorem role_of_mem_toDispatcher {o : Outbound} (h : o ∈ r.toDispatcher message target) :
    r.aspect Session.role o.target = some .dispatcher := by
  unfold toDispatcher at h
  split at h
  · rename_i hlive
    obtain ⟨c, hc, hrole⟩ := (Option.any_eq_true _ _).mp hlive
    rw [List.mem_singleton.mp h]
    exact aspect_eq_some_iff.mpr ⟨c, hc, of_decide_eq_true hrole⟩
  · cases h

/-- All that the dispatchers on duty get is the one message. -/
theorem mem_toDuty {o : Outbound} {skip : Option ConnectionId} (h : o ∈ r.toDuty message skip) :
    o.message = message := by
  obtain ⟨c, -, rfl⟩ := List.mem_map.mp h
  rfl

/-- A dispatcher on duty is live. -/
theorem contains_of_mem_toDuty {o : Outbound} {skip : Option ConnectionId}
    (h : o ∈ r.toDuty message skip) : r.contains o.target = true := by
  obtain ⟨c, hc, rfl⟩ := List.mem_map.mp h
  exact contains_of_find? (find?_of_mem (List.mem_filter.mp hc).1)

/-- A message to all on duty goes to live dispatchers. -/
theorem role_of_mem_toDuty {o : Outbound} {skip : Option ConnectionId}
    (h : o ∈ r.toDuty message skip) : r.aspect Session.role o.target = some .dispatcher := by
  obtain ⟨c, hc, rfl⟩ := List.mem_map.mp h
  obtain ⟨hmem, hduty⟩ := List.mem_filter.mp hc
  simp only [Bool.and_eq_true, Session.isOnDutyDispatcher, decide_eq_true_eq] at hduty
  exact aspect_eq_some_iff.mpr ⟨c, find?_of_mem hmem, hduty.1.1⟩

/-- A dispatcher on duty is among those who hear a message to all on duty, and hears it once. -/
theorem filter_toDuty {c : Connection} (h : r.find? id = some c)
    (duty : c.session.isOnDutyDispatcher = true) :
    (r.toDuty message none).filter (fun o => o.target = id) = [batched message id] := by
  -- of all connections the one under the number is taken out first, and that is on duty
  have hself : r.connections.filter (fun d => d.id = id) = [c] := filter_connections h
  have hkept : [c].filter (fun d => d.session.isOnDutyDispatcher && decide (some d.id ≠ none)) = [c] := by
    rw [List.filter_eq_self]
    intro d hd
    rw [List.mem_singleton.mp hd, duty]
    exact decide_eq_true (Option.some_ne_none c.id)
  have htarget : (fun o : Outbound => decide (o.target = id)) ∘ (fun d : Connection => batched message d.id)
      = fun d => decide (d.id = id) := rfl
  rw [toDuty, select, List.filter_map, htarget, List.filter_comm, hself, hkept, List.map_singleton,
    id_of_find? h]

end Registry

namespace Relay

/-- The outbox of `t` is that of `s` with all posts that could be handed on; nothing else differs. -/
structure Posts (s : Relay) (posts : List Outbound) (t : Relay) : Prop where
  registry : t.registry = s.registry
  store : t.store = s.store
  counters : t.counters = s.counters
  isOpen : t.outbox.isOpen = s.outbox.isOpen
  sent : t.outbox.sent = s.outbox.sent ++ s.registry.mail s.outbox.isOpen posts

variable {s t u : Relay} {posts more : List Outbound} {message : ServerMessage}
  {target : ConnectionId}

theorem Posts.refl : s.Posts [] s := ⟨rfl, rfl, rfl, rfl, by rw [Registry.mail_nil, List.append_nil]⟩

/-- Posts in a row are posted together. -/
theorem Posts.trans (h : s.Posts posts t) (h' : t.Posts more u) : s.Posts (posts ++ more) u where
  registry := h'.registry.trans h.registry
  store := h'.store.trans h.store
  counters := h'.counters.trans h.counters
  isOpen := h'.isOpen.trans h.isOpen
  sent := by
    rw [h'.sent, h.sent, h.registry, h.isOpen, Registry.mail_append, List.append_assoc]

/-- If nobody takes the messages, it does not matter what was posted. -/
theorem Posts.closed (h : s.Posts posts t) (h' : s.outbox.isOpen = false) : s.Posts more t := by
  refine ⟨h.registry, h.store, h.counters, h.isOpen, ?_⟩
  have hsent := h.sent
  rw [h'] at hsent ⊢
  exact hsent

/-- A miss is noted in the outbox alone, and posts nothing. -/
theorem posts_miss : s.Posts [] s.miss :=
  ⟨rfl, rfl, rfl, rfl, by rw [Registry.mail_nil, List.append_nil]; rfl⟩

/-- A message is handed on exactly if its target is registered and somebody takes the messages. -/
theorem deliver_reached {immediate : Bool} :
    (s.deliver message target immediate).1 = (s.registry.contains target && s.outbox.isOpen) := by
  unfold deliver
  cases s.registry.contains target <;> cases s.outbox.isOpen <;> rfl

/-- A delivery posts its message, which is mailed if the target is live. -/
theorem posts_deliver {immediate : Bool} :
    s.Posts [⟨target, message, immediate⟩] (s.deliver message target immediate).2 := by
  have hmail : s.registry.mail s.outbox.isOpen [⟨target, message, immediate⟩]
      = if s.registry.contains target && s.outbox.isOpen then [⟨target, message, immediate⟩] else [] := by
    unfold Registry.mail
    cases h : s.registry.contains target <;> cases s.outbox.isOpen <;> simp [h]
  unfold deliver
  cases hlive : s.registry.contains target with
  | false =>
    rw [hlive] at hmail
    refine ⟨rfl, rfl, rfl, rfl, ?_⟩
    rw [hmail]
    exact (List.append_nil _).symm
  | true =>
    cases hopen : s.outbox.isOpen with
    | false =>
      rw [hlive, hopen] at hmail
      refine ⟨rfl, rfl, rfl, rfl, ?_⟩
      rw [hopen, hmail]
      exact (List.append_nil _).symm
    | true =>
      rw [hlive, hopen] at hmail
      refine ⟨rfl, rfl, rfl, rfl, ?_⟩
      rw [hopen, hmail]
      rfl

theorem posts_send : s.Posts [batched message target] (s.send message target).2 := posts_deliver

theorem posts_sendNow (message : ServerMessage) (target : ConnectionId) :
    s.Posts [urgent message target] (s.sendNow message target).2 := posts_deliver

/-- A message meant for a dispatcher is dropped if the target is anyone else. -/
theorem posts_sendToDispatcher (message : ServerMessage) (target : ConnectionId) :
    s.Posts (s.registry.toDispatcher message target) (s.sendToDispatcher message target).2 := by
  unfold sendToDispatcher Registry.toDispatcher
  split
  · exact posts_deliver
  · exact posts_miss

/-- A dispatcher is reached exactly if it is live and somebody takes the messages. -/
theorem sendToDispatcher_reached (message : ServerMessage) (target : ConnectionId) :
    (s.sendToDispatcher message target).1
      = ((s.registry.find? target).any (fun c => c.role = .dispatcher) && s.outbox.isOpen) := by
  unfold sendToDispatcher
  split
  · rename_i h
    obtain ⟨c, hc, -⟩ := (Option.any_eq_true _ _).mp h
    rw [deliver_reached, Registry.contains_of_find? hc, h]
  · rename_i h
    rw [Bool.not_eq_true] at h
    rw [h]
    rfl

/-- Messages sent in a row are posted in that order. -/
theorem posts_sendEach (messages : List (ServerMessage × ConnectionId)) :
    s.Posts (messages.map fun m => batched m.1 m.2) (s.sendEach messages) := by
  unfold sendEach
  induction messages generalizing s with
  | nil => exact .refl
  | cons m ms ih => exact posts_send.trans ih

/-- One message to many is posted once for each of them. -/
theorem posts_sendToAll (message : ServerMessage) (targets : List ConnectionId) :
    s.Posts (targets.map (batched message)) (s.sendToAll message targets).2 := by
  unfold sendToAll
  -- the number of targets reached is counted along, so the fold starts from any number
  generalize (0 : Nat) = n
  induction targets generalizing s n with
  | nil => exact .refl
  | cons i is ih => exact posts_send.trans (ih _)

/-- One message goes to each dispatcher on duty but the one who is skipped. -/
theorem posts_sendToDutyExcept {skip : Option ConnectionId} :
    s.Posts (s.registry.toDuty message skip) (s.sendToDutyExcept message skip).2 := by
  have h := posts_sendToAll (s := s) message
    ((s.registry.select fun c => c.session.isOnDutyDispatcher && some c.id ≠ skip).map Connection.id)
  rw [List.map_map] at h
  exact h

theorem posts_sendToDuty (message : ServerMessage) :
    s.Posts (s.registry.toDuty message none) (s.sendToDuty message).2 :=
  posts_sendToDutyExcept

/-- A dispatcher that was reached is the only one who hears of a withdrawal. -/
theorem posts_withdrawal_of_reached (h : (s.sendToDispatcher message target).1 = true) :
    s.Posts (s.registry.withdrawal message target) (s.sendToDispatcher message target).2 := by
  have hposts := posts_sendToDispatcher (s := s) message target
  rw [sendToDispatcher_reached, Bool.and_eq_true] at h
  unfold Registry.toDispatcher at hposts
  rw [if_pos h.1] at hposts
  rw [Registry.withdrawal, if_pos h.1]
  exact hposts

/-- If the dispatcher was not reached, all on duty hear of a withdrawal. -/
theorem posts_withdrawal_of_missed (h : (s.sendToDispatcher message target).1 = false) :
    s.Posts (s.registry.withdrawal message target)
      ((s.sendToDispatcher message target).2.sendToDuty message).2 := by
  have hposts := posts_sendToDispatcher (s := s) message target
  have hduty := hposts.trans (posts_sendToDuty message)
  rw [sendToDispatcher_reached, Bool.and_eq_false_iff] at h
  rcases h with hgone | hclosed
  · have hempty : s.registry.toDispatcher message target = [] := by
      rw [Registry.toDispatcher, hgone]
      rfl
    rw [hempty, List.nil_append, hposts.registry] at hduty
    rw [Registry.withdrawal, hgone]
    exact hduty
  · exact hduty.closed hclosed

end Relay

end FlightRelay

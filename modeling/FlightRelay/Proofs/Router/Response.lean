import FlightRelay.Proofs.Router.Notices
import FlightRelay.Proofs.Router.Soundness

/-!
# One answer to every message

A message of a live connection is either refused, and then nothing but the refusal and warnings is left
of it, or it is carried out and answered once.  A message of a connection that is gone is counted and
nothing else.
-/

namespace FlightRelay

open Outbound

namespace ServerMessage

/-- The message answers a request. -/
def isAnswer : ServerMessage → Bool
  | .ack _ _ _ | .pong _ _ | .routes _ => true
  | _ => false

/-- The message refuses a request. -/
def isRefusal : ServerMessage → Bool
  | .ack _ ok _ => !ok
  | _ => false

end ServerMessage

/-- What answers a message that was carried out: a sign of life is returned, routes are answered with
the routes, reports are not answered at all, and everything else is acknowledged under its kind. -/
def ClientMessage.AnsweredBy (ctx : RelayContext) : ClientMessage → List ServerMessage → Prop
  | .ping nonce, answers => answers = [.pong nonce ctx.now]
  | .loadRoutes, answers => ∃ routes, answers = [.routes routes]
  | .position _, answers | .flightInfo _, answers => answers = []
  | m, answers => answers = [.accepted m.kind]

namespace Relay

/-- The message of a live connection is refused: the refusal is counted, the registry and the store are
as before, and the sender is told last. -/
structure Refuses (s : Relay) (ctx : RelayContext) (envelope : Envelope) : Prop where
  rejected : (handle ctx s envelope).counters.rejected = s.counters.rejected + 1
  registry : (handle ctx s envelope).registry = s.registry
  store : (handle ctx s envelope).store = s.store
  told : ∃ warnings error, s.emitted (.message ctx envelope)
      = warnings ++ [batched (.refused envelope.message.kind error) envelope.sender] ∧
    ∀ o ∈ warnings, o.message.isAnswer = false

/-- The message of a live connection is carried out: nobody is told of a refusal, and the one answer that
it calls for goes to the sender. -/
structure Accepts (s : Relay) (ctx : RelayContext) (envelope : Envelope) : Prop where
  rejected : (handle ctx s envelope).counters.rejected = s.counters.rejected
  unrefused : ∀ o ∈ s.emitted (.message ctx envelope), o.message.isRefusal = false
  addressed : ∀ o ∈ s.emitted (.message ctx envelope), o.message.isAnswer = true →
    o.target = envelope.sender
  answered : envelope.message.AnsweredBy ctx
    (((s.emitted (.message ctx envelope)).map Outbound.message).filter ServerMessage.isAnswer)

end Relay

variable {ctx : RelayContext} {s : Relay} {me : Connection} {m : ClientMessage} {o : Outcome}
  {r : Registry} {posts more : List Outbound} {message : ServerMessage} {envelope : Envelope}

/-! ## Posts that answer nothing -/

/-- None of the posts answers a request. -/
abbrev Quiet (posts : List Outbound) : Prop := Without ServerMessage.isAnswer posts

/-- The first picture answers nothing. -/
theorem quiet_firstPicture : Quiet (r.firstPicture me) :=
  without_firstPicture fun _ _ _ _ _ => rfl

/-- Offers answer nothing. -/
theorem quiet_offers {location : Geo.Point} {note : String} : Quiet (r.offers me location note) := by
  intro p hp
  obtain ⟨d, distance, -, -, rfl⟩ := Registry.mem_offers hp
  rfl

/-- What a pilot hears of an open request besides the answer is no answer. -/
theorem quiet_requestNotices {id : ConnectionId} {offered uncovered : Nat} :
    Quiet (requestNotices id offered uncovered) := by
  intro p hp
  obtain ⟨text, rfl⟩ := mem_requestNotices hp
  rfl

/-! ## Answers -/

/-- What the table lists as an answer is one, and is no refusal. -/
theorem ClientMessage.AnsweredBy.isAnswer {answers : List ServerMessage}
    (h : m.AnsweredBy ctx answers) : ∀ a ∈ answers, a.isAnswer = true ∧ a.isRefusal = false := by
  intro a ha
  cases m with
  | loadRoutes =>
    obtain ⟨routes, rfl⟩ := h
    rw [List.mem_singleton.mp ha]
    exact ⟨rfl, rfl⟩
  | position p =>
    obtain rfl : answers = [] := h
    cases ha
  | flightInfo plan =>
    obtain rfl : answers = [] := h
    cases ha
  | _ =>
    have hone : answers = [_] := h
    rw [hone] at ha
    rw [List.mem_singleton.mp ha]
    exact ⟨rfl, rfl⟩

/-- Between posts that answer nothing, the posts answer a message of a connection. -/
def PostsAnswer (ctx : RelayContext) (me : Connection) (m : ClientMessage) (posts : List Outbound) :
    Prop :=
  ∃ before answers after, posts = before ++ answers ++ after ∧ Quiet before ∧ Quiet after ∧
    (∀ a ∈ answers, a.target = me.id) ∧ m.AnsweredBy ctx (answers.map Outbound.message)

/-- One answer among messages that answer nothing is the only one. -/
theorem PostsAnswer.once {before after : List Outbound} {answer : Outbound} (hbefore : Quiet before)
    (hafter : Quiet after) (hposts : posts = before ++ answer :: after) (htarget : answer.target = me.id)
    (hanswer : m.AnsweredBy ctx [answer.message]) : PostsAnswer ctx me m posts := by
  refine ⟨before, [answer], after, ?_, hbefore, hafter, ?_, hanswer⟩
  · rw [hposts, List.append_assoc]
    rfl
  · intro a ha
    rw [List.mem_singleton.mp ha]
    exact htarget

/-- Messages that answer nothing do for a message that has no answer. -/
theorem PostsAnswer.never (hquiet : Quiet posts) (hanswer : m.AnsweredBy ctx []) :
    PostsAnswer ctx me m posts := by
  refine ⟨posts, [], [], ?_, hquiet, .nil, fun a ha => ?_, hanswer⟩
  · rw [List.append_nil, List.append_nil]
  · cases ha

/-- A message that is carried out is answered as it calls for, and to its sender alone. -/
theorem Carried.answers (h : Carried ctx s me m o) : PostsAnswer ctx me m o.posts := by
  cases h with
  | @login form profile k hrole hfixed hknown hpermitted hsession =>
    have hpicture : Quiet (if form.role.rendersTraffic
        then (s.registry.modify me.id k).firstPicture (me.withSession k) else []) :=
      .ite quiet_firstPicture
    exact .once .nil hpicture rfl rfl rfl
  | ping => exact .once .nil .nil rfl rfl rfl
  | position =>
    refine .never (.append (.ite quiet_firstPicture) (.ite ?_)) rfl
    exact .of_message (fun p hp => (Registry.mem_positionReports hp).1) rfl
  | flightInfo =>
    exact .never (.of_message (fun p hp => (Registry.mem_planReports hp).1) rfl) rfl
  | dispatcherStatus => exact .once .nil .nil rfl rfl rfl
  | requested => exact .once quiet_offers quiet_requestNotices rfl rfl rfl
  | serviceBound => exact .once .nil (.singleton rfl) rfl rfl rfl
  | serviceKept => exact .once .nil .nil rfl rfl rfl
  | pilotLeft =>
    exact .once (.of_message (fun p hp => Registry.mem_withdrawal hp) rfl) .nil rfl rfl rfl
  | pilotWithdrew =>
    exact .once (.of_message (fun p hp => Registry.mem_toDuty hp) rfl) .nil rfl rfl rfl
  | dispatcherLeft => exact .once (.singleton rfl) .nil rfl rfl rfl
  | completed =>
    exact .once (.of_message (fun p hp => Registry.mem_completion hp) rfl) .nil rfl rfl rfl
  | viewerAsked => exact .once (.singleton rfl) .nil rfl rfl rfl
  | viewerKnown => exact .once .nil .nil rfl rfl rfl
  | @viewerBound viewer =>
    have hbefore : Quiet (batched (.viewerBound me.id viewer) viewer
        :: ((Handler.trafficOf me).map fun m => batched m viewer).toList) :=
      .cons rfl (without_trafficOf fun _ _ _ _ _ => rfl)
    exact .once hbefore .nil rfl rfl rfl
  | viewerKept => exact .once .nil .nil rfl rfl rfl
  | viewerDropped => exact .once (.singleton rfl) .nil rfl rfl rfl
  | viewerDeclined => exact .once (.singleton rfl) .nil rfl rfl rfl
  | viewerLeft => exact .once (.singleton rfl) .nil rfl rfl rfl
  | viewingEnded => exact .once (.singleton rfl) .nil rfl rfl rfl
  | nothingEnded => exact .once .nil .nil rfl rfl rfl
  | routeSaved => exact .once .nil .nil rfl rfl rfl
  | routesLoaded => exact .once .nil .nil rfl rfl ⟨_, rfl⟩

/-- What is carried out is not counted as a refusal. -/
theorem Carried.rejected (h : Carried ctx s me m o) : o.counters.rejected = s.counters.rejected := by
  have noted : ∀ record, (s.counters.noted s.store record).rejected = s.counters.rejected := by
    intro record
    unfold RouterCounters.noted
    split <;> rfl
  cases h with
  | pilotLeft => exact noted _
  | dispatcherLeft => exact noted _
  | _ => rfl

namespace Relay

/-- A message that is carried out is accepted. -/
theorem accepts_of_carried (hme : s.registry.find? envelope.sender = some me)
    (how : Carried ctx s.counted me envelope.message o)
    (hbecomes : s.Becomes { o with posts := s.registry.mail true o.posts }
      (s.step (.message ctx envelope))) :
    s.Accepts ctx envelope := by
  have hid : me.id = envelope.sender := Registry.id_of_find? hme
  obtain ⟨before, answers, after, hposts, hbefore, hafter, htarget, hanswered⟩ := how.answers
  have hemitted : s.emitted (.message ctx envelope) = s.registry.mail true o.posts := hbecomes.emitted
  have hlive : s.registry.mail true answers = answers := by
    apply Registry.mail_eq_self
    intro a ha
    rw [htarget a ha, hid]
    exact Registry.contains_of_find? hme
  -- what stands before and after the answers does not count as one
  have hquiet : ∀ {posts : List Outbound}, Quiet posts →
      ((s.registry.mail true posts).map Outbound.message).filter ServerMessage.isAnswer = [] := by
    intro posts h
    rw [List.filter_eq_nil_iff]
    intro message hmessage
    obtain ⟨p, hp, rfl⟩ := List.mem_map.mp hmessage
    rw [h.mail p hp]
    exact Bool.false_ne_true
  -- a post that answers is among the answers, and these are no refusals
  have hanswer : ∀ p ∈ o.posts, p.message.isAnswer = true → p ∈ answers := by
    intro p hp hyes
    rw [hposts] at hp
    rcases List.mem_append.mp hp with hp | hp
    · rcases List.mem_append.mp hp with hp | hp
      · exact absurd hyes (by rw [hbefore p hp]; exact Bool.false_ne_true)
      · exact hp
    · exact absurd hyes (by rw [hafter p hp]; exact Bool.false_ne_true)
  refine ⟨?_, ?_, ?_, ?_⟩
  · exact (congrArg RouterCounters.rejected hbecomes.counters).trans how.rejected
  · intro p hp
    rw [hemitted] at hp
    cases hrefusal : p.message.isRefusal with
    | false => rfl
    | true =>
      have hyes : p.message.isAnswer = true := by
        cases hm : p.message <;> rw [hm] at hrefusal <;> first | rfl | cases hrefusal
      have hmem := hanswer p (Registry.mem_of_mem_mail hp) hyes
      rw [← hrefusal]
      exact (hanswered.isAnswer _ (List.mem_map_of_mem hmem)).2
  · intro p hp hyes
    rw [hemitted] at hp
    rw [htarget p (hanswer p (Registry.mem_of_mem_mail hp) hyes), hid]
  · have hall : (answers.map Outbound.message).filter ServerMessage.isAnswer
        = answers.map Outbound.message :=
      List.filter_eq_self.mpr fun a ha => (hanswered.isAnswer a ha).1
    rw [hemitted, hposts, Registry.mail_append, Registry.mail_append, hlive, List.map_append,
      List.map_append, List.filter_append, List.filter_append, hquiet hbefore, hquiet hafter, hall,
      List.nil_append, List.append_nil]
    exact hanswered

/-- A message that is accepted from a live connection has been carried out. -/
theorem Accepts.carried (h : s.Accepts ctx envelope) (hopen : s.outbox.isOpen = true)
    (hme : s.registry.find? envelope.sender = some me) :
    ∃ o, Carried ctx s.counted me envelope.message o ∧
      s.Becomes { o with posts := s.registry.mail true o.posts } (s.step (.message ctx envelope)) := by
  obtain ⟨o, happened, hbecomes⟩ := happened_message ctx hopen hme
  cases happened with
  | stale hgone => cases hgone.symm.trans hme
  | refused =>
    -- a refusal is counted
    have hrejected := h.rejected
    rw [hbecomes.counters] at hrejected
    exact absurd hrejected (Nat.succ_ne_self _)
  | carried hme' how =>
    obtain rfl := Option.some.inj (hme'.symm.trans hme)
    exact ⟨_, how, hbecomes⟩

/-- A message of a live connection is refused without effect or carried out and answered once, and never
both; a message of a connection that is gone is counted and nothing else. -/
theorem refused_or_answered_once (h : s.Reachable) (ctx : RelayContext) (envelope : Envelope) :
    (s.registry.contains envelope.sender = true →
      Xor (s.Refuses ctx envelope) (s.Accepts ctx envelope)) ∧
    (s.registry.contains envelope.sender = false →
      handle ctx s envelope
        = { s with counters := { s.counters with staleSenders := s.counters.staleSenders + 1 } } ∧
      s.emitted (.message ctx envelope) = []) := by
  obtain ⟨n, -, hsteady⟩ := h.steady
  constructor
  · intro hlive
    obtain ⟨me, hme⟩ := Registry.contains_iff.mp hlive
    obtain ⟨o, happened, hbecomes⟩ := happened_message ctx hsteady.isOpen hme
    cases happened with
    | stale hgone => cases hgone.symm.trans hme
    | @refused ctx envelope me' e warnings failures hlive' hwarn =>
      have hbecomes' : s.Becomes _ (s.step (.message ctx envelope)) := hbecomes
      have hrejected : (handle ctx s envelope).counters.rejected = s.counters.rejected + 1 :=
        congrArg RouterCounters.rejected hbecomes.counters
      refine .inl ⟨⟨hrejected, hbecomes.registry, hbecomes.store, _, _, hbecomes'.emitted, ?_⟩, ?_⟩
      · intro p hp
        have hwarning := hwarn p (Registry.mem_of_mem_mail hp)
        cases hm : p.message <;> rw [hm] at hwarning <;> first | rfl | cases hwarning
      · -- the number of refusals tells the two apart
        intro haccepts
        rw [haccepts.rejected] at hrejected
        omega
    | carried hme' how =>
      obtain rfl := Option.some.inj (hme'.symm.trans hme)
      have haccepts := accepts_of_carried hme how hbecomes
      refine .inr ⟨haccepts, fun hrefuses => ?_⟩
      have hrejected := hrefuses.rejected
      rw [haccepts.rejected] at hrejected
      omega
  -- nobody to answer: the message is counted, and that is all
  · intro hgone
    have hnone := Registry.find?_eq_none_iff.mpr hgone
    have hhandle : handle ctx s envelope
        = { s with counters := { s.counters with staleSenders := s.counters.staleSenders + 1 } } := by
      unfold handle
      rw [hnone]
    refine ⟨hhandle, ?_⟩
    show (handle ctx s envelope).outbox.sent.drop _ = []
    rw [hhandle, List.drop_length]

/-- A dispatcher who is off duty is refused, a sign of life is answered, and a connection that was never
accepted is not. -/
theorem refused_or_answered_once_boarding :
    ((empty .empty).run Event.boarding).Refuses ⟨.trusting, .standard, 0⟩ ⟨.serviceAccept 1, 2, none⟩ ∧
      ((empty .empty).run Event.boarding).Accepts ⟨.trusting, .standard, 0⟩ ⟨.ping 7, 1, none⟩ ∧
      ((empty .empty).run Event.boarding).emitted
        (.message ⟨.trusting, .standard, 0⟩ ⟨.ping 7, 9, none⟩) = [] := by
  refine ⟨?_, ?_, ?_⟩
  · rcases (refused_or_answered_once reachable_boarding ⟨.trusting, .standard, 0⟩
      ⟨.serviceAccept 1, 2, none⟩).1 (by decide) with ⟨hrefuses, -⟩ | ⟨haccepts, -⟩
    · exact hrefuses
    · exact absurd haccepts.rejected (by decide)
  · rcases (refused_or_answered_once reachable_boarding ⟨.trusting, .standard, 0⟩
      ⟨.ping 7, 1, none⟩).1 (by decide) with ⟨hrefuses, -⟩ | ⟨haccepts, -⟩
    · exact absurd hrefuses.rejected (by decide)
    · exact haccepts
  · exact ((refused_or_answered_once reachable_boarding ⟨.trusting, .standard, 0⟩
      ⟨.ping 7, 9, none⟩).2 (by decide)).2

end Relay

end FlightRelay

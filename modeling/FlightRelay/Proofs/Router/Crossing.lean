import FlightRelay.Proofs.Registry.Sections
import FlightRelay.Proofs.Router.Calls
import FlightRelay.Proofs.Router.Requests

/-!
# Service messages side by side

The handlers of different connections take turns in any order.  A request looks at its sender once, when
it begins, and is noted when all its offers are out; a dispatcher who takes an earlier offer in between is
bound to a pilot that has an open request afterwards.  As long as no pilot gets a dispatcher while its
request is underway, whoever has a dispatcher has no open request.
-/

namespace FlightRelay

open Outbound Session Registry

/-! ## Handlers in progress -/

/-- The handler of a service message, as far as it has come. -/
structure ServiceCall where
  ctx : RelayContext
  /-- The sender as it was when the handler began. -/
  me : Connection
  /-- The message, by its name on the wire. -/
  kind : String
  stage : ServiceStage

namespace ServiceCall

/-- The relay that a handler leaves; a refusal is told to the sender. -/
def leave {α : Type} (c : ServiceCall) : Except RouteError α × Relay → Relay
  | (.ok _, s) => s
  | (.error e, s) => s.reject e c.kind c.me.id

/-- The handler after a turn, if that was not the last one. -/
def next (c : ServiceCall) : Except RouteError (Option ServiceStage) → Option ServiceCall
  | .ok (some stage) => some { c with stage }
  | _ => none

/-- The relay after all that the handler is yet to do. -/
def finish (c : ServiceCall) (s : Relay) : Relay := c.leave ((c.stage.rest c.ctx c.me).exec s)

/-- The handler is that of a request which found its pilot without a dispatcher. -/
def isRequesting (c : ServiceCall) : Bool := c.stage.isRequesting c.me

end ServiceCall

/-- A relay, and the handler that each connection has in progress. -/
structure Relay.Concurrent where
  relay : Relay
  calls : ConnectionId → Option ServiceCall

namespace Relay.Concurrent

/-- A handler begins: its sender is looked up. -/
def start (s : Concurrent) (ctx : RelayContext) (i : ConnectionId) (m : ClientMessage) : Concurrent :=
  match s.relay.registry.find? i with
  | none =>
    { s with
      relay := { s.relay with
        counters := { s.relay.counters with staleSenders := s.relay.counters.staleSenders + 1 } } }
  | some me => ⟨s.relay.counted, Function.update s.calls i (some ⟨ctx, me, m.kind, .received m⟩)⟩

/-- The handler of a connection takes its next turn. -/
def advance (s : Concurrent) (i : ConnectionId) : Concurrent :=
  match s.calls i with
  | none => s
  | some c =>
    let answer := (c.stage.turn c.ctx c.me).exec s.relay
    ⟨c.leave answer, Function.update s.calls i (c.next answer.1)⟩

/-- No handler is in progress. -/
def AtRest (s : Concurrent) : Prop := ∀ i, s.calls i = none

/-- No pilot has a dispatcher while a request of its own is underway that found it without one. -/
def Apart (s : Concurrent) : Prop :=
  ∀ i c p, s.calls i = some c → c.isRequesting = true → s.relay.registry.find? i = some p →
    p.session.dispatcher = noConnection

/-- What can happen next. -/
inductive Move where
  | start (ctx : RelayContext) (i : ConnectionId) (m : ClientMessage)
  | advance (i : ConnectionId)
  /-- Something that is not done by a service message. -/
  | elsewhere

end Relay.Concurrent

/-- A change that leaves services alone: a connection may lose its dispatcher, and a fresh one has none. -/
def Registry.SparesServices (r r' : Registry) : Prop :=
  ∀ p c', r'.find? p = some c' →
    (∃ c, r.find? p = some c ∧ c'.session.servicePending = c.session.servicePending ∧
      (c'.session.dispatcher = c.session.dispatcher ∨ c'.session.dispatcher = noConnection)) ∨
    (c'.session.dispatcher = noConnection ∧ c'.session.servicePending = false)

namespace Relay.Concurrent

/-- One move.  A connection has one handler at a time, and what is not done by a service message leaves
the handlers and the services alone. -/
inductive Step : Concurrent → Move → Concurrent → Prop
  | start {s : Concurrent} {ctx : RelayContext} {i : ConnectionId} {m : ClientMessage}
      (service : m.isService = true) (idle : s.calls i = none) :
      Step s (.start ctx i m) (s.start ctx i m)
  | advance {s : Concurrent} {i : ConnectionId} : Step s (.advance i) (s.advance i)
  | elsewhere {s : Concurrent} {t : Relay} (spares : s.relay.registry.SparesServices t.registry) :
      Step s .elsewhere ⟨t, s.calls⟩

/-- A course of moves, with a property that holds before and after each of them. -/
inductive Course (P : Concurrent → Prop) : Concurrent → List Move → Concurrent → Prop
  | done {s : Concurrent} (here : P s) : Course P s [] s
  | move {s t u : Concurrent} {m : Move} {ms : List Move} (here : P s) (step : Step s m t)
      (rest : Course P t ms u) : Course P s (m :: ms) u

end Relay.Concurrent

variable {s t u : Relay.Concurrent} {ctx : RelayContext} {i j p : ConnectionId} {m : ClientMessage}
  {c : ServiceCall} {me d : Connection} {r r' : Registry} {f : Session → Session}
  {stage : ServiceStage}

/-! ## Handlers without a break -/

namespace Relay.Concurrent

/-- The relay once a connection's handler has gone on to its end without a break. -/
def conclude (s : Concurrent) (i : ConnectionId) : Relay :=
  match s.calls i with
  | some c => c.finish s.relay
  | none => s.relay

/-- A turn is the first part of what a handler is yet to do. -/
theorem conclude_advance
    (hservice : ∀ c m, s.calls i = some c → c.stage = .received m → m.isService = true) :
    (s.advance i).conclude i = s.conclude i := by
  unfold advance conclude
  cases hc : s.calls i with
  | none => simp only [hc]
  | some c =>
    simp only [Function.update_self, ServiceCall.finish]
    rw [ServiceStage.rest_eq_turn c.stage fun m hm => hservice c m hc hm, Handler.exec_bind]
    rcases (c.stage.turn c.ctx c.me).exec s.relay with ⟨_ | _ | stage, t⟩ <;> rfl

/-- A handler that begins and goes on to its end without a break does what the relay does with its
message. -/
theorem conclude_start (idle : s.calls i = none) (owner : Option UserId) :
    (s.start ctx i m).conclude i = handle ctx s.relay ⟨m, i, owner⟩ := by
  unfold start
  cases hme : s.relay.registry.find? i with
  | none =>
    simp only [conclude, idle, handle, hme]
  | some me =>
    have hid : me.id = i := id_of_find? hme
    simp only [conclude, Function.update_self]
    rw [handle_of_find? ctx hme]
    unfold ServiceCall.finish ServiceCall.leave ServiceStage.rest
    rw [hid]
    rcases (Handler.handleMessage ctx me m).exec s.relay.counted with ⟨_ | _, t⟩ <;> rfl

end Relay.Concurrent

/-! ## What leaves services alone -/

namespace Registry

theorem SparesServices.refl : r.SparesServices r := fun _ c hc => .inl ⟨c, hc, rfl, .inl rfl⟩

/-- A change that leaves the service of every connection as it is. -/
theorem SparesServices.of_aspect (h : ∀ p, r'.aspect service p = r.aspect service p) :
    r.SparesServices r' := by
  intro p c' hc'
  have hsame := (h p).symm.trans (aspect_of_find? hc')
  obtain ⟨c, hc, hservice⟩ := aspect_eq_some_iff.mp hsame
  obtain ⟨hdispatcher, hpending⟩ := Prod.mk.inj hservice
  exact .inl ⟨c, hc, hpending.symm, .inl hdispatcher.symm⟩

/-- A change of one session in other respects. -/
theorem SparesServices.modify (h : ∀ s, (f s).service = s.service) :
    r.SparesServices (r.modify i f) := .of_aspect fun _ => aspect_modify h

/-- Binding and clearing viewers, in sections as it goes. -/
theorem SparesServices.section {a b : Call} (h : Call.Section r a b r') : r.SparesServices r' := by
  have released : ∀ {pilot viewer}, r.SparesServices (r.releaseViewer pilot viewer) := by
    intro pilot viewer
    refine .modify fun s => ?_
    split <;> rfl
  cases h with
  | claimed => exact .modify fun _ => rfl
  | attached => exact .modify fun _ => rfl
  | released => exact released
  | detached => exact .modify fun _ => rfl
  | freed => exact released
  | _ => exact .refl

end Registry

/-- Whatever happens to a relay but for the messages of the dispatch service. -/
theorem Relay.sparesServices_step {s : Relay} {e : Event} (hopen : s.outbox.isOpen = true)
    (he : ∀ ctx envelope, e = .message ctx envelope → envelope.message.isService = false) :
    s.registry.SparesServices (s.step e).registry := by
  obtain ⟨u, happened, hbecomes⟩ := happened_step (e := e) hopen
  rw [hbecomes.registry]
  cases happened with
  | accepted hadded =>
    obtain ⟨-, -, -, hfound⟩ := accept_eq_ok hadded
    intro p c' hc'
    rw [hfound] at hc'
    split at hc'
    · obtain rfl := Option.some.inj hc'
      exact .inr ⟨rfl, rfl⟩
    · exact .inl ⟨c', hc', rfl, .inl rfl⟩
  | carried hlive how => exact .of_aspect fun p => how.aspect_service (he _ _ rfl)
  | @departed id removal r hremoved =>
    obtain ⟨-, -, -, -, hfound⟩ := remove_eq_some hremoved
    intro p c' hc'
    rw [hfound] at hc'
    split at hc'
    · cases hc'
    · obtain ⟨c, hc, rfl⟩ := Option.map_eq_some_iff.mp hc'
      refine .inl ⟨c, hc, rfl, ?_⟩
      by_cases hlost : c.session.dispatcher = id
      · exact .inr (if_pos hlost)
      · exact .inl (if_neg hlost)
  | _ => exact .refl

/-! ## What every turn keeps -/

/-- Whoever has a dispatcher has no open request. -/
def Registry.Settled (r : Registry) : Prop :=
  ∀ p c, r.find? p = some c → c.session.dispatcher ≠ noConnection → c.session.servicePending = false

/-- A sound registry is settled. -/
theorem Registry.Sound.settled (hs : r.Sound) : r.Settled := by
  intro p c hc hserved
  rw [Bool.eq_false_iff]
  exact fun hpending => hserved ((hs.coherent hc).pending hpending).2

/-- What spares the services leaves the registry settled. -/
theorem Registry.Settled.spares (h : r.Settled) (hspares : r.SparesServices r') : r'.Settled := by
  intro p c' hc' hserved
  rcases hspares p c' hc' with ⟨c, hc, hpending, hdispatcher | hfree⟩ | ⟨hfree, -⟩
  · rw [hpending]
    exact h p c hc (hdispatcher ▸ hserved)
  · exact absurd hfree hserved
  · exact absurd hfree hserved

/-- A change of one session keeps the others settled. -/
theorem Registry.Settled.modify (h : r.Settled)
    (hself : ∀ c, r.find? i = some c → (f c.session).dispatcher ≠ noConnection →
      (f c.session).servicePending = false) : (r.modify i f).Settled := by
  intro p c' hc' hserved
  obtain ⟨c, hc, rfl⟩ := find?_modify_eq_some hc'
  split at hserved
  · rename_i he
    subst he
    rw [if_pos rfl]
    exact hself c hc hserved
  · rename_i he
    rw [if_neg he]
    exact h p c hc hserved

/-- A turn keeps the registry settled, unless it notes the request of a pilot with a dispatcher. -/
theorem ServiceStage.Alters.settled (h : Alters r me stage r') (hs : r.Settled)
    (free : stage.isRequesting me = true → ∀ c, r.find? me.id = some c →
      c.session.dispatcher = noConnection) : r'.Settled := by
  cases h with
  | nothing => exact hs
  | noted => exact hs.modify fun c hc hserved => absurd (free rfl c hc) hserved
  | bound => exact hs.modify fun c hc _ => rfl
  | withdrawn => exact hs.modify fun c hc _ => rfl
  | released => exact hs.modify fun c hc hserved => absurd rfl hserved

/-- A change of one session opens no request of another. -/
theorem Registry.hasRequest_modify_of_ne (h : p ≠ i) :
    (r.modify i f).hasRequest p = r.hasRequest p := by
  rw [hasRequest, find?_modify_of_ne h, hasRequest]

/-- A turn opens no request but that of its own sender. -/
theorem ServiceStage.Alters.hasRequest (h : Alters r me stage r') (hnone : r.hasRequest p = false)
    (other : stage.isRequesting me = true → me.id ≠ p) : r'.hasRequest p = false := by
  have keep : ∀ {j : ConnectionId} {f : Session → Session},
      (∀ s, s.servicePending = false → (f s).servicePending = false) →
      (r.modify j f).hasRequest p = false := by
    intro j f hf
    rw [Registry.hasRequest, Option.any_eq_false] at hnone ⊢
    intro c' hc'
    obtain ⟨c, hc, rfl⟩ := find?_modify_eq_some hc'
    split
    · exact hf _ (hnone c hc)
    · exact hnone c hc
  cases h with
  | nothing => exact hnone
  | noted =>
    rw [hasRequest_modify_of_ne (other rfl).symm]
    exact hnone
  | bound => exact keep fun _ _ => rfl
  | withdrawn => exact keep fun _ _ => rfl
  | released => exact keep fun _ h => h

namespace Relay.Concurrent

/-- Every handler in progress is that of the connection whose message it handles. -/
def Owned (s : Concurrent) : Prop := ∀ i c, s.calls i = some c → c.me.id = i

theorem advance_of_none (hc : s.calls i = none) : s.advance i = s := by rw [advance, hc]

/-- The handler that has moved is the next of the one that was there, and the others are where they
were. -/
theorem calls_advance (h : (s.advance i).calls j = some c) :
    ∃ d, s.calls j = some d ∧ c.me = d.me ∧ (c.isRequesting = true → d.isRequesting = true) := by
  unfold advance at h
  cases hd : s.calls i with
  | none =>
    rw [hd] at h
    exact ⟨c, h, rfl, id⟩
  | some d =>
    simp only [hd] at h
    by_cases he : j = i
    · subst he
      rw [Function.update_self] at h
      have hleads := ServiceStage.leads_turn d.ctx d.me s.relay d.stage
      generalize (d.stage.turn d.ctx d.me).exec s.relay = answer at h hleads
      obtain ⟨answer, t⟩ := answer
      cases answer with
      | error e => cases h
      | ok next =>
        cases next with
        | none => cases h
        | some stage =>
          obtain rfl := Option.some.inj h
          exact ⟨d, hd, rfl, hleads.requesting rfl⟩
    · rw [Function.update_of_ne he] at h
      exact ⟨c, h, rfl, id⟩

/-- A handler after a start is the one that began, or it is where it was. -/
theorem calls_start (h : (s.start ctx i m).calls j = some c) :
    s.calls j = some c ∨
      j = i ∧ ∃ me, s.relay.registry.find? i = some me ∧ c = ⟨ctx, me, m.kind, .received m⟩ := by
  unfold start at h
  cases hme : s.relay.registry.find? i with
  | none =>
    rw [hme] at h
    exact .inl h
  | some me =>
    simp only [hme] at h
    by_cases he : j = i
    · subst he
      rw [Function.update_self] at h
      exact .inr ⟨rfl, me, rfl, (Option.some.inj h).symm⟩
    · rw [Function.update_of_ne he] at h
      exact .inl h

/-- A handler that begins has not touched the registry yet. -/
theorem registry_start : (s.start ctx i m).relay.registry = s.relay.registry := by
  unfold start
  cases s.relay.registry.find? i <;> rfl

/-- A turn of a handler does one of the things that a turn may do. -/
theorem alters_advance (hc : s.calls i = some c) :
    ServiceStage.Alters s.relay.registry c.me c.stage (s.advance i).relay.registry := by
  have hleads := ServiceStage.leads_turn c.ctx c.me s.relay c.stage
  unfold advance
  rw [hc]
  show ServiceStage.Alters _ _ _ (c.leave ((c.stage.turn c.ctx c.me).exec s.relay)).registry
  generalize (c.stage.turn c.ctx c.me).exec s.relay = answer at hleads
  obtain ⟨answer, t⟩ := answer
  have halters : ServiceStage.Alters s.relay.registry c.me c.stage t.registry := hleads.alters
  cases answer with
  | error e =>
    have hreject : (t.reject e c.kind c.me.id).registry = t.registry := posts_send.registry
    show ServiceStage.Alters _ _ _ (t.reject e c.kind c.me.id).registry
    rw [hreject]
    exact halters
  | ok next => exact halters

/-- Every handler belongs to its sender after every move. -/
theorem Owned.step {move : Move} (h : s.Owned) (step : Step s move t) : t.Owned := by
  intro j c hc
  cases step with
  | start service idle =>
    rcases calls_start hc with hkept | ⟨rfl, me, hme, rfl⟩
    · exact h j c hkept
    · exact id_of_find? hme
  | advance =>
    obtain ⟨d, hd, hme, -⟩ := calls_advance hc
    rw [hme]
    exact h j d hd
  | elsewhere => exact h j c hc

/-- A move keeps the registry settled if it finds requests apart from dispatchers. -/
theorem settled_step {move : Move} (h : s.relay.registry.Settled) (howned : s.Owned) (apart : s.Apart)
    (step : Step s move t) : t.relay.registry.Settled := by
  cases step with
  | start service idle =>
    rw [registry_start]
    exact h
  | @advance i =>
    cases hc : s.calls i with
    | none =>
      rw [advance_of_none hc]
      exact h
    | some c =>
      refine (alters_advance hc).settled h fun hrequesting p hp => ?_
      rw [howned i c hc] at hp
      exact apart i c p hc hrequesting hp
  | elsewhere spares => exact h.spares spares

/-! ## Courses -/

variable {ms first later : List Move}

/-- What goes on after a course lengthens it. -/
theorem Course.trans {P : Concurrent → Prop} (before : Course P s first t) (after : Course P t later u) :
    Course P s (first ++ later) u := by
  induction before with
  | done => exact after
  | move here step _ ih => exact .move here step (ih after)

/-- What holds all the way holds at the start. -/
theorem Course.start_holds {P : Concurrent → Prop} (h : Course P s ms t) : P s := by
  cases h with
  | done here => exact here
  | move here => exact here

/-- Every handler belongs to its sender all the way. -/
theorem Owned.course {P : Concurrent → Prop} (h : s.Owned) (course : Course P s ms t) : t.Owned := by
  induction course with
  | done => exact h
  | move here step rest ih => exact ih (h.step step)

/-- Where no handler is at work, there is nothing to own. -/
theorem owned_of_atRest (idle : s.AtRest) : s.Owned := by
  intro i c hc
  cases (idle i).symm.trans hc

/-- While requests and dispatchers stay apart, whoever has a dispatcher has no open request. -/
theorem settled_course (h : s.relay.registry.Settled) (howned : s.Owned)
    (course : Course Apart s ms t) : t.relay.registry.Settled := by
  induction course with
  | done => exact h
  | move here step rest ih => exact ih (settled_step h howned here step) (howned.step step)

/-- A connection has no open request, and no request of its own underway that may open one. -/
structure Unasked (s : Concurrent) (p : ConnectionId) : Prop where
  closed : s.relay.registry.hasRequest p = false
  quiet : ∀ c, s.calls p = some c → c.isRequesting = false

/-- Only a request of its own lets a connection have one underway. -/
theorem quiet_step {move : Move} (h : ∀ c, s.calls p = some c → c.isRequesting = false)
    (step : Step s move t) (silent : ∀ ctx note, move ≠ .start ctx p (.serviceRequest note)) :
    ∀ c, t.calls p = some c → c.isRequesting = false := by
  intro c hc
  cases step with
  | @start ctx i m =>
    rcases calls_start hc with hkept | ⟨rfl, me, -, rfl⟩
    · exact h c hkept
    · cases m with
      | serviceRequest note => exact absurd rfl (silent ctx note)
      | _ => rfl
  | advance =>
    obtain ⟨d, hd, -, hrequesting⟩ := calls_advance hc
    rw [Bool.eq_false_iff]
    exact fun hc' => Bool.false_ne_true ((h d hd).symm.trans (hrequesting hc'))
  | elsewhere => exact h c hc

/-- Only a request of its own lets a connection have an open request. -/
theorem Unasked.step {move : Move} (h : s.Unasked p) (howned : s.Owned) (step : Step s move t)
    (silent : ∀ ctx note, move ≠ .start ctx p (.serviceRequest note)) : t.Unasked p := by
  refine ⟨?_, quiet_step h.quiet step silent⟩
  cases step with
  | start =>
    rw [registry_start]
    exact h.closed
  | @advance i =>
    cases hc : s.calls i with
    | none =>
      rw [advance_of_none hc]
      exact h.closed
    | some c =>
      refine (alters_advance hc).hasRequest h.closed fun hrequesting he => ?_
      obtain rfl : i = p := (howned i c hc).symm.trans he
      exact Bool.false_ne_true ((h.quiet c hc).symm.trans hrequesting)
  | @elsewhere u spares =>
    have hclosed := h.closed
    rw [Registry.hasRequest, Option.any_eq_false] at hclosed ⊢
    intro c' hc'
    rcases spares p c' hc' with ⟨c, hc, hpending, -⟩ | ⟨-, hfresh⟩
    · rw [hpending]
      exact hclosed c hc
    · exact hfresh

/-- A pilot who does not ask has no open request all the way. -/
theorem Unasked.course {P : Concurrent → Prop} (h : s.Unasked p) (howned : s.Owned)
    (course : Course P s ms t) (silent : ∀ ctx note, .start ctx p (.serviceRequest note) ∉ ms) :
    t.Unasked p := by
  induction course with
  | done => exact h
  | @move s t u move ms here step rest ih =>
    refine ih (h.step howned step fun ctx note he => ?_) (howned.step step) fun ctx note hmem => ?_
    · exact silent ctx note (he ▸ List.mem_cons_self)
    · exact silent ctx note (List.mem_cons_of_mem _ hmem)

/-- As long as nobody asks, no request is underway. -/
theorem Course.quiet {P : Concurrent → Prop} (course : Course P s ms t)
    (quiet : ∀ p c, s.calls p = some c → c.isRequesting = false)
    (silent : ∀ ctx p note, .start ctx p (.serviceRequest note) ∉ ms) :
    ∀ p c, t.calls p = some c → c.isRequesting = false := by
  induction course with
  | done => exact quiet
  | @move s t u move ms here step rest ih =>
    refine ih (fun p => ?_) fun ctx p note hmem => ?_
    · exact quiet_step (quiet p) step fun ctx note he => silent ctx p note (he ▸ List.mem_cons_self)
    · exact silent ctx p note (List.mem_cons_of_mem _ hmem)

/-- As long as nobody asks, no request is underway that a dispatcher could cross. -/
theorem Course.apart {P : Concurrent → Prop} (course : Course P s ms t)
    (quiet : ∀ p c, s.calls p = some c → c.isRequesting = false)
    (silent : ∀ ctx p note, .start ctx p (.serviceRequest note) ∉ ms) : Course Apart s ms t := by
  have apart : ∀ {s : Concurrent}, (∀ p c, s.calls p = some c → c.isRequesting = false) → s.Apart :=
    fun h i c p hc hrequesting => absurd ((h i c hc).symm.trans hrequesting) Bool.false_ne_true
  induction course with
  | done => exact .done (apart quiet)
  | @move s t u move ms here step rest ih =>
    refine .move (apart quiet) step (ih (fun p => ?_) fun ctx p note hmem => ?_)
    · exact quiet_step (quiet p) step fun ctx note he => silent ctx p note (he ▸ List.mem_cons_self)
    · exact silent ctx p note (List.mem_cons_of_mem _ hmem)

/-- However the turns of handlers follow each other, as long as no pilot gets a dispatcher while a request
of its own is underway that found it without one, whoever has a dispatcher has no open request; and a
pilot that has one cannot be bound again, to whomever, until it sends a new request. -/
theorem settled_when_apart (start : s.relay.registry.Settled) (idle : s.AtRest)
    (before : Course Apart s first t) (after : Course Apart t later u) :
    u.relay.registry.Settled ∧
      ∀ p c, t.relay.registry.find? p = some c → c.session.dispatcher ≠ noConnection →
        (∀ ctx note, .start ctx p (.serviceRequest note) ∉ later) →
        ∀ d r, u.relay.registry.bindDispatcher p d ≠ .ok (.bound, r) := by
  have howned := owned_of_atRest idle
  have hsettled := settled_course start howned before
  refine ⟨settled_course hsettled (howned.course before) after, fun p c hc hserved silent d r hbind => ?_⟩
  have hunasked : t.Unasked p := by
    refine ⟨?_, fun call hcall => Bool.eq_false_iff.mpr fun hrequesting => ?_⟩
    · rw [hasRequest_of_find? hc]
      exact hsettled p c hc hserved
    · exact hserved (after.start_holds p call c hcall hrequesting hc)
  have hclosed := (hunasked.course (howned.course before) after silent).closed
  obtain ⟨q, -, hq, -, -, hpending, -⟩ := bindDispatcher_bound hbind
  rw [hasRequest_of_find? hq] at hclosed
  exact Bool.false_ne_true (hclosed.symm.trans hpending)

/-! ## A pilot who is served -/

/-- The messages come in on a relay that trusts any token. -/
def trusting : RelayContext := ⟨.trusting, .standard, 0⟩

/-- A request is open, and no handler is in progress. -/
def resting : Concurrent := ⟨asked, fun _ => none⟩

/-- The dispatcher takes the request. -/
def served : Concurrent := ((resting.start trusting 2 (.serviceAccept 1)).advance 2).advance 2

/-- The dispatcher leaves the pilot. -/
def left : Concurrent := (served.start trusting 2 (.serviceCancel (some 1) "bye")).advance 2

/-- The pilot is not bound again before it asks again. -/
theorem settled_when_apart_asked :
    served.relay.registry.aspect service 1 = some (2, false) ∧
      left.relay.registry.aspect service 1 = some (noConnection, false) ∧
      left.relay.registry.Settled ∧
      ∀ d r, left.relay.registry.bindDispatcher 1 d ≠ .ok (.bound, r) := by
  have hserved : served.relay.registry.aspect service 1 = some (2, false) := by decide +kernel
  have hquiet : ∀ p c, resting.calls p = some c → c.isRequesting = false := fun p c hc => by cases hc
  have hfirst : Course (fun _ => True) resting
      [.start trusting 2 (.serviceAccept 1), .advance 2, .advance 2] served :=
    .move trivial (.start rfl rfl) (.move trivial .advance (.move trivial .advance (.done trivial)))
  have hidle : served.calls 2 = none := Option.isNone_iff_eq_none.mp (by decide +kernel)
  have hlater : Course (fun _ => True) served
      [.start trusting 2 (.serviceCancel (some 1) "bye"), .advance 2] left :=
    .move trivial (.start rfl hidle) (.move trivial .advance (.done trivial))
  have hbefore := hfirst.apart hquiet fun ctx p note h => by simp at h
  have hafter := hlater.apart (hfirst.quiet hquiet fun ctx p note h => by simp at h)
    fun ctx p note h => by simp at h
  obtain ⟨p, hp, hservice⟩ := aspect_eq_some_iff.mp hserved
  have hbound : p.session.dispatcher ≠ noConnection := by
    rw [(Prod.mk.inj hservice).1]
    decide
  obtain ⟨hsettled, hagain⟩ := settled_when_apart steady_asked.sound.settled (fun _ => rfl) hbefore hafter
  exact ⟨hserved, by decide +kernel, hsettled,
    hagain 1 p hp hbound fun ctx note h => by simp at h⟩

/-! ## A request and an accept -/

/-- A handler begins for a live connection. -/
theorem Step.begun {s : Relay} {calls : ConnectionId → Option ServiceCall}
    (service : m.isService = true) (idle : calls i = none) (hme : s.registry.find? i = some me) :
    Step ⟨s, calls⟩ (.start ctx i m)
      ⟨s.counted, Function.update calls i (some ⟨ctx, me, m.kind, .received m⟩)⟩ := by
  have hstart : Concurrent.start ⟨s, calls⟩ ctx i m
      = ⟨s.counted, Function.update calls i (some ⟨ctx, me, m.kind, .received m⟩)⟩ := by
    unfold Concurrent.start
    simp only [hme]
  rw [← hstart]
  exact .start service idle

/-- A handler takes a turn that is not refused. -/
theorem Step.taken {s t : Relay} {calls : ConnectionId → Option ServiceCall} {kind : String}
    {next : Option ServiceStage} (hc : calls i = some ⟨ctx, me, kind, stage⟩)
    (hturn : (stage.turn ctx me).exec s = (.ok next, t)) :
    Step ⟨s, calls⟩ (.advance i)
      ⟨t, Function.update calls i (next.map fun stage => ⟨ctx, me, kind, stage⟩)⟩ := by
  have hadvance : Concurrent.advance ⟨s, calls⟩ i
      = ⟨t, Function.update calls i (next.map fun stage => ⟨ctx, me, kind, stage⟩)⟩ := by
    unfold Concurrent.advance
    simp only [hc, hturn]
    cases next <;> rfl
  rw [← hadvance]
  exact .advance

/-- The request of a pilot without a dispatcher is offered to the one dispatcher who is available and covers
it, and is yet to be noted. -/
theorem request_offered (ctx : RelayContext) (note : String) {location : Geo.Point} {x : Float}
    (idle : s.calls me.id = none) (isOpen : s.relay.outbox.isOpen = true)
    (hme : s.relay.registry.find? me.id = some me) (hauth : me.session.isAuthenticated = true)
    (hrole : me.role = .pilot) (hunserved : me.session.dispatcher = noConnection)
    (place : me.session.location = some location) (available : s.relay.registry.available = [d])
    (covered : Handler.offerDistance location d = some x) :
    ∃ t : Relay, Course (fun _ => True) s
        [.start ctx me.id (.serviceRequest note), .advance me.id, .advance me.id]
        ⟨t, Function.update s.calls me.id
          (some ⟨ctx, me, "service_request", .offering note location [] ⟨1, 0⟩⟩)⟩ ∧
      t.registry = s.relay.registry := by
  obtain ⟨hmem, havailable⟩ := List.mem_filter.mp (available ▸ List.mem_singleton_self d)
  have hask := ServiceStage.exec_received_request ctx s.relay.counted note hauth hrole place hunserved
  rw [show s.relay.counted.registry.available = [d] from available] at hask
  have hopen : s.relay.counted.outbox.isOpen = true := isOpen
  obtain ⟨t, hoffer, hkept⟩ := ServiceStage.exec_offering ctx me note ⟨0, 0⟩ hopen (find?_of_mem hmem)
    (isAvailableDispatcher_iff.mp havailable).1 covered
  have course : Course (fun _ => True) s
      [.start ctx me.id (.serviceRequest note), .advance me.id, .advance me.id] _ :=
    .move trivial (.begun rfl idle hme) <|
      .move trivial (.taken (Function.update_self ..) hask) <|
        .move trivial (.taken (Function.update_self ..) hoffer) <| .done trivial
  rw [Function.update_idem, Function.update_idem] at course
  exact ⟨t, course, hkept⟩

/-- A pilot with an open request asks again, and the one dispatcher who is available and covers it takes
the request after the offer and before the new one is noted: when both handlers are over, the pilot has
this dispatcher and an open request. -/
theorem request_crosses_accept {note : String} {location : Geo.Point} {x : Float} (idle : s.AtRest)
    (sound : s.relay.registry.Sound) (isOpen : s.relay.outbox.isOpen = true)
    (hme : s.relay.registry.find? me.id = some me) (pending : me.session.servicePending = true)
    (place : me.session.location = some location) (available : s.relay.registry.available = [d])
    (covered : Handler.offerDistance location d = some x) :
    ∃ t, Course (fun _ => True) s
        [.start ctx me.id (.serviceRequest note), .advance me.id, .advance me.id,
          .start ctx d.id (.serviceAccept me.id), .advance d.id, .advance d.id, .advance me.id] t ∧
      t.AtRest ∧ t.relay.registry.aspect service me.id = some (d.id, true) := by
  obtain ⟨hpilot, hunserved⟩ := (sound.coherent hme).pending pending
  have hrole : me.role = .pilot := hpilot
  obtain ⟨hmem, havailable⟩ := List.mem_filter.mp (available ▸ List.mem_singleton_self d)
  have hd := find?_of_mem hmem
  have hdrole : d.role = .dispatcher := (isAvailableDispatcher_iff.mp havailable).1
  have hne : d.id ≠ me.id := ne_of_role hd hme hdrole hrole (by decide)
  -- the request finds its pilot without a dispatcher, and is offered
  obtain ⟨t, hoffered, hkept⟩ := request_offered ctx note (idle me.id) isOpen hme
    (sound.isAuthenticated hme (by rw [hrole]; decide)) hrole hunserved place available covered
  have hme' : t.counted.registry.find? me.id = some me := (congrArg (·.find? me.id) hkept).trans hme
  have hd' : t.counted.registry.find? d.id = some d := (congrArg (·.find? d.id) hkept).trans hd
  -- the dispatcher finds the earlier request open, and takes it
  have hcheck : ((ServiceStage.received (.serviceAccept me.id)).turn ctx d).exec t.counted
      = (.ok (some (.binding me.id)), t.counted) :=
    ServiceStage.exec_received_accept ctx (sound.isAuthenticated hd (by rw [hdrole]; decide)) havailable
      hme' hrole
  have hbind := bindDispatcher_of_request hme' hd' hunserved pending (sound.numbered hd).1
  obtain ⟨v, htake, hbound⟩ := ServiceStage.exec_takeRequest hbind
  -- and the request is noted, whatever has become of its pilot
  have hserved : v.registry.find? me.id = some (me.withSession (servedBy d.id d.session.userId)) := by
    rw [hbound, find?_modify_self hme']
  obtain ⟨w, hnote, hnoted⟩ := ServiceStage.exec_noteRequest ⟨1, 0⟩ hserved
  have hbinding : ((ServiceStage.binding me.id).turn ctx d).exec t.counted = (.ok none, v) :=
    Handler.exec_bind_of_ok htake
  have hnoting : ((ServiceStage.offering note location [] ⟨1, 0⟩).turn ctx me).exec v = (.ok none, w) :=
    Handler.exec_bind_of_ok hnote
  -- the request waits while the accept takes its turns
  have hwaits : ∀ {calls : ConnectionId → Option ServiceCall} {a b c : Option ServiceCall},
      Function.update (Function.update (Function.update calls d.id a) d.id b) d.id c me.id
        = calls me.id := by
    intro calls a b c
    simp only [Function.update_of_ne hne.symm]
  refine ⟨_, hoffered.trans <|
    .move trivial (.begun rfl ?_ ((congrArg (·.find? d.id) hkept).trans hd)) <|
    .move trivial (.taken (Function.update_self ..) hcheck) <|
    .move trivial (.taken (Function.update_self ..) hbinding) <|
    .move trivial (.taken (hwaits.trans (Function.update_self ..)) hnoting) <| .done trivial,
    fun i => ?_, ?_⟩
  · exact (Function.update_of_ne hne ..).trans (idle d.id)
  · by_cases hi : i = me.id
    · subst hi
      exact Function.update_self ..
    · by_cases hi' : i = d.id
      · subst hi'
        exact (Function.update_of_ne hi ..).trans (Function.update_self ..)
      · simp only [Function.update_of_ne hi, Function.update_of_ne hi']
        exact idle i
  · show w.registry.aspect service me.id = _
    rw [hnoted]
    exact aspect_modify_self hserved

/-- A pilot with an open request asks again, and its one offer is out. -/
def crossing : Concurrent where
  relay := asked
  calls := Function.update (fun _ => none) 1 ((asked.registry.find? 1).map fun me =>
    ⟨trusting, me, "service_request", .offering "fuel" ⟨50, 8, 3000⟩ [] ⟨1, 0⟩⟩)

/-- This is how far the pilot comes who has an open request, up to what was handed on, if the place is
computed to be in range of itself. -/
theorem offered_crossing (near : (⟨50, 8, 3000⟩ : Geo.Point).distance ⟨50, 8, 3000⟩ ≤ 500) :
    ∃ t : Relay, Course (fun _ => True) resting
        [.start trusting 1 (.serviceRequest "fuel"), .advance 1, .advance 1] ⟨t, crossing.calls⟩ ∧
      t.registry = crossing.relay.registry := by
  have hpilot : asked.registry.aspect (fun s => (s.role, s.isAuthenticated, s.location, s.dispatcher)) 1
      = some (.pilot, true, some ⟨50, 8, 3000⟩, noConnection) := by decide +kernel
  obtain ⟨me, hme, hsession⟩ := aspect_eq_some_iff.mp hpilot
  simp only [Prod.mk.injEq] at hsession
  obtain ⟨hrole, hauth, hplace, hunserved⟩ := hsession
  have hone : asked.registry.available.map Connection.id = [2] := by decide +kernel
  obtain ⟨d, havailable, hid⟩ := List.map_eq_singleton_iff.mp hone
  have hcenter : asked.registry.aspect (fun s => (s.serviceLocation, s.serviceRange)) 2
      = some (some ⟨50, 8, 3000⟩, 500) := by decide +kernel
  have hd := find?_of_mem (List.mem_filter.mp (havailable ▸ List.mem_singleton_self d)).1
  rw [hid] at hd
  rw [aspect_of_find? hd] at hcenter
  obtain ⟨hserves, hrange⟩ := Prod.mk.inj (Option.some.inj hcenter)
  have hnear : (⟨50, 8, 3000⟩ : Geo.Point).distance ⟨50, 8, 3000⟩ ≤ d.session.serviceRange := by
    rw [hrange]
    exact near
  have hcovered : Handler.offerDistance ⟨50, 8, 3000⟩ d = some _ :=
    offerDistance_eq_some.mpr ⟨⟨_, hserves, rfl⟩, hnear⟩
  have hself : me.id = 1 := id_of_find? hme
  obtain ⟨t, course, hkept⟩ := request_offered (s := resting) trusting "fuel" rfl steady_asked.isOpen
    (hself.symm ▸ hme) hauth hrole hunserved hplace havailable hcovered
  rw [hself] at course
  have hcalls : Function.update resting.calls 1
      (some ⟨trusting, me, "service_request", .offering "fuel" ⟨50, 8, 3000⟩ [] ⟨1, 0⟩⟩)
        = crossing.calls := by
    rw [crossing, hme]
    rfl
  rw [hcalls] at course
  exact ⟨t, course, hkept⟩

/-- The dispatcher takes the earlier request, and then the new one is noted. -/
def crossed : Concurrent :=
  (((crossing.start trusting 2 (.serviceAccept 1)).advance 2).advance 2).advance 1

/-- The dispatcher leaves the pilot, and takes it again. -/
def retaken : Concurrent :=
  ((((crossed.start trusting 2 (.serviceCancel (some 1) "bye")).advance 2).start trusting 2
    (.serviceAccept 1)).advance 2).advance 2

/-- A turn of one handler leaves the others where they are. -/
theorem calls_advance_of_ne (h : j ≠ i) : (s.advance i).calls j = s.calls j := by
  unfold advance
  cases s.calls i with
  | none => rfl
  | some c => exact Function.update_of_ne h ..

/-- The start of one handler leaves the others where they are. -/
theorem calls_start_of_ne (h : j ≠ i) : (s.start ctx i m).calls j = s.calls j := by
  unfold start
  cases s.relay.registry.find? i with
  | none => rfl
  | some me => exact Function.update_of_ne h ..

/-- The pilot has a dispatcher and an open request when both handlers are over; and after that dispatcher
has left it, it is bound again without having asked. -/
theorem open_request_of_served :
    crossing.relay.registry.Sound ∧
      Course (fun _ => True) crossing
        [.start trusting 2 (.serviceAccept 1), .advance 2, .advance 2, .advance 1] crossed ∧
      crossed.AtRest ∧ crossed.relay.registry.aspect service 1 = some (2, true) ∧
      ¬ crossed.relay.registry.Settled ∧
      Course (fun _ => True) crossed
        [.start trusting 2 (.serviceCancel (some 1) "bye"), .advance 2,
          .start trusting 2 (.serviceAccept 1), .advance 2, .advance 2] retaken ∧
      retaken.relay.registry.aspect service 1 = some (2, false) ∧
      retaken.relay.counters.dispatchBindings = 2 := by
  have hopen : crossed.relay.registry.aspect service 1 = some (2, true) := by decide +kernel
  have hidle : ∀ {s : Concurrent} {i}, (s.calls i).isNone = true → s.calls i = none :=
    Option.isNone_iff_eq_none.mp
  refine ⟨steady_asked.sound, .move trivial (.start rfl rfl) (.move trivial .advance
    (.move trivial .advance (.move trivial .advance (.done trivial)))), fun i => ?_, hopen,
    fun hsettled => ?_, .move trivial (.start rfl (hidle (by decide +kernel))) (.move trivial .advance
      (.move trivial (.start rfl (hidle (by decide +kernel))) (.move trivial .advance
        (.move trivial .advance (.done trivial))))), by decide +kernel, by decide +kernel⟩
  · by_cases hpilot : i = 1
    · subst hpilot
      exact hidle (by decide +kernel)
    · by_cases hdispatcher : i = 2
      · subst hdispatcher
        exact hidle (by decide +kernel)
      · -- nobody else has a handler in progress
        rw [crossed, calls_advance_of_ne hpilot, calls_advance_of_ne hdispatcher,
          calls_advance_of_ne hdispatcher, calls_start_of_ne hdispatcher]
        show Function.update (fun _ => none) 1 _ i = none
        rw [Function.update_of_ne hpilot]
  -- a pilot with both a dispatcher and an open request is what settled excludes
  · obtain ⟨p, hp, hservice⟩ := aspect_eq_some_iff.mp hopen
    obtain ⟨hdispatcher, hpending⟩ := Prod.mk.inj hservice
    have hclosed := hsettled 1 p hp (by rw [hdispatcher]; decide)
    exact Bool.false_ne_true (hclosed.symm.trans hpending)

end Relay.Concurrent

end FlightRelay

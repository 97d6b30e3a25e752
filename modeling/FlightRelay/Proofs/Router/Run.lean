import FlightRelay.Proofs.Router.Answers.Messages
import FlightRelay.Proofs.Router.Departure

/-!
# Runs of the relay

A run is a finite sequence of events on a relay that starts without connections.  `Happened` lists all
that one event can do, so that a property of every run is proved once for each of its cases.
-/

namespace FlightRelay

open Outbound

/-- What can happen to a relay. -/
inductive Event where
  /-- A connection is accepted. -/
  | accept (remote : Option Net.Socket) (defaults : SessionDefaults) (now : Nat)
  | message (ctx : RelayContext) (envelope : Envelope)
  | disconnect (id : ConnectionId)
  /-- The store falls into trouble or recovers. -/
  | backend (refusesCommits : Bool) (outages : Store.Outages)

/-- The event uses up a number. -/
def Event.isAccept : Event → Bool
  | .accept _ _ _ => true
  | _ => false

namespace Relay

/-- The relay after an event. -/
def step (s : Relay) : Event → Relay
  | .accept remote defaults now => (s.enroll remote (.fresh defaults now)).2
  | .message ctx envelope => handle ctx s envelope
  | .disconnect id => ((s.depart id).map Prod.snd).getD s
  | .backend refusesCommits outages => { s with store := { s.store with refusesCommits, outages } }

/-- The relay after a sequence of events. -/
def run (s : Relay) (es : List Event) : Relay := es.foldl step s

/-- What an event hands on. -/
def emitted (s : Relay) (e : Event) : List Outbound :=
  (s.step e).outbox.sent.drop s.outbox.sent.length

/-- A relay that some run leads to, before the numbers run out. -/
def Reachable (s : Relay) : Prop :=
  ∃ store es, es.countP Event.isAccept < 2 ^ 64 - 1 ∧ (empty store).run es = s

/-- The relay while it handles a message. -/
def counted (s : Relay) : Relay :=
  { s with counters := { s.counters with handled := s.counters.handled + 1 } }

end Relay

/-! ## One event -/

/-- All that one event can do: what it leaves, and what it hands on. -/
inductive Happened (s : Relay) : Event → Outcome → Prop
  | accepted {remote : Option Net.Socket} {d : SessionDefaults} {now : Nat} {r : Registry}
      (added : s.registry.allocate.2.add (.accepted s.registry.nextId remote (.fresh d now)) = .ok r) :
      Happened s (.accept remote d now) ⟨r, s.store, s.counters, []⟩
  | duplicate {remote : Option Net.Socket} {d : SessionDefaults} {now : Nat} {e : RegistryError}
      (taken : s.registry.allocate.2.add (.accepted s.registry.nextId remote (.fresh d now))
        = .error e) :
      Happened s (.accept remote d now) ⟨s.registry.allocate.2, s.store, s.counters, []⟩
  | stale {ctx : RelayContext} {envelope : Envelope}
      (gone : s.registry.find? envelope.sender = none) :
      Happened s (.message ctx envelope)
        ⟨s.registry, s.store, { s.counters with staleSenders := s.counters.staleSenders + 1 }, []⟩
  | refused {ctx : RelayContext} {envelope : Envelope} {me : Connection} {e : RouteError}
      {warnings : List Outbound} (failures : Nat)
      (live : s.registry.find? envelope.sender = some me)
      (warn : ∀ o ∈ warnings, o.message.isWarning = true)
      (warned : ∀ o ∈ warnings,
        s.registry.aspect Session.role o.target = some o.message.warnedRole) :
      Happened s (.message ctx envelope)
        { registry := s.registry
          store := s.store
          counters := { s.counters with
            handled := s.counters.handled + 1
            rejected := s.counters.rejected + 1
            persistenceFailures := s.counters.persistenceFailures + failures }
          posts := s.registry.mail true warnings
            ++ [batched (.refused envelope.message.kind e.message) envelope.sender] }
  | carried {ctx : RelayContext} {envelope : Envelope} {me : Connection} {o : Outcome}
      (live : s.registry.find? envelope.sender = some me)
      (how : Carried ctx s.counted me envelope.message o) :
      Happened s (.message ctx envelope) { o with posts := s.registry.mail true o.posts }
  | absent {id : ConnectionId} (gone : s.registry.find? id = none) :
      Happened s (.disconnect id) ⟨s.registry, s.store, s.counters, []⟩
  | departed {id : ConnectionId} {removal : Registry.Removal} {r : Registry}
      (removed : s.registry.remove id = some (removal, r)) :
      Happened s (.disconnect id)
        ⟨r, s.store, s.counters, r.mail true (r.farewells removal)⟩
  | backend {refusesCommits : Bool} {outages : Store.Outages} :
      Happened s (.backend refusesCommits outages)
        ⟨s.registry, { s.store with refusesCommits, outages }, s.counters, []⟩

namespace Relay

/-- The relay `t` is what `s` has become when something happened. -/
structure Becomes (s : Relay) (o : Outcome) (t : Relay) : Prop where
  registry : t.registry = o.registry
  store : t.store = o.store
  counters : t.counters = o.counters
  isOpen : t.outbox.isOpen = true
  sent : t.outbox.sent = s.outbox.sent ++ o.posts

variable {s t : Relay} {e : Event} {es fs : List Event} {o : Outcome}

/-- What happens on an event whose messages nobody hears of. -/
theorem becomes_quiet {r : Registry} {store : Store} {counters : RouterCounters}
    (hopen : s.outbox.isOpen = true) :
    s.Becomes ⟨r, store, counters, []⟩ ⟨r, store, s.outbox, counters⟩ :=
  ⟨rfl, rfl, rfl, hopen, (List.append_nil _).symm⟩

/-- What was handed on before an event stays; what the event hands on comes after it. -/
theorem Becomes.emitted (h : s.Becomes o (s.step e)) : s.emitted e = o.posts := by
  rw [Relay.emitted, h.sent, List.drop_left]

/-- A message of a live connection is given to its handler, and a refusal is answered. -/
theorem handle_of_find? (ctx : RelayContext) {envelope : Envelope} {me : Connection}
    (hme : s.registry.find? envelope.sender = some me) :
    handle ctx s envelope
      = match (Handler.handleMessage ctx me envelope.message).exec s.counted with
        | (.ok (), t) => t
        | (.error e, t) => t.reject e envelope.message.kind envelope.sender := by
  unfold handle
  rw [hme]
  rfl

/-- What a handler reaches is what the relay becomes. -/
theorem Reaches.becomes (h : s.counted.Reaches o t) (hopen : s.outbox.isOpen = true) :
    s.Becomes { o with posts := s.registry.mail true o.posts } t := by
  have hopen' : s.counted.outbox.isOpen = true := hopen
  have hsent := h.sent
  rw [hopen'] at hsent
  exact ⟨h.registry, h.store, h.counters, h.isOpen.trans hopen, hsent⟩

/-- A message that its handler carries out. -/
theorem carried_message (ctx : RelayContext) (envelope : Envelope) {me : Connection}
    (hopen : s.outbox.isOpen = true) (hme : s.registry.find? envelope.sender = some me)
    (h : CarriedOut ctx s.counted me envelope.message
      ((Handler.handleMessage ctx me envelope.message).exec s.counted)) :
    ∃ o, Carried ctx s.counted me envelope.message o ∧
      s.Becomes { o with posts := s.registry.mail true o.posts } (s.step (.message ctx envelope)) := by
  show ∃ o, _ ∧ s.Becomes _ (handle ctx s envelope)
  rw [handle_of_find? ctx hme]
  generalize (Handler.handleMessage ctx me envelope.message).exec s.counted = answer at h
  cases h with
  | @carried o t how turn => exact ⟨o, how, turn.becomes hopen⟩

/-- A message of a live connection is refused or carried out. -/
theorem happened_message (ctx : RelayContext) {envelope : Envelope} {me : Connection}
    (hopen : s.outbox.isOpen = true) (hme : s.registry.find? envelope.sender = some me) :
    ∃ o, Happened s (.message ctx envelope) o ∧ s.Becomes o (handle ctx s envelope) := by
  have hid : me.id = envelope.sender := Registry.id_of_find? hme
  have hanswer : Answered ctx s.counted me envelope.message
      ((Handler.handleMessage ctx me envelope.message).exec s.counted) :=
    Handler.answered_handleMessage (by rw [hid]; exact hme)
  rw [handle_of_find? ctx hme]
  generalize (Handler.handleMessage ctx me envelope.message).exec s.counted = answer at hanswer
  cases hanswer with
  | @refused e warnings t warn turn warned =>
    -- the refusal is one more post, after the warnings, to a sender that is live
    have hrejected : s.counted.Reaches
        { registry := s.counted.registry
          store := s.counted.store
          counters := { t.counters with
            rejected := t.counters.rejected + 1
            persistenceFailures := t.counters.persistenceFailures
              + if e.isStoreFailure then 1 else 0 }
          posts := warnings
            ++ [batched (.refused envelope.message.kind e.message) envelope.sender] }
        (t.reject e envelope.message.kind envelope.sender) := (Reaches.withCounters turn).send
    have hbecomes := hrejected.becomes hopen
    refine ⟨_, .refused (e := e) (if e.isStoreFailure then 1 else 0) hme warn warned,
      hbecomes.registry, hbecomes.store, ?_, hbecomes.isOpen, ?_⟩
    · refine hbecomes.counters.trans ?_
      rw [turn.counters]
      rfl
    · refine hbecomes.sent.trans ?_
      rw [Registry.mail_append, Registry.mail_singleton (Registry.contains_of_find? hme)]
      rfl
  | @carried o t how turn => exact ⟨_, .carried hme how, turn.becomes hopen⟩

/-- Whatever happens on an event is in the list. -/
theorem happened_step (hopen : s.outbox.isOpen = true) :
    ∃ o, Happened s e o ∧ s.Becomes o (s.step e) := by
  cases e with
  | accept remote d now =>
    show ∃ o, _ ∧ s.Becomes o (s.enroll remote (.fresh d now)).2
    unfold enroll
    cases hadd : s.registry.allocate.2.add (.accepted s.registry.nextId remote (.fresh d now)) with
    | ok r =>
      refine ⟨_, .accepted hadd, ?_⟩
      have hadd' : s.registry.allocate.2.add
        (.accepted s.registry.allocate.1 remote (.fresh d now)) = .ok r := hadd
      simp only [hadd']
      exact becomes_quiet hopen
    | error e =>
      refine ⟨_, .duplicate hadd, ?_⟩
      have hadd' : s.registry.allocate.2.add
        (.accepted s.registry.allocate.1 remote (.fresh d now)) = .error e := hadd
      simp only [hadd']
      exact becomes_quiet hopen
  | message ctx envelope =>
    cases hme : s.registry.find? envelope.sender with
    | none =>
      refine ⟨_, .stale hme, ?_⟩
      show s.Becomes _ (handle ctx s envelope)
      unfold handle
      rw [hme]
      exact becomes_quiet hopen
    | some me => exact happened_message ctx hopen hme
  | disconnect id =>
    cases hdepart : s.depart id with
    | none =>
      refine ⟨_, .absent (depart_eq_none hdepart), ?_⟩
      show s.Becomes _ (((s.depart id).map Prod.snd).getD s)
      rw [hdepart]
      exact becomes_quiet hopen
    | some gone =>
      obtain ⟨removal, t⟩ := gone
      -- the farewells are mailed after the removal, from the registry that is left
      obtain ⟨r, hremove, hposts⟩ := depart_eq_some hdepart
      refine ⟨_, .departed hremove, ?_⟩
      show s.Becomes _ (((s.depart id).map Prod.snd).getD s)
      rw [hdepart]
      have hsent := hposts.sent
      simp only [hopen] at hsent
      exact ⟨hposts.registry, hposts.store, hposts.counters, hposts.isOpen.trans hopen, hsent⟩
  | backend refusesCommits outages => exact ⟨_, .backend, becomes_quiet hopen⟩

/-- An event hands on what it hands on after all that was handed on before. -/
theorem sent_step (hopen : s.outbox.isOpen = true) :
    (s.step e).outbox.sent = s.outbox.sent ++ s.emitted e := by
  obtain ⟨o, -, hbecomes⟩ := happened_step (e := e) hopen
  rw [hbecomes.sent, hbecomes.emitted]

/-! ## Many events -/

@[simp] theorem run_cons : s.run (e :: es) = (s.step e).run es := rfl

theorem run_append : s.run (es ++ fs) = (s.run es).run fs := List.foldl_append

/-- No event closes the outbox. -/
theorem isOpen_step (hopen : s.outbox.isOpen = true) : (s.step e).outbox.isOpen = true := by
  obtain ⟨o, -, hbecomes⟩ := happened_step (e := e) hopen
  exact hbecomes.isOpen

theorem isOpen_run (hopen : s.outbox.isOpen = true) : (s.run es).outbox.isOpen = true := by
  induction es generalizing s with
  | nil => exact hopen
  | cons e es ih => exact ih (isOpen_step hopen)

/-- What the events of a run hand on, each with the next. -/
def emissions (s : Relay) : List Event → List Outbound
  | [] => []
  | e :: es => s.emitted e ++ (s.step e).emissions es

/-- All that a run hands on is in the outbox, in order. -/
theorem sent_run (hopen : s.outbox.isOpen = true) :
    (s.run es).outbox.sent = s.outbox.sent ++ s.emissions es := by
  induction es generalizing s with
  | nil => exact (List.append_nil _).symm
  | cons e es ih =>
    rw [run_cons, ih (isOpen_step hopen), sent_step hopen, emissions, List.append_assoc]

end Relay

/-! ## A short run -/

namespace Event

/-- A message on a relay that trusts any token. -/
def sent (id : ConnectionId) (message : ClientMessage) : Event :=
  .message ⟨.trusting, .standard, 0⟩ ⟨message, id, none⟩

/-- A login of the user with the number of the connection. -/
def login (id : ConnectionId) (role : Role) : Event :=
  sent id (.login ⟨id, "AB12", "token", role, 1, .none, none, none⟩)

/-- A pilot, a dispatcher and a spectator log in, and the pilot lets the spectator follow. -/
def boarding : List Event :=
  [.accept none .standard 0, .accept none .standard 0, .accept none .standard 0,
    login 1 .pilot, login 2 .dispatcher, login 3 .viewer, sent 3 (.viewerRequest 1),
    sent 1 (.viewerAccept 3)]

end Event

/-- The relay after the boarding is one that a run leads to. -/
theorem Relay.reachable_boarding : ((empty .empty).run Event.boarding).Reachable :=
  ⟨.empty, Event.boarding, by decide, rfl⟩

end FlightRelay

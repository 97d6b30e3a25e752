import FlightRelay.Proofs.Router.Completion
import FlightRelay.Proofs.Router.Exclusivity

/-!
# The ledger of services

Every service that was begun goes on, or its end is recorded, or it was dropped because a connection went
away.  `Entry` lists what one event can do to these numbers; along a run, they balance.
-/

namespace FlightRelay

open Outbound Session

variable {ctx : RelayContext} {s t : Relay} {me c : Connection} {m : ClientMessage} {u : Outcome}
  {e : Event} {es : List Event} {r r' : Registry} {id p : ConnectionId} {posts : List Outbound}

/-! ## How many pilots are served -/

namespace Registry

/-- The connection is a live pilot who has a dispatcher. -/
def isServed (r : Registry) (p : ConnectionId) : Bool :=
  (r.find? p).any fun c => c.role = .pilot && c.session.dispatcher ≠ noConnection

/-- How many live pilots have a dispatcher. -/
def served (r : Registry) : Nat :=
  r.connections.countP fun c => c.role = .pilot && c.session.dispatcher ≠ noConnection

/-- How many services a removal drops: those of which the connection was the dispatcher, and the one that
it had itself. -/
def Removal.dropped (removal : Removal) : Nat :=
  removal.cleared.countP (fun b => b.kind = .dispatcher)
    + if removal.snapshot.session.dispatcher ≠ noConnection then 1 else 0

/-- The numbers of the pilots who have a dispatcher. -/
def servedIds (r : Registry) : List ConnectionId :=
  (r.connections.map Connection.id).filter r.isServed

theorem mem_servedIds : p ∈ r.servedIds ↔ r.isServed p = true := by
  rw [servedIds, List.mem_filter]
  refine ⟨fun h => h.2, fun h => ⟨?_, h⟩⟩
  obtain ⟨c, hc, -⟩ := (Option.any_eq_true _ _).mp h
  exact List.mem_map.mpr ⟨c, List.mem_of_find?_eq_some hc, id_of_find? hc⟩

theorem nodup_servedIds : r.servedIds.Nodup := r.ids_nodup.filter _

/-- Pilots are served as often as there are numbers of served pilots. -/
theorem length_servedIds : r.servedIds.length = r.served := by
  rw [servedIds, ← List.countP_eq_length_filter, List.countP_map]
  refine List.countP_congr fun c hc => ?_
  rw [Function.comp, isServed, find?_of_mem hc, Option.any_some]

/-- The same pilots are served, so there are as many. -/
theorem served_congr (h : ∀ p, r'.isServed p = r.isServed p) : r'.served = r.served := by
  rw [← length_servedIds, ← length_servedIds]
  refine List.Perm.length_eq ((List.perm_ext_iff_of_nodup nodup_servedIds nodup_servedIds).mpr ?_)
  intro p
  rw [mem_servedIds, mem_servedIds, h]

/-- The pilot `p` is served in `r'` and not in `r`; all others are served in both or in neither. -/
structure Gains (r r' : Registry) (p : ConnectionId) : Prop where
  before : r.isServed p = false
  after : r'.isServed p = true
  others : ∀ i, i ≠ p → r'.isServed i = r.isServed i

/-- One more pilot is served after a binding. -/
theorem Gains.served (h : r.Gains r' p) : r'.served = r.served + 1 := by
  have hfresh : p ∉ r.servedIds := by
    rw [mem_servedIds, h.before]
    exact Bool.false_ne_true
  have hperm : r'.servedIds.Perm (p :: r.servedIds) := by
    refine (List.perm_ext_iff_of_nodup nodup_servedIds
      (List.nodup_cons.mpr ⟨hfresh, nodup_servedIds⟩)).mpr fun i => ?_
    rw [List.mem_cons, mem_servedIds, mem_servedIds]
    by_cases hi : i = p
    · subst hi
      exact ⟨fun _ => .inl rfl, fun _ => h.after⟩
    · rw [h.others i hi, or_iff_right hi]
  rw [← length_servedIds, hperm.length_eq, List.length_cons, length_servedIds]

/-! ## Sound registries -/

/-- Whoever has a dispatcher is a pilot. -/
theorem Sound.isServed (hs : r.Sound) :
    r.isServed p = (r.aspect Session.dispatcher p).any fun d => d ≠ noConnection := by
  rw [Registry.isServed, aspect, Option.any_map]
  cases hc : r.find? p with
  | none => rfl
  | some c =>
    rw [Option.any_some, Option.any_some]
    show _ = decide (c.session.dispatcher ≠ noConnection)
    by_cases hserved : c.session.dispatcher = noConnection
    · rw [hserved, decide_not, decide_eq_true rfl, Bool.not_true, Bool.and_false]
    · have hrole : c.role = .pilot := ((hs.coherent hc).served hserved).1
      rw [decide_eq_true hrole, Bool.true_and]

/-- Whoever has a dispatcher is a pilot, and so is served. -/
theorem Sound.isServed_of_find? (hs : r.Sound) (hc : r.find? p = some c) :
    r.isServed p = decide (c.session.dispatcher ≠ noConnection) := by
  rw [hs.isServed, aspect_of_find? hc, Option.any_some]

/-- A registry that says of all dispatchers what another says has the same pilots served. -/
theorem Sound.isServed_congr (hs : r.Sound) (hs' : r'.Sound)
    (h : r'.aspect Session.dispatcher p = r.aspect Session.dispatcher p) :
    r'.isServed p = r.isServed p := by
  rw [hs'.isServed, hs.isServed, h]

/-- A pilot who gets a dispatcher is one more who is served. -/
theorem Sound.gains {f : Session → Session} (hs : r.Sound) (hs' : (r.modify id f).Sound)
    (hc : r.find? id = some c) (before : c.session.dispatcher = noConnection)
    (after : (f c.session).dispatcher ≠ noConnection) : r.Gains (r.modify id f) id where
  before := by rw [hs.isServed_of_find? hc, decide_eq_false (not_not.mpr before)]
  after := by
    rw [hs'.isServed_of_find? (find?_modify_self hc)]
    exact decide_eq_true after
  others _ hi := hs.isServed_congr hs' (aspect_modify_of_ne hi)

/-- A pilot who loses its dispatcher is one less who is served. -/
theorem Sound.loses {f : Session → Session} (hs : r.Sound) (hs' : (r.modify id f).Sound)
    (hc : r.find? id = some c) (before : c.session.dispatcher ≠ noConnection)
    (after : (f c.session).dispatcher = noConnection) : (r.modify id f).Gains r id where
  before := by
    rw [hs'.isServed_of_find? (find?_modify_self hc)]
    exact decide_eq_false (not_not.mpr after)
  after := by rw [hs.isServed_of_find? hc, decide_eq_true before]
  others _ hi := hs'.isServed_congr hs (aspect_modify_of_ne hi).symm

/-- Of the connections that stay, those who were served are still served or are told that their
dispatcher is gone. -/
theorem countP_forget (cs : List Connection) (hid : id ≠ noConnection)
    (pilots : ∀ c ∈ cs, c.session.dispatcher ≠ noConnection → c.role = .pilot) :
    cs.countP (fun c => c.role = .pilot && c.session.dispatcher ≠ noConnection)
      = (cs.map (Connection.withSession (forget id))).countP
          (fun c => c.role = .pilot && c.session.dispatcher ≠ noConnection)
        + (cs.flatMap (bindingsTo id)).countP fun b => b.kind = .dispatcher := by
  induction cs with
  | nil => rfl
  | cons c cs ih =>
    have hrest := ih fun d hd => pilots d (List.mem_cons_of_mem _ hd)
    have hviewer : (if c.session.viewer = id then [(⟨c.id, .viewer⟩ : ClearedBinding)] else []).countP
        (fun b => b.kind = .dispatcher) = 0 := by
      split <;> rfl
    rw [List.countP_cons, List.map_cons, List.countP_cons, List.flatMap_cons, List.countP_append,
      bindingsTo, List.countP_append, hviewer, hrest]
    by_cases hlost : c.session.dispatcher = id
    · have hrole : c.role = .pilot := pilots c List.mem_cons_self (hlost ▸ hid)
      have hrole' : (c.withSession (forget id)).role = .pilot := hrole
      have hnone : (c.withSession (forget id)).session.dispatcher = noConnection := if_pos hlost
      simp [hlost, hid, hrole, hnone]
      omega
    · have hrole : (c.withSession (forget id)).role = c.role := rfl
      have hkept : (c.withSession (forget id)).session.dispatcher = c.session.dispatcher :=
        if_neg hlost
      rw [hrole, hkept, if_neg hlost, List.countP_nil]
      omega

/-- A removal drops the services that it says it drops, and no others. -/
theorem Sound.served_remove {removal : Removal} (hs : r.Sound)
    (h : r.remove id = some (removal, r')) : r.served = r'.served + removal.dropped := by
  obtain ⟨gone, hgone, hremoved⟩ := Option.map_eq_some_iff.mp h
  obtain ⟨rfl, rfl⟩ := Prod.mk.inj hremoved
  have hrest := countP_forget (r.without id).connections (hs.numbered hgone).1
    fun c hc hserved => ((hs.coherent (find?_of_mem (List.mem_of_mem_filter hc))).served hserved).1
  have hsplit : r.served = (if gone.session.dispatcher ≠ noConnection then 1 else 0)
      + (r.without id).connections.countP
        fun c => c.role = .pilot && c.session.dispatcher ≠ noConnection := by
    have hwithout : (r.without id).connections = r.connections.filter fun c => !decide (c.id = id) := by
      rw [without]
      simp only [decide_not]
    rw [hwithout, Registry.served, List.countP_eq_countP_filter_add r.connections _ (fun c => c.id = id),
      filter_connections hgone, List.countP_singleton]
    have hserved := hs.isServed_of_find? hgone
    rw [Registry.isServed, hgone, Option.any_some] at hserved
    simp only [hserved, decide_eq_true_eq]
  rw [hsplit, hrest, Removal.dropped, Registry.served]
  exact (Nat.add_left_comm _ _ _).trans (congrArg _ (Nat.add_comm _ _))

end Registry

/-! ## What is counted -/

/-- How many services of which the store has a record ended in a certain way. -/
def Store.ended (store : Store) (outcome : DispatchOutcome) : Nat :=
  store.data.records.countP fun record => record.outcome = outcome

/-- The message acknowledges a request of a kind. -/
def ServerMessage.acknowledges (request : String) : ServerMessage → Bool
  | .ack request' ok _ => request' = request && ok
  | _ => false

namespace Event

/-- The event reports a service as done, and among the posts is the acknowledgement for its sender. -/
def completes : Event → List Outbound → Bool
  | .message _ ⟨.serviceComplete _, sender, _⟩, posts =>
    posts.any fun o => o.target = sender && o.message.acknowledges "service_complete"
  | _, _ => false

/-- The event is a cancel, and a pilot who was served before is not served after it. -/
def cancels : Event → Registry → Registry → Bool
  | .message _ ⟨.serviceCancel _ _, _, _⟩, r, r' => r.servedIds.any fun p => !r'.isServed p
  | _, _, _ => false

/-- The event does not keep the store from taking records. -/
def sparesRecords : Event → Prop
  | .backend refusesCommits outages =>
    refusesCommits = false ∧ outages.begin = none ∧ outages.recordDispatch = none
  | _ => True

end Event

namespace Relay

/-- How many services an event drops with the connection that it removes. -/
def dropped (s : Relay) : Event → Nat
  | .disconnect id => ((s.registry.remove id).map fun gone => gone.1.dropped).getD 0
  | _ => 0

/-- How many completions an event has acknowledged, which is none or one. -/
def completions (s : Relay) (e : Event) : Nat := (e.completes (s.emitted e)).toNat

/-- How many cancels an event is that end a service, which is none or one. -/
def cancellations (s : Relay) (e : Event) : Nat := (e.cancels s.registry (s.step e).registry).toNat

/-- What the events of a run add up to. -/
def total (count : Relay → Event → Nat) (s : Relay) : List Event → Nat
  | [] => 0
  | e :: es => count s e + (s.step e).total count es

end Relay

/-! ## One event -/

/-- All that one event can do to services and their records. -/
inductive Entry (s : Relay) (e : Event) (u : Outcome) : Prop
  | idle (bindings : u.counters.dispatchBindings = s.counters.dispatchBindings)
      (served : ∀ p, u.registry.isServed p = s.registry.isServed p)
      (records : u.store.data.records = s.store.data.records)
      (dropped : s.dropped e = 0)
      (silent : e.completes u.posts = false)
  | begun {ctx : RelayContext} {p d : ConnectionId} {owner : Option UserId}
      (event : e = .message ctx ⟨.serviceAccept p, d, owner⟩)
      (bindings : u.counters.dispatchBindings = s.counters.dispatchBindings + 1)
      (gain : s.registry.Gains u.registry p)
      (records : u.store.data.records = s.store.data.records)
  | cancelled {ctx : RelayContext} {pilot : Option ConnectionId} {p sender : ConnectionId}
      {reason : String} {owner : Option UserId} {record : DispatchRecord}
      (event : e = .message ctx ⟨.serviceCancel pilot reason, sender, owner⟩)
      (bindings : u.counters.dispatchBindings = s.counters.dispatchBindings)
      (loss : u.registry.Gains s.registry p)
      (records : u.store.data.records = s.store.data.records ++ [record])
      (outcome : record.outcome = .cancelled)
  | completed {ctx : RelayContext} {p : ConnectionId} {remarks : String} {owner : Option UserId}
      {record : DispatchRecord}
      (event : e = .message ctx ⟨.serviceComplete remarks, p, owner⟩)
      (bindings : u.counters.dispatchBindings = s.counters.dispatchBindings)
      (loss : u.registry.Gains s.registry p)
      (records : u.store.data.records = s.store.data.records ++ [record])
      (outcome : record.outcome = .completed)
      (heard : e.completes u.posts = true)
  | departed {id : ConnectionId} (event : e = .disconnect id)
      (bindings : u.counters.dispatchBindings = s.counters.dispatchBindings)
      (served : s.registry.served = u.registry.served + s.dropped e)
      (records : u.store.data.records = s.store.data.records)

/-- An event that acknowledges no completion does not complete. -/
theorem Event.completes_of_without {envelope : Envelope}
    (h : Without (ServerMessage.acknowledges "service_complete") posts) :
    (Event.message ctx envelope).completes posts = false := by
  unfold completes
  split
  · rw [List.any_eq_false]
    intro o ho
    rw [h o ho, Bool.and_false]
    exact Bool.false_ne_true
  · rfl

/-- No message but the report of a service as done completes one. -/
theorem Event.completes_of_not_isService {envelope : Envelope} (h : envelope.message.isService = false) :
    (Event.message ctx envelope).completes posts = false := by
  unfold completes
  split
  · rename_i heq
    cases heq
    cases h
  · rfl

/-- Messages that are not part of the dispatch service count no binding and write no record. -/
theorem Carried.books (h : Carried ctx s me m u) (hm : m.isService = false) :
    u.counters.dispatchBindings = s.counters.dispatchBindings ∧
      u.store.data.records = s.store.data.records := by
  cases h with
  | requested => cases hm
  | serviceBound => cases hm
  | serviceKept => cases hm
  | pilotLeft => cases hm
  | pilotWithdrew => cases hm
  | dispatcherLeft => cases hm
  | completed => cases hm
  | routeSaved hknown hcommitted =>
    rw [Store.eq_of_storeRoute hcommitted]
    refine ⟨rfl, ?_⟩
    show (s.store.data.saveRoute _ _).records = _
    rw [Store.saveRoute_eq]
  | _ => exact ⟨rfl, rfl⟩

/-- A cancel counts no binding, whether it is recorded or not. -/
theorem RouterCounters.dispatchBindings_noted {counters : RouterCounters} {store : Store}
    {record : DispatchRecord} :
    (counters.noted store record).dispatchBindings = counters.dispatchBindings := by
  unfold noted
  split <;> rfl

/-- A store that takes records takes the record of a cancel. -/
theorem Store.TakesRecords.records_noted {store : Store} {record : DispatchRecord}
    (h : store.TakesRecords) :
    (store.noted record).data.records = store.data.records ++ [record] := by
  rw [noted, storeRecord_eq_ok.mpr ⟨h, rfl⟩]
  rfl

/-- An event that was refused does not acknowledge a completion. -/
theorem Event.completes_refused {envelope : Envelope} {warnings : List Outbound} {error : String}
    (warn : ∀ o ∈ warnings, o.message.isWarning = true) :
    (Event.message ctx envelope).completes (r.mail true warnings
      ++ [batched (.refused envelope.message.kind error) envelope.sender]) = false := by
  refine completes_of_without (.append ?_ (.singleton (Bool.and_false _)))
  intro o ho
  have hwarning := warn o (Registry.mem_of_mem_mail ho)
  cases hm : o.message <;> rw [hm] at hwarning <;> first | rfl | cases hwarning

/-- A message that leaves every dispatcher, the bindings and the records alone does nothing to the
ledger. -/
theorem Entry.of_same {envelope : Envelope} (hs : s.registry.Sound) (hs' : u.registry.Sound)
    (services : ∀ p, u.registry.aspect Session.dispatcher p = s.registry.aspect Session.dispatcher p)
    (bindings : u.counters.dispatchBindings = s.counters.dispatchBindings)
    (records : u.store.data.records = s.store.data.records)
    (silent : (Event.message ctx envelope).completes u.posts = false) :
    Entry s (.message ctx envelope) u :=
  .idle bindings (fun p => hs.isServed_congr hs' (services p)) records rfl silent

/-- What a message that is carried out does to the ledger, if the store takes records. -/
theorem Carried.entry {envelope : Envelope} {posts : List Outbound}
    (h : Carried ctx s.counted me envelope.message u)
    (hme : s.registry.find? envelope.sender = some me) (hs : s.registry.Sound)
    (hs' : u.registry.Sound) (htakes : s.store.TakesRecords)
    (hposts : posts = s.registry.mail true u.posts) :
    Entry s (.message ctx envelope) { u with posts } := by
  obtain ⟨message, sender, owner⟩ := envelope
  obtain rfl : me.id = sender := Registry.id_of_find? hme
  -- only service messages touch the ledger; each of them makes the entry of its own kind
  cases hservice : message.isService with
  | false =>
    obtain ⟨hbindings, hrecords⟩ := h.books hservice
    refine .of_same hs hs' (fun p => ?_) hbindings hrecords (Event.completes_of_not_isService hservice)
    have hsame := congrArg (Option.map Prod.fst) (h.aspect_service (p := p) hservice)
    rw [Registry.aspect, Registry.aspect, Option.map_map, Option.map_map] at hsame
    exact hsame
  | true =>
    cases h with
    | requested hrole hplace hunserved =>
      exact .of_same hs hs' (fun p => Registry.aspect_modify fun _ => rfl) rfl rfl rfl
    | serviceBound hrole havailable hlive hpilot hunserved hpending =>
      exact .begun rfl rfl (hs.gains hs' hlive hunserved (hs.numbered hme).1) rfl
    | serviceKept => exact .of_same hs hs' (fun p => rfl) rfl rfl rfl
    | pilotLeft hrole hserved hwritten =>
      subst hwritten
      exact .cancelled rfl RouterCounters.dispatchBindings_noted (hs.loses hs' hme hserved rfl)
        htakes.records_noted rfl
    | pilotWithdrew hrole hunserved =>
      exact .of_same hs hs' (fun p => Registry.aspect_modify fun _ => rfl) rfl rfl rfl
    | dispatcherLeft hrole hlive hserved hbound hwritten =>
      subst hwritten
      exact .cancelled rfl RouterCounters.dispatchBindings_noted
        (hs.loses hs' hlive (hserved ▸ hbound) rfl) htakes.records_noted rfl
    | completed hrole hserved hcommitted =>
      refine .completed rfl rfl (hs.loses hs' hme hserved rfl)
        (congrArg (·.data.records) (Store.storeRecord_eq_ok.mp hcommitted).2) rfl ?_
      refine List.any_eq_true.mpr ⟨batched (.accepted "service_complete") me.id, ?_, ?_⟩
      · rw [hposts, Registry.mail_append,
          Registry.mail_singleton (Registry.contains_of_find? hme)]
        exact List.mem_append_right _ (List.mem_singleton_self _)
      · exact Bool.and_eq_true_iff.mpr ⟨decide_eq_true rfl, rfl⟩
    | _ => cases hservice

/-- What an event does to the ledger, if the store takes records. -/
theorem Happened.entry (h : Happened s e u) (hs : s.registry.Sound) (hs' : u.registry.Sound)
    (htakes : s.store.TakesRecords) : Entry s e u := by
  cases h with
  | accepted hadded =>
    obtain ⟨hfree, -, -, hfound⟩ := Registry.accept_eq_ok hadded
    refine .idle rfl (fun p => ?_) rfl rfl rfl
    by_cases hp : p = s.registry.nextId
    · -- nobody is served under a fresh number, before or after
      subst hp
      rw [Registry.isServed, Registry.isServed, hfound, if_pos rfl,
        Registry.find?_eq_none_iff.mpr hfree]
      rfl
    · rw [Registry.isServed, Registry.isServed, hfound, if_neg hp]
  | duplicate => exact .idle rfl (fun _ => rfl) rfl rfl rfl
  | stale => exact .idle rfl (fun _ => rfl) rfl rfl (Event.completes_of_without .nil)
  | refused failures hlive hwarn => exact .idle rfl (fun _ => rfl) rfl rfl (Event.completes_refused hwarn)
  | carried hlive how => exact how.entry hlive hs hs' htakes rfl
  | absent hgone =>
    refine .idle rfl (fun _ => rfl) rfl ?_ rfl
    rw [Relay.dropped, Registry.remove_eq_none_iff.mpr hgone]
    rfl
  | departed hremoved =>
    refine .departed rfl rfl ?_ rfl
    rw [Relay.dropped, hremoved]
    exact hs.served_remove hremoved
  | backend => exact .idle rfl (fun _ => rfl) rfl rfl rfl

/-! ## The store along a run -/

/-- A message that is carried out leaves a store that takes records able to take them. -/
theorem Carried.takesRecords (h : Carried ctx s me m u) (htakes : s.store.TakesRecords) :
    u.store.TakesRecords := by
  have noted : ∀ record, (s.store.noted record).TakesRecords := by
    intro record
    rw [Store.noted, Store.storeRecord_eq_ok.mpr ⟨htakes, rfl⟩]
    exact ⟨htakes.begin, htakes.recordDispatch, htakes.commits⟩
  cases h with
  | pilotLeft => exact noted _
  | dispatcherLeft => exact noted _
  | completed hrole hserved hcommitted =>
    rw [(Store.storeRecord_eq_ok.mp hcommitted).2]
    exact ⟨htakes.begin, htakes.recordDispatch, htakes.commits⟩
  | routeSaved hknown hcommitted =>
    rw [Store.eq_of_storeRoute hcommitted]
    exact ⟨htakes.begin, htakes.recordDispatch, htakes.commits⟩
  | _ => exact htakes

/-- Only trouble with the store stops it from taking records. -/
theorem Happened.takesRecords (h : Happened s e u) (htakes : s.store.TakesRecords)
    (hspares : e.sparesRecords) : u.store.TakesRecords := by
  cases h with
  | carried hlive how => exact how.takesRecords htakes
  | backend =>
    obtain ⟨hcommits, hbegin, hrecord⟩ := hspares
    exact ⟨hbegin, hrecord, hcommits⟩
  | _ => exact htakes

/-! ## The books -/

namespace Relay

/-- The books of a run: what was begun goes on, or was recorded when it ended, or was dropped; and the
records are those of the completions and cancels of the run, beside those that were there before. -/
structure Books (s : Relay) (es : List Event) : Prop where
  begun : (s.run es).counters.dispatchBindings
      + (s.registry.served + s.store.data.records.length)
    = s.counters.dispatchBindings
      + ((s.run es).registry.served + (s.run es).store.data.records.length + s.total dropped es)
  completed : (s.run es).store.ended .completed = s.store.ended .completed + s.total completions es
  cancelled : (s.run es).store.ended .cancelled = s.store.ended .cancelled + s.total cancellations es

end Relay

/-- Where the same pilots are served before and after, no service has ended. -/
theorem Event.cancels_eq_false (h : ∀ p, r'.isServed p = r.isServed p) : e.cancels r r' = false := by
  unfold cancels
  split
  · rw [List.any_eq_false]
    intro p hp
    rw [h, Registry.mem_servedIds.mp hp]
    exact Bool.false_ne_true
  · rfl

/-- A cancel after which a pilot is served no longer has ended that service. -/
theorem Event.cancels_of_loses {pilot : Option ConnectionId} {reason : String} {sender : ConnectionId}
    {owner : Option UserId} (h : r'.Gains r p) :
    (Event.message ctx ⟨.serviceCancel pilot reason, sender, owner⟩).cancels r r' = true := by
  refine List.any_eq_true.mpr ⟨p, Registry.mem_servedIds.mpr h.after, ?_⟩
  rw [h.before]
  rfl

/-- How many services ended in a way can be read off the records. -/
theorem Store.ended_of_records {store store' : Store} {outcome : DispatchOutcome}
    (h : store'.data.records = store.data.records) : store'.ended outcome = store.ended outcome := by
  rw [ended, ended, h]

/-- A new record counts for its outcome, and for no other. -/
theorem Store.ended_of_record {store store' : Store} {outcome : DispatchOutcome}
    {record : DispatchRecord} (h : store'.data.records = store.data.records ++ [record]) :
    store'.ended outcome = store.ended outcome + if record.outcome = outcome then 1 else 0 := by
  rw [ended, ended, h, List.countP_append, List.countP_singleton]
  simp only [decide_eq_true_eq]

/-- An entry moves a service from one place to another: it is begun, it goes on, it is recorded, or it is
dropped. -/
theorem Entry.moves (h : Entry s e u) :
    u.counters.dispatchBindings + (s.registry.served + s.store.data.records.length)
      = s.counters.dispatchBindings
        + (u.registry.served + u.store.data.records.length + s.dropped e) := by
  cases h with
  | idle bindings served records dropped silent =>
    rw [bindings, Registry.served_congr served, records, dropped]
    rfl
  | begun event bindings gain records =>
    subst event
    rw [bindings, gain.served, records]
    show _ = _ + (_ + 0)
    omega
  | cancelled event bindings loss records outcome =>
    subst event
    rw [bindings, loss.served, records, List.length_append, List.length_singleton]
    show _ = _ + (_ + 0)
    omega
  | completed event bindings loss records outcome heard =>
    subst event
    rw [bindings, loss.served, records, List.length_append, List.length_singleton]
    show _ = _ + (_ + 0)
    omega
  | departed event bindings served records =>
    rw [bindings, served, records]
    omega

/-- A completion is recorded when it is acknowledged, and not otherwise. -/
theorem Entry.ended_completed (h : Entry s e u) :
    u.store.ended .completed = s.store.ended .completed + (e.completes u.posts).toNat := by
  cases h with
  | idle bindings served records dropped silent =>
    rw [Store.ended_of_records records, silent]
    rfl
  | begun event bindings gain records =>
    subst event
    exact Store.ended_of_records records
  | cancelled event bindings loss records outcome =>
    subst event
    rw [Store.ended_of_record records, outcome]
    rfl
  | completed event bindings loss records outcome heard =>
    rw [Store.ended_of_record records, outcome, heard]
    rfl
  | departed event bindings served records =>
    subst event
    exact Store.ended_of_records records

/-- A cancellation is recorded when a cancel has ended a service, and not otherwise. -/
theorem Entry.ended_cancelled (h : Entry s e u) :
    u.store.ended .cancelled
      = s.store.ended .cancelled + (e.cancels s.registry u.registry).toNat := by
  cases h with
  | idle bindings served records dropped silent =>
    rw [Store.ended_of_records records, Event.cancels_eq_false served]
    rfl
  | begun event bindings gain records =>
    subst event
    exact Store.ended_of_records records
  | cancelled event bindings loss records outcome =>
    subst event
    rw [Store.ended_of_record records, outcome, Event.cancels_of_loses loss]
    rfl
  | completed event bindings loss records outcome heard =>
    subst event
    rw [Store.ended_of_record records, outcome]
    rfl
  | departed event bindings served records =>
    subst event
    exact Store.ended_of_records records

/-- An event keeps the books. -/
theorem Entry.books (h : Entry s e u) (hbecomes : s.Becomes u (s.step e)) : s.Books [e] := by
  have hcompletions : s.total Relay.completions [e] = (e.completes u.posts).toNat := by
    show (e.completes (s.emitted e)).toNat = _
    rw [hbecomes.emitted]
  have hcancellations : s.total Relay.cancellations [e]
      = (e.cancels s.registry u.registry).toNat := by
    show (e.cancels s.registry (s.step e).registry).toNat = _
    rw [hbecomes.registry]
  have hdropped : s.total Relay.dropped [e] = s.dropped e := rfl
  have hrun : s.run [e] = s.step e := rfl
  constructor
  · rw [hrun, hbecomes.counters, hbecomes.registry, hbecomes.store, hdropped]
    exact h.moves
  · rw [hrun, hbecomes.store, hcompletions]
    exact h.ended_completed
  · rw [hrun, hbecomes.store, hcancellations]
    exact h.ended_cancelled

namespace Relay

variable {n : ℕ}

/-- On a steady relay whose store takes records, every event is one entry. -/
theorem entry_step (hs : s.Steady n) (htakes : s.store.TakesRecords)
    (few : n + [e].countP Event.isAccept < 2 ^ 64 - 1) :
    ∃ u, Entry s e u ∧ s.Becomes u (s.step e) := by
  obtain ⟨u, happened, hbecomes⟩ := happened_step (e := e) hs.isOpen
  have hs' := (hs.step few).sound
  rw [hbecomes.registry] at hs'
  exact ⟨u, happened.entry hs.sound hs' htakes, hbecomes⟩

/-- A store that takes records takes them after an event that spares it. -/
theorem takesRecords_step (hopen : s.outbox.isOpen = true) (htakes : s.store.TakesRecords)
    (hspares : e.sparesRecords) : (s.step e).store.TakesRecords := by
  obtain ⟨u, happened, hbecomes⟩ := happened_step (e := e) hopen
  rw [hbecomes.store]
  exact happened.takesRecords htakes hspares

/-- A store that takes records takes them in all of a run that spares it. -/
theorem takesRecords_run (hopen : s.outbox.isOpen = true) (htakes : s.store.TakesRecords)
    (hspares : ∀ e ∈ es, e.sparesRecords) : (s.run es).store.TakesRecords := by
  induction es generalizing s with
  | nil => exact htakes
  | cons e es ih =>
    exact ih (isOpen_step hopen) (takesRecords_step hopen htakes (hspares e List.mem_cons_self))
      fun d hd => hspares d (List.mem_cons_of_mem _ hd)

/-- Books of an event and of what comes after it are those of the whole. -/
theorem Books.cons (h : s.Books [e]) (h' : (s.step e).Books es) : s.Books (e :: es) := by
  have hrun : s.run [e] = s.step e := rfl
  obtain ⟨hbegun, hcompleted, hcancelled⟩ := h
  obtain ⟨hbegun', hcompleted', hcancelled'⟩ := h'
  simp only [total, hrun, Nat.add_zero] at hbegun hcompleted hcancelled
  refine ⟨?_, ?_, ?_⟩
  · rw [run_cons, total]
    omega
  · rw [run_cons, total]
    omega
  · rw [run_cons, total]
    omega

/-- A steady relay whose store takes records keeps its books along a run. -/
theorem books_run (hs : s.Steady n) (htakes : s.store.TakesRecords)
    (few : n + es.countP Event.isAccept < 2 ^ 64 - 1) (hspares : ∀ e ∈ es, e.sparesRecords) :
    s.Books es := by
  induction es generalizing s n with
  | nil => exact ⟨rfl, rfl, rfl⟩
  | cons e es ih =>
    rw [accepts_cons] at few
    obtain ⟨u, hentry, hbecomes⟩ := entry_step (e := e) hs htakes (by omega)
    have hspare := hspares e List.mem_cons_self
    exact (hentry.books hbecomes).cons (ih (hs.step (by omega))
      (takesRecords_step hs.isOpen htakes hspare) few fun d hd => hspares d (List.mem_cons_of_mem _ hd))

/-- The books of a run balance. -/
structure Balances (s : Relay) (es : List Event) : Prop where
  /-- Every service that was begun goes on, or has a record, or was dropped with a connection. -/
  services : (s.run es).counters.dispatchBindings
    = (s.run es).registry.served + (s.run es).store.data.records.length + s.total dropped es
  /-- There is a record of a completion for each one that was acknowledged. -/
  completions : (s.run es).store.ended .completed = s.total completions es
  /-- A cancel that ends a service adds one record, and that is the record of a cancel. -/
  cancel : ∀ {fs gs e}, es = fs ++ e :: gs →
    e.cancels (s.run fs).registry ((s.run fs).step e).registry = true →
      ∃ record : DispatchRecord, record.outcome = .cancelled ∧
        ((s.run fs).step e).store.data.records = (s.run fs).store.data.records ++ [record]
  /-- Nothing else adds such a record. -/
  cancellations : (s.run es).store.ended .cancelled = s.total cancellations es

/-- In every run from a steady relay that has written no record yet and has counted those who are served,
such as one without connections, the books balance, if its store never fails to take a record. -/
theorem services_accounted (start : s.Steady n) (hnone : s.store.data.records = [])
    (hcounted : s.counters.dispatchBindings = s.registry.served) (htakes : s.store.TakesRecords)
    (es : List Event) (few : n + es.countP Event.isAccept < 2 ^ 64 - 1)
    (hspares : ∀ e ∈ es, e.sparesRecords) : s.Balances es := by
  obtain ⟨hbegun, hcompleted, hcancelled⟩ := books_run start htakes few hspares
  have hblank : ∀ outcome, s.store.ended outcome = 0 := by
    intro outcome
    rw [Store.ended, hnone]
    rfl
  rw [hblank, Nat.zero_add] at hcompleted hcancelled
  rw [hnone, List.length_nil] at hbegun
  refine ⟨by omega, hcompleted, ?_, hcancelled⟩
  -- a cancellation within the run is an entry of the step that it is
  rintro fs gs e rfl hcancels
  rw [List.countP_append, List.countP_cons] at few
  have hsteady := start.run fs (by omega)
  have htakes' : (s.run fs).store.TakesRecords := takesRecords_run start.isOpen htakes
    fun d hd => hspares d (List.mem_append_left _ hd)
  obtain ⟨u, hentry, hbecomes⟩ := entry_step (e := e) hsteady htakes' (by
    rw [List.countP_singleton]
    omega)
  rw [hbecomes.registry] at hcancels
  rw [hbecomes.store]
  cases hentry with
  | idle bindings served records dropped silent =>
    rw [Event.cancels_eq_false served] at hcancels
    cases hcancels
  | cancelled event bindings loss records outcome => exact ⟨_, outcome, records⟩
  | begun event => subst event; cases hcancels
  | completed event => subst event; cases hcancels
  | departed event => subst event; cases hcancels

/-- The dispatcher takes the request, the pilot reports the service as done, and does so again, cancels it,
and is gone. -/
def serving : List Event :=
  [.sent 2 (.serviceAccept 1), .sent 1 (.serviceComplete "thanks"), .sent 1 (.serviceComplete "thanks"),
    .sent 1 (.serviceCancel none "late"), .disconnect 1]

/-- One service was begun, and there is one record. -/
theorem services_accounted_serving :
    asked.Balances serving ∧ (asked.run serving).counters.dispatchBindings = 1 ∧
      (asked.run serving).store.data.records.length = 1 := by
  refine ⟨services_accounted steady_asked (by decide +kernel) (by decide +kernel)
    (by constructor <;> decide +kernel) serving
    (by decide) ?_, by decide +kernel, by decide +kernel⟩
  intro e he
  fin_cases he <;> trivial

end Relay

end FlightRelay

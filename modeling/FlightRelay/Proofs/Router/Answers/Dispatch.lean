import FlightRelay.Proofs.Router.Answers.Sessions

/-!
# What the dispatch service answers

A request is offered, taken, withdrawn and completed.  What is sent on the way depends on who is live and
in which role at that moment, so each stretch of sending has a statement of its own.
-/

namespace FlightRelay

namespace Handler

open Outbound Session Relay

variable {ctx : RelayContext} {s u : Relay} {me : Connection} {r : Registry} {store : Store}
  {counters : RouterCounters} {posts : List Outbound}

/-- A request is offered to a live dispatcher if that covers the pilot. -/
theorem exec_offerTo (me : Connection) (location : Geo.Point) (note : String) (so : Offered)
    {d : Connection} (h : u.Reaches ⟨u.registry, store, counters, posts⟩ s)
    (hd : u.registry.find? d.id = some d) (hrole : d.role = .dispatcher) :
    ∃ t, (offerTo me location note so d).exec s
        = (.ok ⟨so.offers
              + (u.registry.mail u.outbox.isOpen (me.offer? location note d).toList).length,
            so.outOfRange + if (offerDistance location d).isNone then 1 else 0⟩, t) ∧
      u.Reaches ⟨u.registry, store, counters, posts ++ (me.offer? location note d).toList⟩ t := by
  unfold offerTo Connection.offer?
  cases offerDistance location d with
  | none =>
    refine ⟨s, ?_, ?_⟩
    · rw [Option.map_none, Option.toList_none, Registry.mail_nil]
      rfl
    · rw [Option.map_none, Option.toList_none, List.append_nil]
      exact h
  | some distance =>
    simp only [Option.map_some, Option.toList_some, Option.isNone_some]
    have hsent : u.Reaches _ (s.sendToDispatcher
        (.serviceOffer me.id me.session.callsign (some location) distance note) d.id).2 :=
      h.sendToDispatcher
    rw [Registry.toDispatcher_of_find? hd hrole] at hsent
    have hlive : (s.registry.find? d.id).any (fun c => c.role = .dispatcher) = true := by
      rw [h.registry, hd]
      exact decide_eq_true hrole
    have hreached := sendToDispatcher_reached (s := s)
      (.serviceOffer me.id me.session.callsign (some location) distance note) d.id
    rw [hlive, Bool.true_and, h.isOpen] at hreached
    refine ⟨_, ?_, hsent⟩
    rw [Registry.mail_singleton (Registry.contains_of_find? hd), exec_step_bind, hreached]
    cases u.outbox.isOpen <;> rfl

/-- Offering a request to dispatchers in turn counts the offers that are handed on and the dispatchers
who do not cover the pilot. -/
theorem exec_offers (me : Connection) (location : Geo.Point) (note : String)
    (dispatchers : List Connection) (so : Offered)
    (h : u.Reaches ⟨u.registry, store, counters, posts⟩ s)
    (live : ∀ d ∈ dispatchers, u.registry.find? d.id = some d ∧ d.role = .dispatcher) :
    ∃ t, (dispatchers.foldlM (offerTo me location note) so).exec s
        = (.ok ⟨so.offers + (u.registry.mail u.outbox.isOpen
              (dispatchers.filterMap (me.offer? location note))).length,
            so.outOfRange + dispatchers.countP fun d => (offerDistance location d).isNone⟩, t) ∧
      u.Reaches ⟨u.registry, store, counters,
        posts ++ dispatchers.filterMap (me.offer? location note)⟩ t := by
  -- what was posted so far and both counts are handed from one dispatcher to the next
  induction dispatchers generalizing s so posts with
  | nil =>
    refine ⟨s, ?_, ?_⟩
    · rw [List.filterMap_nil, Registry.mail_nil]
      rfl
    · rw [List.filterMap_nil, List.append_nil]
      exact h
  | cons d ds ih =>
    obtain ⟨hd, hrole⟩ := live d List.mem_cons_self
    obtain ⟨t, hrun, hreach⟩ := exec_offerTo me location note so h hd hrole
    obtain ⟨t', hrest, hreach'⟩ := ih _ hreach fun e he => live e (List.mem_cons_of_mem _ he)
    have hsplit : (d :: ds).filterMap (me.offer? location note)
        = (me.offer? location note d).toList ++ ds.filterMap (me.offer? location note) := by
      rw [List.filterMap_cons]
      cases me.offer? location note d <;> rfl
    refine ⟨t', ?_, ?_⟩
    · rw [List.foldlM_cons, exec_bind_of_ok hrun, hrest, hsplit, Registry.mail_append,
        List.length_append, List.countP_cons]
      congr 3
      · exact Nat.add_assoc _ _ _
      · exact (Nat.add_assoc _ _ _).trans (congrArg _ (Nat.add_comm _ _))
    · rw [hsplit, ← List.append_assoc]
      exact hreach'

/-- A pilot is told how many dispatchers are out of range, and whether nobody was asked. -/
theorem exec_requestNotices (me : Connection) (offered uncovered : Nat)
    (h : u.Reaches ⟨r, store, counters, posts⟩ s) :
    ∃ t, (do
        if 0 < uncovered then
          perform fun s => s.send (.notice s!"{uncovered} dispatchers out of range") me.id
        if offered = 0 then
          perform fun s => s.send (.notice "No dispatcher is available right now") me.id :
        Handler Unit).exec s = (.ok (), t) ∧
      u.Reaches ⟨r, store, counters, posts ++ requestNotices me.id offered uncovered⟩ t := by
  unfold requestNotices
  by_cases hfar : 0 < uncovered
  · by_cases hnone : offered = 0
    · simp only [if_pos hfar, if_pos hnone, ← List.append_assoc]
      exact ⟨_, rfl, h.send.send⟩
    · simp only [if_pos hfar, if_neg hnone, List.append_nil]
      exact ⟨_, rfl, h.send⟩
  · by_cases hnone : offered = 0
    · simp only [if_neg hfar, if_pos hnone, List.nil_append]
      exact ⟨_, rfl, h.send⟩
    · simp only [if_neg hfar, if_neg hnone, List.append_nil]
      exact ⟨s, rfl, h⟩

/-- A pilot at a known place who has no dispatcher is not refused when it asks for service. -/
theorem carriedOut_serviceRequest {note : String} {location : Geo.Point}
    (hme : s.registry.find? me.id = some me) (hrole : me.role = .pilot)
    (hplace : me.session.location = some location) (hunserved : me.session.dispatcher = noConnection) :
    CarriedOut ctx s me (.serviceRequest note) ((serviceRequest me note).exec s) := by
  unfold serviceRequest
  rw [hplace]
  refine requireRole_then (fun hother => absurd hrole hother) fun _ => ?_
  refine require_then (fun hserved => absurd hunserved (of_decide_eq_false hserved)) fun _ => ?_
  have hlive : ∀ d ∈ s.registry.available,
      s.registry.find? d.id = some d ∧ d.role = .dispatcher := by
    intro d hd
    obtain ⟨hmem, havailable⟩ := List.mem_filter.mp hd
    exact ⟨Registry.find?_of_mem hmem, (isAvailableDispatcher_iff.mp havailable).1⟩
  -- the offers are sent first, then the session is changed, and only then is the pilot told
  obtain ⟨t, hrun, hreach⟩ :=
    exec_offers me location note s.registry.available ⟨0, 0⟩ Reaches.refl hlive
  rw [Nat.zero_add, Nat.zero_add] at hrun
  have hregistry : t.registry = s.registry := hreach.registry
  have hasked : s.Reaches
      { registry := s.registry.modify me.id (requesting (0 < s.offered me location note))
        store := s.store
        counters := s.counters
        posts := [] ++ s.registry.offers me location note
          ++ [batched (.accepted "service_request") me.id] } _ :=
    (hreach.withRegistry fun i => Registry.contains_modify).send
  simp only [exec_registry_bind]
  refine bind_then hrun ?_
  rw [exec_update_bind (by rw [hregistry]; exact hme), hregistry]
  obtain ⟨t', hnotices, hreach'⟩ := exec_requestNotices me
    (s.offered me location note) (s.registry.uncovered location) hasked
  have hanswer : CarriedOut ctx s me (.serviceRequest note) (.ok (), t') := by
    refine .carried (.requested hrole hplace hunserved) ?_
    rw [List.append_assoc, List.nil_append] at hreach'
    exact hreach'
  rw [← hnotices] at hanswer
  exact hanswer

/-- A request for service is refused, or offered to the dispatchers who cover the place. -/
theorem answered_serviceRequest {note : String} (hme : s.registry.find? me.id = some me) :
    Answered ctx s me (.serviceRequest note) ((serviceRequest me note).exec s) := by
  by_cases hrole : me.role = .pilot
  · cases hplace : me.session.location with
    | none =>
      unfold serviceRequest
      rw [hplace]
      exact requireRole_then (fun _ => .plain) fun _ => .plain
    | some location =>
      by_cases hunserved : me.session.dispatcher = noConnection
      · exact (carriedOut_serviceRequest hme hrole hplace hunserved).answered
      · unfold serviceRequest
        rw [hplace]
        refine requireRole_then (fun _ => .plain) fun _ => ?_
        exact require_then (fun _ => .plain) fun hfree => absurd (of_decide_eq_true hfree) hunserved
  · unfold serviceRequest
    exact requireRole_then (fun _ => .plain) fun hpilot => absurd hpilot hrole

/-- An available dispatcher is not refused when it accepts the open request of a free pilot. -/
theorem carriedOut_serviceAccept {p : Connection} (hme : s.registry.find? me.id = some me)
    (hnumbered : me.id ≠ noConnection) (havailable : me.session.isAvailableDispatcher = true)
    (hp : s.registry.find? p.id = some p) (hpilot : p.role = .pilot)
    (hunserved : p.session.dispatcher = noConnection) (hpending : p.session.servicePending = true) :
    CarriedOut ctx s me (.serviceAccept p.id) ((serviceAccept me p.id).exec s) := by
  have hrole : me.role = .dispatcher := (isAvailableDispatcher_iff.mp havailable).1
  unfold serviceAccept
  refine requireRole_then (fun hother => absurd hrole hother) fun _ => ?_
  refine require_then (fun hbusy => absurd (hbusy.symm.trans havailable) Bool.false_ne_true) fun _ => ?_
  rw [exec_counterpart_bind hp hpilot]
  simp only [exec_registry_bind, Registry.bindDispatcher_of_request hp hme hunserved hpending hnumbered]
  exact .carried (.serviceBound hrole havailable hp hpilot hunserved hpending)
    ((Reaches.refl.withRegistry fun i => Registry.contains_modify).withCounters.send.send)

/-- An acceptance is refused, or binds the dispatcher, tells the pilot and withdraws the offer from the
others. -/
theorem answered_serviceAccept {pilot : ConnectionId} (hme : s.registry.find? me.id = some me) :
    Answered ctx s me (.serviceAccept pilot) ((serviceAccept me pilot).exec s) := by
  unfold serviceAccept
  refine requireRole_then (fun _ => .plain) fun hrole => ?_
  refine require_then (fun _ => .plain) fun havailable => ?_
  refine counterpart_then .plain fun p hp hpilot => ?_
  simp only [exec_registry_bind]
  cases hbind : s.registry.bindDispatcher pilot me.id with
  | error e => exact .plain
  | ok bind =>
    obtain ⟨outcome, r⟩ := bind
    cases outcome with
    | bound =>
      obtain ⟨p', d, hp', hd, hunserved, hpending, rfl⟩ := Registry.bindDispatcher_bound hbind
      obtain rfl := Option.some.inj (hp'.symm.trans hp)
      obtain rfl := Option.some.inj (hd.symm.trans hme)
      exact .carried (.serviceBound hrole havailable hp hpilot hunserved hpending)
        ((Reaches.refl.withRegistry fun i => Registry.contains_modify).withCounters.send.send)
    | alreadyBound =>
      -- both are live, so the outcome is what the session of the pilot says: it has this dispatcher
      obtain ⟨r', hok⟩ := Registry.bindDispatcher_eq_ok hp hme
      have hheld : Registry.dispatchBind p.session me.id = .alreadyBound :=
        (Prod.mk.inj (Except.ok.inj (hok.symm.trans hbind))).1
      unfold Registry.dispatchBind at hheld
      split at hheld
      · rename_i hserved
        exact .carried (.serviceKept hrole hp hserved) Reaches.refl.send
      · split at hheld
        · cases hheld
        · split at hheld <;> cases hheld
    | taken owner =>
      refine .refused _ (fun o ho => ?_) (Reaches.refl.post posts_sendToDutyExcept) fun o ho => ?_
      · rw [Registry.mem_toDuty ho]
        rfl
      · rw [Registry.role_of_mem_toDuty ho, Registry.mem_toDuty ho]
        rfl
    | notRequested => exact .plain

/-- An attempt to record a cancelled service leaves the store and the counters as noted. -/
theorem exec_recordCancelled (ctx : RelayContext) (pilot : Connection) (user : Option UserId)
    (remarks : String) (h : u.Reaches ⟨r, store, counters, posts⟩ s) :
    ∃ t, (recordCancelled ctx pilot user remarks).exec s = (.ok (), t) ∧
      u.Reaches ⟨r, store.noted ⟨pilot.session.userId, user, .cancelled, remarks, ctx.now⟩,
        counters.noted store ⟨pilot.session.userId, user, .cancelled, remarks, ctx.now⟩, posts⟩ t := by
  have hstore : s.store = store := h.store
  have hcounters : s.counters = counters := h.counters
  unfold recordCancelled Store.noted RouterCounters.noted
  simp only [exec_get_bind, hstore]
  cases storeRecord store ⟨pilot.session.userId, user, .cancelled, remarks, ctx.now⟩ with
  | ok written => exact ⟨_, rfl, h.withStore⟩
  | error e =>
    simp only [exec_tally, hcounters]
    exact ⟨_, rfl, h.withCounters⟩

/-- The dispatcher hears that its pilot has left, or all on duty if it cannot be reached. -/
theorem exec_withdrawal (me : Connection) (message : ServerMessage) (dispatcher : ConnectionId)
    (h : u.Reaches ⟨r, store, counters, posts⟩ s) :
    ∃ t, (do
        let relayed ← step fun s => s.sendToDispatcher message dispatcher
        if !relayed then
          perform fun s => s.sendToDuty message
        acknowledge me.id "service_cancel" : Handler Unit).exec s = (.ok (), t) ∧
      u.Reaches ⟨r, store, counters, posts ++
        (r.withdrawal message dispatcher ++ [batched (.accepted "service_cancel") me.id])⟩ t := by
  have hregistry : s.registry = r := h.registry
  simp only [exec_step_bind, ← List.append_assoc]
  cases hreached : (s.sendToDispatcher message dispatcher).1 with
  | true =>
    have hposts := posts_withdrawal_of_reached hreached
    rw [hregistry] at hposts
    exact ⟨_, rfl, (h.post hposts).send⟩
  | false =>
    have hposts := posts_withdrawal_of_missed hreached
    rw [hregistry] at hposts
    exact ⟨_, rfl, (h.post hposts).send⟩

/-- A pilot is never refused when it cancels. -/
theorem carriedOut_cancelFromPilot {pilot : Option ConnectionId} {reason : String}
    (hme : s.registry.find? me.id = some me) (hrole : me.role = .pilot) :
    CarriedOut ctx s me (.serviceCancel pilot reason) ((cancelFromPilot ctx me reason).exec s) := by
  unfold cancelFromPilot
  refine update_then (f := requesting false) hme ?_
  have hfound : (s.registry.modify me.id (requesting false)).find? me.id = _ :=
    Registry.find?_modify_self hme
  have hupdated : s.Reaches ⟨s.registry.modify me.id (requesting false), s.store, s.counters, []⟩ _ :=
    Reaches.refl.withRegistry fun i => Registry.contains_modify
  have hclear := Registry.clearDispatcher_of_find? none hfound
  simp only [exec_registry_bind]
  by_cases hserved : me.session.dispatcher = noConnection
  · rw [hclear.trans (if_pos (Or.inl hserved))]
    exact .carried (.pilotWithdrew hrole hserved) hupdated.sendToDuty.send
  · have hguard : ¬ (me.session.dispatcher = noConnection ∨
        ∃ e ∈ (none : Option ConnectionId), e ≠ me.session.dispatcher) := by
      rintro (hnone | ⟨e, he, -⟩)
      · exact hserved hnone
      · cases he
    -- the open request is dropped before the dispatcher is, and both are changes of one session
    rw [Registry.modify_modify] at hclear
    have hcleared : s.Reaches ⟨s.registry.modify me.id (released ∘ requesting false), s.store,
        s.counters, []⟩ _ := hupdated.withRegistry fun i => Registry.contains_modify
    obtain ⟨t, hrecord, hreach⟩ :=
      exec_recordCancelled ctx me me.session.dispatcherUser reason hcleared
    obtain ⟨t', hrelay, hreach'⟩ :=
      exec_withdrawal me (.serviceCancelled me.id reason) me.session.dispatcher hreach
    rw [hclear.trans (if_neg hguard)]
    have hanswer : CarriedOut ctx s me (.serviceCancel pilot reason) (.ok (), t') :=
      .carried (.pilotLeft hrole hserved rfl) hreach'
    rw [← hrelay] at hanswer
    simp only [exec_setRegistry_bind]
    refine bind_then hrecord ?_
    exact hanswer

/-- A dispatcher who cancels is refused, or releases the pilot and tells the pilot. -/
theorem answered_cancelFromDispatcher {pilot : ConnectionId} {reason : String}
    (hrole : me.role = .dispatcher) :
    Answered ctx s me (.serviceCancel (some pilot) reason)
      ((cancelFromDispatcher ctx me pilot reason).exec s) := by
  unfold cancelFromDispatcher
  simp only [exec_registry_bind]
  cases hclear : s.registry.clearDispatcher pilot (some me.id) with
  | none => exact .plain
  | some cleared =>
    obtain ⟨⟨dispatcher, user⟩, r⟩ := cleared
    obtain ⟨p, hp, hserved, hbound, -, hexpected, rfl⟩ := Registry.clearDispatcher_eq_some hclear
    obtain rfl := hexpected me.id rfl
    have hcleared : s.Reaches ⟨s.registry.modify pilot released, s.store, s.counters, []⟩ _ :=
      Reaches.refl.withRegistry fun i => Registry.contains_modify
    obtain ⟨t, hrecord, hreach⟩ := exec_recordCancelled ctx
      (p.withSession released) me.session.userId reason hcleared
    simp only [exec_setRegistry_bind, Registry.find?_modify_self hp]
    refine bind_then hrecord ?_
    exact .carried (.dispatcherLeft hrole hp hserved hbound rfl) hreach.send.send

/-- A cancellation from either side is refused, or ends the service or the open request. -/
theorem answered_serviceCancel {pilot : Option ConnectionId} {reason : String}
    (hme : s.registry.find? me.id = some me) :
    Answered ctx s me (.serviceCancel pilot reason) ((serviceCancel ctx me pilot reason).exec s) := by
  unfold serviceCancel
  cases hrole : me.role with
  | pilot => exact (carriedOut_cancelFromPilot hme hrole).answered
  | dispatcher =>
    cases pilot with
    | some pilot => exact answered_cancelFromDispatcher hrole
    | none => exact .plain
  | _ => exact .plain

/-- A pilot with a dispatcher is not refused when it reports the service as done and the record is
written. -/
theorem carriedOut_serviceComplete {remarks : String} {store : Store}
    (hme : s.registry.find? me.id = some me) (hrole : me.role = .pilot)
    (hserved : me.session.dispatcher ≠ noConnection)
    (hwrite : storeRecord s.store
      ⟨me.session.userId, me.session.dispatcherUser, .completed, remarks, ctx.now⟩ = .ok store) :
    CarriedOut ctx s me (.serviceComplete remarks) ((serviceComplete ctx me remarks).exec s) := by
  unfold serviceComplete
  refine requireRole_then (fun hother => absurd hrole hother) fun _ => ?_
  refine require_then (fun hfree => absurd hserved (of_decide_eq_false hfree)) fun _ => ?_
  have hcarried := Carried.completed hrole hserved hwrite
  -- the dispatcher that is expected is the one whom the session names
  have hguard : ¬ (me.session.dispatcher = noConnection ∨
      ∃ e ∈ some me.session.dispatcher, e ≠ me.session.dispatcher) := by
    rintro (hnone | ⟨e, he, hne⟩)
    · exact hserved hnone
    · exact hne (Option.mem_some.mp he).symm
  have hclear := (Registry.clearDispatcher_of_find? (some me.session.dispatcher) hme).trans
    (if_neg hguard)
  have hcleared : s.Reaches ⟨s.registry.modify me.id released, store, s.counters, []⟩ _ :=
    Reaches.refl.withStore.withRegistry fun i => Registry.contains_modify
  simp only [exec_get_bind, hwrite, exec_modify_bind, exec_registry_bind, hclear, exec_setRegistry_bind]
  unfold Registry.completion at hcarried
  split
  · rename_i dispatcher hdispatcher
    rw [hdispatcher] at hcarried
    exact .carried hcarried hcleared.sendToDispatcher.send
  · rename_i hdispatcher
    rw [hdispatcher] at hcarried
    exact .carried hcarried hcleared.send

/-- A completion is refused, or ends the service, puts the record down and tells the dispatcher. -/
theorem answered_serviceComplete {remarks : String} (hme : s.registry.find? me.id = some me) :
    Answered ctx s me (.serviceComplete remarks) ((serviceComplete ctx me remarks).exec s) := by
  by_cases hrole : me.role = .pilot
  · by_cases hserved : me.session.dispatcher = noConnection
    · unfold serviceComplete
      refine requireRole_then (fun _ => .plain) fun _ => ?_
      exact require_then (fun _ => .plain) fun hbound => absurd hserved (of_decide_eq_true hbound)
    · cases hwrite : storeRecord s.store
          ⟨me.session.userId, me.session.dispatcherUser, .completed, remarks, ctx.now⟩ with
      | ok store => exact (carriedOut_serviceComplete hme hrole hserved hwrite).answered
      | error e =>
        unfold serviceComplete
        refine requireRole_then (fun _ => .plain) fun _ => ?_
        refine require_then (fun _ => .plain) fun _ => ?_
        simp only [exec_get_bind, hwrite]
        exact .plain
  · unfold serviceComplete
    exact requireRole_then (fun _ => .plain) fun hpilot => absurd hpilot hrole

end Handler

end FlightRelay

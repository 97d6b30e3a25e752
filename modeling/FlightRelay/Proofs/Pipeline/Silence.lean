import FlightRelay.Pipeline.Idle
import FlightRelay.Proofs.Registry.Removal

/-!
# Every silence is reported once

Sweeps come between other things: connections are registered and removed, give signs of life, are bound to
each other.  What a sweep reports is told from what happened before it: the connections that are still there,
that gave no sign of life for longer than the timeout, and that no sweep before it has reported.
-/

namespace FlightRelay

/-- The operation leaves the last sign of life of every connection that was there and still is. -/
def Registry.Operation.KeepsActivity : Registry.Operation → Prop
  | .update _ f => ∀ s, (f s).lastActivity = s.lastActivity
  | _ => True

namespace IdleSweep

/-! ## What comes between sweeps -/

/-- Something that happens to the connections, and a sweep. -/
inductive Event where
  | operation (op : Registry.Operation)
  /-- A sign of life. -/
  | touched (id : ConnectionId) (now : Nat)
  | swept (now : Nat)

/-- The number that somebody is registered under. -/
def Event.joins? : Event → Option ConnectionId
  | .operation (.add c) => some c.id
  | _ => none

/-- No number is given twice, and only signs of life count as such. -/
structure Orderly (past : List Event) : Prop where
  fresh : (past.filterMap Event.joins?).Nodup
  quiet : ∀ op, .operation op ∈ past → op.KeepsActivity

/-- When a connection was last active, if it is there, after an event. -/
def Event.activity (id : ConnectionId) (last : Option Nat) : Event → Option Nat
  | .operation (.add c) => if c.id = id then some (last.getD c.session.lastActivity) else last
  | .operation (.remove gone) => if gone = id then none else last
  | .touched someone now => if someone = id then last.map fun _ => now else last
  | _ => last

/-- When a connection was last active, if it is there. -/
def lastActive (id : ConnectionId) (past : List Event) : Option Nat := past.foldl (Event.activity id) none

/-- The connections, what the sweep remembers, and everything that it has sent. -/
structure Vigil where
  registry : Registry
  sweep : IdleSweep
  sent : List Inbound

namespace Vigil

/-- Carries out an event; somebody takes what a sweep reports. -/
def step (v : Vigil) : Event → Vigil
  | .operation op => { v with registry := v.registry.apply op }
  | .touched id now => { v with registry := v.registry.touch id now }
  | .swept now =>
    let (answer, sweep) := v.sweep.sweep v.registry now true
    { v with sweep, sent := v.sent ++ answer.toOption.getD [] }

/-- There are no connections yet. -/
def start (timeout : Nat) : Vigil := ⟨.empty, .start timeout, []⟩

/-- What has become of it after events. -/
def after (timeout : Nat) (past : List Event) : Vigil := past.foldl step (start timeout)

end Vigil

/-- The report that a connection is silent. -/
def notice (id : ConnectionId) : Inbound := .closed id .idleTimeout

/-! ## One sweep -/

variable {s : IdleSweep} {r : Registry} {id : ConnectionId} {now : Nat}

/-- Those who are gone are forgotten. -/
theorem mem_prune : id ∈ (s.prune r).reported ↔ id ∈ s.reported ∧ r.contains id = true :=
  List.mem_filter

/-- Due is whoever has been silent for longer than the timeout and was not reported yet. -/
theorem mem_due : id ∈ s.due r now ↔
    id ∉ s.reported ∧ ∃ last ∈ r.aspect Session.lastActivity id, s.timeout < now - last := by
  unfold due
  rw [List.mem_mergeSort, List.mem_map]
  constructor
  · rintro ⟨c, hc, rfl⟩
    obtain ⟨hmem, hdue⟩ := List.mem_filter.mp hc
    obtain ⟨hnew, hsilent⟩ := Bool.and_eq_true_iff.mp hdue
    exact ⟨by simpa using hnew, _, Registry.aspect_of_find? (Registry.find?_of_mem hmem),
      of_decide_eq_true hsilent⟩
  · rintro ⟨hnew, last, hlast, hsilent⟩
    obtain ⟨c, hc, rfl⟩ := Registry.aspect_eq_some_iff.mp hlast
    obtain rfl := Registry.id_of_find? hc
    refine ⟨c, List.mem_filter.mpr ⟨List.mem_of_find?_eq_some hc, ?_⟩, rfl⟩
    exact Bool.and_eq_true_iff.mpr ⟨by simpa using hnew, decide_eq_true hsilent⟩

/-- Nobody is due twice. -/
theorem nodup_due : (s.due r now).Nodup := by
  unfold due
  rw [(List.mergeSort_perm _ _).nodup_iff]
  exact r.ids_nodup.sublist (List.filter_sublist.map Connection.id)

/-- A sweep reports whoever is due, and remembers them with those that it has reported before and that are
still there. -/
theorem sweep_taken (h : 0 < s.timeout) : s.sweep r now true
    = (.ok (((s.prune r).due r now).map notice),
      { s.prune r with reported := (s.prune r).reported ++ (s.prune r).due r now }) := by
  unfold sweep
  rw [if_neg (Nat.ne_of_gt h)]
  dsimp only
  split
  · rename_i hnone
    rw [List.isEmpty_iff.mp hnone, List.map_nil, List.append_nil]
  · rfl

/-! ## One event -/

variable {past : List Event} {e : Event} {op : Registry.Operation} {timeout : Nat} {last : Option Nat}

/-- The last event counts for whom it concerns. -/
theorem lastActive_concat : lastActive id (past ++ [e]) = e.activity id (lastActive id past) := by
  rw [lastActive, List.foldl_append]
  rfl

/-- Whoever joins last has joined too. -/
theorem joined_concat : id ∈ (past ++ [e]).filterMap Event.joins? ↔
    id ∈ past.filterMap Event.joins? ∨ e.joins? = some id := by
  rw [List.filterMap_append, List.mem_append, List.mem_filterMap (l := [e])]
  simp

/-- Whoever joins was never there before. -/
theorem Orderly.not_joined (h : Orderly (past ++ [e])) (hjoins : e.joins? = some id) :
    id ∉ past.filterMap Event.joins? := by
  have hfresh := h.fresh
  rw [List.filterMap_append, List.nodup_append] at hfresh
  intro hmem
  refine hfresh.2.2 id hmem id ?_ rfl
  exact List.mem_filterMap.mpr ⟨e, List.mem_singleton_self e, hjoins⟩

/-- What came before the last event was orderly. -/
theorem Orderly.of_concat (h : Orderly (past ++ [e])) : Orderly past where
  fresh := by
    have hfresh := h.fresh
    rw [List.filterMap_append] at hfresh
    exact hfresh.of_append_left
  quiet op hop := h.quiet op (List.mem_append_left _ hop)

/-- Whoever is there after an event was there before it, or has joined. -/
theorem isSome_of_activity (h : (e.activity id last).isSome) : last.isSome ∨ e.joins? = some id := by
  unfold Event.activity at h
  split at h
  · split at h
    · rename_i hid
      exact .inr (congrArg some hid)
    · exact .inl h
  · split at h
    · cases h
    · exact .inl h
  · split at h
    · exact .inl (by simpa using h)
    · exact .inl h
  · exact .inl h

/-- To touch a connection moves its clock, and no other. -/
theorem aspect_touch {someone : ConnectionId} :
    (r.touch someone now).aspect Session.lastActivity id
      = (Event.touched someone now).activity id (r.aspect Session.lastActivity id) := by
  rw [Registry.touch, Registry.aspect, Registry.find?_modify, Event.activity]
  split
  · rename_i hid
    rw [if_pos hid.symm, Registry.aspect, Option.map_map, Option.map_map]
    rfl
  · rename_i hid
    rw [if_neg (Ne.symm hid)]
    rfl

/-- A connection that is registered says what its session says, unless its number is taken. -/
theorem aspect_add {c : Connection} : (r.apply (.add c)).aspect Session.lastActivity id
    = (Event.operation (.add c)).activity id (r.aspect Session.lastActivity id) := by
  rw [Registry.apply, Event.activity]
  by_cases hlive : r.contains c.id
  · obtain ⟨d, hd⟩ := Registry.contains_iff.mp hlive
    rw [Registry.add, dif_pos hlive]
    split
    · rename_i hid
      show r.aspect _ id = _
      rw [← hid, Registry.aspect_of_find? hd, Option.getD_some]
    · rfl
  · obtain ⟨r', hadd⟩ := Registry.exists_add (Bool.eq_false_iff.mpr hlive)
    obtain ⟨hfree, -, -, hfind⟩ := Registry.add_eq_ok hadd
    rw [hadd]
    show r'.aspect _ id = _
    rw [Registry.aspect, hfind]
    split
    · rename_i hid
      rw [if_pos hid.symm, hid, Registry.aspect, Registry.find?_eq_none_iff.mpr hfree]
      rfl
    · rename_i hid
      rw [if_neg (Ne.symm hid)]
      rfl

/-- A connection that is removed says nothing, and what all others have forgotten is no sign of life. -/
theorem aspect_remove {gone : ConnectionId} : (r.apply (.remove gone)).aspect Session.lastActivity id
    = (Event.operation (.remove gone)).activity id (r.aspect Session.lastActivity id) := by
  rw [Registry.apply, Event.activity]
  cases hremove : r.remove gone with
  | none =>
    split
    · rename_i hid
      rw [← hid, Registry.aspect]
      exact congrArg _ (Registry.remove_eq_none_iff.mp hremove)
    · rfl
  | some answer =>
    obtain ⟨-, -, -, -, hfind⟩ := Registry.remove_eq_some hremove
    rw [Registry.aspect]
    refine (congrArg _ (hfind id)).trans ?_
    split
    · rename_i hid
      rw [if_pos hid.symm]
      rfl
    · rename_i hid
      rw [if_neg (Ne.symm hid), Option.map_map]
      rfl

/-- What the sessions say of the last signs of life follows the events. -/
theorem aspect_apply (h : op.KeepsActivity) : (r.apply op).aspect Session.lastActivity id
    = (Event.operation op).activity id (r.aspect Session.lastActivity id) := by
  cases op with
  | allocate => rfl
  | add c => exact aspect_add
  | remove gone => exact aspect_remove
  | update i f =>
    rw [Registry.apply, Registry.update]
    split
    · exact Registry.aspect_modify h
    · rfl
  | count i f =>
    rw [Registry.apply, Registry.aspect, Registry.find?_count]
    split
    · rw [Option.map_map]
      rfl
    · rfl
  | bindDispatcher p d =>
    -- bindings are no sign of life
    rw [Registry.apply]
    cases hbind : r.bindDispatcher p d with
    | error e => rfl
    | ok bound => exact Registry.aspect_bindDispatcher hbind fun _ _ _ => rfl
  | clearDispatcher p expected =>
    rw [Registry.apply]
    cases hclear : r.clearDispatcher p expected with
    | none => rfl
    | some cleared =>
      obtain ⟨⟨d, u⟩, r'⟩ := cleared
      obtain ⟨-, -, -, -, -, -, rfl⟩ := Registry.clearDispatcher_eq_some hclear
      exact Registry.aspect_modify fun _ => rfl
  | bindViewer p v =>
    rw [Registry.apply]
    cases hbind : r.bindViewer p v with
    | error e => rfl
    | ok bound => exact Registry.aspect_bindViewer hbind (fun _ _ => rfl) fun _ _ => rfl
  | clearViewer p expected =>
    rw [Registry.apply]
    cases hclear : r.clearViewer p expected with
    | none => rfl
    | some cleared => exact Registry.aspect_clearViewer hclear (fun _ _ => rfl) fun _ _ => rfl

/-! ## Sweep after sweep -/

/-- Of the connections that are there, the sweep remembers just those that it has reported. -/
structure Faithful (timeout : Nat) (past : List Event) (v : Vigil) : Prop where
  unchanged : v.sweep.timeout = timeout
  activity : ∀ id, v.registry.aspect Session.lastActivity id = lastActive id past
  joined : ∀ id, (lastActive id past).isSome → id ∈ past.filterMap Event.joins?
  sent : ∀ item ∈ v.sent, ∃ id ∈ past.filterMap Event.joins?, item = notice id
  remembered : ∀ id ∈ v.sweep.reported, notice id ∈ v.sent
  unforgotten : ∀ id, notice id ∈ v.sent → (lastActive id past).isSome → id ∈ v.sweep.reported
  once : v.sent.Nodup
  zero : timeout = 0 → v.sent = []

/-- What a sweep reports and remembers, by what happened before it. -/
structure Conforms (timeout : Nat) (past : List Event) (now : Nat) (sent out : List Inbound)
    (remembered : List ConnectionId) : Prop where
  /-- Reported is who is there, has been silent for longer than the timeout, and was not reported before. -/
  exact : ∀ id, notice id ∈ out ↔ 0 < timeout ∧
    (∃ last, lastActive id past = some last ∧ timeout < now - last) ∧ notice id ∉ sent
  nothingElse : ∀ item ∈ sent ++ out, ∃ id, item = notice id
  /-- Nobody is reported twice. -/
  once : (sent ++ out).Nodup
  /-- Remembered is who was reported and is there. -/
  remembered : ∀ id, id ∈ remembered ↔ notice id ∈ sent ++ out ∧ (lastActive id past).isSome
  zero : timeout = 0 → sent ++ out = []

variable {v : Vigil}

theorem notice_injective : Function.Injective notice := fun _ _ h => (Inbound.closed.inj h).1

/-- Registered is whoever has joined and not left. -/
theorem Faithful.contains_iff (h : Faithful timeout past v) :
    v.registry.contains id = true ↔ (lastActive id past).isSome := by
  rw [← h.activity, Registry.aspect, Option.isSome_map]
  rfl

/-- Due is who is there, has been silent for longer than the timeout, and was not reported before. -/
theorem Faithful.mem_due (h : Faithful timeout past v) :
    id ∈ (v.sweep.prune v.registry).due v.registry now ↔
      (∃ last, lastActive id past = some last ∧ timeout < now - last) ∧ notice id ∉ v.sent := by
  have htimeout : (v.sweep.prune v.registry).timeout = timeout := h.unchanged
  rw [IdleSweep.mem_due, htimeout, mem_prune, h.contains_iff, h.activity]
  constructor
  · rintro ⟨hnew, last, hlast, hsilent⟩
    have hlive : (lastActive id past).isSome := Option.isSome_of_mem hlast
    exact ⟨⟨last, hlast, hsilent⟩, fun hsent => hnew ⟨h.unforgotten id hsent hlive, hlive⟩⟩
  · rintro ⟨⟨last, hlast, hsilent⟩, hnew⟩
    exact ⟨fun hreported => hnew (h.remembered id hreported.1), last, hlast, hsilent⟩

/-- Remembered is whoever was reported and is still there. -/
theorem Faithful.mem_prune (h : Faithful timeout past v) :
    id ∈ (v.sweep.prune v.registry).reported ↔ notice id ∈ v.sent ∧ (lastActive id past).isSome := by
  rw [IdleSweep.mem_prune, h.contains_iff]
  exact ⟨fun ⟨hid, hlive⟩ => ⟨h.remembered id hid, hlive⟩, fun ⟨hid, hlive⟩ =>
    ⟨h.unforgotten id hid hlive, hlive⟩⟩

/-- With no timeout nothing is reported, and nothing ever was. -/
theorem Faithful.conforms_zero (h : Faithful 0 past v) (now : Nat) :
    Conforms 0 past now v.sent [] v.sweep.reported := by
  have hsent : v.sent = [] := h.zero rfl
  have hreported : v.sweep.reported = [] := by
    refine List.eq_nil_iff_forall_not_mem.mpr fun id hid => ?_
    have hnotice := h.remembered id hid
    rw [hsent] at hnotice
    exact absurd hnotice List.not_mem_nil
  rw [hsent, hreported]
  exact ⟨by simp, by simp, List.nodup_nil, by simp, fun _ => rfl⟩

/-- With a timeout, a sweep reports whom it has to report. -/
theorem Faithful.conforms_pos (h : Faithful timeout past v) (now : Nat) (hpos : 0 < timeout) :
    Conforms timeout past now v.sent (((v.sweep.prune v.registry).due v.registry now).map notice)
      ((v.sweep.prune v.registry).reported ++ (v.sweep.prune v.registry).due v.registry now) := by
  have hout : ∀ id, notice id ∈ ((v.sweep.prune v.registry).due v.registry now).map notice ↔
      (∃ last, lastActive id past = some last ∧ timeout < now - last) ∧ notice id ∉ v.sent := by
    intro id
    rw [List.mem_map_of_injective notice_injective, h.mem_due]
  constructor
  case exact =>
    intro id
    rw [hout, and_iff_right hpos]
  case nothingElse =>
    intro item hitem
    rcases List.mem_append.mp hitem with hmem | hmem
    · obtain ⟨id, -, hid⟩ := h.sent item hmem
      exact ⟨id, hid⟩
    · obtain ⟨id, -, hid⟩ := List.mem_map.mp hmem
      exact ⟨id, hid.symm⟩
  case once =>
    refine h.once.append (nodup_due.map notice_injective) fun item hsent hmem => ?_
    obtain ⟨id, hid, rfl⟩ := List.mem_map.mp hmem
    exact (h.mem_due.mp hid).2 hsent
  case remembered =>
    intro id
    rw [List.mem_append, List.mem_append, hout, h.mem_prune, h.mem_due, or_and_right]
    -- whoever is due is there
    refine or_congr_right (and_iff_left_of_imp ?_).symm
    rintro ⟨⟨last, hlast, -⟩, -⟩
    exact Option.isSome_of_mem hlast
  case zero => exact fun hzero => absurd hzero (Nat.ne_of_gt hpos)

/-- A sweep conforms to what happened before it, if all sweeps before it did. -/
theorem Faithful.conforms (h : Faithful timeout past v) (now : Nat) :
    ∃ out remembered, v.sweep.sweep v.registry now true = (.ok out, ⟨timeout, remembered⟩) ∧
      Conforms timeout past now v.sent out remembered := by
  rcases Nat.eq_zero_or_pos timeout with rfl | hpos
  · refine ⟨[], v.sweep.reported, ?_, h.conforms_zero now⟩
    rw [sweep, if_pos h.unchanged, ← h.unchanged]
  · have htimeout : 0 < v.sweep.timeout := by rwa [h.unchanged]
    have hsweep : v.sweep.sweep v.registry now true = _ := sweep_taken htimeout
    refine ⟨_, _, hsweep.trans (congrArg _ (congrArg (IdleSweep.mk · _) h.unchanged)), ?_⟩
    exact h.conforms_pos now hpos

/-- Whatever changes the connections, the sweep is still right about who was reported. -/
theorem Faithful.change {r : Registry} (h : Faithful timeout past v) (horder : Orderly (past ++ [e]))
    (hactivity : ∀ id, r.aspect Session.lastActivity id
      = e.activity id (v.registry.aspect Session.lastActivity id)) :
    Faithful timeout (past ++ [e]) { v with registry := r } where
  unchanged := h.unchanged
  activity id := by rw [hactivity, h.activity, lastActive_concat]
  joined id hlive := by
    rw [lastActive_concat] at hlive
    exact joined_concat.mpr ((isSome_of_activity hlive).imp_left (h.joined id))
  sent item hitem := by
    obtain ⟨id, hid, rfl⟩ := h.sent item hitem
    exact ⟨id, joined_concat.mpr (.inl hid), rfl⟩
  remembered := h.remembered
  unforgotten id hsent hlive := by
    rw [lastActive_concat] at hlive
    refine h.unforgotten id hsent ((isSome_of_activity hlive).resolve_right fun hjoins => ?_)
    -- whoever was reported had joined before, and no number is given twice
    obtain ⟨other, hother, hsame⟩ := h.sent _ hsent
    obtain rfl := notice_injective hsame
    exact horder.not_joined hjoins hother
  once := h.once
  zero := h.zero

/-- Every event leaves the sweep faithful to what happened. -/
theorem Faithful.step (h : Faithful timeout past v) (horder : Orderly (past ++ [e])) :
    Faithful timeout (past ++ [e]) (v.step e) := by
  cases e with
  | operation op =>
    have hquiet := horder.quiet op (List.mem_append_right _ List.mem_cons_self)
    exact h.change horder fun id => aspect_apply hquiet
  | touched someone now => exact h.change horder fun id => aspect_touch
  | swept now =>
    have hstill := h.change (r := v.registry) horder fun id => rfl
    obtain ⟨out, remembered, hsweep, hconforms⟩ := hstill.conforms now
    have hstep : v.step (.swept now) = ⟨v.registry, ⟨timeout, remembered⟩, v.sent ++ out⟩ := by
      rw [Vigil.step, hsweep]
      rfl
    rw [hstep]
    refine ⟨rfl, hstill.activity, hstill.joined, fun item hitem => ?_, fun id hid => ?_,
      fun id hsent hlive => ?_, hconforms.once, hconforms.zero⟩
    · rcases List.mem_append.mp hitem with hmem | hmem
      · exact hstill.sent item hmem
      · obtain ⟨id, rfl⟩ := hconforms.nothingElse item hitem
        obtain ⟨-, ⟨last, hlast, -⟩, -⟩ := (hconforms.exact id).mp hmem
        exact ⟨id, hstill.joined id (Option.isSome_of_mem hlast), rfl⟩
    · exact ((hconforms.remembered id).mp hid).1
    · exact (hconforms.remembered id).mpr ⟨hsent, hlive⟩

/-- After every orderly history, the sweep is faithful to it. -/
theorem faithful_after (h : Orderly past) : Faithful timeout past (.after timeout past) := by
  induction past using List.reverseRecOn with
  | nil =>
    exact ⟨rfl, fun _ => rfl, fun _ hlive => absurd hlive Bool.false_ne_true,
      fun _ hitem => absurd hitem List.not_mem_nil, fun _ hid => absurd hid List.not_mem_nil,
      fun _ hsent => absurd hsent List.not_mem_nil, List.nodup_nil, fun _ => rfl⟩
  | append_singleton past e ih =>
    have hstep := (ih h.of_concat).step h
    rwa [Vigil.after, List.foldl_append]

/-- Whatever has happened, if no number was given twice: the last signs of life are as the sessions say,
and the next sweep reports just who is due. -/
theorem sweeps_conform (timeout : Nat) (past : List Event) (now : Nat) (h : Orderly past) :
    (∀ id, ((Vigil.after timeout past).registry.find? id).map (fun c => c.session.lastActivity)
      = lastActive id past) ∧
    ∃ out remembered, (Vigil.after timeout past).sweep.sweep (Vigil.after timeout past).registry now true
        = (.ok out, ⟨timeout, remembered⟩) ∧
      Conforms timeout past now (Vigil.after timeout past).sent out remembered :=
  ⟨(faithful_after h).activity, (faithful_after h).conforms now⟩

/-- Two connections are registered, the second gives a sign of life, a sweep finds the first silent, and
the first is removed. -/
def night : List Event :=
  [.operation (.add (.accepted 1 none (Session.fresh .standard 0))),
    .operation (.add (.accepted 2 none (Session.fresh .standard 0))), .touched 2 8, .swept 11,
    .operation (.remove 1)]

theorem sweeps_conform_night :
    Orderly night ∧ lastActive 1 night = none ∧ lastActive 2 night = some 8 ∧
    (∀ id, ((Vigil.after 10 night).registry.find? id).map (fun c => c.session.lastActivity)
      = lastActive id night) ∧
    ∃ out remembered, (Vigil.after 10 night).sweep.sweep (Vigil.after 10 night).registry 19 true
        = (.ok out, ⟨10, remembered⟩) ∧
      Conforms 10 night 19 (Vigil.after 10 night).sent out remembered := by
  have horder : Orderly night := by
    refine ⟨by decide, fun op hop => ?_⟩
    simp only [night, List.mem_cons, Event.operation.injEq, reduceCtorEq, List.not_mem_nil, or_false,
      false_or] at hop
    rcases hop with rfl | rfl | rfl <;> trivial
  exact ⟨horder, rfl, rfl, sweeps_conform 10 night 19 horder⟩

end IdleSweep

end FlightRelay

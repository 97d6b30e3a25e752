import FlightRelay.Proofs.Registry.Proximity
import FlightRelay.Proofs.Registry.Sections

/-!
# Removals

A removal takes one connection out, and out of the sessions of all others whatever pointed at it; its
report names each binding that was reset, once.  Nothing is assumed of what the sessions say of each
other.  From then on no operation finds the connection, whatever else is done to the registry, unless
somebody is registered under its number.
-/

namespace FlightRelay

/-- What a session says when the connection `gone` has left: all it said before, but for what pointed
there. -/
structure Session.Forgets (gone : ConnectionId) (before after : Session) : Prop where
  dispatcher : after.dispatcher = if before.dispatcher = gone then noConnection else before.dispatcher
  /-- The user behind the dispatcher is forgotten exactly when the dispatcher is. -/
  dispatcherUser :
    after.dispatcherUser = if before.dispatcher = gone then none else before.dispatcherUser
  viewer : after.viewer = if before.viewer = gone then noConnection else before.viewer
  viewing : after.viewing = if before.viewing = gone then noConnection else before.viewing
  rest : after = { before with
    dispatcher := after.dispatcher
    dispatcherUser := after.dispatcherUser
    viewer := after.viewer
    viewing := after.viewing }

/-- Nothing in a session that has forgotten a connection points at it. -/
theorem Session.Forgets.unbound {gone : ConnectionId} {before after : Session}
    (h : before.Forgets gone after) (hgone : gone ≠ noConnection) :
    after.dispatcher ≠ gone ∧ after.viewer ≠ gone ∧ after.viewing ≠ gone := by
  have reset : ∀ i, (if i = gone then noConnection else i) ≠ gone := by
    intro i
    split
    · exact hgone.symm
    · assumption
  rw [h.dispatcher, h.viewer, h.viewing]
  exact ⟨reset _, reset _, reset _⟩

namespace Registry

/-- The field of a session that holds a binding. -/
def BindingKind.field (s : Session) : BindingKind → ConnectionId
  | .dispatcher => s.dispatcher
  | .viewer => s.viewer

/-- A removal, and the registry after it. -/
structure Evicts (r : Registry) (id : ConnectionId) (removal : Removal) (r' : Registry) : Prop where
  snapshot : r.find? id = some removal.snapshot
  closed : r'.closed = id :: r.closed
  nextId : r'.nextId = r.nextId
  gone : r'.find? id = none
  /-- Who else was live still is, and nothing but its session has changed. -/
  others : ∀ other, other ≠ id → (r.find? other = none ∧ r'.find? other = none) ∨
    ∃ c s, r.find? other = some c ∧ c.session.Forgets id s ∧
      r'.find? other = some { c with session := s }
  unbound : ∀ {other c}, r'.find? other = some c →
    c.session.dispatcher ≠ id ∧ c.session.viewer ≠ id ∧ c.session.viewing ≠ id
  /-- What was reset is reported. -/
  cleared : ∀ other kind, ⟨other, kind⟩ ∈ removal.cleared ↔
    other ≠ id ∧ ∃ c, r.find? other = some c ∧ kind.field c.session = id
  /-- Nothing is reported twice. -/
  nodup : removal.cleared.Nodup

/-- No question about a connection is answered, and nothing can be done to it. -/
structure Unknown (r : Registry) (id : ConnectionId) : Prop where
  find? : r.find? id = none
  contains : r.contains id = false
  ids : id ∉ r.ids
  select : ∀ p, ∀ c ∈ r.select p, c.id ≠ id
  byUser? : ∀ user role, ∀ c ∈ r.byUser? user role, c.id ≠ id
  inRange : ∀ place, ∀ c ∈ r.inRange place, c.id ≠ id
  within : ∀ place radius keep, ∀ d ∈ r.within place radius keep, d.1.id ≠ id
  update : ∀ f, r.update id f = .error (.notFound id)
  /-- A bind fails, whichever side the connection is on; of two that are not there, the one that was
  to be bound is looked for first. -/
  bindDispatcher : ∀ other, r.bindDispatcher other id = .error (.notFound id) ∧
    r.bindDispatcher id other = .error (.notFound (if r.contains other then id else other))
  bindViewer : ∀ other, r.bindViewer other id = .error (.notFound id) ∧
    r.bindViewer id other = .error (.notFound (if r.contains other then id else other))
  clearDispatcher : ∀ expected, r.clearDispatcher id expected = none
  clearViewer : ∀ expected, r.clearViewer id expected = none
  remove : r.remove id = none

/-! ## One operation after another -/

/-- What can be asked of a registry that changes it. -/
inductive Operation where
  | allocate
  | add (c : Connection)
  | update (id : ConnectionId) (f : Session → Session)
  | count (id : ConnectionId) (f : IoCounters → IoCounters)
  | bindDispatcher (pilot dispatcher : ConnectionId)
  | clearDispatcher (pilot : ConnectionId) (expected : Option ConnectionId)
  | bindViewer (pilot viewer : ConnectionId)
  | clearViewer (pilot : ConnectionId) (expected : Option ConnectionId)
  | remove (id : ConnectionId)

/-- The operation puts a connection under the number. -/
def Operation.Registers (id : ConnectionId) : Operation → Prop
  | .add c => c.id = id
  | _ => False

/-- Carries out an operation; one that fails changes nothing. -/
def apply (r : Registry) : Operation → Registry
  | .allocate => r.allocate.2
  | .add c => (r.add c).toOption.getD r
  | .update id f => (r.update id f).toOption.getD r
  | .count id f => r.count id f
  | .bindDispatcher pilot dispatcher =>
    ((r.bindDispatcher pilot dispatcher).toOption.map Prod.snd).getD r
  | .clearDispatcher pilot expected => ((r.clearDispatcher pilot expected).map Prod.snd).getD r
  | .bindViewer pilot viewer => ((r.bindViewer pilot viewer).toOption.map Prod.snd).getD r
  | .clearViewer pilot expected => ((r.clearViewer pilot expected).map Prod.snd).getD r
  | .remove id => ((r.remove id).map Prod.snd).getD r

/-- Carries out operations in turn. -/
def run (r : Registry) (ops : List Operation) : Registry := ops.foldl apply r

open Session

variable {r r' : Registry} {id other : ConnectionId} {c : Connection} {removal : Removal}
  {op : Operation}

/-! ## Nobody comes -/

/-- No operation brings back who is not live, unless it registers that number. -/
theorem find?_apply (h : r.find? id = none) (hop : ¬ op.Registers id) :
    (r.apply op).find? id = none := by
  have same : ∀ {r' : Registry}, r'.contains id = r.contains id → r'.find? id = none := fun hc =>
    find?_eq_none_iff.mpr (hc.trans (find?_eq_none_iff.mp h))
  cases op with
  | allocate => exact h
  | add c =>
    rw [apply]
    cases hadd : r.add c with
    | error e => exact h
    | ok r' =>
      -- the one operation that brings a number in, and it brings in another one
      obtain ⟨-, -, -, hfind⟩ := add_eq_ok hadd
      exact (hfind id).trans ((if_neg fun he => hop he.symm).trans h)
  | update i f =>
    rw [apply, update]
    split
    · exact same contains_modify
    · exact h
  | count i f => rw [apply, find?_count, h, Option.map_none, ite_self]
  | bindDispatcher p d =>
    rw [apply]
    cases hbind : r.bindDispatcher p d with
    | error e => exact h
    | ok bound => exact same (contains_of_bindDispatcher hbind id)
  | clearDispatcher p e =>
    rw [apply]
    cases hclear : r.clearDispatcher p e with
    | none => exact h
    | some cleared =>
      obtain ⟨-, -, -, -, -, -, hr⟩ := clearDispatcher_eq_some hclear
      exact same ((congrArg (·.contains id) hr).trans contains_modify)
  | bindViewer p v =>
    rw [apply]
    cases hbind : r.bindViewer p v with
    | error e => exact h
    | ok bound => exact same (contains_of_bindViewer hbind id)
  | clearViewer p e =>
    rw [apply]
    cases hclear : r.clearViewer p e with
    | none => exact h
    | some cleared => exact same ((contains_of_clearViewer hclear).2 id)
  | remove i =>
    rw [apply]
    cases hremove : r.remove i with
    | none => exact h
    | some answer =>
      obtain ⟨-, -, -, -, hfind⟩ := remove_eq_some hremove
      refine (hfind id).trans ?_
      rw [h, Option.map_none, ite_self]

/-- Whoever is not live stays so, until somebody is registered under that number. -/
theorem find?_run {ops : List Operation} (h : r.find? id = none)
    (hops : ∀ op ∈ ops, ¬ op.Registers id) : (r.run ops).find? id = none := by
  induction ops generalizing r with
  | nil => exact h
  | cons op ops ih =>
    have hstep := find?_apply h (hops op List.mem_cons_self)
    exact ih hstep fun later hlater => hops later (List.mem_cons_of_mem _ hlater)

/-! ## Who is not live is unknown -/

/-- What is not found is unknown in every way. -/
theorem unknown_of_find? (h : r.find? id = none) : r.Unknown id := by
  have hcontains := find?_eq_none_iff.mp h
  have hlive : ∀ c ∈ r.connections, c.id ≠ id := by
    intro c hc he
    have hfound := find?_of_mem hc
    rw [he, h] at hfound
    cases hfound
  have hselect : ∀ p, ∀ c ∈ r.select p, c.id ≠ id := fun p c hc => hlive c (List.mem_of_mem_filter hc)
  -- the dispatcher is looked up before the pilot, and is named if both are missing
  have hdispatcher : ∀ other, r.bindDispatcher other id = .error (.notFound id) ∧
      r.bindDispatcher id other = .error (.notFound (if r.contains other then id else other)) := by
    intro other
    refine ⟨by rw [bindDispatcher, h], ?_⟩
    cases hother : r.find? other with
    | none => rw [bindDispatcher, hother, find?_eq_none_iff.mp hother, if_neg Bool.false_ne_true]
    | some d => rw [bindDispatcher, hother, h, contains_of_find? hother, if_pos rfl]
  have hviewer : ∀ other, r.bindViewer other id = .error (.notFound id) ∧
      r.bindViewer id other = .error (.notFound (if r.contains other then id else other)) := by
    intro other
    refine ⟨by simp [bindViewer, hcontains], ?_⟩
    by_cases hother : r.contains other
    · simp [bindViewer, hcontains, hother]
    · simp [bindViewer, hother]
  exact {
    find? := h
    contains := hcontains
    ids := fun hid => by
      obtain ⟨c, hc, he⟩ := List.mem_map.mp (List.mem_mergeSort.mp hid)
      exact hlive c hc he
    select := hselect
    byUser? := fun user role c hc => hselect _ c (mem_of_newest? hc)
    inRange := fun place c hc => hselect _ c hc
    within := fun place radius keep d hd he => by
      have hfound := (mem_within hd).1
      rw [he, h] at hfound
      cases hfound
    update := fun f => by rw [update, hcontains, if_neg Bool.false_ne_true]
    bindDispatcher := hdispatcher
    bindViewer := hviewer
    clearDispatcher := fun expected => by simp [clearDispatcher, h]
    clearViewer := fun expected => by simp [clearViewer, detachViewer, h]
    remove := remove_eq_none_iff.mpr h }

/-! ## What a removal does -/

/-- What is done to the sessions at a removal makes them forget the connection. -/
theorem forgets_forget (s : Session) : s.Forgets id (forget id s) := ⟨rfl, rfl, rfl, rfl, rfl⟩

/-- The bindings of a connection to another are the fields that point there. -/
theorem mem_bindingsTo {kind : BindingKind} :
    ⟨other, kind⟩ ∈ bindingsTo id c ↔ other = c.id ∧ kind.field c.session = id := by
  unfold bindingsTo
  cases kind <;> simp [BindingKind.field, and_comm]

/-- A connection is bound to another in each role once. -/
theorem nodup_bindingsTo (id : ConnectionId) (c : Connection) : (bindingsTo id c).Nodup := by
  unfold bindingsTo
  split <;> split <;> simp

/-- The report of a removal names the connections that were bound to the one that leaves, and how. -/
theorem mem_cleared {kind : BindingKind} :
    ⟨other, kind⟩ ∈ (r.without id).connections.flatMap (bindingsTo id) ↔
      other ≠ id ∧ ∃ c, r.find? other = some c ∧ kind.field c.session = id := by
  rw [List.mem_flatMap]
  constructor
  · rintro ⟨c, hc, hbinding⟩
    obtain ⟨rfl, hfield⟩ := mem_bindingsTo.mp hbinding
    obtain ⟨hmem, hne⟩ := List.mem_filter.mp hc
    exact ⟨of_decide_eq_true hne, c, find?_of_mem hmem, hfield⟩
  · rintro ⟨hne, c, hc, hfield⟩
    obtain rfl := id_of_find? hc
    exact ⟨c, List.mem_filter.mpr ⟨List.mem_of_find?_eq_some hc, decide_eq_true hne⟩,
      mem_bindingsTo.mpr ⟨rfl, hfield⟩⟩

/-- No two connections have a binding in common, as no two have a number in common. -/
theorem nodup_cleared : (r.connections.flatMap (bindingsTo id)).Nodup := by
  have hdistinct : r.connections.Pairwise fun c d => c.id ≠ d.id := List.pairwise_map.mp r.ids_nodup
  refine List.nodup_flatMap.mpr ⟨fun c _ => nodup_bindingsTo id c, hdistinct.imp ?_⟩
  rintro c d hne ⟨other, kind⟩ hc hd
  exact hne ((mem_bindingsTo.mp hc).1.symm.trans (mem_bindingsTo.mp hd).1)

/-- The removal of a live connection takes it out of the registry and out of all other sessions. -/
theorem evicts_of_remove (hid : id ≠ noConnection) (h : r.remove id = some (removal, r')) :
    r.Evicts id removal r' := by
  obtain ⟨hsnapshot, hnext, hclosed, hcleared, hafter⟩ := remove_eq_some h
  refine ⟨hsnapshot, hclosed, hnext, (hafter id).trans (if_pos rfl), ?_, ?_, ?_, ?_⟩
  · intro other hne
    have hother := (hafter other).trans (if_neg hne)
    cases hfind : r.find? other with
    | none => exact .inl ⟨rfl, by rw [hother, hfind, Option.map_none]⟩
    | some c =>
      refine .inr ⟨c, forget id c.session, rfl, forgets_forget c.session, ?_⟩
      rw [hother, hfind, Option.map_some]
      rfl
  · intro other d hd
    rw [hafter other] at hd
    split at hd
    · cases hd
    · obtain ⟨c, -, rfl⟩ := Option.map_eq_some_iff.mp hd
      exact (forgets_forget c.session).unbound hid
  · intro other kind
    rw [hcleared]
    exact mem_cleared
  · rw [hcleared]
    exact nodup_cleared

/-- A connection that is not live cannot be removed, and an attempt changes nothing.  One that is live is
removed: it is gone, all others have forgotten it, and the report says who was bound to it.  Nothing that
is done to the registry from then on brings it back, unless somebody is registered under its number. -/
theorem removal_terminal (r : Registry) (id : ConnectionId) (hid : 1 ≤ id) :
    (r.contains id = false → r.remove id = none ∧ r.apply (.remove id) = r) ∧
    (r.contains id = true → ∃ removal r', r.remove id = some (removal, r') ∧ r.Evicts id removal r' ∧
      ∀ ops : List Operation, (∀ op ∈ ops, ¬ op.Registers id) → (r'.run ops).Unknown id) := by
  constructor
  · intro hcontains
    have hremove := remove_eq_none_iff.mpr (find?_eq_none_iff.mpr hcontains)
    exact ⟨hremove, by rw [apply, hremove, Option.map_none, Option.getD_none]⟩
  · intro hcontains
    have hlive : r.remove id ≠ none := by
      rw [Ne, remove_eq_none_iff, find?_eq_none_iff, hcontains]
      decide
    obtain ⟨⟨removal, r'⟩, hremove⟩ := Option.ne_none_iff_exists'.mp hlive
    have hne : id ≠ noConnection := by
      rintro rfl
      exact absurd hid (by decide)
    have hevicts := evicts_of_remove hne hremove
    exact ⟨removal, r', hremove, hevicts, fun ops hops =>
      unknown_of_find? (find?_run hevicts.gone hops)⟩

/-- Connection 2 is the dispatcher of 1 and its viewer too, 1 is that of 2 in turn, and 3 follows 2. -/
def entangled : Registry where
  connections :=
    [.accepted 1 none
        { Session.fresh .standard 0 with dispatcher := 2, dispatcherUser := some 7, viewer := 2 },
      .accepted 2 none { Session.fresh .standard 0 with dispatcher := 1 },
      .accepted 3 none { Session.fresh .standard 0 with viewing := 2 }]
  nextId := 4
  closed := []
  ids_nodup := by decide

theorem removal_terminal_entangled :
    (1 : ConnectionId) ≤ 2 ∧ ∃ removal r', entangled.remove 2 = some (removal, r') ∧
      removal.cleared = [⟨1, .dispatcher⟩, ⟨1, .viewer⟩] ∧ entangled.Evicts 2 removal r' ∧
      ∀ ops : List Operation, (∀ op ∈ ops, ¬ op.Registers 2) → (r'.run ops).Unknown 2 := by
  obtain ⟨removal, r', hremove, hrest⟩ := (removal_terminal entangled 2 (by decide)).2 (by decide)
  have hcleared : (entangled.remove 2).map (·.1.cleared) = some [⟨1, .dispatcher⟩, ⟨1, .viewer⟩] := by
    decide
  rw [hremove] at hcleared
  exact ⟨by decide, removal, r', hremove, Option.some.inj hcleared, hrest⟩

end Registry

end FlightRelay

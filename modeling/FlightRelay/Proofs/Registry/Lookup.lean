import Mathlib
import FlightRelay.Proofs.Entries
import FlightRelay.Registry.Binding

/-!
# Looking up after a change

What `find?` and `contains` give after each way in which the registry changes.  Later modules read the
registry through these lemmas and no longer look at the list of connections.
-/

namespace FlightRelay

namespace Registry

variable {r : Registry} {id other : ConnectionId} {c : Connection} {f g : Session → Session}

/-! ## Numbers -/

/-- A connection is found under its own number. -/
theorem id_of_find? (h : r.find? id = some c) : c.id = id := by
  have hp := List.find?_some h
  simpa using hp

/-- Every live connection is found, since no two have the same number. -/
theorem find?_of_mem (h : c ∈ r.connections) : r.find? c.id = some c := find?_of_nodup r.ids_nodup h

/-- A number is registered if somebody is found under it. -/
theorem contains_iff : r.contains id = true ↔ ∃ c, r.find? id = some c := by
  rw [contains, Option.isSome_iff_exists]

theorem contains_of_find? (h : r.find? id = some c) : r.contains id = true :=
  contains_iff.mpr ⟨c, h⟩

theorem find?_eq_none_iff : r.find? id = none ↔ r.contains id = false := by
  rw [contains, Option.isSome_eq_false_iff, Option.isNone_iff_eq_none]

/-- Connections in different roles have different numbers. -/
theorem ne_of_role {d : Connection} {roleOfC roleOfD : Role} (hc : r.find? id = some c)
    (hd : r.find? other = some d) (hroleC : c.role = roleOfC) (hroleD : d.role = roleOfD)
    (h : roleOfC ≠ roleOfD) : id ≠ other := by
  rintro rfl
  obtain rfl := Option.some.inj (hc.symm.trans hd)
  exact h (hroleC.symm.trans hroleD)

/-- Of all connections, one is live under a number. -/
theorem filter_connections (h : r.find? id = some c) :
    r.connections.filter (fun d => d.id = id) = [c] := by
  obtain ⟨before, after, hsplit⟩ := List.append_of_mem (List.mem_of_find?_eq_some h)
  have hnd := r.ids_nodup
  rw [hsplit, List.map_append, List.map_cons, List.nodup_middle, List.nodup_cons, id_of_find? h,
    ← List.map_append] at hnd
  have others : ∀ d ∈ before ++ after, ¬ decide (d.id = id) = true := by
    intro d hd he
    exact hnd.1 (List.mem_map.mpr ⟨d, hd, of_decide_eq_true he⟩)
  rw [hsplit, List.filter_append, List.filter_cons, if_pos (decide_eq_true (id_of_find? h)),
    List.filter_eq_nil_iff.mpr fun d hd => others d (List.mem_append_left _ hd),
    List.filter_eq_nil_iff.mpr fun d hd => others d (List.mem_append_right _ hd), List.nil_append]

/-- If only one connection contributes to a list, the list is its contribution. -/
theorem flatMap_connections {α : Type} {k : Connection → List α} (h : r.find? id = some c)
    (only : ∀ d, d.id ≠ id → k d = []) : r.connections.flatMap k = k c := by
  have hfilter : ∀ cs : List Connection,
      cs.flatMap k = (cs.filter fun d => d.id = id).flatMap k := by
    intro cs
    induction cs with
    | nil => rfl
    | cons d ds ih =>
      by_cases he : d.id = id
      · rw [List.filter_cons, if_pos (decide_eq_true he), List.flatMap_cons, List.flatMap_cons, ih]
      · rw [List.filter_cons, if_neg (by simpa using he), List.flatMap_cons, only d he, ih,
          List.nil_append]
  rw [hfilter, filter_connections h, List.flatMap_singleton]

/-- Two changes of all connections that do the same to each live one have the same result. -/
theorem mapConnections_congr {k l : Connection → Connection} {keepsK : ∀ c, (k c).id = c.id}
    {keepsL : ∀ c, (l c).id = c.id} (h : ∀ c ∈ r.connections, k c = l c) :
    r.mapConnections k keepsK = r.mapConnections l keepsL := by
  have hmap : r.connections.map k = r.connections.map l := List.map_congr_left h
  simp only [mapConnections, hmap]

/-! ## Changing sessions -/

/-- A change of all connections that keeps their numbers is found in each. -/
theorem find?_mapConnections (k : Connection → Connection) (keeps : ∀ c, (k c).id = c.id) :
    (r.mapConnections k keeps).find? id = (r.find? id).map k := find?_map_of_keeps keeps

/-- After a change of one session, that connection is found changed and every other as it was. -/
theorem find?_modify :
    (r.modify id f).find? other
      = if other = id then (r.find? other).map (Connection.withSession f) else r.find? other := by
  rw [modify, find?_mapConnections]
  cases h : r.find? other with
  | none => split <;> rfl
  | some d =>
    rw [Option.map_some, id_of_find? h]
    split <;> rfl

/-- After a change of the counters of one connection, that one is found changed and every other as it
was. -/
theorem find?_count (k : IoCounters → IoCounters) :
    (r.count id k).find? other
      = if other = id then (r.find? other).map fun c => { c with counters := k c.counters }
        else r.find? other := by
  rw [count, find?_mapConnections]
  cases h : r.find? other with
  | none => split <;> rfl
  | some d =>
    obtain rfl := id_of_find? h
    rw [Option.map_some]
    split <;> rfl

/-- A change of a session is found in its connection. -/
theorem find?_modify_self (h : r.find? id = some c) :
    (r.modify id f).find? id = some (c.withSession f) := by
  rw [find?_modify, if_pos rfl, h, Option.map_some]

theorem find?_modify_of_ne (h : other ≠ id) : (r.modify id f).find? other = r.find? other := by
  rw [find?_modify, if_neg h]

@[simp] theorem contains_modify : (r.modify id f).contains other = r.contains other := by
  rw [contains, find?_modify, contains]
  split
  · rw [Option.isSome_map]
  · rfl

/-- What is found after a change of one session was found before it. -/
theorem find?_modify_eq_some {d : Connection} (h : (r.modify id f).find? other = some d) :
    ∃ c, r.find? other = some c ∧ d = if other = id then c.withSession f else c := by
  rw [find?_modify] at h
  split at h
  · rename_i he
    obtain ⟨c, hc, rfl⟩ := Option.map_eq_some_iff.mp h
    exact ⟨c, hc, by rw [if_pos he]⟩
  · rename_i hne
    exact ⟨d, h, by rw [if_neg hne]⟩

/-- Two changes of one session are one change. -/
theorem modify_modify : (r.modify id f).modify id g = r.modify id (g ∘ f) := by
  have hmap : ∀ cs : List Connection,
      (cs.map fun c => if c.id = id then c.withSession f else c).map
          (fun c => if c.id = id then c.withSession g else c)
        = cs.map fun c => if c.id = id then c.withSession (g ∘ f) else c := by
    intro cs
    rw [List.map_map]
    apply List.map_congr_left
    intro d _
    by_cases h : d.id = id <;> simp [h, Connection.withSession]
  simp only [modify, mapConnections, hmap]

/-- Changes of two sessions can be made in either order. -/
theorem modify_comm (h : other ≠ id) :
    (r.modify id f).modify other g = (r.modify other g).modify id f := by
  have hmap : ∀ cs : List Connection,
      (cs.map fun c => if c.id = id then c.withSession f else c).map
          (fun c => if c.id = other then c.withSession g else c)
        = (cs.map fun c => if c.id = other then c.withSession g else c).map
          (fun c => if c.id = id then c.withSession f else c) := by
    intro cs
    rw [List.map_map, List.map_map]
    apply List.map_congr_left
    intro d _
    by_cases hid : d.id = id
    · have hother : ¬ d.id = other := fun he => h (he.symm.trans hid)
      simp [Connection.withSession_id, hid, h.symm]
    · simp only [Function.comp, if_neg hid]
      by_cases hother : d.id = other
      · simp [Connection.withSession_id, hother, h]
      · simp only [if_neg hother, if_neg hid]
  simp only [modify, mapConnections, hmap]

/-- Only what a change does to the session that is there matters. -/
theorem modify_congr (h : r.find? id = some c) (same : f c.session = g c.session) :
    r.modify id f = r.modify id g := by
  apply mapConnections_congr
  intro d hd
  split
  · rename_i he
    rw [← he, find?_of_mem hd] at h
    obtain rfl := Option.some.inj h
    rw [Connection.withSession, Connection.withSession, same]
  · rfl

/-- A change that leaves the session as it is changes nothing. -/
theorem modify_eq_self (h : r.find? id = some c) (same : f c.session = c.session) :
    r.modify id f = r := by
  have hmap : ∀ d ∈ r.connections, (if d.id = id then d.withSession f else d) = d := by
    intro d hd
    split
    · rename_i he
      rw [← he, find?_of_mem hd] at h
      obtain rfl := Option.some.inj h
      rw [Connection.withSession, same]
    · rfl
  have hconnections := List.map_congr_left hmap
  rw [List.map_id'] at hconnections
  simp only [modify, mapConnections, hconnections]

/-- What the session of a live connection says in one respect. -/
def aspect {α : Type} (r : Registry) (k : Session → α) (id : ConnectionId) : Option α :=
  (r.find? id).map fun c => k c.session

/-- An aspect of a connection is that of its session. -/
theorem aspect_of_find? {α : Type} {k : Session → α} (h : r.find? id = some c) :
    r.aspect k id = some (k c.session) := by
  rw [aspect, h, Option.map_some]

/-- A change that leaves one respect alone leaves it alone for every connection. -/
theorem aspect_modify {α : Type} {k : Session → α} (h : ∀ s, k (f s) = k s) :
    (r.modify id f).aspect k other = r.aspect k other := by
  unfold aspect
  rw [find?_modify]
  split
  · rw [Option.map_map]
    congr 1
    funext c
    exact h c.session
  · rfl

theorem aspect_modify_self {α : Type} {k : Session → α} (h : r.find? id = some c) :
    (r.modify id f).aspect k id = some (k (f c.session)) :=
  aspect_of_find? (find?_modify_self h)

theorem aspect_modify_of_ne {α : Type} {k : Session → α} (h : other ≠ id) :
    (r.modify id f).aspect k other = r.aspect k other := by
  rw [aspect, find?_modify_of_ne h, aspect]

/-- A respect in which something is said is that of a live connection. -/
theorem aspect_eq_some_iff {α : Type} {k : Session → α} {a : α} :
    r.aspect k id = some a ↔ ∃ c, r.find? id = some c ∧ k c.session = a := by
  rw [aspect, Option.map_eq_some_iff]

/-- An update of a live connection goes well. -/
theorem update_eq_ok (h : r.find? id = some c) : r.update id f = .ok (r.modify id f) := by
  rw [update, if_pos (contains_of_find? h)]

/-! ## Adding and removing -/

/-- After a registration the new connection is found, and every other as it was. -/
theorem add_eq_ok {r' : Registry} (h : r.add c = .ok r') :
    r.contains c.id = false ∧ r'.nextId = r.nextId ∧ r'.closed = r.closed ∧
      ∀ i, r'.find? i = if i = c.id then some c else r.find? i := by
  unfold add at h
  split at h
  · cases h
  · rename_i hfree
    obtain rfl := Except.ok.inj h
    refine ⟨Bool.eq_false_iff.mpr hfree, rfl, rfl, fun i => ?_⟩
    show (r.connections ++ [c]).find? _ = _
    rw [List.find?_append, List.find?_singleton]
    by_cases he : i = c.id
    · subst he
      have hn : r.connections.find? (fun d => d.id = c.id) = none :=
        find?_eq_none_iff.mpr (Bool.eq_false_iff.mpr hfree)
      simp [hn]
    · have hne : ¬ c.id = i := fun h => he h.symm
      simp [hne, he, find?]

/-- After an accept, the fresh connection is found under the number that was next. -/
theorem accept_eq_ok {r' : Registry} {remote : Option Net.Socket} {session : Session}
    (h : r.allocate.2.add (.accepted r.nextId remote session) = .ok r') :
    r.contains r.nextId = false ∧ r'.nextId = r.nextId + 1 ∧ r'.closed = r.closed ∧
      ∀ i, r'.find? i = if i = r.nextId then some (.accepted r.nextId remote session)
        else r.find? i := add_eq_ok h

/-- A connection under a free number can be registered. -/
theorem exists_add (h : r.contains c.id = false) : ∃ r', r.add c = .ok r' := by
  rw [add, dif_neg (by rw [h]; exact Bool.false_ne_true)]
  exact ⟨_, rfl⟩

theorem find?_without : (r.without id).find? other = if other = id then none else r.find? other :=
  find?_filter_ne

/-- After a removal, the connection is gone and the others have forgotten it. -/
theorem remove_eq_some {removal : Removal} {r' : Registry}
    (h : r.remove id = some (removal, r')) :
    r.find? id = some removal.snapshot ∧ r'.nextId = r.nextId ∧ r'.closed = id :: r.closed ∧
      removal.cleared = (r.without id).connections.flatMap (bindingsTo id) ∧
      ∀ i, r'.find? i
        = if i = id then none else (r.find? i).map (Connection.withSession (forget id)) := by
  rw [remove, Option.map_eq_some_iff] at h
  obtain ⟨gone, hgone, h⟩ := h
  obtain ⟨rfl, rfl⟩ := Prod.mk.inj h
  refine ⟨hgone, rfl, rfl, rfl, fun i => ?_⟩
  refine (find?_mapConnections _ _).trans ?_
  rw [find?_without]
  split <;> rfl

/-- Only what is not registered cannot be removed. -/
theorem remove_eq_none_iff : r.remove id = none ↔ r.find? id = none := by
  rw [remove, Option.map_eq_none_iff]

/-- Whoever is removed is gone, and nobody comes back when others are. -/
theorem find?_removeEach (ids : List ConnectionId) (h : id ∈ ids ∨ r.find? id = none) :
    (ids.foldl (fun r id => ((r.remove id).map Prod.snd).getD r) r).find? id = none := by
  induction ids generalizing r with
  | nil => simpa using h
  | cons i is ih =>
    have hafter : id ∈ is ∨ (((r.remove i).map Prod.snd).getD r).find? id = none := by
      cases hremoved : r.remove i with
      | none =>
        obtain hmem | hnone := h
        · obtain rfl | htail := List.mem_cons.mp hmem
          · exact .inr (remove_eq_none_iff.mp hremoved)
          · exact .inl htail
        · exact .inr hnone
      | some answer =>
        obtain ⟨removal, r'⟩ := answer
        obtain ⟨-, -, -, -, hfind⟩ := remove_eq_some hremoved
        have hfind : r'.find? id = if id = i then none else _ := hfind id
        by_cases hi : id = i
        · exact .inr (hfind.trans (if_pos hi))
        · refine h.imp (fun hmem => (List.mem_cons.mp hmem).resolve_left hi) fun hnone => ?_
          rw [if_neg hi, hnone] at hfind
          exact hfind
    exact ih hafter

/-- Once all connections were removed there is none. -/
theorem find?_clear (r : Registry) (id : ConnectionId) : r.clear.find? id = none := by
  refine find?_removeEach r.ids ?_
  cases hfind : r.find? id with
  | none => exact .inr rfl
  | some c =>
    have hc : c.id ∈ r.ids := List.mem_mergeSort.mpr (List.mem_map_of_mem (List.mem_of_find?_eq_some hfind))
    exact .inl (id_of_find? hfind ▸ hc)

end Registry

end FlightRelay

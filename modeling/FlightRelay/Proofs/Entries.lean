import Mathlib.Algebra.Ring.Nat
import Mathlib.Data.List.Basic

/-!
# Entries under keys

What is looked up in a list of entries after those of one key were replaced or removed, and the same for
records that carry their key; and that an entry which is put in its place twice is put there once.
-/

namespace FlightRelay

variable {κ α : Type} [DecidableEq κ] {key other k : κ} {a b : α} {es : List (κ × α)}

/-- An entry of another key is passed over. -/
theorem lookup_cons_of_ne (h : other ≠ k) : ((k, b) :: es).lookup other = es.lookup other := by
  rw [List.lookup_cons, beq_eq_false_iff_ne.mpr h]

/-- After a replacement, what was there under the key is replaced, and every other key is left alone. -/
theorem lookup_replace (entries : List (κ × α)) :
    (entries.map fun e => if e.1 = key then (key, a) else e).lookup other
      = if other = key then (entries.lookup other).map fun _ => a else entries.lookup other := by
  induction entries with
  | nil => split <;> rfl
  | cons e es ih =>
    obtain ⟨k, b⟩ := e
    rw [List.map_cons]
    by_cases hkey : k = key
    · subst hkey
      rw [if_pos rfl]
      by_cases hk : other = k
      · subst hk
        rw [List.lookup_cons_self, if_pos rfl, List.lookup_cons_self, Option.map_some]
      · rw [lookup_cons_of_ne hk, ih, if_neg hk, if_neg hk, lookup_cons_of_ne hk]
    · rw [if_neg hkey]
      by_cases hk : other = k
      · subst hk
        rw [List.lookup_cons_self, if_neg hkey, List.lookup_cons_self]
      · rw [lookup_cons_of_ne hk, lookup_cons_of_ne hk, ih]

/-- After a removal, nothing is there under the key, and every other key is left alone. -/
theorem lookup_remove (entries : List (κ × α)) :
    (entries.filter fun e => e.1 ≠ key).lookup other
      = if other = key then none else entries.lookup other := by
  induction entries with
  | nil => split <;> rfl
  | cons e es ih =>
    obtain ⟨k, b⟩ := e
    by_cases hkey : k = key
    · subst hkey
      rw [List.filter_cons, if_neg (by simp), ih]
      by_cases hk : other = k
      · rw [if_pos hk, if_pos hk]
      · rw [if_neg hk, if_neg hk, lookup_cons_of_ne hk]
    · rw [List.filter_cons, if_pos (by simpa using hkey)]
      by_cases hk : other = k
      · subst hk
        rw [List.lookup_cons_self, if_neg hkey, List.lookup_cons_self]
      · rw [lookup_cons_of_ne hk, lookup_cons_of_ne hk, ih]

theorem mem_of_lookup (h : es.lookup key = some a) : (key, a) ∈ es := by
  obtain ⟨before, behind, rfl, -⟩ := List.lookup_eq_some_iff.mp h
  exact List.mem_append_right _ List.mem_cons_self

/-- If no key comes twice, every entry is found. -/
theorem lookup_of_mem (hkeys : (es.map Prod.fst).Nodup) (h : (key, a) ∈ es) :
    es.lookup key = some a := by
  induction es with
  | nil => exact absurd h List.not_mem_nil
  | cons e es ih =>
    obtain ⟨k, b⟩ := e
    obtain ⟨hk, hes⟩ := List.nodup_cons.mp hkeys
    obtain heq | htail := List.mem_cons.mp h
    · obtain ⟨rfl, rfl⟩ := Prod.mk.inj heq
      exact List.lookup_cons_self
    · have hne : key ≠ k := fun heq => hk (heq ▸ List.mem_map.mpr ⟨(key, a), htail, rfl⟩)
      rw [lookup_cons_of_ne hne]
      exact ih hes htail

/-- If no key comes twice, what is counted is counted at the key and at all others. -/
theorem sum_eq_of_lookup (f : κ × α → Nat) (hkeys : (es.map Prod.fst).Nodup)
    (h : es.lookup key = some a) :
    (es.map f).sum = f (key, a) + ((es.filter fun e => e.1 ≠ key).map f).sum := by
  induction es with
  | nil => cases h
  | cons e es ih =>
    obtain ⟨k, b⟩ := e
    obtain ⟨hk, hes⟩ := List.nodup_cons.mp hkeys
    by_cases hkey : key = k
    · subst hkey
      have hrest : (es.filter fun e => e.1 ≠ key) = es := by
        refine List.filter_eq_self.mpr fun e he => ?_
        have hne : e.1 ≠ key := fun heq => hk (List.mem_map.mpr ⟨e, he, heq⟩)
        simpa using hne
      rw [List.lookup_cons_self] at h
      rw [List.filter_cons_of_neg (by simp), hrest, Option.some.inj h, List.map_cons, List.sum_cons]
    · rw [lookup_cons_of_ne hkey] at h
      rw [List.filter_cons_of_pos (by simpa using fun heq : k = key => hkey heq.symm), List.map_cons,
        List.map_cons, List.sum_cons, List.sum_cons, ih hes h]
      omega

/-! ## Records that carry their key -/

section Keyed

variable {keyOf : α → κ} {records : List α}

/-- Changes that keep the keys are found under the same keys. -/
theorem find?_map_of_keeps {f : α → α} (keeps : ∀ a, keyOf (f a) = keyOf a) :
    (records.map f).find? (fun a => keyOf a = k) = (records.find? fun a => keyOf a = k).map f := by
  rw [List.find?_map]
  congr 2
  funext a
  exact congrArg (fun i => decide (i = k)) (keeps a)

/-- After a removal, nothing is found under the key, and every other key is left alone. -/
theorem find?_filter_ne :
    (records.filter fun a => keyOf a ≠ key).find? (fun a => keyOf a = k)
      = if k = key then none else records.find? fun a => keyOf a = k := by
  rw [List.find?_filter]
  split
  · rename_i he
    subst he
    simp
  · rename_i hne
    congr 1
    funext a
    by_cases ha : keyOf a = k <;> simp [ha, hne]

/-- If no key comes twice, every record is found. -/
theorem find?_of_nodup (hkeys : (records.map keyOf).Nodup) (h : a ∈ records) :
    records.find? (fun b => keyOf b = keyOf a) = some a := by
  induction records with
  | nil => cases h
  | cons b bs ih =>
    rw [List.map_cons, List.nodup_cons] at hkeys
    rcases List.mem_cons.mp h with rfl | hmem
    · simp
    · have hne : keyOf b ≠ keyOf a := fun he => hkeys.1 (he ▸ List.mem_map_of_mem hmem)
      rw [List.find?_cons_of_neg (by simpa using hne)]
      exact ih hkeys.2 hmem

end Keyed

/-! ## An entry in its place -/

section Placed

variable {p : α → Prop} [DecidablePred p]

/-- The list with an entry in the place of those that it replaces, or at the end. -/
def placed (p : α → Prop) [DecidablePred p] (a : α) (l : List α) : List α :=
  if l.any fun b => p b then l.map fun b => if p b then a else b else l ++ [a]

theorem mem_placed (l : List α) : a ∈ placed p a l := by
  unfold placed
  split
  · rename_i hany
    obtain ⟨b, hb, hp⟩ := List.any_eq_true.mp hany
    exact List.mem_map.mpr ⟨b, hb, if_pos (of_decide_eq_true hp)⟩
  · exact List.mem_append_right _ List.mem_cons_self

/-- Whatever the entry replaces is the entry itself once it is in its place. -/
theorem eq_of_mem_placed {l : List α} (h : b ∈ placed p a l) (hb : p b) : b = a := by
  unfold placed at h
  split at h
  · obtain ⟨c, -, rfl⟩ := List.mem_map.mp h
    by_cases hc : p c
    · exact if_pos hc
    · rw [if_neg hc] at hb
      exact absurd hb hc
  · rename_i hnone
    rcases List.mem_append.mp h with hmem | hmem
    · exact absurd (List.any_eq_true.mpr ⟨b, hmem, decide_eq_true hb⟩) hnone
    · exact List.mem_singleton.mp hmem

/-- What is placed twice is placed once. -/
theorem placed_placed (h : p a) (l : List α) : placed p a (placed p a l) = placed p a l := by
  have hany : (placed p a l).any (fun b => p b) = true :=
    List.any_eq_true.mpr ⟨a, mem_placed l, decide_eq_true h⟩
  conv_lhs => rw [placed]
  rw [if_pos hany]
  refine (List.map_congr_left fun b hb => ?_).trans (List.map_id _)
  split
  · rename_i hp
    exact (eq_of_mem_placed hb hp).symm
  · rfl

end Placed

end FlightRelay

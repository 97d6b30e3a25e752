import FlightRelay.Pool.Ids
import Mathlib.Data.List.Induction
import Mathlib.Order.Bounds.Basic

/-!
# Least free numbers

Numbers in use are kept in ascending order.  A number that is taken was free, all smaller ones were in
use, and so it is at most one more than the count of those in use.  However numbers are taken and given
back, none is ever greater than the count of those that were in use at the same time.
-/

namespace FlightRelay.Pool

/-! ## Gaps -/

section Gaps

variable {c n : Nat} {ns : List Nat}

/-- The first gap is not before the start. -/
theorem le_firstGap (c : Nat) (ns : List Nat) : c ≤ firstGap c ns := by
  induction ns generalizing c with
  | nil => exact Nat.le_refl c
  | cons m ns ih =>
    rw [firstGap]
    split
    · have hrest := ih (c + 1)
      omega
    · exact Nat.le_refl c

/-- The first gap is at most one past the numbers. -/
theorem firstGap_le (c : Nat) (ns : List Nat) : firstGap c ns ≤ c + ns.length := by
  induction ns generalizing c with
  | nil => exact Nat.le_refl c
  | cons m ns ih =>
    rw [firstGap, List.length_cons]
    split
    · have hrest := ih (c + 1)
      omega
    · omega

/-- All numbers below the gap are there. -/
theorem mem_of_lt_firstGap (hc : c ≤ n) (hn : n < firstGap c ns) : n ∈ ns := by
  induction ns generalizing c with
  | nil =>
    rw [firstGap] at hn
    omega
  | cons m ns ih =>
    rw [firstGap] at hn
    split at hn
    · rename_i he
      rcases Nat.eq_or_lt_of_le hc with rfl | hlt
      · rw [he]
        exact List.mem_cons_self
      · exact List.mem_cons_of_mem _ (ih hlt hn)
    · omega

/-- The gap is not there. -/
theorem firstGap_not_mem (hns : ns.Pairwise (· < ·)) (hc : ∀ m ∈ ns, c ≤ m) : firstGap c ns ∉ ns := by
  induction ns generalizing c with
  | nil => exact List.not_mem_nil
  | cons m ns ih =>
    obtain ⟨hm, hns⟩ := List.pairwise_cons.mp hns
    rw [firstGap]
    split
    · rename_i he
      subst he
      have hle := le_firstGap (m + 1) ns
      intro hmem
      rcases List.mem_cons.mp hmem with heq | hrest
      · omega
      · exact ih hns hm hrest
    · rename_i hne
      have hle := hc m List.mem_cons_self
      intro hmem
      rcases List.mem_cons.mp hmem with heq | hrest
      · exact hne heq.symm
      · have hlt := hm c hrest
        omega

end Gaps

namespace Ids

/-! ## Insertion -/

section Insertion

variable {m n : Nat} {ns : List Nat}

theorem mem_insertAscending : m ∈ insertAscending n ns ↔ m = n ∨ m ∈ ns := by
  induction ns with
  | nil => simp [insertAscending]
  | cons k ns ih =>
    rw [insertAscending]
    split
    · exact List.mem_cons
    · split
      · rename_i he
        simp [he]
      · rw [List.mem_cons, ih, List.mem_cons]
        exact or_left_comm

theorem insertAscending_perm (h : n ∉ ns) : (insertAscending n ns).Perm (n :: ns) := by
  induction ns with
  | nil => exact .refl _
  | cons m ns ih =>
    rw [insertAscending]
    split
    · exact .refl _
    · split
      · rename_i he
        rw [he] at h
        exact absurd List.mem_cons_self h
      · have hns : n ∉ ns := fun hmem => h (List.mem_cons_of_mem _ hmem)
        exact ((ih hns).cons m).trans (.swap n m ns)

theorem insertAscending_ascends (h : ns.Pairwise (· < ·)) :
    (insertAscending n ns).Pairwise (· < ·) := by
  induction ns with
  | nil => exact List.pairwise_singleton _ n
  | cons m ns ih =>
    obtain ⟨hm, hns⟩ := List.pairwise_cons.mp h
    rw [insertAscending]
    split
    · rename_i hlt
      refine List.pairwise_cons.mpr ⟨?_, h⟩
      intro k hk
      rcases List.mem_cons.mp hk with rfl | hk
      · exact hlt
      · have hmk := hm k hk
        omega
    · split
      · exact h
      · refine List.pairwise_cons.mpr ⟨?_, ih hns⟩
        intro k hk
        rcases mem_insertAscending.mp hk with rfl | hk
        · omega
        · exact hm k hk

end Insertion

/-! ## Numbers in use -/

/-- The numbers in use ascend, and none of them is zero. -/
structure Ordered (s : Ids) : Prop where
  ascending : s.inUse.Pairwise (· < ·)
  positive : ∀ n ∈ s.inUse, 0 < n

variable {s : Ids} {n : Nat}

/-- In order, the first free number is the first gap. -/
theorem leastFree_eq (h : s.Ordered) : s.leastFree = firstGap 1 s.inUse := by
  have hall : s.inUse.filter (fun n => decide (0 < n)) = s.inUse := by
    apply List.filter_eq_self.mpr
    intro n hn
    exact decide_eq_true (h.positive n hn)
  rw [leastFree, hall]

/-- Zero is never handed out. -/
theorem leastFree_pos (s : Ids) : 0 < s.leastFree := le_firstGap 1 _

/-- The number handed out is free. -/
theorem leastFree_not_mem (h : s.inUse.Pairwise (· < ·)) : s.leastFree ∉ s.inUse := by
  have hfree : s.leastFree ∉ s.inUse.filter (0 < ·) := by
    refine firstGap_not_mem (h.sublist List.filter_sublist) fun m hm => ?_
    exact of_decide_eq_true (List.mem_filter.mp hm).2
  exact fun hmem => hfree (List.mem_filter.mpr ⟨hmem, decide_eq_true (leastFree_pos s)⟩)

/-- All smaller numbers are in use. -/
theorem mem_of_lt_leastFree (hpos : 0 < n) (hn : n < s.leastFree) : n ∈ s.inUse :=
  (List.mem_filter.mp (mem_of_lt_firstGap hpos hn)).1

/-- The least positive number that is not in use is found, whether or not zero is. -/
theorem isLeast_leastFree (h : s.inUse.Pairwise (· < ·)) :
    IsLeast {n | 0 < n ∧ n ∉ s.inUse} s.leastFree := by
  refine ⟨⟨leastFree_pos s, leastFree_not_mem h⟩, ?_⟩
  rintro n ⟨hpos, hfree⟩
  by_contra hlt
  exact hfree (mem_of_lt_leastFree hpos (Nat.lt_of_not_le hlt))

/-- The number handed out is at most one more than those in use. -/
theorem leastFree_le (h : s.Ordered) : s.leastFree ≤ s.size + 1 := by
  rw [leastFree_eq h, Nat.add_comm]
  exact firstGap_le 1 s.inUse

theorem Ordered.nodup (h : s.Ordered) : s.inUse.Nodup := h.ascending.imp Nat.ne_of_lt

theorem ordered_empty : empty.Ordered := ⟨.nil, fun _ hn => absurd hn List.not_mem_nil⟩

/-- Taking a number adds it to those in use. -/
theorem acquire_perm (h : s.Ordered) : s.acquire.2.inUse.Perm (s.leastFree :: s.inUse) :=
  insertAscending_perm (leastFree_not_mem h.ascending)

theorem ordered_acquire (h : s.Ordered) : s.acquire.2.Ordered where
  ascending := insertAscending_ascends h.ascending
  positive n hn := by
    rcases mem_insertAscending.mp hn with rfl | hn
    · exact leastFree_pos s
    · exact h.positive n hn

theorem ordered_release (h : s.Ordered) : (s.release n).2.Ordered where
  ascending := h.ascending.sublist List.erase_sublist
  positive m hm := h.positive m (List.mem_of_mem_erase hm)

/-! ## Numbers of a list -/

theorem mem_insertEach (ns : List Nat) : n ∈ (ns.foldl insert s).inUse ↔ n ∈ ns ∨ n ∈ s.inUse := by
  induction ns generalizing s with
  | nil => simp
  | cons m ns ih =>
    rw [List.foldl_cons, ih, List.mem_cons, or_comm (a := n = m), or_assoc]
    exact or_congr_right mem_insertAscending

theorem insertEach_ascends (ns : List Nat) (h : s.inUse.Pairwise (· < ·)) :
    (ns.foldl insert s).inUse.Pairwise (· < ·) := by
  induction ns generalizing s with
  | nil => exact h
  | cons m ns ih => exact ih (insertAscending_ascends h)

theorem mem_ofList {ns : List Nat} : n ∈ (ofList ns).inUse ↔ n ∈ ns := by
  rw [ofList, mem_insertEach]
  exact or_iff_left List.not_mem_nil

/-- Whatever numbers are in use, the one handed out is the least of the free ones. -/
theorem isLeast_leastFree_ofList (ns : List Nat) : IsLeast {n | 0 < n ∧ n ∉ ns} (ofList ns).leastFree := by
  have hleast := isLeast_leastFree (insertEach_ascends ns (s := empty) .nil)
  exact (Set.ext fun n => and_congr_right' (not_congr mem_ofList)) ▸ hleast

/-! ## Numbers over time -/

/-- What is asked of the numbers. -/
inductive Call where
  | acquire
  | release (n : Nat)

/-- The numbers in use, and what became of all numbers up to now. -/
structure Roster where
  ids : Ids
  /-- The numbers that were handed out, oldest first. -/
  taken : List Nat
  /-- The numbers that were given back while they were in use, oldest first. -/
  returned : List Nat
  /-- The greatest count of numbers that were in use at the same time. -/
  peak : Nat

namespace Roster

/-- No number was handed out yet. -/
def start : Roster := ⟨.empty, [], [], 0⟩

/-- A number is handed out. -/
def acquire (r : Roster) : Roster :=
  let (n, ids) := r.ids.acquire
  ⟨ids, r.taken ++ [n], r.returned, max r.peak ids.size⟩

/-- Somebody gives a number back; it may not be in use. -/
def release (r : Roster) (n : Nat) : Roster :=
  let (wasTaken, ids) := r.ids.release n
  ⟨ids, r.taken, if wasTaken then r.returned ++ [n] else r.returned, max r.peak ids.size⟩

/-- The roster after a call. -/
def call (r : Roster) : Call → Roster
  | .acquire => r.acquire
  | .release n => r.release n

/-- The roster after calls, in turn. -/
def after (calls : List Call) : Roster := calls.foldl call start

/-- What is kept: the numbers that were handed out are in use or were given back, and none of them exceeds
the peak. -/
structure Balanced (r : Roster) : Prop where
  ordered : r.ids.Ordered
  balance : (r.ids.inUse ++ r.returned).Perm r.taken
  size_le : r.ids.size ≤ r.peak
  taken_le : ∀ n ∈ r.taken, n ≤ r.peak

variable {r : Roster}

theorem balanced_start : start.Balanced :=
  ⟨ordered_empty, .nil, Nat.le_refl 0, fun _ hn => absurd hn List.not_mem_nil⟩

/-- A number that is handed out counts among those in use from then on, and is at most their count. -/
theorem Balanced.leastFree_le_peak (h : r.Balanced) : r.ids.leastFree ≤ r.acquire.peak := by
  have hsize : r.ids.acquire.2.size = r.ids.size + 1 := (acquire_perm h.ordered).length_eq
  have hle : r.ids.leastFree ≤ r.ids.acquire.2.size := hsize ▸ leastFree_le h.ordered
  exact hle.trans (Nat.le_max_right _ _)

/-- A number that is acquired is held. -/
theorem Balanced.acquire (h : r.Balanced) : r.acquire.Balanced where
  ordered := ordered_acquire h.ordered
  balance := by
    have hinUse := (acquire_perm h.ordered).append_right r.returned
    exact (hinUse.trans (h.balance.cons _)).trans (List.perm_append_singleton _ _).symm
  size_le := Nat.le_max_right _ _
  taken_le n hn := by
    rcases List.mem_append.mp hn with hold | hnew
    · exact (h.taken_le n hold).trans (Nat.le_max_left _ _)
    · rw [List.mem_singleton.mp hnew]
      exact h.leastFree_le_peak

/-- A number that is released is held no more. -/
theorem Balanced.release (h : r.Balanced) (n : Nat) : (r.release n).Balanced where
  ordered := ordered_release h.ordered
  balance := by
    show (r.ids.inUse.erase n ++ if r.ids.inUse.contains n then r.returned ++ [n] else r.returned).Perm _
    refine List.Perm.trans ?_ h.balance
    split
    · rename_i hmem
      have hinUse := List.perm_cons_erase (List.contains_iff_mem.mp hmem)
      rw [← List.append_assoc]
      exact (List.perm_append_singleton _ _).trans (hinUse.symm.append_right r.returned)
    · rename_i hmem
      rw [List.erase_of_not_mem fun hn => hmem (List.contains_iff_mem.mpr hn)]
  size_le := Nat.le_max_right _ _
  taken_le m hm := (h.taken_le m hm).trans (Nat.le_max_left _ _)

/-- After every history, the numbers in use are those held. -/
theorem balanced_after (calls : List Call) : (after calls).Balanced := by
  induction calls using List.reverseRecOn with
  | nil => exact balanced_start
  | append_singleton calls c ih =>
    rw [after, List.foldl_append]
    cases c with
    | acquire => exact ih.acquire
    | release n => exact ih.release n

/-- What holds at any time of the numbers in use and of those that were handed out. -/
structure Economical (r : Roster) : Prop where
  distinct : r.ids.inUse.Nodup
  /-- What was handed out is in use, unless it was given back. -/
  balance : (r.ids.inUse ++ r.returned).Perm r.taken
  count : r.ids.size + r.returned.length = r.taken.length
  /-- The next number to be handed out is not in use, and all smaller ones are. -/
  next : IsLeast {n | 0 < n ∧ n ∉ r.ids.inUse} r.ids.acquire.1
  /-- It does not exceed the peak that comes with it, -/
  next_le : r.ids.acquire.1 ≤ r.acquire.peak
  /-- and none before it did. -/
  taken_le : ∀ n ∈ r.taken, n ≤ r.peak

/-- No number passes the most that were ever held at once. -/
theorem Balanced.economical (h : r.Balanced) : r.Economical where
  distinct := h.ordered.nodup
  balance := h.balance
  count := List.length_append.symm.trans h.balance.length_eq
  next := isLeast_leastFree h.ordered.ascending
  next_le := h.leastFree_le_peak
  taken_le := h.taken_le

/-- Of any numbers the least positive one is found that is not among them; and so, in whatever order
numbers are taken and given back, they stay as small as the count of those that are in use together. -/
theorem numbers_stay_small :
    (∀ ns : List Nat, IsLeast {n | 0 < n ∧ n ∉ ns} (ofList ns).leastFree) ∧
      ∀ calls : List Call, (after calls).Economical :=
  ⟨isLeast_leastFree_ofList, fun calls => (balanced_after calls).economical⟩

end Roster

end Ids

end FlightRelay.Pool

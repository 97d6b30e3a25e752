import FlightRelay.Pool.Heap
import Mathlib.Data.List.Perm.Basic

/-!
# Heaps in order

A heap is changed by way of a place that is free: an entry rises from there past those that are smaller, and
when the top is taken, the free place sinks to the bottom.  On the way everything is in order around the free
place.  So a heap gives back what was put in, each time a greatest entry.
-/

namespace FlightRelay.Pool.Heap

variable {α : Type} {entries : Array α} {h : Heap α} {u v w top last : α} {i p hole place fuel : Nat}

/-! ## Places -/

/-- Place `i` is right below place `p`. -/
def Under (i p : Nat) : Prop := 0 < i ∧ (i - 1) / 2 = p

/-- What lies under a place comes after it. -/
theorem Under.lt (h : Under i p) : p < i := by
  unfold Under at h
  omega

/-- Two places lie under each. -/
theorem under_iff : Under i p ↔ i = 2 * p + 1 ∨ i = 2 * p + 2 := by
  unfold Under
  omega

/-- Every place but the first lies under one. -/
theorem under_parent (h : 0 < i) : Under i ((i - 1) / 2) := ⟨h, rfl⟩

theorem not_under_zero : ¬ Under 0 p := fun h => Nat.lt_irrefl 0 h.1

/-- What holds of the two entries below a place, if they are there, holds of all that is below it. -/
theorem forall_under {P : α → Prop} {left right : Option α} (hleft : entries[2 * p + 1]? = left)
    (hright : entries[2 * p + 2]? = right) (hl : ∀ v ∈ left, P v) (hr : ∀ v ∈ right, P v) :
    ∀ ⦃i v⦄, Under i p → entries[i]? = some v → P v := by
  intro i v hi hv
  rcases under_iff.mp hi with rfl | rfl
  · exact hl v (hleft.symm.trans hv)
  · exact hr v (hright.symm.trans hv)

/-! ## Entries that move -/

/-- All entries but the one at a place. -/
def besides (entries : Array α) (hole : Nat) : List α := entries.toList.eraseIdx hole

/-- What is found once a place was filled: what was put there, or what was there before. -/
theorem getElem?_filled (h : (entries.setIfInBounds hole u)[i]? = some v) :
    (i = hole ∧ v = u) ∨ (i ≠ hole ∧ entries[i]? = some v) := by
  rw [Array.getElem?_setIfInBounds] at h
  split at h
  · rename_i heq
    split at h
    · exact .inl ⟨heq.symm, (Option.some_inj.mp h).symm⟩
    · cases h
  · rename_i hne
    exact .inr ⟨Ne.symm hne, h⟩

/-- An element in the hole joins those around it. -/
theorem perm_fill (hhole : hole < entries.size) :
    (entries.setIfInBounds hole u).toList.Perm (u :: besides entries hole) := by
  rw [Array.toList_setIfInBounds]
  exact List.set_perm_cons_eraseIdx hhole u

/-- An entry that moves into the hole leaves one behind, and nothing else moves. -/
theorem besides_move (hhole : hole < entries.size) (hne : p ≠ hole) (hp : entries[p]? = some u) :
    (besides (entries.setIfInBounds hole u) p).Perm (besides entries hole) := by
  obtain ⟨hlt, hget⟩ := Array.getElem?_eq_some_iff.mp hp
  have hmoved : p < (entries.setIfInBounds hole u).toList.length := by
    rw [Array.length_toList, Array.size_setIfInBounds]
    exact hlt
  have hsame : (entries.setIfInBounds hole u).toList[p] = u := by
    simp only [Array.toList_setIfInBounds, List.getElem_set_ne (Ne.symm hne), Array.getElem_toList, hget]
  have hall := List.getElem_cons_eraseIdx_perm hmoved
  rw [hsame] at hall
  exact (hall.trans (perm_fill hhole)).cons_inv

theorem peek?_of_empty (hempty : h.entries = #[]) : h.peek? = none := by
  rw [peek?, hempty]
  rfl

/-! ## Entries in order -/

variable [Ord α]

/-- An entry gives way to another one that is as great or greater. -/
def Yields (v w : α) : Prop := (compare v w).isLE

/-- Every entry yields to the one above it. -/
def Ordered (entries : Array α) : Prop :=
  ∀ ⦃i p v w⦄, Under i p → entries[i]? = some v → entries[p]? = some w → Yields v w

/-- Everything is in order if the entry at one place is left out. -/
structure OrderedAround (entries : Array α) (hole : Nat) : Prop where
  apart : ∀ ⦃i p v w⦄, Under i p → i ≠ hole → p ≠ hole →
    entries[i]? = some v → entries[p]? = some w → Yields v w
  /-- What is below the hole yields to what is above it. -/
  across : ∀ ⦃i p v w⦄, Under i hole → Under hole p →
    entries[i]? = some v → entries[p]? = some w → Yields v w

/-- The hole is filled with what fits there. -/
theorem OrderedAround.fill (h : OrderedAround entries hole)
    (above : ∀ ⦃p w⦄, Under hole p → entries[p]? = some w → Yields u w)
    (below : ∀ ⦃i v⦄, Under i hole → entries[i]? = some v → Yields v u) :
    Ordered (entries.setIfInBounds hole u) := by
  intro i p v w hunder hv hw
  have hlt := hunder.lt
  rcases getElem?_filled hv with ⟨rfl, rfl⟩ | ⟨hi, hold⟩
  · rcases getElem?_filled hw with ⟨rfl, -⟩ | ⟨-, hwold⟩
    · exact absurd hlt (Nat.lt_irrefl _)
    · exact above hunder hwold
  · rcases getElem?_filled hw with ⟨rfl, rfl⟩ | ⟨hp, hwold⟩
    · exact below hunder hold
    · exact h.apart hunder hi hp hold hwold

/-- The greatest entry below the hole moves up, and the hole is there now. -/
theorem OrderedAround.lift (h : OrderedAround entries hole) (hp : Under p hole) (hu : entries[p]? = some u)
    (most : ∀ ⦃i v⦄, Under i hole → entries[i]? = some v → Yields v u) :
    OrderedAround (entries.setIfInBounds hole u) p where
  apart i q v w hunder hi hq hv hw := by
    rcases getElem?_filled hv with ⟨rfl, rfl⟩ | ⟨hihole, hvold⟩
    · rcases getElem?_filled hw with ⟨rfl, -⟩ | ⟨-, hwold⟩
      · exact absurd hunder.lt (Nat.lt_irrefl _)
      · exact h.across hp hunder hu hwold
    · rcases getElem?_filled hw with ⟨rfl, rfl⟩ | ⟨hqhole, hwold⟩
      · exact most hunder hvold
      · exact h.apart hunder hihole hqhole hvold hwold
  across i q v w hunder hq hv hw := by
    have hphole : p ≠ hole := Nat.ne_of_gt hp.lt
    have hqhole : q = hole := hq.2.symm.trans hp.2
    rcases getElem?_filled hv with ⟨rfl, -⟩ | ⟨hihole, hvold⟩
    · exact absurd (Nat.lt_trans hp.lt hunder.lt) (Nat.lt_irrefl _)
    · rcases getElem?_filled hw with ⟨-, rfl⟩ | ⟨hne, -⟩
      · exact h.apart hunder hihole hphole hvold hu
      · exact absurd hqhole hne

/-- Rising puts the element in and moves the others. -/
theorem perm_rise (hplace : place < entries.size) :
    (rise w fuel place entries).toList.Perm (w :: besides entries place) := by
  induction fuel generalizing place entries with
  | zero => exact perm_fill hplace
  | succ fuel ih =>
    rw [rise]
    split
    · exact perm_fill hplace
    · rename_i hpos
      have hlt : (place - 1) / 2 < place := (under_parent (Nat.pos_of_ne_zero hpos)).lt
      split
      · rename_i above habove
        split
        · exact perm_fill hplace
        · have hrest := besides_move hplace (Nat.ne_of_lt hlt) habove
          refine (ih ?_).trans (hrest.cons w)
          rw [Array.size_setIfInBounds]
          exact Nat.lt_trans hlt hplace
      · exact perm_fill hplace

/-- A push adds the element. -/
theorem perm_push (h : Heap α) (w : α) : (h.push w).entries.toList.Perm (w :: h.entries.toList) := by
  have hplace : h.size < (h.entries.push w).size := Array.size_push w ▸ Nat.lt_succ_self _
  have hbesides : besides (h.entries.push w) h.size = h.entries.toList := by
    rw [besides, Array.toList_push, size, ← Array.length_toList, List.eraseIdx_append_of_length_le (Nat.le_refl _),
      Nat.sub_self]
    exact List.append_nil _
  exact hbesides ▸ perm_rise hplace

theorem ordered_empty : Ordered (empty : Heap α).entries := fun _ _ _ _ _ hv _ => nomatch hv

/-- Where a hole has sunk to, and what became of the entries. -/
structure Sunk (entries : Array α) (hole : Nat) (sunk : Nat × Array α) : Prop where
  inside : sunk.1 < sunk.2.size
  around : OrderedAround sunk.2 sunk.1
  /-- Nothing is below the hole any more. -/
  bottom : ∀ ⦃i v⦄, Under i sunk.1 → sunk.2[i]? ≠ some v
  besides : (Heap.besides sunk.2 sunk.1).Perm (Heap.besides entries hole)

/-- The greatest entry below the hole moves up, and the hole sinks on from there. -/
theorem OrderedAround.sunk_lift {sunk : Nat × Array α} (h : OrderedAround entries hole) (hp : Under p hole)
    (hu : entries[p]? = some u) (most : ∀ ⦃i v⦄, Under i hole → entries[i]? = some v → Yields v u)
    (hrest : p < (entries.setIfInBounds hole u).size → OrderedAround (entries.setIfInBounds hole u) p →
      Sunk (entries.setIfInBounds hole u) p sunk) : Sunk entries hole sunk := by
  have hsize : p < entries.size := (Array.getElem?_eq_some_iff.mp hu).1
  have hmoved := besides_move (Nat.lt_trans hp.lt hsize) (Nat.ne_of_gt hp.lt) hu
  have hinside : p < (entries.setIfInBounds hole u).size := by
    rw [Array.size_setIfInBounds]
    exact hsize
  obtain ⟨hsunk, haround, hbottom, hbesides⟩ := hrest hinside (h.lift hp hu most)
  exact ⟨hsunk, haround, hbottom, hbesides.trans hmoved⟩

/-- What remains when the entry on top is taken. -/
structure Popped (h : Heap α) (top : α) (rest : Heap α) : Prop where
  ordered : Ordered rest.entries
  perm : h.entries.toList.Perm (top :: rest.entries.toList)
  peek : h.peek? = some top

/-- Nothing is popped from an empty heap. -/
theorem pop?_of_empty (hempty : h.entries = #[]) : h.pop? = none := by
  rw [pop?, hempty]
  rfl

/-- A pop fills the first place from the last, by sinking the hole and rising from where it ends. -/
theorem pop?_push {others : Array α} (hothers : 0 < others.size) :
    (⟨others.push last⟩ : Heap α).pop? = some (others[0],
      ⟨rise last (sink others.size 0 others).1 (sink others.size 0 others).1 (sink others.size 0 others).2⟩) := by
  have hempty : ¬ others.isEmpty = true := fun h => by
    rw [Array.isEmpty_iff.mp h] at hothers
    exact Nat.lt_irrefl 0 hothers
  unfold pop? peek?
  rw [Array.back?_push, Array.getElem?_push_lt hothers]
  dsimp only
  rw [Array.pop_push, if_neg hempty]

section Order

variable [Std.TransOrd α]

theorem Yields.refl (v : α) : Yields v v := Std.ReflCmp.isLE_rfl

theorem Yields.trans (hvw : Yields v w) (hwu : Yields w u) : Yields v u := Std.TransCmp.isLE_trans hvw hwu

/-- Who does not yield is the greater one. -/
theorem Yields.of_not (h : ¬ (compare v w).isLE) : Yields w v := by
  unfold Yields
  rw [Std.OrientedOrd.eq_swap (a := w)]
  revert h
  cases compare v w <;> decide

/-- Nothing is greater than what is on top. -/
theorem Ordered.yields_top (h : Ordered entries) (htop : entries[0]? = some top) (hv : v ∈ entries) :
    Yields v top := by
  obtain ⟨i, hi, rfl⟩ := Array.mem_iff_getElem.mp hv
  induction i using Nat.strongRecOn with
  | ind i ih =>
    rcases Nat.eq_zero_or_pos i with rfl | hpos
    · obtain rfl : entries[0] = top := Option.some_inj.mp ((Array.getElem?_eq_getElem hi).symm.trans htop)
      exact .refl _
    · have hunder := under_parent hpos
      have hparent : (i - 1) / 2 < entries.size := Nat.lt_trans hunder.lt hi
      have hyields := h hunder (Array.getElem?_eq_getElem hi) (Array.getElem?_eq_getElem hparent)
      exact hyields.trans (ih _ hunder.lt hparent (Array.getElem_mem hparent))

/-- The entry above the hole moves down, and the hole is there now. -/
theorem OrderedAround.lower (h : OrderedAround entries hole) (hp : Under hole p) (hu : entries[p]? = some u) :
    OrderedAround (entries.setIfInBounds hole u) p where
  apart i q v w hunder hi hq hv hw := by
    rcases getElem?_filled hv with ⟨rfl, -⟩ | ⟨hihole, hvold⟩
    · exact absurd (hunder.2.symm.trans hp.2) hq
    · rcases getElem?_filled hw with ⟨rfl, rfl⟩ | ⟨hqhole, hwold⟩
      · exact h.across hunder hp hvold hu
      · exact h.apart hunder hihole hqhole hvold hwold
  across i q v w hunder hq hv hw := by
    have hphole : p ≠ hole := Nat.ne_of_lt hp.lt
    rcases getElem?_filled hw with ⟨rfl, -⟩ | ⟨hqhole, hwold⟩
    · exact absurd (Nat.lt_trans hq.lt hp.lt) (Nat.lt_irrefl _)
    · have huw : Yields u w := h.apart hq hphole hqhole hu hwold
      rcases getElem?_filled hv with ⟨-, rfl⟩ | ⟨hihole, hvold⟩
      · exact huw
      · exact (h.apart hunder hihole hphole hvold hu).trans huw

/-! ## Rising and sinking -/

/-- An entry that is not smaller than what is below the hole rises until everything is in order. -/
theorem ordered_rise (hfuel : place ≤ fuel) (h : OrderedAround entries place)
    (below : ∀ ⦃i v⦄, Under i place → entries[i]? = some v → Yields v w) :
    Ordered (rise w fuel place entries) := by
  induction fuel generalizing place entries with
  | zero =>
    obtain rfl := Nat.le_zero.mp hfuel
    exact h.fill (fun _ _ hunder => absurd hunder not_under_zero) below
  | succ fuel ih =>
    rw [rise]
    split
    · rename_i hzero
      subst hzero
      exact h.fill (fun _ _ hunder => absurd hunder not_under_zero) below
    · rename_i hpos
      have hunder : Under place ((place - 1) / 2) := under_parent (Nat.pos_of_ne_zero hpos)
      have hlt := hunder.lt
      split
      · rename_i above habove
        split
        · rename_i hyields
          refine h.fill (fun p v hp hv => ?_) below
          obtain rfl : (place - 1) / 2 = p := hp.2
          obtain rfl : above = v := Option.some_inj.mp (habove.symm.trans hv)
          exact hyields
        · rename_i hrises
          have habovew : Yields above w := .of_not hrises
          refine ih (by omega) (h.lower hunder habove) fun i v hi hv => ?_
          -- whatever is below the new hole yields to what was there
          rcases getElem?_filled hv with ⟨-, rfl⟩ | ⟨hne, hvold⟩
          · exact habovew
          · exact (h.apart hi hne (Nat.ne_of_lt hlt) hvold habove).trans habovew
      · rename_i hnone
        refine h.fill (fun p v hp hv => ?_) below
        rw [← hp.2, hnone] at hv
        cases hv

/-- The hole sinks to the bottom, and the order holds around it. -/
theorem sunk_sink (hfuel : entries.size ≤ place + fuel) (hplace : place < entries.size)
    (h : OrderedAround entries place) : Sunk entries place (sink fuel place entries) := by
  induction fuel generalizing place entries with
  | zero => exact absurd hplace (Nat.not_lt.mpr hfuel)
  | succ fuel ih =>
    have hleft : Under (2 * place + 1) place := under_iff.mpr (.inl rfl)
    have hright : Under (2 * place + 2) place := under_iff.mpr (.inr rfl)
    have hnext : ∀ {p u}, Under p place → (entries.setIfInBounds place u).size ≤ p + fuel := by
      intro p u hp
      have hlt := hp.lt
      rw [Array.size_setIfInBounds]
      omega
    rw [sink]
    split
    · rename_i left right hl hr
      split
      · rename_i hyields
        have hmost := forall_under (P := (Yields · right)) hl hr
          (fun _ hv => Option.mem_some.mp hv ▸ hyields) fun _ hv => Option.mem_some.mp hv ▸ .refl _
        exact h.sunk_lift hright hr hmost (ih (hnext hright))
      · rename_i hyields
        have hmost := forall_under (P := (Yields · left)) hl hr
          (fun _ hv => Option.mem_some.mp hv ▸ .refl _) fun _ hv => Option.mem_some.mp hv ▸ .of_not hyields
        exact h.sunk_lift hleft hl hmost (ih (hnext hleft))
    · rename_i left hl hr
      have hmost := forall_under (P := (Yields · left)) hl hr
        (fun _ hv => Option.mem_some.mp hv ▸ .refl _) fun _ hv => nomatch hv
      refine h.sunk_lift hleft hl hmost fun hinside haround => ⟨hinside, haround, fun i v hi hv => ?_, .refl _⟩
      -- the last entry has moved up, and it was the left one
      have hrsize : entries.size ≤ 2 * place + 2 := Array.getElem?_eq_none_iff.mp hr
      have hsize : i < (entries.setIfInBounds place left).size := (Array.getElem?_eq_some_iff.mp hv).1
      have hlt : 2 * place + 1 < i := hi.lt
      rw [Array.size_setIfInBounds] at hsize
      omega
    · rename_i hl
      have hlsize : entries.size ≤ 2 * place + 1 := Array.getElem?_eq_none_iff.mp hl
      refine ⟨hplace, h, fun i v hi hv => ?_, .refl _⟩
      have hsize : i < entries.size := (Array.getElem?_eq_some_iff.mp hv).1
      rcases under_iff.mp hi with hi | hi <;> omega

/-! ## Entries that are added and taken -/

/-- A push leaves the heap in order. -/
theorem ordered_push (hordered : Ordered h.entries) (w : α) : Ordered (h.push w).entries := by
  have hbefore : ∀ {i v}, i ≠ h.entries.size → (h.entries.push w)[i]? = some v → h.entries[i]? = some v := by
    intro i v hi hv
    rw [Array.getElem?_push, if_neg hi] at hv
    exact hv
  have hbeyond : ∀ {i v}, Under i h.entries.size → (h.entries.push w)[i]? ≠ some v := by
    intro i v hi hv
    have hlt := hi.lt
    have hsize := (Array.getElem?_eq_some_iff.mp (hbefore (Nat.ne_of_gt hlt) hv)).1
    exact Nat.lt_asymm hlt hsize
  refine ordered_rise (Nat.le_refl _) ⟨?_, ?_⟩ fun i v hi hv => absurd hv (hbeyond hi)
  · intro i p v u hunder hi hp hv hu
    exact hordered hunder (hbefore hi hv) (hbefore hp hu)
  · intro i p v u hi _ hv _
    exact absurd hv (hbeyond hi)

/-- If there is an entry, one is taken, and the others are in order again. -/
theorem exists_popped (hordered : Ordered h.entries) (hne : h.entries ≠ #[]) :
    ∃ top rest, h.pop? = some (top, rest) ∧ Popped h top rest := by
  obtain ⟨entries⟩ := h
  obtain ⟨last, hlast⟩ := Option.ne_none_iff_exists'.mp (mt Array.back?_eq_none_iff.mp hne)
  obtain ⟨others, rfl⟩ := Array.back?_eq_some_iff.mp hlast
  by_cases hothers : others = #[]
  · subst hothers
    exact ⟨last, ⟨#[]⟩, rfl, ordered_empty, .refl _, rfl⟩
  · have hpos : 0 < others.size := Array.size_pos_iff.mpr hothers
    have hthere : ∀ {i : Nat} {v : α}, others[i]? = some v → (others.push last)[i]? = some v := by
      intro i v hv
      obtain ⟨hi, rfl⟩ := Array.getElem?_eq_some_iff.mp hv
      exact Array.getElem?_push_lt hi
    have haround : OrderedAround others 0 :=
      ⟨fun i p v w hunder _ _ hv hw => hordered hunder (hthere hv) (hthere hw),
        fun _ _ _ _ _ hunder => absurd hunder not_under_zero⟩
    have sunk : Sunk others 0 (sink others.size 0 others) := sunk_sink (Nat.le_add_left _ _) hpos haround
    refine ⟨others[0], _, pop?_push hpos, ?_, ?_, Array.getElem?_push_lt hpos⟩
    · exact ordered_rise (Nat.le_refl _) sunk.around fun i v hi hv => absurd hv (sunk.bottom hi)
    · have hothers : (others[0] :: besides others 0).Perm others.toList :=
        List.getElem_cons_eraseIdx_perm (Array.length_toList ▸ hpos)
      have hall : (last :: besides (sink others.size 0 others).2 (sink others.size 0 others).1).Perm
          (last :: besides others 0) := sunk.besides.cons last
      rw [Array.toList_push]
      calc List.Perm (others.toList ++ [last]) (last :: others.toList) := List.perm_append_singleton ..
        List.Perm _ (last :: others[0] :: besides others 0) := hothers.symm.cons last
        List.Perm _ (others[0] :: last :: besides others 0) := .swap ..
        List.Perm _ _ := (hall.symm.trans (perm_rise sunk.inside).symm).cons _

/-- A pop takes the least and leaves the rest in order. -/
theorem popped_of_pop? {rest : Heap α} (hordered : Ordered h.entries) (hpop : h.pop? = some (top, rest)) :
    Popped h top rest := by
  have hne : h.entries ≠ #[] := by
    intro hempty
    rw [pop?_of_empty hempty] at hpop
    cases hpop
  obtain ⟨top', rest', hpop', popped⟩ := exists_popped hordered hne
  rw [hpop] at hpop'
  cases hpop'
  exact popped

/-- Something is popped unless the heap is empty. -/
theorem pop?_isSome_iff (hordered : Ordered h.entries) : h.pop?.isSome ↔ h.entries ≠ #[] := by
  constructor
  · intro hsome hempty
    rw [pop?_of_empty hempty] at hsome
    cases hsome
  · intro hne
    obtain ⟨top, rest, hpop, -⟩ := exists_popped hordered hne
    exact Option.isSome_iff_exists.mpr ⟨_, hpop⟩

/-- What is shown is what would be taken. -/
theorem peek?_eq_pop? (hordered : Ordered h.entries) : h.peek? = h.pop?.map Prod.fst := by
  by_cases hempty : h.entries = #[]
  · rw [peek?_of_empty hempty, pop?_of_empty hempty, Option.map_none]
  · obtain ⟨top, rest, hpop, popped⟩ := exists_popped hordered hempty
    rw [hpop, popped.peek, Option.map_some]

end Order

end FlightRelay.Pool.Heap

import FlightRelay.Proofs.Pool.Accounts
import FlightRelay.Proofs.Pool.Heap
import Mathlib.Data.List.Induction

/-!
# Lower numbers first

Tasks that wait stand in a heap by their submission numbers alone, the lower number on top.  While numbers
are distinct, a heap hands them out as a list does in which they stand in the order of their numbers: it is
the overflow queue of a pool.  When tasks were submitted decides nothing.
-/

namespace FlightRelay.Pool

variable {τ : Type} {v w : Waiting τ} {ws : List (Waiting τ)} {f : Waiting τ → Nat}

/-! ## Tasks by their numbers -/

namespace Waiting

instance : Std.TransOrd (Waiting τ) where
  eq_swap {v w} := Std.OrientedOrd.eq_swap (a := w.seq) (b := v.seq)
  isLE_trans {u v w} huv hvw := Std.TransOrd.isLE_trans (a := w.seq) (b := v.seq) (c := u.seq) hvw huv

/-- A task yields to those with no higher number. -/
theorem yields_iff : Heap.Yields v w ↔ w.seq ≤ v.seq := by
  show (compare w.seq v.seq).isLE ↔ _
  exact Std.isLE_compare

/-- The same task, submitted at another moment. -/
def retimed (f : Waiting τ → Nat) (w : Waiting τ) : Waiting τ := { w with since := f w }

end Waiting

namespace Overflow

theorem mem_insertBySeq : v ∈ insertBySeq w ws ↔ v = w ∨ v ∈ ws :=
  (insertBySeq_perm w ws).mem_iff.trans List.mem_cons

/-- A task with a new number is put where its number belongs. -/
theorem insertBySeq_ascends (h : ws.Pairwise fun u v => u.seq < v.seq) (hfresh : ∀ v ∈ ws, v.seq ≠ w.seq) :
    (insertBySeq w ws).Pairwise fun u v => u.seq < v.seq := by
  induction ws with
  | nil => exact List.pairwise_singleton ..
  | cons u ws ih =>
    obtain ⟨hu, hws⟩ := List.pairwise_cons.mp h
    rw [insertBySeq]
    split
    · rename_i hlt
      refine List.pairwise_cons.mpr ⟨fun v hv => ?_, h⟩
      rcases List.mem_cons.mp hv with rfl | hv
      · exact hlt
      · exact UInt64.lt_trans hlt (hu v hv)
    · rename_i hnot
      have hlt : u.seq < w.seq :=
        UInt64.lt_of_le_of_ne (UInt64.not_lt.mp hnot) (hfresh u List.mem_cons_self)
      refine List.pairwise_cons.mpr ⟨fun v hv => ?_, ih hws fun v hv => hfresh v (List.mem_cons_of_mem u hv)⟩
      rcases mem_insertBySeq.mp hv with rfl | hv
      · exact hlt
      · exact hu v hv

theorem pop?_of_nil {q : Overflow τ} (h : q.entries = []) : q.pop? = none := by
  rw [pop?, h]

theorem pop?_of_cons {q : Overflow τ} (h : q.entries = w :: ws) : q.pop? = some (w, ⟨ws⟩) := by
  rw [pop?, h]

/-- The place of a task does not depend on when it came. -/
theorem insertBySeq_retimed :
    insertBySeq (w.retimed f) (ws.map (Waiting.retimed f)) = (insertBySeq w ws).map (Waiting.retimed f) := by
  induction ws with
  | nil => rfl
  | cons u ws ih =>
    rw [List.map_cons, insertBySeq, insertBySeq]
    split
    · rename_i hlt
      rw [if_pos (show w.seq < u.seq from hlt)]
      rfl
    · rename_i hnot
      rw [if_neg (show ¬ w.seq < u.seq from hnot), ih]
      rfl

end Overflow

/-! ## One task at a time -/

/-- A heap and an overflow queue hold the same tasks, of distinct numbers. -/
structure Mirrors (h : Heap (Waiting τ)) (q : Overflow τ) : Prop where
  ordered : Heap.Ordered h.entries
  perm : h.entries.toList.Perm q.entries
  ascending : q.entries.Pairwise fun v w => v.seq < w.seq

section Mirrors

variable {h : Heap (Waiting τ)} {q : Overflow τ}

/-- Both are empty at first. -/
theorem mirrors_empty : Mirrors (.empty : Heap (Waiting τ)) .empty := ⟨Heap.ordered_empty, .refl _, .nil⟩

/-- A task that is pushed on both is on both. -/
theorem Mirrors.push (m : Mirrors h q) (hfresh : ∀ v ∈ q.entries, v.seq ≠ w.seq) :
    Mirrors (h.push w) (q.push w) where
  ordered := Heap.ordered_push m.ordered w
  perm := (Heap.perm_push h w).trans ((m.perm.cons w).trans (Overflow.insertBySeq_perm w q.entries).symm)
  ascending := Overflow.insertBySeq_ascends m.ascending hfresh

/-- Both give the task with the lowest number and stay alike, or neither has a task to give. -/
inductive Gives (h : Heap (Waiting τ)) (q : Overflow τ) : Prop where
  | nothing : h.entries = #[] → q.entries = [] → Gives h q
  | task (w : Waiting τ) (rest : Heap (Waiting τ)) (others : List (Waiting τ)) :
    h.pop? = some (w, rest) → q.entries = w :: others → Mirrors rest ⟨others⟩ → Gives h q

/-- What the heap pops is the first of the list. -/
theorem Mirrors.gives (m : Mirrors h q) : Gives h q := by
  cases hentries : q.entries with
  | nil =>
    exact .nothing (Array.toList_eq_nil_iff.mp (m.perm.trans (.of_eq hentries)).eq_nil) hentries
  | cons w others =>
    have hperm : h.entries.toList.Perm (w :: others) := m.perm.trans (.of_eq hentries)
    have hne : h.entries ≠ #[] := fun hempty => by
      rw [hempty] at hperm
      exact List.cons_ne_nil w others hperm.symm.eq_nil
    obtain ⟨top, rest, hpop, popped⟩ := Heap.exists_popped m.ordered hne
    obtain ⟨hlowest, hothers⟩ := List.pairwise_cons.mp (hentries ▸ m.ascending)
    have hw : w ∈ h.entries := Array.mem_toList_iff.mp (hperm.mem_iff.mpr List.mem_cons_self)
    have hle : top.seq ≤ w.seq := Waiting.yields_iff.mp (m.ordered.yields_top popped.peek hw)
    -- the lowest number is the first one of the queue, so what is on top is the first task
    obtain rfl : top = w := by
      rcases List.mem_cons.mp ((popped.perm.symm.trans hperm).mem_iff.mp List.mem_cons_self) with heq | hmem
      · exact heq
      · exact absurd (hlowest top hmem) (UInt64.not_lt.mpr hle)
    exact .task top rest others hpop hentries
      ⟨popped.ordered, (popped.perm.symm.trans hperm).cons_inv, hothers⟩

/-- What the heap shows is the first of the list. -/
theorem Mirrors.peek?_eq (m : Mirrors h q) : h.peek? = q.peek? := by
  rw [Overflow.peek?]
  cases m.gives with
  | nothing hempty hentries => rw [Heap.peek?_of_empty hempty, hentries, List.head?_nil]
  | task w rest others hpop hentries =>
    rw [(Heap.popped_of_pop? m.ordered hpop).peek, hentries, List.head?_cons]

/-- The task that is handed out has the lowest number. -/
theorem Mirrors.lowest {rest : Heap (Waiting τ)} (m : Mirrors h q) (hpop : h.pop? = some (w, rest)) :
    w ∈ h.entries ∧ ∀ v ∈ h.entries, v = w ∨ w.seq < v.seq := by
  have hmem : ∀ {v}, v ∈ h.entries ↔ v ∈ q.entries := Array.mem_toList_iff.symm.trans m.perm.mem_iff
  cases m.gives with
  | nothing hempty =>
    rw [Heap.pop?_of_empty hempty] at hpop
    cases hpop
  | task w' rest' others hpop' hentries =>
    rw [hpop] at hpop'
    cases hpop'
    rw [hentries] at hmem
    obtain ⟨hlowest, -⟩ := List.pairwise_cons.mp (hentries ▸ m.ascending)
    refine ⟨hmem.mpr List.mem_cons_self, fun v hv => ?_⟩
    exact (List.mem_cons.mp (hmem.mp hv)).imp_right (hlowest v)

end Mirrors

/-! ## Task after task -/

/-- What is done with tasks that wait. -/
inductive Handling (τ : Type) where
  | push (w : Waiting τ)
  | pop

namespace Handling

/-- The task that is put in. -/
def pushed? : Handling τ → Option (Waiting τ)
  | .push w => some w
  | .pop => none

/-- The same with a task that was submitted at another moment. -/
def retimed (f : Waiting τ → Nat) : Handling τ → Handling τ
  | .push w => .push (w.retimed f)
  | .pop => .pop

end Handling

/-- What holds tasks, and the tasks that it has handed out, oldest first. -/
structure Served (σ τ : Type) where
  holder : σ
  handedOut : List (Waiting τ)

/-- One task is put in, or one is taken if there is any. -/
def Served.step {σ : Type} (push : σ → Waiting τ → σ) (pop? : σ → Option (Waiting τ × σ)) (s : Served σ τ) :
    Handling τ → Served σ τ
  | .push w => { s with holder := push s.holder w }
  | .pop =>
    match pop? s.holder with
    | some (w, rest) => ⟨rest, s.handedOut ++ [w]⟩
    | none => s

/-- An overflow queue whose tasks were submitted at other moments. -/
def Served.retimed (f : Waiting τ → Nat) (t : Served (Overflow τ) τ) : Served (Overflow τ) τ :=
  ⟨⟨t.holder.entries.map (Waiting.retimed f)⟩, t.handedOut.map (Waiting.retimed f)⟩

/-- All tasks that were put in, oldest first. -/
def pushed (past : List (Handling τ)) : List (Waiting τ) := past.filterMap Handling.pushed?

/-- A heap after all that was done with it. -/
def Heap.after (past : List (Handling τ)) : Served (Heap (Waiting τ)) τ :=
  past.foldl (Served.step Heap.push Heap.pop?) ⟨.empty, []⟩

/-- An overflow queue after all that was done with it. -/
def Overflow.after (past : List (Handling τ)) : Served (Overflow τ) τ :=
  past.foldl (Served.step Overflow.push Overflow.pop?) ⟨.empty, []⟩

/-- What a heap of waiting tasks does, told from what was put in. -/
structure Heap.Orderly (past : List (Handling τ)) : Prop where
  /-- What was put in was handed out or is still there. -/
  balance : ((after past).handedOut ++ (after past).holder.entries.toList).Perm (pushed past)
  /-- As long as there is a task, one is handed out, -/
  pop_isSome : (after past).holder.pop?.isSome ↔ (after past).holder.entries ≠ #[]
  /-- namely the one with the lowest number, and all others stay. -/
  pop_lowest : ∀ w rest, (after past).holder.pop? = some (w, rest) →
    w ∈ (after past).holder.entries ∧ (∀ v ∈ (after past).holder.entries, v = w ∨ w.seq < v.seq) ∧
      (after past).holder.entries.toList.Perm (w :: rest.entries.toList)
  peek : (after past).holder.peek? = (after past).holder.pop?.map Prod.fst
  /-- An overflow queue hands out the same tasks in the same order, -/
  handedOut_eq : (after past).handedOut = (Overflow.after past).handedOut
  size_eq : (after past).holder.size = (Overflow.after past).holder.size
  /-- and its oldest wait is that of the task to be handed out next. -/
  oldestWait_eq : ∀ now, (Overflow.after past).holder.oldestWait now
    = ((after past).holder.peek?.map fun w => w.waited now).getD 0
  /-- A task has waited since it was submitted, and not at all before. -/
  waited_eq : ∀ w ∈ (after past).holder.entries, ∀ now : Nat,
    (w.waited now : Int) = max ((now : Int) - (w.since : Int)) 0
  /-- If tasks had been submitted at other moments, the same would have been handed out. -/
  handedOut_retimed : ∀ f : Waiting τ → Nat,
    (after (past.map (Handling.retimed f))).handedOut = (after past).handedOut.map (Waiting.retimed f)

section Runs

variable {past : List (Handling τ)}

theorem Served.step_pop_some {σ : Type} {push : σ → Waiting τ → σ} {pop? : σ → Option (Waiting τ × σ)}
    {s : Served σ τ} {rest : σ} (h : pop? s.holder = some (w, rest)) :
    s.step push pop? .pop = ⟨rest, s.handedOut ++ [w]⟩ := by
  rw [step, h]

theorem Served.step_pop_none {σ : Type} {push : σ → Waiting τ → σ} {pop? : σ → Option (Waiting τ × σ)}
    {s : Served σ τ} (h : pop? s.holder = none) : s.step push pop? .pop = s := by
  rw [step, h]

theorem pushed_concat (a : Handling τ) : pushed (past ++ [a]) = pushed past ++ a.pushed?.toList := by
  rw [pushed, List.filterMap_append]
  cases a <;> rfl

/-- Other times leave the same tasks pushed. -/
theorem pushed_retimed : pushed (past.map (Handling.retimed f)) = (pushed past).map (Waiting.retimed f) := by
  rw [pushed, List.filterMap_map, pushed, List.map_filterMap]
  congr 1
  funext a
  cases a <;> rfl

/-- A heap and an overflow queue that were handled alike, and what was put in. -/
structure Alike (past : List (Handling τ)) (s : Served (Heap (Waiting τ)) τ) (t : Served (Overflow τ) τ) :
    Prop where
  mirrors : Mirrors s.holder t.holder
  handedOut : s.handedOut = t.handedOut
  balance : (t.handedOut ++ t.holder.entries).Perm (pushed past)

variable {s : Served (Heap (Waiting τ)) τ} {t : Served (Overflow τ) τ}

/-- Both go on alike when a task is pushed. -/
theorem Alike.push (h : Alike past s t) (hfresh : w.seq ∉ (pushed past).map Waiting.seq) :
    Alike (past ++ [.push w]) (s.step Heap.push Heap.pop? (.push w))
      (t.step Overflow.push Overflow.pop? (.push w)) where
  mirrors := by
    refine h.mirrors.push fun v hv heq => hfresh ?_
    have hmem : v ∈ pushed past := h.balance.mem_iff.mp (List.mem_append_right _ hv)
    exact heq ▸ List.mem_map_of_mem hmem
  handedOut := h.handedOut
  balance := by
    have hinsert := (Overflow.insertBySeq_perm w t.holder.entries).append_left t.handedOut
    rw [pushed_concat]
    exact hinsert.trans
      (List.perm_middle.trans ((h.balance.cons w).trans (List.perm_append_singleton w _).symm))

/-- Both go on alike when a task is popped. -/
theorem Alike.pop (h : Alike past s t) :
    Alike (past ++ [.pop]) (s.step Heap.push Heap.pop? .pop) (t.step Overflow.push Overflow.pop? .pop) := by
  have hpushed : pushed (past ++ [.pop]) = pushed past := (pushed_concat _).trans (List.append_nil _)
  cases h.mirrors.gives with
  | nothing hempty hentries =>
    rw [Served.step_pop_none (Heap.pop?_of_empty hempty), Served.step_pop_none (Overflow.pop?_of_nil hentries)]
    exact ⟨h.mirrors, h.handedOut, hpushed ▸ h.balance⟩
  | task w rest others hpop hentries mirrors =>
    rw [Served.step_pop_some hpop, Served.step_pop_some (Overflow.pop?_of_cons hentries)]
    refine ⟨mirrors, congrArg (· ++ [w]) h.handedOut, ?_⟩
    rw [hpushed, List.append_assoc, List.singleton_append, ← hentries]
    exact h.balance

/-- After every history the heap and the list are alike. -/
theorem alike_after (h : ((pushed past).map Waiting.seq).Nodup) :
    Alike past (Heap.after past) (Overflow.after past) := by
  induction past using List.reverseRecOn with
  | nil => exact ⟨mirrors_empty, rfl, .refl _⟩
  | append_singleton past a ih =>
    rw [pushed_concat, List.map_append, List.nodup_append] at h
    obtain ⟨hpast, -, hfresh⟩ := h
    rw [Heap.after, Overflow.after, List.foldl_append, List.foldl_append]
    cases a with
    | push w => exact (ih hpast).push fun hmem => hfresh _ hmem _ List.mem_cons_self rfl
    | pop => exact (ih hpast).pop

/-- Tasks that are submitted at other moments stand where they would have stood, and come out when they
would have come out. -/
theorem step_retimed (f : Waiting τ → Nat) (t : Served (Overflow τ) τ) (a : Handling τ) :
    (t.retimed f).step Overflow.push Overflow.pop? (a.retimed f)
      = (t.step Overflow.push Overflow.pop? a).retimed f := by
  obtain ⟨⟨entries⟩, handedOut⟩ := t
  cases a with
  | push w => exact congrArg (fun ws => Served.mk (Overflow.mk ws) _) Overflow.insertBySeq_retimed
  | pop =>
    cases entries with
    | nil => rfl
    | cons w others =>
      have hmap : (handedOut ++ [w]).map (Waiting.retimed f) = handedOut.map (Waiting.retimed f) ++ [w.retimed f] :=
        List.map_append
      exact congrArg (Served.mk _) hmap.symm

/-- Which tasks are handed out, and in which order, does not depend on when they came. -/
theorem overflow_after_retimed (past : List (Handling τ)) (f : Waiting τ → Nat) :
    Overflow.after (past.map (Handling.retimed f)) = (Overflow.after past).retimed f := by
  induction past using List.reverseRecOn with
  | nil => rfl
  | append_singleton past a ih =>
    rw [List.map_append, Overflow.after, List.foldl_append, Overflow.after, List.foldl_append]
    exact (congrArg (Served.step _ _ · _) ih).trans (step_retimed f _ a)

/-- A heap of tasks with distinct numbers is a queue by these numbers, in whatever order tasks are put in and
taken and whenever they were submitted: as long as there is a task, the one with the lowest number is shown
and handed out, and nothing is lost or made up. -/
theorem heap_orderly (past : List (Handling τ)) (hdistinct : ((pushed past).map Waiting.seq).Nodup) :
    Heap.Orderly past := by
  have alike := alike_after hdistinct
  have hretimed : ∀ f : Waiting τ → Nat,
      ((pushed (past.map (Handling.retimed f))).map Waiting.seq).Nodup := by
    intro f
    rw [pushed_retimed, List.map_map]
    exact hdistinct
  exact
    { balance := by
        rw [alike.handedOut]
        exact (alike.mirrors.perm.append_left _).trans alike.balance
      pop_isSome := Heap.pop?_isSome_iff alike.mirrors.ordered
      pop_lowest := fun w rest hpop =>
        ⟨(alike.mirrors.lowest hpop).1, (alike.mirrors.lowest hpop).2,
          (Heap.popped_of_pop? alike.mirrors.ordered hpop).perm⟩
      peek := Heap.peek?_eq_pop? alike.mirrors.ordered
      handedOut_eq := alike.handedOut
      size_eq := alike.mirrors.perm.length_eq
      oldestWait_eq := fun now => by
        rw [alike.mirrors.peek?_eq]
        rfl
      waited_eq := fun w _ now => by
        unfold Waiting.waited
        omega
      handedOut_retimed := fun f => by
        rw [(alike_after (hretimed f)).handedOut, overflow_after_retimed, alike.handedOut]
        rfl }

/-- Tasks 7, 3 and 5, the second of which was submitted last; then two are taken, and task 4 comes. -/
def jumbled : List (Handling Unit) :=
  [.push ⟨7, 0, ()⟩, .push ⟨3, 5000000, ()⟩, .push ⟨5, 0, ()⟩, .pop, .pop, .push ⟨4, 2000000, ()⟩]

theorem heap_orderly_jumbled :
    ((pushed jumbled).map Waiting.seq).Nodup ∧
      (Heap.after jumbled).handedOut = [⟨3, 5000000, ()⟩, ⟨5, 0, ()⟩] ∧
      (Heap.after jumbled).holder.peek? = some ⟨4, 2000000, ()⟩ ∧ Heap.Orderly jumbled :=
  ⟨by decide, by decide, by decide, heap_orderly jumbled (by decide)⟩

end Runs

end FlightRelay.Pool

import FlightRelay.Proofs.Entries
import FlightRelay.Supervisor.SlotTable
import Mathlib.Data.List.Nodup

/-!
# Slots and those that follow them

A restart gives a stage the slot that follows the one it has: of the same worker and one generation on.
`Accounts` is what a table keeps with a journal of all restarts: the generations of a stage were replaced
in turn, each of them once, so that the slot counts them.
-/

namespace FlightRelay.SlotTable

variable {t t' : SlotTable} {stage other : String} {slot : Slot} {generation worker : Nat}

/-! ## Lookups -/

/-- A slot that is put in is found under its stage. -/
theorem find?_put :
    (t.put stage slot).find? other = if other = stage then some slot else t.find? other := by
  show List.lookup other ((stage, slot) :: t.slots.filter fun e => e.1 ≠ stage) = _
  by_cases h : other = stage
  · rw [h, List.lookup_cons_self, if_pos rfl]
  · rw [lookup_cons_of_ne h, lookup_remove, if_neg h, if_neg h]
    rfl

/-- A stage that is spawned has a new task. -/
theorem find?_spawn {restarts : Nat} :
    (t.spawn stage worker generation restarts).find? other
      = if other = stage then some ⟨worker, generation, restarts, t.tasks.length⟩ else t.find? other :=
  find?_put

/-- No stage gets a second slot. -/
theorem distinct_put (h : (t.slots.map Prod.fst).Nodup) :
    ((t.put stage slot).slots.map Prod.fst).Nodup := by
  show (stage :: (t.slots.filter fun e => e.1 ≠ stage).map Prod.fst).Nodup
  refine List.nodup_cons.mpr ⟨?_, h.sublist (List.filter_sublist.map _)⟩
  simp

/-! ## Restarts -/

/-- The table after the slot of a stage was replaced by the one that follows it. -/
def succeed (t : SlotTable) (stage : String) (slot : Slot) : SlotTable :=
  { t.spawn stage slot.worker (slot.generation + 1) (slot.restarts + 1) with restarts := t.restarts + 1 }

/-- Replaces the slot of a stage that is at a generation, whether or not everything ends. -/
def replace? (t : SlotTable) (stage : String) (generation : Nat) : Option (Nat × SlotTable) :=
  match t.find? stage with
  | none => none
  | some slot =>
    if slot.generation = generation then some (slot.worker, t.succeed stage slot) else none

/-- A replacement has success if the stage is at the generation. -/
theorem replace?_eq_some_iff :
    t.replace? stage generation = some (worker, t') ↔
      ∃ slot, t.find? stage = some slot ∧ slot.generation = generation ∧ slot.worker = worker ∧
        t.succeed stage slot = t' := by
  unfold replace?
  cases hfind : t.find? stage with
  | none => simp
  | some slot =>
    by_cases hgeneration : slot.generation = generation
    · simp [hgeneration]
    · simp [hgeneration]

/-- Whether a replacement has success depends on the generation of the stage alone. -/
theorem replace?_isSome_iff :
    (t.replace? stage generation).isSome ↔ ∃ slot, t.find? stage = some slot ∧ slot.generation = generation := by
  simp [Option.isSome_iff_exists, replace?_eq_some_iff]

/-- A restart replaces the slot unless everything ends. -/
theorem restart?_eq :
    t.restart? stage generation = if t.shuttingDown then none else t.replace? stage generation := rfl

/-- A restart has success if the stage is at the generation, and no stop has begun. -/
theorem restart?_isSome_iff :
    (t.restart? stage generation).isSome ↔
      (∃ slot, t.find? stage = some slot ∧ slot.generation = generation) ∧ t.shuttingDown = false := by
  rw [restart?_eq]
  cases t.shuttingDown with
  | true => simp
  | false => simp [replace?_isSome_iff]

/-- The successor is one generation and one restart further. -/
theorem find?_succeed :
    (t.succeed stage slot).find? other
      = if other = stage then some ⟨slot.worker, slot.generation + 1, slot.restarts + 1, t.tasks.length⟩
        else t.find? other :=
  find?_spawn

/-! ## Journals -/

/-- The generations of a stage that were replaced, oldest first. -/
def generationsOf (replaced : List (String × Nat)) (stage : String) : List Nat :=
  (replaced.filter fun e => e.1 = stage).map Prod.snd

/-- What an answer to a call for a restart adds to the journal. -/
def noted (answer : Option (Nat × SlotTable)) (stage : String) (generation : Nat) :
    List (String × Nat) :=
  if answer.isSome then [(stage, generation)] else []

/-- The sum of what the stages count. -/
def sum (t : SlotTable) : Nat := (t.slots.map fun e => e.2.restarts).sum

/-- What a table and the journal of its restarts have to do with each other and with the table that was
there first. -/
structure Accounts (first t : SlotTable) (replaced : List (String × Nat)) : Prop where
  /-- No stage has two slots. -/
  distinct : (t.slots.map Prod.fst).Nodup
  /-- The stages are those that were started, each with its worker. -/
  worker : ∀ stage, (t.find? stage).map Slot.worker = (first.find? stage).map Slot.worker
  /-- Only stages with a slot were restarted. -/
  known : ∀ e ∈ replaced, (t.find? e.1).isSome
  /-- The generations of a stage were replaced one after the other. -/
  inTurn : ∀ stage slot, t.find? stage = some slot →
    generationsOf replaced stage = List.range slot.generation
  restarts : ∀ stage slot, t.find? stage = some slot → slot.restarts = slot.generation
  total : t.restarts = replaced.length
  sum : t.sum = t.restarts
  /-- No task is of a generation to come. -/
  tasks : ∀ k ∈ t.tasks, ∃ slot, t.find? k.stage = some slot ∧ k.generation ≤ slot.generation

/-- Tasks go on: they may do something else, unless they came to their end. -/
def Outlast (ks ks' : List StageTask) : Prop :=
  List.Forall₂
    (fun k k' => k' = { k with state := k'.state } ∧ (k.state = .ended → k'.state = .ended)) ks ks'

variable {first : SlotTable} {replaced : List (String × Nat)} {task : Nat} {state : TaskState}
  {ks ks' : List StageTask} {k k' : StageTask}

/-- No task is new, and each is of the stage and of the generation that it was of. -/
theorem Outlast.origin (h : Outlast ks ks') (hk' : k' ∈ ks') :
    ∃ k ∈ ks, k'.stage = k.stage ∧ k'.generation = k.generation := by
  induction h with
  | nil => exact absurd hk' List.not_mem_nil
  | cons hhead _ ih =>
    obtain rfl | htail := List.mem_cons.mp hk'
    · exact ⟨_, List.mem_cons_self, by rw [hhead.1], by rw [hhead.1]⟩
    · obtain ⟨k, hk, hsame⟩ := ih htail
      exact ⟨k, List.mem_cons_of_mem _ hk, hsame⟩

/-- A task goes on under its number. -/
theorem Outlast.getElem? (h : Outlast ks ks') (found : ks[task]? = some k) :
    ∃ k', ks'[task]? = some k' ∧ k' = { k with state := k'.state } ∧
      (k.state = .ended → k'.state = .ended) := by
  obtain ⟨hlt, rfl⟩ := List.getElem?_eq_some_iff.mp found
  obtain ⟨hlength, hsame⟩ := List.forall₂_iff_get.mp h
  have hlt' : task < ks'.length := hlength ▸ hlt
  exact ⟨ks'[task], List.getElem?_eq_getElem hlt', hsame task hlt hlt'⟩

/-- The task under a number is the one that it was. -/
theorem Outlast.of_getElem? (h : Outlast ks ks') (found : ks'[task]? = some k') :
    ∃ k, ks[task]? = some k ∧ k' = { k with state := k'.state } ∧
      (k.state = .ended → k'.state = .ended) := by
  obtain ⟨hlt', -⟩ := List.getElem?_eq_some_iff.mp found
  have hlt : task < ks.length := (List.forall₂_iff_get.mp h).1 ▸ hlt'
  obtain ⟨k'', found', hsame⟩ := h.getElem? (List.getElem?_eq_getElem hlt)
  obtain rfl := Option.some.inj (found.symm.trans found')
  exact ⟨ks[task], List.getElem?_eq_getElem hlt, hsame⟩

theorem outlast_refl : Outlast ks ks := List.forall₂_same.mpr fun _ _ => ⟨rfl, id⟩

/-- A task comes to its end. -/
theorem outlast_setState : Outlast t.tasks (t.setState task .ended).tasks := by
  refine List.forall₂_iff_get.mpr ⟨(List.length_modify ..).symm, fun i hi hi' => ?_⟩
  simp only [List.get_eq_getElem, setState, List.getElem_modify]
  split
  · exact ⟨rfl, fun _ => rfl⟩
  · exact ⟨rfl, id⟩

/-- To end all tasks revives none. -/
theorem outlast_endTasks : Outlast t.tasks t.endTasks.tasks := by
  refine List.forall₂_map_right_iff.mpr (List.forall₂_same.mpr fun k _ => ?_)
  split
  · exact ⟨rfl, id⟩
  · exact ⟨rfl, fun _ => rfl⟩

/-- A task has ended if its state says so. -/
theorem hasEnded_iff : t.hasEnded task = true ↔ ∃ k, t.tasks[task]? = some k ∧ k.state = .ended := by
  unfold hasEnded state?
  simp

/-- A task that came to its end does not go on. -/
theorem Outlast.hasEnded {tasks : List StageTask} (h : Outlast t.tasks tasks)
    (hended : t.hasEnded task = true) : ({ t with tasks } : SlotTable).hasEnded task = true := by
  obtain ⟨k, hk, hstate⟩ := hasEnded_iff.mp hended
  obtain ⟨k', hk', -, hended'⟩ := h.getElem? hk
  exact hasEnded_iff.mpr ⟨k', hk', hended' hstate⟩

/-- The tasks stay as they are that were there before. -/
theorem getElem?_succeed_of_lt (h : task < t.tasks.length) :
    (t.succeed stage slot).tasks[task]? = t.tasks[task]? := List.getElem?_append_left h

/-- The answer to a call does not depend on what tasks do. -/
theorem noted_setState :
    noted ((t.setState task state).restart? stage generation) stage generation
      = noted (t.restart? stage generation) stage generation := by
  have h : ((t.setState task state).restart? stage generation).isSome
      = (t.restart? stage generation).isSome := by
    rw [Bool.eq_iff_iff, restart?_isSome_iff, restart?_isSome_iff]
    rfl
  rw [noted, noted, h]

/-- A restart adds its generation to those of its stage. -/
theorem generationsOf_append (entry : String × Nat) :
    generationsOf (replaced ++ [entry]) stage
      = generationsOf replaced stage ++ if entry.1 = stage then [entry.2] else [] := by
  unfold generationsOf
  rw [List.filter_append, List.map_append]
  by_cases h : entry.1 = stage
  · rw [if_pos h, List.filter_cons_of_pos (by simpa using h)]
    rfl
  · rw [if_neg h, List.filter_cons_of_neg (by simpa using h)]
    rfl

/-- A generation is replaced as often as it is noted. -/
theorem count_generationsOf : (generationsOf replaced stage).count generation
    = replaced.count (stage, generation) := by
  induction replaced with
  | nil => rfl
  | cons e es ih =>
    obtain ⟨name, g⟩ := e
    unfold generationsOf at ih ⊢
    by_cases h : name = stage
    · subst h
      by_cases hg : g = generation
      · subst hg
        simp [ih]
      · simp [ih, hg]
    · simp [ih, h]

/-- Every restart is in the journal once. -/
theorem Accounts.nodup (h : Accounts first t replaced) : replaced.Nodup := by
  refine List.nodup_iff_count_le_one.mpr fun e => ?_
  by_cases he : e ∈ replaced
  · obtain ⟨slot, hslot⟩ := Option.isSome_iff_exists.mp (h.known e he)
    rw [← count_generationsOf, h.inTurn _ _ hslot]
    exact List.nodup_iff_count_le_one.mp List.nodup_range _
  · rw [List.count_eq_zero.mpr he]
    exact Nat.zero_le 1

/-- The slot of a stage counts its restarts. -/
theorem Accounts.counted (h : Accounts first t replaced) (hslot : t.find? stage = some slot) :
    slot.generation = (replaced.filter fun e => e.1 = stage).length := by
  have hlength := congrArg List.length (h.inTurn _ _ hslot)
  rw [generationsOf, List.length_map, List.length_range] at hlength
  exact hlength.symm

/-- The accounts are of the slots, of the total and of what the tasks were started for. -/
theorem Accounts.congr (h : Accounts first t replaced) (hslots : t'.slots = t.slots)
    (hrestarts : t'.restarts = t.restarts)
    (htasks : ∀ k' ∈ t'.tasks, ∃ k ∈ t.tasks, k'.stage = k.stage ∧ k'.generation = k.generation) :
    Accounts first t' replaced := by
  have hfind : t'.find? = t.find? := funext fun stage => by rw [find?, find?, hslots]
  have hsum : t'.sum = t.sum := by rw [SlotTable.sum, SlotTable.sum, hslots]
  refine ⟨hslots ▸ h.distinct, hfind ▸ h.worker, hfind ▸ h.known, hfind ▸ h.inTurn, hfind ▸ h.restarts,
    hrestarts ▸ h.total, by rw [hsum, hrestarts, h.sum], fun k' hk' => ?_⟩
  obtain ⟨k, hk, hstage, hgeneration⟩ := htasks k' hk'
  rw [hfind, hstage, hgeneration]
  exact h.tasks k hk

/-- A slot is followed: the journal takes down which generation was replaced. -/
theorem Accounts.succeed (h : Accounts first t replaced) (hslot : t.find? stage = some slot) :
    Accounts first (t.succeed stage slot) (replaced ++ [(stage, slot.generation)]) where
  distinct := distinct_put h.distinct
  worker other := by
    rw [find?_succeed, ← h.worker]
    -- the stage has moved on by one generation, the others not at all
    by_cases hother : other = stage
    · rw [if_pos hother, hother, hslot]
      rfl
    · rw [if_neg hother]
  known e he := by
    rw [find?_succeed]
    by_cases hother : e.1 = stage
    · rw [if_pos hother]
      rfl
    · rw [if_neg hother]
      obtain hold | hnew := List.mem_append.mp he
      · exact h.known e hold
      · exact absurd (congrArg Prod.fst (List.mem_singleton.mp hnew)) hother
  inTurn other slot' hslot' := by
    rw [find?_succeed] at hslot'
    rw [generationsOf_append]
    by_cases hother : other = stage
    · rw [if_pos hother] at hslot'
      rw [if_pos hother.symm, hother, h.inTurn _ _ hslot, ← Option.some.inj hslot', List.range_succ]
    · rw [if_neg hother] at hslot'
      rw [if_neg (Ne.symm hother), List.append_nil, h.inTurn _ _ hslot']
  restarts other slot' hslot' := by
    rw [find?_succeed] at hslot'
    by_cases hother : other = stage
    · rw [if_pos hother] at hslot'
      rw [← Option.some.inj hslot', h.restarts _ _ hslot]
    · rw [if_neg hother] at hslot'
      exact h.restarts _ _ hslot'
  total := by
    rw [List.length_append, ← h.total]
    rfl
  sum := by
    -- the old slot counts in the sum with its restarts, the new one with one more
    have hbefore : slot.restarts
        + ((t.slots.filter fun e => e.1 ≠ stage).map fun e => e.2.restarts).sum = t.restarts := by
      rw [← h.sum, SlotTable.sum, sum_eq_of_lookup _ h.distinct hslot]
    show slot.restarts + 1 + ((t.slots.filter fun e => e.1 ≠ stage).map fun e => e.2.restarts).sum
      = t.restarts + 1
    omega
  tasks k hk := by
    rw [find?_succeed]
    obtain hold | hnew := List.mem_append.mp hk
    · obtain ⟨slot', hslot', hgeneration⟩ := h.tasks k hold
      by_cases hstage : k.stage = stage
      · rw [hstage, hslot] at hslot'
        rw [← Option.some.inj hslot'] at hgeneration
        exact ⟨_, if_pos hstage, Nat.le_succ_of_le hgeneration⟩
      · exact ⟨slot', (if_neg hstage).trans hslot', hgeneration⟩
    · rw [List.mem_singleton.mp hnew]
      exact ⟨_, if_pos rfl, Nat.le_refl _⟩

/-- A call that has success is taken down. -/
theorem Accounts.replace (h : Accounts first t replaced)
    (hanswer : t.replace? stage generation = some (worker, t')) :
    Accounts first t' (replaced ++ [(stage, generation)]) := by
  obtain ⟨slot, hslot, rfl, -, rfl⟩ := replace?_eq_some_iff.mp hanswer
  exact h.succeed hslot

/-! ## The first tasks -/

/-- All stages are at their first task. -/
structure Fresh (t : SlotTable) : Prop where
  distinct : (t.slots.map Prod.fst).Nodup
  slots : ∀ e ∈ t.slots, e.2.generation = 0 ∧ e.2.restarts = 0
  total : t.restarts = 0
  tasks : ∀ k ∈ t.tasks, (t.find? k.stage).isSome ∧ k.generation = 0

/-- A table without slots is fresh. -/
theorem Fresh.empty : Fresh .empty :=
  ⟨List.nodup_nil, fun _ he => absurd he List.not_mem_nil, rfl, fun _ hk => absurd hk List.not_mem_nil⟩

/-- A stage that is spawned begins at the first generation. -/
theorem Fresh.spawn (h : t.Fresh) (stage : String) (worker : Nat) : (t.spawn stage worker 0 0).Fresh where
  distinct := distinct_put h.distinct
  slots e he := by
    obtain rfl | hold := List.mem_cons.mp he
    · exact ⟨rfl, rfl⟩
    · exact h.slots e (List.mem_of_mem_filter hold)
  total := h.total
  tasks k hk := by
    rw [find?_spawn]
    obtain hold | hnew := List.mem_append.mp hk
    · refine ⟨?_, (h.tasks k hold).2⟩
      split
      · rfl
      · exact (h.tasks k hold).1
    · rw [List.mem_singleton.mp hnew]
      exact ⟨by rw [if_pos rfl]; rfl, rfl⟩

/-- Starts a first task for each of some stages, whose workers are counted from a place on. -/
def spawnEach (t : SlotTable) (names : List String) (place : Nat) : SlotTable :=
  (names.zipIdx place).foldl (fun t e => t.spawn e.1 e.2 0 0) t

theorem shuttingDown_spawnEach (names : List String) (place : Nat) :
    (t.spawnEach names place).shuttingDown = t.shuttingDown := by
  induction names generalizing t place with
  | nil => rfl
  | cons name names ih => exact ih _

/-- A table that has been spawned is fresh. -/
theorem Fresh.spawnEach (h : t.Fresh) (names : List String) (place : Nat) :
    (t.spawnEach names place).Fresh := by
  induction names generalizing t place with
  | nil => exact h
  | cons name names ih => exact ih (h.spawn name place) _

/-- Nothing was restarted yet. -/
theorem Fresh.accounts (h : t.Fresh) : Accounts t t [] := by
  have hzero : ∀ stage slot, t.find? stage = some slot → slot.generation = 0 ∧ slot.restarts = 0 :=
    fun stage slot hslot => h.slots (stage, slot) (mem_of_lookup hslot)
  refine ⟨h.distinct, fun _ => rfl, fun _ he => absurd he List.not_mem_nil, fun stage slot hslot => ?_,
    fun stage slot hslot => ?_, h.total, ?_, fun k hk => ?_⟩
  · rw [(hzero _ _ hslot).1]
    rfl
  · rw [(hzero _ _ hslot).1, (hzero _ _ hslot).2]
  · rw [h.total]
    refine List.sum_eq_zero_iff_forall_eq_nat.mpr fun n hn => ?_
    obtain ⟨e, he, rfl⟩ := List.mem_map.mp hn
    exact (h.slots e he).2
  · obtain ⟨slot, hslot⟩ := Option.isSome_iff_exists.mp (h.tasks k hk).1
    exact ⟨slot, hslot, by rw [(h.tasks k hk).2]; exact Nat.zero_le _⟩

end FlightRelay.SlotTable

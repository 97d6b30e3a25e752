import FlightRelay.Proofs.Pool.Journal

/-!
# Accounts of a pool

Every task that a pool accepts is in one place at any time: a thread works on it, it waits in one of the
queues, or it has ended.  The queues and the threads keep to their bounds, and when the last thread of a
pool that was shut down is gone, every task has been run.
-/

namespace FlightRelay.Pool

variable {α : Type} {a : Action α} {o o' : Outline α} {l m : Log α} {limits : Limits}

namespace Outline

/-! ## Bounds -/

/-- As many numbers are in use as there are threads. -/
theorem Numbered.count (h : o.Numbered) : o.ids.size = o.threads.length := by
  rw [Ids.size, h.threads.length_eq, List.length_map]

/-- The primary queue and the threads keep to their bounds. -/
structure Bounded (limits : Limits) (o : Outline α) : Prop where
  limits_eq : o.limits = limits
  primary_le : o.primary.length ≤ limits.capacity
  threads_le : o.threads.length ≤ limits.most
  ids_le : ∀ n ∈ o.ids.inUse, n ≤ limits.most

/-- The primary queue is filled up to its capacity, not beyond. -/
theorem length_filled_le (h : o.primary.length ≤ o.limits.capacity) :
    o.filled.length ≤ o.limits.capacity := by
  rw [filled, List.length_append, leaving, List.length_map, List.length_take, room]
  omega

/-- No turn passes a bound. -/
theorem Bounded.turn (hn : o.Numbered) (h : o.Bounded limits) (ht : Turn a o o' l) :
    o'.Bounded limits := by
  obtain ⟨rfl, hprimary, hthreads, hids⟩ := h
  cases ht with
  | idle => exact ⟨rfl, hprimary, hthreads, hids⟩
  | drawn => exact ⟨rfl, hprimary, hthreads, hids⟩
  | started takes short =>
    have hmost := o.limits.core_le_most
    have hroom : o.threads.length + 1 ≤ o.limits.most := by omega
    refine ⟨rfl, hprimary, by simpa using hroom, ?_⟩
    intro n hmem
    -- the new number is the least free one, hence at most one past the number of threads
    rcases Ids.mem_insertAscending.mp hmem with rfl | hmem
    · have hleast := Ids.leastFree_le hn.ordered
      rw [hn.count] at hleast
      show o.ids.leastFree ≤ o.limits.most
      omega
    · exact hids n hmem
  | queued takes staffed roomy =>
    refine ⟨rfl, ?_, ?_, hids⟩
    · rw [List.length_append, List.length_singleton]
      exact roomy
    · rw [wakeFirst_length]
      exact hthreads
  | parked => exact ⟨rfl, hprimary, hthreads, hids⟩
  | ended among =>
    refine ⟨rfl, hprimary, ?_, hids⟩
    rw [among.length]
    exact hthreads
  | drained among =>
    refine ⟨rfl, length_filled_le hprimary, ?_, hids⟩
    rw [wakeFirst_length, among.length]
    exact hthreads
  | @took _ _ id phase task rest before after own among free next =>
    refine ⟨rfl, ?_, ?_, hids⟩
    · have hfilled := length_filled_le hprimary
      rw [next, List.length_cons] at hfilled
      show rest.length ≤ o.limits.capacity
      omega
    · rw [among.length]
      exact hthreads
  | slept own among =>
    refine ⟨rfl, hprimary, ?_, hids⟩
    have hlength := among.perm.length_eq
    simp only [List.length_append, List.length_cons, List.length_nil] at hlength ⊢
    omega
  | retired own among =>
    refine ⟨rfl, hprimary, ?_, ?_⟩
    · have hlength := among.perm.length_eq
      simp only [List.length_append, List.length_cons] at hlength ⊢
      omega
    · intro n hmem
      exact hids n (List.mem_of_mem_erase hmem)
  | shut =>
    refine ⟨rfl, hprimary, ?_, hids⟩
    rw [wakeFirst_length]
    exact hthreads

/-! ## Staff -/

/-- No task waits. -/
def Clear (o : Outline α) : Prop := o.primary = [] ∧ o.parked = []

/-- Where nothing waits, nothing fills the queue. -/
theorem filled_of_clear (h : o.Clear) : o.filled = [] := by
  simp [filled, leaving, h.1, h.2]

theorem staying_of_clear (h : o.Clear) : o.staying = [] := by
  simp [staying, h.2]

/-- No task waits while a pool that takes tasks has too few threads, or any pool has none. -/
structure Staffed (o : Outline α) : Prop where
  core : o.isShutDown = false → o.threads.length < o.limits.core → o.Clear
  manned : o.threads = [] → o.Clear

/-- Tasks may wait as soon as the core threads are there. -/
theorem Staffed.of_le (hle : o.limits.core ≤ o.threads.length) : o.Staffed := by
  have hcore := o.limits.core_pos
  constructor
  · intro _ hfew
    omega
  · intro hnone
    rw [hnone, List.length_nil] at hle
    omega

/-- As long as work waits, there is a thread for it. -/
theorem Staffed.turn (h : o.Staffed) (ht : Turn a o o' l) : o'.Staffed := by
  cases ht with
  | idle => exact h
  | drawn => exact ⟨h.core, h.manned⟩
  | started takes short =>
    constructor
    · intro _ hfew
      apply h.core takes
      rw [List.length_append, List.length_singleton] at hfew
      exact Nat.lt_of_succ_lt hfew
    · intro hnone
      simp at hnone
  | queued takes staffed roomy =>
    apply Staffed.of_le
    rw [wakeFirst_length]
    exact staffed
  | parked takes staffed full =>
    apply Staffed.of_le
    exact Nat.le_trans o.limits.core_le_most staffed
  | ended among =>
    constructor
    · intro takes hfew
      rw [among.length] at hfew
      exact h.core takes hfew
    · intro hnone
      simp at hnone
  | drained among =>
    constructor
    · intro takes hfew
      rw [wakeFirst_length, among.length] at hfew
      have hclear := h.core takes hfew
      exact ⟨filled_of_clear hclear, staying_of_clear hclear⟩
    · intro hnone
      have hlength := congrArg List.length hnone
      rw [wakeFirst_length] at hlength
      simp at hlength
  | took own among free next =>
    -- below the core nothing waits, so that there was nothing to take
    constructor
    · intro takes hfew
      rw [among.length] at hfew
      rw [filled_of_clear (h.core takes hfew)] at next
      cases next
    · intro hnone
      simp at hnone
  | slept own among free primary parked =>
    constructor
    · intro _ _
      exact ⟨primary, parked⟩
    · intro _
      exact ⟨primary, parked⟩
  | retired own among free primary parked =>
    -- a thread ends only where nothing waits
    constructor
    · intro _ _
      exact ⟨primary, parked⟩
    · intro _
      exact ⟨primary, parked⟩
  | shut =>
    constructor
    · intro takes
      cases takes
    · intro hnone
      have hlength := congrArg List.length hnone
      rw [wakeFirst_length] at hlength
      exact h.manned (List.length_eq_zero_iff.mp hlength)

end Outline

/-! ## Tasks -/

/-- The list has one task more. -/
theorem Overflow.insertBySeq_perm {β : Type} (w : Waiting β) (ws : List (Waiting β)) :
    (insertBySeq w ws).Perm (w :: ws) := by
  induction ws with
  | nil => exact .refl _
  | cons v ws ih =>
    rw [insertBySeq]
    split
    · exact .refl _
    · exact (ih.cons v).trans (.swap w v ws)

/-- The tasks that wait, in the order in which they are to be taken. -/
def Outline.queue (o : Outline α) : List (Task α) := o.primary ++ o.parked.map Waiting.task

/-- What fills the primary queue leaves the overflow queue. -/
theorem Outline.filled_append_staying (o : Outline α) :
    o.filled ++ o.staying.map Waiting.task = o.queue := by
  rw [filled, leaving, staying, List.append_assoc, ← List.map_append, List.take_append_drop, queue]

/-- Every accepted task is in one place, and the counters agree. -/
structure Accounted (o : Outline α) (l : Log α) : Prop where
  accepted : l.accepted.Perm (l.ended ++ held o.threads ++ o.queue)
  begun : l.begun.Perm (l.ended ++ held o.threads)
  submitted : o.submitted = l.accepted.length
  ended : o.completed + o.panicked = l.ended.length

/-- What is accepted waits, what waits is begun, and what is worked on ends. -/
structure Balanced (o o' : Outline α) (m : Log α) : Prop where
  waiting : (m.accepted ++ o.queue).Perm (m.begun ++ o'.queue)
  working : (m.begun ++ held o.threads).Perm (m.ended ++ held o'.threads)
  submitted : o'.submitted = o.submitted + m.accepted.length
  ended : o'.completed + o'.panicked = o.completed + o.panicked + m.ended.length

/-- What a turn takes in, hands out and ends is accounted for. -/
theorem Accounted.next (h : Accounted o l) (hm : Balanced o o' m) : Accounted o' (l ++ m) := by
  classical
  refine ⟨?_, ?_, ?_, ?_⟩
  · apply List.perm_iff_count.mpr
    intro t
    have haccepted := h.accepted.count_eq t
    have hwaiting := hm.waiting.count_eq t
    have hworking := hm.working.count_eq t
    simp only [Log.accepted_append, Log.ended_append, List.count_append] at haccepted hwaiting hworking ⊢
    omega
  · apply List.perm_iff_count.mpr
    intro t
    have hbegun := h.begun.count_eq t
    have hworking := hm.working.count_eq t
    simp only [Log.begun_append, Log.ended_append, List.count_append] at hbegun hworking ⊢
    omega
  · rw [hm.submitted, h.submitted, Log.accepted_append, List.length_append]
  · rw [hm.ended, h.ended, Log.ended_append, List.length_append]

/-- Every task that was submitted has ended, or is at work, or waits. -/
theorem Accounted.counted (h : Accounted o l) : o.submitted
    = o.completed + o.panicked + (held o.threads).length + o.primary.length + o.parked.length := by
  have hlength := h.accepted.length_eq
  simp only [Outline.queue, List.length_append, List.length_map] at hlength
  rw [h.submitted, h.ended]
  omega

/-- A turn neither loses a task nor makes one up. -/
theorem Balanced.of_turn (ht : Turn a o o' m) : Balanced o o' m := by
  cases ht with
  | idle => exact ⟨.refl _, .refl _, rfl, rfl⟩
  | drawn => exact ⟨.refl _, .refl _, rfl, rfl⟩
  | started =>
    refine ⟨.refl _, ?_, rfl, rfl⟩
    rw [held_append]
    exact List.perm_append_comm
  | queued =>
    refine ⟨?_, ?_, rfl, rfl⟩
    · rw [Outline.queue, Outline.queue, List.append_assoc]
      exact List.perm_append_comm_assoc _ _ _
    · rw [held_wakeFirst]
  | @parked _ seq label work now =>
    refine ⟨?_, .refl _, rfl, rfl⟩
    have hparked := (Overflow.insertBySeq_perm ⟨seq, now, ⟨label, work⟩⟩ o.parked).map Waiting.task
    exact ((hparked.append_left o.primary).trans List.perm_middle).symm
  | @ended _ _ _ panicked _ _ _ among =>
    -- one counter or the other takes the task in that the thread gives up
    refine ⟨.refl _, (among.held_other ⟨_, .finished⟩).symm, rfl, ?_⟩
    cases panicked with
    | true => exact (Nat.add_assoc _ _ _).symm
    | false => exact Nat.add_right_comm _ _ _
  | drained among =>
    refine ⟨?_, ?_, rfl, rfl⟩
    · rw [← o.filled_append_staying]
      exact .refl _
    · rw [held_wakeFirst]
      exact (among.held_other ⟨_, .seeking⟩).symm
  | @took _ _ id phase task rest before after own among free next =>
    -- the task goes from the head of the queue to the thread
    refine ⟨?_, ?_, rfl, rfl⟩
    · rw [← o.filled_append_staying, next]
      exact .refl _
    · have hheld := among.held_other ⟨id, .running task⟩
      rw [task?_of_free free] at hheld
      exact hheld.symm
  | slept own among free =>
    have hheld := among.held_eq
    rw [task?_of_free free] at hheld
    refine ⟨.refl _, ?_, rfl, rfl⟩
    rw [held_append]
    exact hheld.trans (.of_eq (List.append_nil _).symm)
  | retired own among free =>
    have hheld := among.held_eq
    rw [task?_of_free free] at hheld
    exact ⟨.refl _, hheld, rfl, rfl⟩
  | shut =>
    refine ⟨.refl _, ?_, rfl, rfl⟩
    rw [held_wakeFirst]

/-! ## Order in the overflow queue -/

/-- Whatever is not a part of a submission takes tasks from the front of the queues only. -/
structure Serves (o o' : Outline α) (m : Log α) : Prop where
  accepted : m.accepted = []
  parked : m.parked = []
  ahead : m.ahead = []
  nextSeq : o'.nextSeq = o.nextSeq
  takes : o'.isShutDown = false → o.isShutDown = false
  overflow : ∃ n, o'.parked = o.parked.drop n ∧ m.unparked = (o.parked.take n).map Waiting.task
  queue : m.begun ++ o'.queue = o.queue

/-- A turn of a thread begins what is first in the queue. -/
theorem Serves.of_turn (ha : a.isAtomic = true) (ht : Turn a o o' m) : Serves o o' m := by
  cases ht with
  | idle => exact ⟨rfl, rfl, rfl, rfl, id, ⟨0, rfl, rfl⟩, rfl⟩
  | drawn => cases ha
  | started => cases ha
  | queued => cases ha
  | parked => cases ha
  | ended => exact ⟨rfl, rfl, rfl, rfl, id, ⟨0, rfl, rfl⟩, rfl⟩
  | drained => exact ⟨rfl, rfl, rfl, rfl, id, ⟨o.room, rfl, rfl⟩, o.filled_append_staying⟩
  | took own among free next =>
    refine ⟨rfl, rfl, rfl, rfl, id, ⟨o.room, rfl, rfl⟩, ?_⟩
    rw [← o.filled_append_staying, next]
    rfl
  | slept => exact ⟨rfl, rfl, rfl, rfl, id, ⟨0, rfl, rfl⟩, rfl⟩
  | retired => exact ⟨rfl, rfl, rfl, rfl, id, ⟨0, rfl, rfl⟩, rfl⟩
  | shut => exact ⟨rfl, rfl, rfl, rfl, nofun, ⟨0, rfl, rfl⟩, rfl⟩

/-- The task with the greatest number comes last. -/
theorem Overflow.insertBySeq_last {β : Type} {w : Waiting β} {ws : List (Waiting β)}
    (h : ∀ v ∈ ws, v.seq ≤ w.seq) : insertBySeq w ws = ws ++ [w] := by
  induction ws with
  | nil => rfl
  | cons v ws ih =>
    have hv : ¬ w.seq < v.seq := UInt64.not_lt.mpr (h v List.mem_cons_self)
    have hrest : insertBySeq w ws = ws ++ [w] := by
      apply ih
      intro u hu
      exact h u (List.mem_cons_of_mem v hu)
    rw [insertBySeq, if_neg hv, hrest, List.cons_append]

/-- Numbers are drawn in order, and tasks leave the overflow queue in the order in which they entered
it. -/
structure Queued (o : Outline α) (l : Log α) : Prop where
  next : o.isShutDown = false → o.nextSeq = UInt64.ofNat l.accepted.length
  below : ∀ w ∈ o.parked, w.seq.toNat < l.accepted.length
  order : l.parked = l.unparked ++ o.parked.map Waiting.task

/-- The tasks in the queues stay in their order. -/
theorem Queued.serves (h : Queued o l) (hm : Serves o o' m) : Queued o' (l ++ m) := by
  obtain ⟨n, hparked, hunparked⟩ := hm.overflow
  refine ⟨?_, ?_, ?_⟩
  · intro takes
    rw [hm.nextSeq, Log.accepted_append, hm.accepted, List.append_nil]
    exact h.next (hm.takes takes)
  · intro w hw
    rw [hparked] at hw
    rw [Log.accepted_append, hm.accepted, List.append_nil]
    exact h.below w (List.mem_of_mem_drop hw)
  · rw [Log.parked_append, Log.unparked_append, hm.parked, hunparked, hparked, List.append_nil, h.order,
      List.append_assoc, ← List.map_append, List.take_append_drop]

/-- As long as submission numbers have not come round, a task that enters the overflow queue is the last
one there. -/
theorem Queued.insert_last {seq : UInt64} (h : Queued o l) (now : Nat) (task : Task α)
    (hseq : seq = UInt64.ofNat l.accepted.length) (hlast : l.accepted.length < UInt64.size) :
    Overflow.insertBySeq ⟨seq, now, task⟩ o.parked = o.parked ++ [⟨seq, now, task⟩] := by
  apply Overflow.insertBySeq_last
  intro v hv
  have hbelow := h.below v hv
  rw [UInt64.le_iff_toNat_le, hseq, UInt64.toNat_ofNat_of_lt' hlast]
  omega

/-- A task that is submitted comes last in its queue. -/
theorem Queued.submit {label : String} {work : α} {now : Nat} (h : Queued o l)
    (hlast : (l ++ m).accepted.length ≤ UInt64.size)
    (ht : Turn (.enter o.nextSeq label work now) { o with nextSeq := o.nextSeq + 1 } o' m) :
    Queued o' (l ++ m) := by
  -- a task that is accepted uses up its number
  have hnext : ∀ task : Task α, o.isShutDown = false →
      o.nextSeq + 1 = UInt64.ofNat (l.accepted ++ [task]).length := by
    intro task takes
    rw [h.next takes, List.length_append, UInt64.ofNat_add]
    rfl
  have hbelow : ∀ task : Task α, ∀ w ∈ o.parked, w.seq.toNat < (l.accepted ++ [task]).length := by
    intro task w hw
    have hw := h.below w hw
    rw [List.length_append, List.length_singleton]
    omega
  cases ht with
  | idle closed =>
    rw [Log.append_empty]
    refine ⟨?_, h.below, h.order⟩
    intro takes
    rw [closed rfl] at takes
    cases takes
  | started takes =>
    refine ⟨fun _ => hnext _ takes, hbelow _, ?_⟩
    rw [Log.parked_append, Log.unparked_append, List.append_nil, List.append_nil]
    exact h.order
  | queued takes =>
    refine ⟨fun _ => hnext _ takes, hbelow _, ?_⟩
    rw [Log.parked_append, Log.unparked_append, List.append_nil, List.append_nil]
    exact h.order
  | parked takes =>
    have hroom : l.accepted.length < UInt64.size := by
      rw [Log.accepted_append, List.length_append] at hlast
      exact hlast
    have hinsert := h.insert_last now ⟨label, work⟩ (h.next takes) hroom
    refine ⟨fun _ => hnext _ takes, ?_, ?_⟩
    · intro w hw
      rw [hinsert] at hw
      rcases List.mem_append.mp hw with hw | hw
      · exact hbelow _ w hw
      · rw [List.mem_singleton.mp hw, h.next takes, UInt64.toNat_ofNat_of_lt' hroom, Log.accepted_append,
          List.length_append]
        exact Nat.lt_succ_self _
    · rw [Log.parked_append, Log.unparked_append, List.append_nil, h.order, List.append_assoc, hinsert,
        List.map_append]
      rfl
  | took own => cases own
  | slept own => cases own
  | retired own => cases own

/-! ## Runs -/

/-- Everything is in its place after a run. -/
structure Journal.Regular (limits : Limits) (actions : List (Action α)) (j : Journal α) : Prop where
  /-- Every task that was accepted has ended, or a thread works on it, or it waits in a queue. -/
  places : j.log.accepted.Perm
    (j.log.ended ++ held j.pool.threads ++ (j.pool.primary ++ j.pool.overflow.tasks))
  /-- What was begun has ended or is worked on. -/
  begun : j.log.begun.Perm (j.log.ended ++ held j.pool.threads)
  counted : j.pool.counters.submitted = j.pool.counters.completed + j.pool.counters.panicked
    + (held j.pool.threads).length + j.pool.primary.length + j.pool.overflow.size
  accepted : j.pool.counters.submitted = j.log.accepted.length
  primary_le : j.pool.primary.length ≤ limits.capacity
  threads_le : j.pool.threads.length ≤ limits.most
  /-- The numbers in use are distinct, and those of the threads. -/
  ids_nodup : j.pool.ids.inUse.Nodup
  ids_threads : j.pool.ids.inUse.Perm (j.pool.threads.map Thread.id)
  ids_size : j.pool.ids.size = j.pool.threads.length
  ids_range : ∀ n ∈ j.pool.ids.inUse, 1 ≤ n ∧ n ≤ limits.most
  /-- A task waits only if the core threads are there. -/
  staffed : .shutDown ∉ actions → (j.pool.primary ≠ [] ∨ j.pool.overflow.size ≠ 0) →
    limits.core ≤ j.pool.threads.length
  /-- A task is taken in until the pool is shut down, and never after that. -/
  taken : ∀ seq label work now,
    (∃ p, j.pool.enter seq label work now = .ok p) ↔ .shutDown ∉ actions
  /-- Tasks leave the overflow queue in the order in which they entered it, as long as no submission is
  taken apart and submission numbers have not come round. -/
  queued : (∀ a ∈ actions, a.isAtomic = true) → j.log.accepted.length ≤ UInt64.size →
    j.log.parked = j.log.unparked ++ j.pool.overflow.tasks
  /-- When no thread is left, as after shutting down, every task was begun once and has ended. -/
  done : j.pool.threads = [] → j.log.accepted.Perm j.log.ended ∧ j.log.begun.Perm j.log.ended

/-- In every run of whole turns, the queues are in the order of submission. -/
theorem queued_run {actions : List (Action α)} (hatomic : ∀ a ∈ actions, a.isAtomic = true)
    (hlast : ((Journal.start limits).run actions).log.accepted.length ≤ UInt64.size) :
    Queued ((Journal.start limits).run actions).pool.outline ((Journal.start limits).run actions).log := by
  have hempty : Queued (Journal.start limits : Journal α).pool.outline {} :=
    ⟨fun _ => rfl, nofun, rfl⟩
  refine Journal.run_keeps_atomic (I := fun o l => l.accepted.length ≤ UInt64.size → Queued o l)
    (fun {a o o' l m} ha _ h ht hlast => ?_) (fun {o o' l m label work now} _ h ht hlast => ?_)
    (Journal.numbered_start limits) (fun _ => hempty) hatomic hlast
  · have hserves := Serves.of_turn ha ht
    rw [Log.accepted_append, hserves.accepted, List.append_nil] at hlast
    exact (h hlast).serves hserves
  · have hbefore : l.accepted.length ≤ UInt64.size := by
      rw [Log.accepted_append, List.length_append] at hlast
      exact Nat.le_of_add_right_le hlast
    exact (h hbefore).submit hlast ht

section Regular

variable {j : Journal α} {actions : List (Action α)}

/-- A pool with too few threads has nothing that waits. -/
theorem core_le_threads (hbounded : j.pool.outline.Bounded limits) (hstaffed : j.pool.outline.Staffed)
    (hopen : j.pool.isShutDown = false) (hwaiting : j.pool.primary ≠ [] ∨ j.pool.overflow.size ≠ 0) :
    limits.core ≤ j.pool.threads.length := by
  apply Nat.not_lt.mp
  intro hfew
  rw [← hbounded.limits_eq] at hfew
  obtain ⟨hprimary, hparked⟩ := hstaffed.core hopen hfew
  rcases hwaiting with hne | hne
  · exact hne hprimary
  · exact hne (List.length_eq_zero_iff.mpr hparked)

/-- Only a pool that is shut down refuses a task. -/
theorem enter_eq_ok_iff (p : Pool α) (seq : UInt64) (label : String) (work : α) (now : Nat) :
    (∃ q, p.enter seq label work now = .ok q) ↔ p.isShutDown = false := by
  constructor
  · rintro ⟨q, hq⟩
    cases hclosed : p.isShutDown with
    | false => rfl
    | true =>
      rw [enter, if_pos hclosed] at hq
      cases hq
  · intro hopen
    exact ⟨_, enter_of_open hopen seq label work now⟩

/-- Without threads, all that was accepted has ended. -/
theorem Accounted.done (h : Accounted o l) (hstaffed : o.Staffed) (hnone : o.threads = []) :
    l.accepted.Perm l.ended ∧ l.begun.Perm l.ended := by
  obtain ⟨hprimary, hparked⟩ := hstaffed.manned hnone
  have hheld : held o.threads = [] := by
    rw [hnone]
    rfl
  have haccepted := h.accepted
  have hbegun := h.begun
  rw [hheld, List.append_nil] at haccepted hbegun
  rw [Outline.queue, hprimary, hparked, List.map_nil, List.append_nil, List.append_nil] at haccepted
  exact ⟨haccepted, hbegun⟩

end Regular

/-- Whatever happens to a pool, no task is lost and none is run twice. -/
theorem run_regular (limits : Limits) (actions : List (Action α)) :
    ((Journal.start limits).run actions).Regular limits actions := by
  have hstart := Journal.numbered_start (α := α) limits
  obtain ⟨hnumbered, hbounded⟩ := Journal.run_keeps (I := fun o _ => o.Bounded limits)
    (fun hn h ht => h.turn hn ht) hstart ⟨rfl, Nat.zero_le _, Nat.zero_le _, nofun⟩ actions
  obtain ⟨-, hstaffed⟩ := Journal.run_keeps (I := fun o _ => o.Staffed)
    (fun _ h ht => h.turn ht) hstart ⟨fun _ _ => ⟨rfl, rfl⟩, fun _ => ⟨rfl, rfl⟩⟩ actions
  obtain ⟨-, haccounted⟩ := Journal.run_keeps (I := Accounted)
    (fun _ h ht => h.next (.of_turn ht)) hstart ⟨.nil, .nil, rfl, rfl⟩ actions
  have hopen : ((Journal.start limits).run actions).pool.isShutDown = false ↔ .shutDown ∉ actions := by
    have hshut := Journal.isShutDown_run hstart actions
    rw [or_iff_right nofun] at hshut
    rw [← hshut, Bool.not_eq_true]
  exact
    { places := haccounted.accepted
      begun := haccounted.begun
      counted := haccounted.counted
      accepted := haccounted.submitted
      primary_le := hbounded.primary_le
      threads_le := hbounded.threads_le
      ids_nodup := hnumbered.ordered.nodup
      ids_threads := hnumbered.threads
      ids_size := hnumbered.count
      ids_range := fun n hn => ⟨hnumbered.ordered.positive n hn, hbounded.ids_le n hn⟩
      staffed := fun hnever => core_le_threads hbounded hstaffed (hopen.mpr hnever)
      taken := fun seq label work now => (enter_eq_ok_iff _ seq label work now).trans hopen
      queued := fun hatomic hlast => (queued_run hatomic hlast).order
      done := haccounted.done hstaffed }

end FlightRelay.Pool

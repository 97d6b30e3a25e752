import FlightRelay.Pool.Basic
import FlightRelay.Proofs.Pool.Ids

/-!
# Outlines of pools

The records of threads and the reports on the backlog decide nothing.  The outline of a pool leaves them
out, and each operation of a pool is given here by what it does to the outline.
-/

namespace FlightRelay.Pool

variable {α : Type}

/-- What of a pool decides where tasks go, and what it counts of them. -/
structure Outline (α : Type) where
  limits : Limits
  primary : List (Task α)
  /-- The overflow queue, the next task first. -/
  parked : List (Waiting (Task α))
  threads : List (Thread α)
  ids : Ids
  isShutDown : Bool
  nextSeq : UInt64
  submitted : Nat
  completed : Nat
  panicked : Nat

/-- A pool without the records of its threads and without what it reports. -/
def outline (p : Pool α) : Outline α where
  limits := p.limits
  primary := p.primary
  parked := p.overflow.entries
  threads := p.threads
  ids := p.ids
  isShutDown := p.isShutDown
  nextSeq := p.nextSeq
  submitted := p.counters.submitted
  completed := p.counters.completed
  panicked := p.counters.panicked

namespace Outline

/-- How many tasks the primary queue has room for. -/
def room (o : Outline α) : Nat := o.limits.capacity - o.primary.length

/-- The tasks that can leave the overflow queue. -/
def leaving (o : Outline α) : List (Task α) := (o.parked.take o.room).map Waiting.task

/-- The primary queue once it is filled. -/
def filled (o : Outline α) : List (Task α) := o.primary ++ o.leaving

/-- What stays in the overflow queue when the primary queue is filled. -/
def staying (o : Outline α) : List (Waiting (Task α)) := o.parked.drop o.room

/-- The numbers in use are those of the threads, each once. -/
structure Numbered (o : Outline α) : Prop where
  ordered : o.ids.Ordered
  threads : o.ids.inUse.Perm (o.threads.map Thread.id)

namespace Numbered

variable {o : Outline α}

/-- No two threads have the same number. -/
theorem nodup (h : o.Numbered) : (o.threads.map Thread.id).Nodup :=
  h.threads.nodup_iff.mp h.ordered.nodup

/-- The next number is that of no thread. -/
theorem fresh (h : o.Numbered) : ∀ t ∈ o.threads, t.id ≠ o.ids.leastFree := by
  intro t ht he
  have hmem : t.id ∈ o.ids.inUse := h.threads.mem_iff.mpr (List.mem_map_of_mem ht)
  rw [he] at hmem
  exact Ids.leastFree_not_mem h.ordered.ascending hmem

end Numbered

end Outline

/-! ## Queues -/

section Outlines

variable (p : Pool α) (id now : Nat)

theorem outline_wake (n : Nat) :
    (p.wake n).outline = { p.outline with threads := wakeFirst n p.outline.threads } := rfl

theorem outline_observe : (p.observe now).outline = p.outline := by
  unfold observe
  dsimp only
  split <;> rfl

/-- What moves is the head of the overflow, as far as there is room. -/
theorem moveUpTo_eq (room : Nat) (p : Pool α) : moveUpTo room p
    = { p with
        primary := p.primary ++ (p.overflow.entries.take room).map Waiting.task
        overflow := ⟨p.overflow.entries.drop room⟩ } := by
  induction room generalizing p with
  | zero => simp [moveUpTo]
  | succ room ih =>
    rcases p with ⟨_, _, ⟨_ | ⟨w, rest⟩⟩, _, _, _, _, _, _, _⟩
    · simp [moveUpTo, Overflow.pop?]
    · simp [moveUpTo, Overflow.pop?, ih]

/-- Moving fills the primary queue and leaves the rest. -/
theorem outline_moveOverflow : p.moveOverflow.outline
    = { p.outline with primary := p.outline.filled, parked := p.outline.staying } := by
  rw [moveOverflow, moveUpTo_eq]
  rfl

end Outlines

/-! ## Threads -/

/-- The task that a thread works on. -/
def Thread.task? (t : Thread α) : Option (Task α) :=
  match t.phase with
  | .running task => some task
  | _ => none

/-- The tasks in the overflow queue, the next one first. -/
def Overflow.tasks (q : Overflow (Task α)) : List (Task α) := q.entries.map Waiting.task

/-- The tasks that threads work on. -/
def held (ts : List (Thread α)) : List (Task α) := ts.filterMap Thread.task?

/-- What the thread with a number is at. -/
def phase? (p : Pool α) (id : Nat) : Option (Phase α) :=
  (p.threads.find? fun t => t.id = id).map Thread.phase

section Threads

variable {p : Pool α} {ts before after : List (Thread α)} {t : Thread α} {id n now : Nat}
  {phase : Phase α} {task : Task α}

theorem held_append : held (before ++ after) = held before ++ held after := List.filterMap_append

theorem held_cons : held (t :: after) = t.task?.toList ++ held after := by
  rw [held, List.filterMap_cons]
  cases t.task? <;> rfl

@[simp] theorem wakeFirst_zero : wakeFirst 0 ts = ts := by
  cases ts <;> rfl

/-- Waking threads changes nothing that a thread has both asleep and awake. -/
theorem wakeFirst_map {β : Type} {f : Thread α → β}
    (hf : ∀ t : Thread α, t.isWaiting = true → f ⟨t.id, .seeking⟩ = f t) (n : Nat)
    (ts : List (Thread α)) : (wakeFirst n ts).map f = ts.map f := by
  induction ts generalizing n with
  | nil => simp [wakeFirst]
  | cons t ts ih =>
    cases n with
    | zero => rw [wakeFirst_zero]
    | succ n =>
      rw [wakeFirst]
      split
      · rename_i hwaiting
        rw [List.map_cons, List.map_cons, ih, hf t hwaiting]
      · rw [List.map_cons, List.map_cons, ih]

/-- Waking keeps the threads. -/
theorem wakeFirst_ids (n : Nat) (ts : List (Thread α)) :
    (wakeFirst n ts).map Thread.id = ts.map Thread.id :=
  wakeFirst_map (fun _ _ => rfl) n ts

theorem wakeFirst_length : (wakeFirst n ts).length = ts.length := by
  have hlength := congrArg List.length (wakeFirst_ids n ts)
  simpa using hlength

/-- Threads that are woken have no task. -/
theorem held_wakeFirst : held (wakeFirst n ts) = held ts := by
  have htask : ∀ t : Thread α, t.isWaiting = true → (⟨t.id, .seeking⟩ : Thread α).task? = t.task? := by
    rintro ⟨id, phase⟩ hwaiting
    cases phase with
    | waiting => rfl
    | _ => cases hwaiting
  have hheld : ∀ us : List (Thread α), held us = (us.map Thread.task?).filterMap id := by
    intro us
    rw [List.filterMap_map]
    rfl
  rw [hheld, hheld, wakeFirst_map htask]

/-- A thread stands between others, all with other numbers. -/
structure Among (ts : List (Thread α)) (t : Thread α) (before after : List (Thread α)) : Prop where
  eq : ts = before ++ t :: after
  others : ∀ u ∈ before ++ after, u.id ≠ t.id

/-- A thread with a phase stands somewhere among the others. -/
theorem exists_among (hp : p.outline.Numbered) (h : p.phase? id = some phase) :
    ∃ before after, Among p.threads ⟨id, phase⟩ before after := by
  have hnodup : (p.threads.map Thread.id).Nodup := hp.nodup
  obtain ⟨t, ht, rfl⟩ := Option.map_eq_some_iff.mp h
  obtain ⟨hid, before, after, heq, -⟩ := List.find?_eq_some_iff_append.mp ht
  obtain rfl := of_decide_eq_true hid
  have hothers : (t.id :: (before ++ after).map Thread.id).Nodup := by
    rw [heq] at hnodup
    exact (List.perm_middle.map Thread.id).nodup_iff.mp hnodup
  refine ⟨before, after, heq, ?_⟩
  intro u hu he
  have hmem : u.id ∈ (before ++ after).map Thread.id := List.mem_map_of_mem hu
  rw [he] at hmem
  exact (List.nodup_cons.mp hothers).1 hmem

/-- A phase is set in its place. -/
theorem outline_setPhase (h : Among p.threads t before after) (phase : Phase α) :
    (p.setPhase t.id phase).outline
      = { p.outline with threads := before ++ ⟨t.id, phase⟩ :: after } := by
  have hsame : ∀ us : List (Thread α), (∀ u ∈ us, u.id ≠ t.id) →
      us.map (fun u => if u.id = t.id then ⟨t.id, phase⟩ else u) = us := by
    intro us hus
    have hid : us.map (fun u => if u.id = t.id then ⟨t.id, phase⟩ else u) = us.map id := by
      apply List.map_congr_left
      intro u hu
      exact if_neg (hus u hu)
    rw [hid, List.map_id]
  have hthreads : (p.setPhase t.id phase).threads = before ++ ⟨t.id, phase⟩ :: after := by
    rw [setPhase, h.eq, List.map_append, List.map_cons, if_pos rfl,
      hsame before fun u hu => h.others u (List.mem_append_left _ hu),
      hsame after fun u hu => h.others u (List.mem_append_right _ hu)]
  rw [← hthreads]
  rfl

theorem Among.perm (h : Among ts t before after) : ts.Perm (t :: (before ++ after)) := by
  rw [h.eq]
  exact List.perm_middle

/-- What a thread works on, besides what the others do. -/
theorem Among.held_eq (h : Among ts t before after) :
    (held ts).Perm (t.task?.toList ++ held (before ++ after)) := by
  rw [h.eq, held_append, held_cons, held_append]
  exact List.perm_append_comm_assoc _ _ _

/-- A thread that does something else works on something else. -/
theorem Among.held_other (h : Among ts t before after) (u : Thread α) :
    (t.task?.toList ++ held (before ++ u :: after)).Perm (u.task?.toList ++ held ts) := by
  have hu : (held (before ++ u :: after)).Perm (u.task?.toList ++ held (before ++ after)) := by
    rw [held_append, held_cons, held_append]
    exact List.perm_append_comm_assoc _ _ _
  have hswap := List.perm_append_comm_assoc t.task?.toList u.task?.toList (held (before ++ after))
  have ht := h.held_eq.symm.append_left u.task?.toList
  exact ((hu.append_left _).trans hswap).trans ht

/-- A thread that looks for a task or sleeps works on none. -/
theorem task?_of_free (free : phase = .seeking ∨ phase = .waiting) :
    (⟨id, phase⟩ : Thread α).task? = none := by
  rcases free with rfl | rfl
  · rfl
  · rfl

theorem Among.length (h : Among ts t before after) (u : Thread α) :
    (before ++ u :: after).length = ts.length := by
  rw [h.eq, List.length_append, List.length_append, List.length_cons, List.length_cons]

theorem Among.filter (h : Among ts t before after) :
    ts.filter (fun u => u.id ≠ t.id) = before ++ after := by
  have hsame : (before ++ after).filter (fun u => u.id ≠ t.id) = before ++ after := by
    apply List.filter_eq_self.mpr
    intro u hu
    exact decide_eq_true (h.others u hu)
  rw [h.eq, List.filter_append, List.filter_cons_of_neg (by simp), ← List.filter_append, hsame]

/-- A thread begins a task in its place. -/
theorem outline_run (h : Among p.threads t before after) : (p.run t.id task now).outline
    = { p.outline with threads := before ++ ⟨t.id, .running task⟩ :: after } :=
  outline_setPhase h (.running task)

/-- A thread that goes to sleep is the last to be woken. -/
theorem outline_sleep (h : Among p.threads t before after) : (p.sleep t.id).outline
    = { p.outline with threads := before ++ after ++ [⟨t.id, .waiting⟩] } := by
  rw [← h.filter]
  rfl

/-- A thread that ends gives its number back. -/
theorem outline_retire (h : Among p.threads t before after) : (p.retire t.id).outline
    = { p.outline with threads := before ++ after, ids := (p.ids.release t.id).2 } := by
  rw [← h.filter]
  rfl

/-- A new thread has the next number, and a task at once. -/
theorem outline_spawn (p : Pool α) (hfresh : ∀ t ∈ p.threads, t.id ≠ p.ids.leastFree) (task : Task α) :
    (p.spawn task now).outline
      = { p.outline with
          threads := p.threads ++ [⟨p.ids.leastFree, .running task⟩]
          ids := p.ids.acquire.2 } := by
  have hamong : Among (p.threads ++ [⟨p.ids.leastFree, .seeking⟩]) ⟨p.ids.leastFree, .seeking⟩
      p.threads [] := by
    refine ⟨rfl, ?_⟩
    rw [List.append_nil]
    exact hfresh
  rw [spawn]
  exact outline_run (t := ⟨p.ids.leastFree, .seeking⟩) (by exact hamong)

end Threads

/-! ## Taking a task in -/

/-- Where a task goes. -/
inductive Place where
  | thread
  | primary
  | overflow

/-- Where the next task goes. -/
def place (p : Pool α) : Place :=
  if p.threads.length < p.limits.core then .thread
  else if p.primary.length < p.limits.capacity then .primary
  else if p.threads.length < p.limits.most then .thread
  else .overflow

section Entering

variable {p : Pool α}

/-- A task gets a thread, or waits in the primary queue, or in the overflow, and for each there is one
reason. -/
theorem place_cases (p : Pool α) :
    p.place = .thread ∧ (p.threads.length < p.limits.core
        ∨ p.limits.capacity ≤ p.primary.length ∧ p.threads.length < p.limits.most) ∨
      p.place = .primary ∧ p.limits.core ≤ p.threads.length ∧ p.primary.length < p.limits.capacity ∨
      p.place = .overflow ∧ p.limits.most ≤ p.threads.length
        ∧ p.limits.capacity ≤ p.primary.length := by
  unfold place
  split
  · left
    exact ⟨rfl, by omega⟩
  · split
    · right
      left
      exact ⟨rfl, by omega, by omega⟩
    · split
      · left
        exact ⟨rfl, by omega⟩
      · right
        right
        exact ⟨rfl, by omega, by omega⟩

/-- The pool with a task at its place. -/
def settled (p : Pool α) (w : Waiting (Task α)) : Place → Pool α
  | .thread => p.spawn w.task w.since
  | .primary => { p with primary := p.primary ++ [w.task] }.wake 1
  | .overflow =>
    let p := p.tally fun c => { c with overflowed := c.overflowed + 1 }
    { p with overflow := p.overflow.push w }.observe w.since

/-- A pool that takes tasks counts them and puts them where they go. -/
theorem enter_of_open (hopen : p.isShutDown = false) (seq : UInt64) (label : String) (work : α)
    (now : Nat) : p.enter seq label work now
      = .ok ((p.tally fun c => { c with submitted := c.submitted + 1 }).settled
          ⟨seq, now, ⟨label, work⟩⟩ p.place) := by
  rw [enter, if_neg (by rw [hopen]; decide)]
  refine congrArg Except.ok ?_
  unfold place
  by_cases hcore : p.threads.length < p.limits.core
  · rw [if_pos hcore]
    exact if_pos hcore
  · refine (if_neg hcore).trans ?_
    rw [if_neg hcore]
    by_cases hroom : p.primary.length < p.limits.capacity
    · rw [if_pos hroom]
      exact if_pos hroom
    · refine (if_neg hroom).trans ?_
      rw [if_neg hroom]
      by_cases hmost : p.threads.length < p.limits.most
      · rw [if_pos hmost]
        exact if_pos hmost
      · rw [if_neg hmost]
        exact if_neg hmost

end Entering

/-! ## The steps of a thread -/

section Steps

variable {p : Pool α} {o : Outline α} {id now : Nat} {phase : Phase α} {task : Task α}
  {before after : List (Thread α)} {rest : List (Task α)}

/-- A task that ends is counted. -/
theorem outline_finish {panicked : Bool} (h : Among p.threads ⟨id, .running task⟩ before after) :
    (p.finish id panicked now).outline
      = { p.outline with
          threads := before ++ ⟨id, .finished⟩ :: after
          completed := if panicked then p.outline.completed else p.outline.completed + 1
          panicked := if panicked then p.outline.panicked + 1 else p.outline.panicked } := by
  have hphase := outline_setPhase h .finished
  cases panicked with
  | true => exact congrArg (fun o : Outline α => { o with panicked := o.panicked + 1 }) hphase
  | false => exact congrArg (fun o : Outline α => { o with completed := o.completed + 1 }) hphase

/-- A thread that has finished a task fills the primary queue. -/
theorem outline_drain (h : Among p.threads ⟨id, .finished⟩ before after) : (p.drain id now).outline
    = { p.outline with
        primary := p.outline.filled
        parked := p.outline.staying
        threads := wakeFirst (p.outline.leaving.length - 1) (before ++ ⟨id, .seeking⟩ :: after) } := by
  have hphase := outline_setPhase h .seeking
  unfold drain
  dsimp only
  split
  · rename_i hsize
    have hparked : p.outline.parked = [] := List.length_eq_zero_iff.mp hsize
    rw [hphase]
    simp [Outline.filled, Outline.leaving, Outline.staying, hparked]
  · have hmoved : (p.setPhase id .seeking).moveOverflow.outline
        = { p.outline with
            primary := p.outline.filled
            parked := p.outline.staying
            threads := before ++ ⟨id, .seeking⟩ :: after } := by
      rw [outline_moveOverflow, hphase]
      rfl
    have hprimary : (p.setPhase id .seeking).moveOverflow.primary = p.outline.filled :=
      congrArg Outline.primary hmoved
    have hcount : (p.setPhase id .seeking).moveOverflow.primary.length
        - (p.setPhase id .seeking).primary.length = p.outline.leaving.length := by
      rw [hprimary, Outline.filled, List.length_append]
      exact Nat.add_sub_cancel_left _ _
    rw [outline_observe, hcount, outline_wake, hmoved]

/-- Moving leaves the threads in place. -/
theorem Among.moveOverflow (h : Among p.threads ⟨id, phase⟩ before after) :
    Among p.moveOverflow.threads ⟨id, phase⟩ before after := by
  have hthreads : p.moveOverflow.threads = p.threads := congrArg Outline.threads (outline_moveOverflow p)
  rw [hthreads]
  exact h

/-- After moving, the primary queue is filled. -/
theorem primary_moveOverflow : p.moveOverflow.primary = p.outline.filled :=
  congrArg Outline.primary (outline_moveOverflow p)

/-- A thread that finds a task takes it. -/
theorem outline_seek_of_cons (h : Among p.threads ⟨id, phase⟩ before after)
    (hnext : p.outline.filled = task :: rest) : (p.seek id now).outline
      = { p.outline with
          primary := rest
          parked := p.outline.staying
          threads := before ++ ⟨id, .running task⟩ :: after } := by
  have hseek : p.seek id now = { p.moveOverflow with primary := rest }.run id task now := by
    unfold seek
    dsimp only
    rw [primary_moveOverflow, hnext]
  rw [hseek]
  refine (outline_run (p := { p.moveOverflow with primary := rest }) h.moveOverflow).trans ?_
  exact congrArg (fun o : Outline α =>
    { o with primary := rest, threads := before ++ Thread.mk id (.running task) :: after })
    (outline_moveOverflow p)

/-- A queue that cannot be filled is empty, and so is the overflow queue. -/
theorem Outline.filled_eq_nil (h : o.filled = []) : o.primary = [] ∧ o.parked = [] := by
  obtain ⟨hprimary, hleaving⟩ := List.append_eq_nil_iff.mp h
  have htake : o.parked.take o.room = [] := List.map_eq_nil_iff.mp hleaving
  have hroom : 0 < o.room := by
    rw [room, hprimary]
    exact o.limits.capacity_pos
  refine ⟨hprimary, ?_⟩
  rcases List.take_eq_nil_iff.mp htake with hfull | hparked
  · omega
  · exact hparked

/-- A thread that finds no task ends if the pool is shut down, and goes to sleep otherwise. -/
theorem outline_seek_of_nil (h : Among p.threads ⟨id, phase⟩ before after) (hnone : p.outline.filled = []) :
    (p.seek id now).outline
      = if p.isShutDown then
          { p.outline with threads := before ++ after, ids := (p.ids.release id).2 }
        else { p.outline with threads := before ++ after ++ [⟨id, .waiting⟩] } := by
  obtain ⟨hprimary, hparked⟩ := Outline.filled_eq_nil hnone
  have hsame : p.moveOverflow.outline = p.outline := by
    rw [outline_moveOverflow, hnone, Outline.staying, hparked, List.drop_nil, ← hprimary, ← hparked]
  have hseek : p.seek id now
      = if p.moveOverflow.isShutDown then p.moveOverflow.retire id else p.moveOverflow.sleep id := by
    unfold seek
    dsimp only
    rw [primary_moveOverflow, hnone]
  rw [hseek, show p.moveOverflow.isShutDown = p.isShutDown from congrArg Outline.isShutDown hsame]
  split
  · rw [outline_retire h.moveOverflow, hsame]
    exact congrArg (fun ids => { p.outline with threads := before ++ after, ids := (ids.release id).2 })
      (congrArg Outline.ids hsame)
  · rw [outline_sleep h.moveOverflow, hsame]

end Steps

end FlightRelay.Pool

import FlightRelay.Proofs.Pool.Accounts

/-!
# Waking threads

A task that goes to the primary queue wakes one thread, and overflow that moves up wakes threads for all
but one of its tasks; a task that goes to the overflow queue wakes nobody.  As long as no burst of tasks
fills the primary queue before the threads that it woke are back, for every task that waits beside a
sleeping thread there is a thread on its way to the queue.  After such a burst a thread may sleep beside
work, but some thread is awake.
-/

namespace FlightRelay.Pool

variable {α : Type} {a : Action α} {o o' : Outline α} {l : Log α} {limits : Limits}

/-! ## Threads asleep and on their way -/

/-- The thread is on its way to the queue: it has just ended a task or was woken. -/
def Thread.isReturning (t : Thread α) : Bool :=
  match t.phase with
  | .finished | .seeking => true
  | _ => false

/-- How many threads sleep. -/
def asleep (ts : List (Thread α)) : Nat := ts.countP Thread.isWaiting

/-- How many threads are on their way to the queue. -/
def returning (ts : List (Thread α)) : Nat := ts.countP Thread.isReturning

section Threads

variable {ts before after : List (Thread α)} {t : Thread α} {id n : Nat} {phase : Phase α}

theorem asleep_append : asleep (before ++ after) = asleep before + asleep after := List.countP_append

theorem returning_append : returning (before ++ after) = returning before + returning after :=
  List.countP_append

theorem asleep_cons : asleep (t :: ts) = asleep ts + t.isWaiting.toNat := by
  rw [asleep, List.countP_cons]
  cases t.isWaiting <;> rfl

theorem returning_cons : returning (t :: ts) = returning ts + t.isReturning.toNat := by
  rw [returning, List.countP_cons]
  cases t.isReturning <;> rfl

/-- Nobody sleeps and is on the way at once. -/
theorem isReturning_of_isWaiting (h : t.isWaiting = true) : t.isReturning = false := by
  rcases t with ⟨id, phase⟩
  cases phase with
  | waiting => rfl
  | _ => cases h

/-- No thread both sleeps and returns. -/
theorem asleep_add_returning_le (ts : List (Thread α)) : asleep ts + returning ts ≤ ts.length := by
  induction ts with
  | nil => exact Nat.le_refl 0
  | cons t ts ih =>
    have hone : t.isWaiting.toNat + t.isReturning.toNat ≤ 1 := by
      cases hwaiting : t.isWaiting with
      | true => simp [isReturning_of_isWaiting hwaiting]
      | false => simpa using Bool.toNat_le t.isReturning
    rw [asleep_cons, returning_cons, List.length_cons]
    omega

/-- As many threads as are woken stop sleeping and set out. -/
theorem wakeFirst_counts (n : Nat) (ts : List (Thread α)) :
    asleep (wakeFirst n ts) = asleep ts - n ∧
      returning (wakeFirst n ts) = returning ts + min n (asleep ts) := by
  induction ts generalizing n with
  | nil => simp [wakeFirst, asleep, returning]
  | cons t ts ih =>
    cases n with
    | zero => simp
    | succ n =>
      rw [wakeFirst]
      cases hwaiting : t.isWaiting with
      | true =>
        obtain ⟨hasleep, hreturning⟩ := ih n
        have hwoken : (⟨t.id, .seeking⟩ : Thread α).isWaiting = false := rfl
        have hback : (⟨t.id, .seeking⟩ : Thread α).isReturning = true := rfl
        simp only [if_true, asleep_cons, returning_cons, hasleep, hreturning, hwaiting, hwoken, hback,
          isReturning_of_isWaiting hwaiting, Bool.toNat_false, Bool.toNat_true]
        omega
      | false =>
        obtain ⟨hasleep, hreturning⟩ := ih (n + 1)
        simp only [Bool.false_eq_true, if_false, asleep_cons, returning_cons, hasleep, hreturning,
          hwaiting, Bool.toNat_false]
        omega

/-- A thread that is at something else counts as what it is at now. -/
theorem Among.asleep_other (h : Among ts t before after) (u : Thread α) :
    asleep (before ++ u :: after) + t.isWaiting.toNat = asleep ts + u.isWaiting.toNat := by
  rw [h.eq, asleep_append, asleep_append, asleep_cons, asleep_cons]
  omega

/-- A change of one thread changes by one at most how many return. -/
theorem Among.returning_other (h : Among ts t before after) (u : Thread α) :
    returning (before ++ u :: after) + t.isReturning.toNat = returning ts + u.isReturning.toNat := by
  rw [h.eq, returning_append, returning_append, returning_cons, returning_cons]
  omega

end Threads

/-! ## Sleep beside waiting tasks -/

/-- The action hands a task in. -/
def Action.submits : Action α → Bool
  | .submit .. | .enter .. => true
  | _ => false

namespace Outline

/-- If a thread sleeps, then for every task that waits there is a thread on its way. -/
def Covered (o : Outline α) : Prop := 0 < asleep o.threads → o.queue.length ≤ returning o.threads

/-- A task that is handed in now is not put into the overflow queue beside a sleeping thread. -/
def Calm (o : Outline α) : Prop :=
  asleep o.threads = 0 ∨ o.primary.length < o.limits.capacity ∨ o.threads.length < o.limits.most

/-- The tasks in the primary queue are no more than the threads on their way. -/
theorem Covered.primary_le (h : o.Covered) (hsome : 0 < asleep o.threads) :
    o.primary.length ≤ returning o.threads := by
  have hqueue := h hsome
  rw [queue, List.length_append] at hqueue
  exact Nat.le_of_add_right_le hqueue

/-- A turn leaves the work covered, if tasks are taken in only where nobody has to sleep beside them. -/
theorem Covered.turn (h : o.Covered) (hcalm : a.submits = true → o.Calm)
    (ht : Turn a o o' l) : o'.Covered := by
  have hlength := (Balanced.of_turn ht).waiting.length_eq
  rw [List.length_append, List.length_append] at hlength
  intro hsome
  cases ht with
  | idle => exact h hsome
  | drawn => exact h hsome
  | started =>
    simp only [asleep_append, returning_append, List.length_singleton] at hsome hlength ⊢
    have hqueue := h hsome
    omega
  | queued =>
    obtain ⟨hasleep, hreturning⟩ := wakeFirst_counts 1 o.threads
    simp only [hasleep, hreturning, List.length_singleton, List.length_nil] at hsome hlength ⊢
    have hqueue := h (by omega)
    omega
  | parked takes staffed full =>
    -- the one turn that could leave work uncovered is what calm excludes
    rcases hcalm rfl with hnone | hroom | hfew
    · exact absurd hnone (Nat.ne_of_gt hsome)
    · exact absurd hroom (Nat.not_lt.mpr full)
    · exact absurd hfew (Nat.not_lt.mpr staffed)
  | @ended _ id now panicked task before after among =>
    have hasleep := among.asleep_other ⟨id, .finished⟩
    have hreturning := among.returning_other ⟨id, .finished⟩
    simp only [Thread.isWaiting, Thread.isReturning, Bool.toNat_false, Bool.toNat_true] at hasleep hreturning
    simp only [List.length_nil] at hsome hlength ⊢
    have hqueue := h (by omega)
    omega
  | @drained _ id now panicked before after among =>
    -- whoever drains goes on to seek, and wakes one thread for each further task that it has moved
    have hasleep := among.asleep_other ⟨id, .seeking⟩
    have hreturning := among.returning_other ⟨id, .seeking⟩
    simp only [Thread.isWaiting, Thread.isReturning, Bool.toNat_false] at hasleep hreturning
    obtain ⟨hawake, hwoken⟩ := wakeFirst_counts (o.leaving.length - 1) (before ++ ⟨id, .seeking⟩ :: after)
    simp only [hawake, hwoken, List.length_nil] at hsome hlength ⊢
    have hqueue := h (by omega)
    omega
  | @took a _ id phase task rest before after own among free next =>
    have hasleep := among.asleep_other ⟨id, .running task⟩
    have hreturning := among.returning_other ⟨id, .running task⟩
    simp only [List.length_nil, List.length_singleton] at hsome hlength ⊢
    rcases free with rfl | rfl
    · simp only [Thread.isWaiting, Thread.isReturning, Bool.toNat_false, Bool.toNat_true] at hasleep hreturning
      have hqueue := h (by omega)
      omega
    · simp only [Thread.isWaiting, Thread.isReturning, Bool.toNat_false, Bool.toNat_true] at hasleep hreturning
      have hqueue := h (by omega)
      omega
  | slept own among free primary parked =>
    simp [queue, primary, parked]
  | retired own among free primary parked =>
    simp [queue, primary, parked]
  | shut =>
    -- a shutdown leaves nobody asleep
    have hall : asleep o.threads ≤ o.threads.length := List.countP_le_length
    simp only [(wakeFirst_counts o.threads.length o.threads).1] at hsome
    omega

end Outline

/-! ## Runs without great bursts -/

/-- No task is put into the overflow queue while a thread sleeps. -/
def Paced : Pool α → List (Action α) → Prop
  | _, [] => True
  | p, a :: actions => (a.submits = true → p.outline.Calm) ∧ (p.act a).Paced actions

instance (o : Outline α) : Decidable o.Calm := inferInstanceAs (Decidable (_ ∨ _ ∨ _))

instance decidablePaced : (p : Pool α) → (actions : List (Action α)) → Decidable (p.Paced actions)
  | _, [] => inferInstanceAs (Decidable True)
  | p, a :: actions =>
    have := decidablePaced (p.act a) actions
    inferInstanceAs (Decidable (_ ∧ _))

/-- Every thread works or sleeps; none is on its way to the queue. -/
def Settled (p : Pool α) : Prop := ∀ t ∈ p.threads, t.isReturning = false

/-- A thread sleeps. -/
def SomeAsleep (p : Pool α) : Prop := ∃ t ∈ p.threads, t.isWaiting = true

instance (p : Pool α) : Decidable p.Settled :=
  inferInstanceAs (Decidable (∀ t ∈ p.threads, t.isReturning = false))

instance (p : Pool α) : Decidable p.SomeAsleep :=
  inferInstanceAs (Decidable (∃ t ∈ p.threads, t.isWaiting = true))

/-- No thread sleeps while a task waits to which no thread is on its way. -/
structure Vigilant (p : Pool α) : Prop where
  clear : p.Settled → p.SomeAsleep → p.primary = [] ∧ p.overflow.tasks = []
  /-- It takes a burst that fills the primary queue to put a task aside while a thread sleeps. -/
  burst : p.place = .overflow → p.SomeAsleep → p.limits.capacity ≤ returning p.threads

section Runs

variable {p : Pool α} {j : Journal α} {actions : List (Action α)}

/-- Some thread sleeps. -/
theorem asleep_pos_iff : 0 < asleep p.threads ↔ p.SomeAsleep := List.countP_pos_iff

/-- In a settled pool no thread is on its way back to the queue. -/
theorem returning_of_settled (h : p.Settled) : returning p.threads = 0 := by
  apply List.countP_eq_zero.mpr
  intro t ht
  rw [h t ht]
  decide

/-- Where the work is covered, no thread sleeps beside it. -/
theorem Vigilant.of_covered (h : p.outline.Covered) : p.Vigilant := by
  constructor
  · intro hsettled hsome
    have hqueue : p.outline.queue.length ≤ returning p.threads := h (asleep_pos_iff.mpr hsome)
    rw [returning_of_settled hsettled, Nat.le_zero] at hqueue
    exact List.append_eq_nil_iff.mp (List.length_eq_zero_iff.mp hqueue)
  · intro hplace hsome
    obtain ⟨hplace', -⟩ | ⟨hplace', -⟩ | ⟨-, -, hfull⟩ := p.place_cases
    · cases hplace.symm.trans hplace'
    · cases hplace.symm.trans hplace'
    · exact Nat.le_trans hfull (h.primary_le (asleep_pos_iff.mpr hsome))

/-- An action leaves the work covered. -/
theorem covered_act (hp : p.outline.Numbered) (h : p.outline.Covered)
    (hcalm : a.submits = true → p.outline.Calm) : (p.act a).outline.Covered := by
  cases a with
  | submit label work now =>
    -- a submission draws its number first, which concerns no thread
    have hdraw : p.draw.2.outline.Covered := h
    exact hdraw.turn (fun _ => hcalm rfl) (turn_enter (hp.turn .drawn) p.nextSeq label work now)
  | _ => exact h.turn hcalm (turn_act hp nofun)

/-- In a paced run, the work is covered all along. -/
theorem covered_run (hj : j.pool.outline.Numbered) (h : j.pool.outline.Covered)
    (hpaced : j.pool.Paced actions) : (j.run actions).pool.outline.Covered := by
  induction actions generalizing j with
  | nil => exact h
  | cons a actions ih =>
    obtain ⟨hcalm, hpaced⟩ := hpaced
    exact ih (j := j.step a) (Journal.numbered_step hj a) (covered_act hj h hcalm) hpaced

/-- As long as no task is put into the overflow queue while a thread sleeps, no thread sleeps beside work. -/
theorem vigilant_of_paced (h : Paced (start limits) actions) :
    ((Journal.start limits).run actions).pool.Vigilant :=
  .of_covered (covered_run (Journal.numbered_start limits) nofun h)

end Runs

/-! ## Two threads and room for one task -/

/-- Two core threads, no others, and room for one task in the primary queue. -/
def Limits.pair : Limits :=
  ⟨"pool", 2, 2, 1, ⟨40, 1500, 2500⟩, Nat.two_pos, Nat.le_refl 2, Nat.one_pos⟩

/-- Two tasks are submitted, and a thread begins with each; then both end, and the threads go to sleep. -/
def Action.lull : List (Action Nat) :=
  [.submit "lane" 1 0, .submit "lane" 2 0, .turn 1 false 0, .turn 1 false 0, .turn 1 false 0,
    .turn 2 false 0, .turn 2 false 0, .turn 2 false 0]

/-- Two tasks come one after the other, and the first thread takes a task in between. -/
theorem vigilant_of_paced_lull : Paced (start .pair)
      (Action.lull ++ [.submit "lane" 3 0, .turn 1 false 0, .submit "lane" 4 0]) ∧
    ((Journal.start .pair).run
      (Action.lull ++ [.submit "lane" 3 0, .turn 1 false 0, .submit "lane" 4 0])).pool.Vigilant :=
  ⟨by decide, vigilant_of_paced (by decide)⟩

/-- Two tasks come before the thread that the first of them woke is back: the second task waits in the
overflow queue, no thread is on its way to it, and one sleeps. -/
theorem slept_through :
    ((Journal.start .pair).run (Action.lull ++
      [.submit "lane" 3 0, .submit "lane" 4 0, .turn 1 false 0])).pool.Settled ∧
    ((Journal.start .pair).run (Action.lull ++
      [.submit "lane" 3 0, .submit "lane" 4 0, .turn 1 false 0])).pool.SomeAsleep ∧
    ((Journal.start .pair).run (Action.lull ++
      [.submit "lane" 3 0, .submit "lane" 4 0, .turn 1 false 0])).pool.overflow.tasks = [⟨"lane", 4⟩] :=
  ⟨by decide, by decide, rfl⟩

/-! ## Queues with room for every thread -/

section Room

variable {j : Journal α}

/-- With room for every thread, a task never has to be parked while one sleeps. -/
theorem calm_of_room (h : o.Covered) (hbounded : o.Bounded limits) (hroom : limits.most ≤ limits.capacity) :
    o.Calm := by
  have hsum := asleep_add_returning_le o.threads
  have hthreads := hbounded.threads_le
  rw [Outline.Calm, hbounded.limits_eq]
  by_cases hsome : 0 < asleep o.threads
  · have hprimary := h.primary_le hsome
    omega
  · omega

/-- With room for every thread, the work is covered in every run. -/
theorem covered_of_room (hj : j.pool.outline.Numbered) (h : j.pool.outline.Covered)
    (hbounded : j.pool.outline.Bounded limits) (hroom : limits.most ≤ limits.capacity)
    (actions : List (Action α)) : (j.run actions).pool.outline.Covered := by
  induction actions generalizing j with
  | nil => exact h
  | cons a actions ih =>
    obtain ⟨hnumbered, hbounded'⟩ := Journal.run_keeps (I := fun o _ => o.Bounded limits)
      (fun hn h ht => h.turn hn ht) hj hbounded [a]
    have hstep := covered_act (a := a) hj h fun _ => calm_of_room h hbounded hroom
    exact ih (j := j.step a) hnumbered hstep hbounded'

/-- Where the primary queue has a place for every thread, no thread ever sleeps beside work. -/
theorem vigilant_of_room (hroom : limits.most ≤ limits.capacity) (actions : List (Action α)) :
    ((Journal.start limits).run actions).pool.Vigilant := by
  have hbounded : (Journal.start limits : Journal α).pool.outline.Bounded limits :=
    ⟨rfl, Nat.zero_le _, Nat.zero_le _, nofun⟩
  exact .of_covered (covered_of_room (Journal.numbered_start limits) nofun hbounded hroom actions)

end Room

/-! ## After a great burst

A burst can leave threads asleep beside work, but not all of them: whoever works looks at the queues when
it is done. -/

/-- While a task waits, a thread is awake. -/
def Outline.Watched (o : Outline α) : Prop := o.queue ≠ [] → asleep o.threads < o.threads.length

namespace Outline

section Watch

variable {before after : List (Thread α)} {u : Thread α}

/-- A thread that is awake is not counted among those asleep. -/
theorem asleep_lt (hawake : u.isWaiting = false) :
    asleep (before ++ u :: after) < (before ++ u :: after).length := by
  have hbefore : asleep before ≤ before.length := List.countP_le_length
  have hafter : asleep after ≤ after.length := List.countP_le_length
  rw [asleep_append, asleep_cons, hawake, List.length_append, List.length_cons, Bool.toNat_false]
  omega

/-- As long as work waits, a turn leaves somebody awake. -/
theorem Watched.turn (h : o.Watched) (ht : Turn a o o' l) : o'.Watched := by
  intro hqueue
  cases ht with
  | idle => exact h hqueue
  | drawn => exact h hqueue
  | started => exact asleep_lt rfl
  | queued takes staffed roomy =>
    have hcore := o.limits.core_pos
    have hall : asleep o.threads ≤ o.threads.length := List.countP_le_length
    simp only [(wakeFirst_counts 1 o.threads).1, wakeFirst_length]
    omega
  | parked takes staffed full =>
    -- the primary queue is full, so that work waited already
    apply h
    intro hnone
    have hcapacity := o.limits.capacity_pos
    rw [(List.append_eq_nil_iff.mp hnone).1, List.length_nil] at full
    omega
  | ended among => exact asleep_lt rfl
  | @drained _ id now panicked before after among =>
    have hawake : asleep (before ++ ⟨id, .seeking⟩ :: after) < _ := asleep_lt rfl
    simp only [(wakeFirst_counts (o.leaving.length - 1) _).1, wakeFirst_length]
    omega
  | took => exact asleep_lt rfl
  | slept own among free primary parked => simp [queue, primary, parked] at hqueue
  | retired own among free primary parked => simp [queue, primary, parked] at hqueue
  | shut =>
    have hsome := h hqueue
    simp only [(wakeFirst_counts o.threads.length o.threads).1, wakeFirst_length]
    omega

end Watch

end Outline

/-- In every run, while a task waits in a queue, some thread is awake. -/
theorem someone_awake (limits : Limits) (actions : List (Action α))
    (hwaits : ((Journal.start limits).run actions).pool.primary ≠ [] ∨
      ((Journal.start limits).run actions).pool.overflow.tasks ≠ []) :
    ∃ t ∈ ((Journal.start limits).run actions).pool.threads, t.isWaiting = false := by
  obtain ⟨-, hwatched⟩ := Journal.run_keeps (I := fun o _ => o.Watched) (fun _ h ht => h.turn ht)
    (Journal.numbered_start limits) (fun hqueue => absurd rfl hqueue) actions
  have hsome := hwatched fun hnone => hwaits.elim
    (fun hprimary => hprimary (List.append_eq_nil_iff.mp hnone).1)
    (fun hoverflow => hoverflow (List.append_eq_nil_iff.mp hnone).2)
  by_cases hall : ∀ t ∈ ((Journal.start limits).run actions).pool.threads, t.isWaiting = true
  · exact absurd (List.countP_eq_length.mpr hall) (Nat.ne_of_lt hsome)
  · simpa using hall

end FlightRelay.Pool

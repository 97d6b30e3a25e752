import FlightRelay.Proofs.Pool.Accounts

/-!
# The order in which tasks are begun

Where every thread is a core thread, as in a pool with a single one, tasks are to be begun in the order in
which they were submitted.  They are, except for those that find room in the primary queue while others
wait in the overflow queue: a thread that takes a task leaves such room, and overflow moves up only when
the thread comes back.
-/

namespace FlightRelay.Pool

variable {α : Type} {a : Action α} {o o' : Outline α} {l m : Log α}

/-- No turn changes the limits. -/
theorem Turn.limits_eq (ht : Turn a o o' m) : o'.limits = o.limits := by
  cases ht <;> rfl

section Order

variable [DecidableEq α] {early late ts us : List (Task α)} {t : Task α}

/-- All tasks but some. -/
def besides (early ts : List (Task α)) : List (Task α) := ts.filter fun t => t ∉ early

theorem besides_append (ts us : List (Task α)) :
    besides early (ts ++ us) = besides early ts ++ besides early us := List.filter_append _ _

/-- What is left besides more tasks is left besides them one after the other. -/
theorem besides_more : besides (early ++ late) ts = besides late (besides early ts) := by
  rw [besides, besides, besides, List.filter_filter]
  apply List.filter_congr
  intro t _
  simp [Bool.and_comm]

/-- A task that is passed over does not count for what is left. -/
theorem besides_skip (ht : t ∈ early) (ts us : List (Task α)) :
    besides early (ts ++ [t] ++ us) = besides early (ts ++ us) := by
  have hnone : besides early [t] = [] := by
    simp [besides, ht]
  rw [besides_append, besides_append, hnone, List.append_nil, besides_append]

/-- Tasks are begun, and wait, in the order in which they were accepted, but for those that went ahead of
others. -/
def Ordered (o : Outline α) (l : Log α) : Prop :=
  besides l.ahead l.accepted = besides l.ahead (l.begun ++ o.queue)

/-- A turn that serves begins the oldest of the tasks that wait. -/
theorem Ordered.serves (h : Ordered o l) (hm : Serves o o' m) : Ordered o' (l ++ m) := by
  rw [Ordered, Log.ahead_append, Log.accepted_append, Log.begun_append, hm.ahead, hm.accepted,
    List.append_nil, List.append_nil, List.append_assoc, hm.queue]
  exact h

/-- A task goes behind all that wait. -/
theorem Ordered.behind (h : Ordered o l) (haccepted : m.accepted = [t]) (hahead : m.ahead = [])
    (hqueue : m.begun ++ o'.queue = o.queue ++ [t]) : Ordered o' (l ++ m) := by
  rw [Ordered, Log.ahead_append, Log.accepted_append, Log.begun_append, hahead, haccepted,
    List.append_nil, List.append_assoc, hqueue, ← List.append_assoc, besides_append,
    besides_append (l.begun ++ o.queue), h]

/-- A task goes ahead of some that wait. -/
theorem Ordered.ahead (h : Ordered o l) (haccepted : m.accepted = [t]) (hahead : m.ahead = [t])
    (hbegun : m.begun = []) (hfront : o.queue = ts ++ us) (hqueue : o'.queue = ts ++ [t] ++ us) :
    Ordered o' (l ++ m) := by
  have hmem : t ∈ l.ahead ++ [t] := List.mem_append_right _ (List.mem_singleton_self t)
  have hleft : besides (l.ahead ++ [t]) (l.accepted ++ [t]) = besides (l.ahead ++ [t]) l.accepted := by
    have hskip := besides_skip hmem l.accepted []
    rwa [List.append_nil, List.append_nil] at hskip
  have hright : besides (l.ahead ++ [t]) (l.begun ++ o'.queue)
      = besides (l.ahead ++ [t]) (l.begun ++ o.queue) := by
    rw [hqueue, hfront, ← List.append_assoc, ← List.append_assoc, besides_skip hmem, List.append_assoc]
  rw [Ordered, Log.ahead_append, Log.accepted_append, Log.begun_append, hahead, haccepted, hbegun,
    List.append_nil, hleft, hright, besides_more, besides_more, h]

/-- A task that is submitted last waits behind all others. -/
theorem Ordered.submit {label : String} {work : α} {now : Nat} (h : Ordered o l) (hq : Queued o l)
    (hstaffed : o.Staffed) (hcore : o.limits.most = o.limits.core)
    (hlast : (l ++ m).accepted.length ≤ UInt64.size)
    (ht : Turn (.enter o.nextSeq label work now) { o with nextSeq := o.nextSeq + 1 } o' m) :
    Ordered o' (l ++ m) := by
  cases ht with
  | idle =>
    rw [Log.append_empty]
    exact h
  | started takes short =>
    have hfew : o.threads.length < o.limits.core := by
      rcases short with hfew | ⟨-, hfew⟩
      · exact hfew
      · rwa [← hcore]
    obtain ⟨hprimary, hparked⟩ := hstaffed.core takes hfew
    refine h.behind (t := ⟨label, work⟩) rfl rfl ?_
    rw [Outline.queue, Outline.queue]
    simp [hprimary, hparked]
  | queued takes staffed roomy =>
    by_cases hnone : o.parked = []
    · refine h.behind (t := ⟨label, work⟩) rfl (if_pos hnone) ?_
      simp [Outline.queue, hnone]
    · exact h.ahead (t := ⟨label, work⟩) rfl (if_neg hnone) rfl rfl rfl
  | parked takes staffed full =>
    have hroom : l.accepted.length < UInt64.size := by
      rw [Log.accepted_append, List.length_append] at hlast
      exact hlast
    have hinsert := hq.insert_last now ⟨label, work⟩ (hq.next takes) hroom
    refine h.behind (t := ⟨label, work⟩) rfl rfl ?_
    rw [Outline.queue, Outline.queue, hinsert, List.map_append, List.append_assoc]
    rfl
  | took own => cases own
  | slept own => cases own
  | retired own => cases own

/-- Tasks were begun in the order in which they were submitted, and those that wait are to be taken in this
order: first what is in the primary queue, then the overflow queue.  Tasks that went ahead do not count. -/
def Journal.InOrder (j : Journal α) : Prop :=
  besides j.log.ahead j.log.accepted
    = besides j.log.ahead (j.log.begun ++ (j.pool.primary ++ j.pool.overflow.tasks))

/-- Where every thread is a core thread, no task is begun before one that was submitted earlier, unless it
found room in the primary queue while others waited in the overflow queue. -/
theorem begun_as_submitted {limits : Limits} (hcore : limits.most = limits.core)
    {actions : List (Action α)} (hatomic : ∀ a ∈ actions, a.isAtomic = true)
    (hlast : ((Journal.start limits).run actions).log.accepted.length ≤ UInt64.size) :
    ((Journal.start limits).run actions).InOrder := by
  have hstart : (Journal.start limits : Journal α).pool.outline.Staffed :=
    ⟨fun _ _ => ⟨rfl, rfl⟩, fun _ => ⟨rfl, rfl⟩⟩
  have hempty : Queued (Journal.start limits : Journal α).pool.outline {} := ⟨fun _ => rfl, nofun, rfl⟩
  have hrun := Journal.run_keeps_atomic (j := Journal.start limits)
    (I := fun o l => o.limits.most = o.limits.core ∧ o.Staffed
      ∧ (l.accepted.length ≤ UInt64.size → Queued o l ∧ Ordered o l))
    (fun {a o o' l m} ha _ h ht => ?turn) (fun {o o' l m label work now} _ h ht => ?submit)
    (Journal.numbered_start limits) ⟨hcore, hstart, fun _ => ⟨hempty, rfl⟩⟩ hatomic
  · exact (hrun.2.2 hlast).2
  case turn =>
    obtain ⟨hmost, hstaffed, horder⟩ := h
    have hserves := Serves.of_turn ha ht
    refine ⟨by rwa [ht.limits_eq], hstaffed.turn ht, fun hlast => ?_⟩
    rw [Log.accepted_append, hserves.accepted, List.append_nil] at hlast
    obtain ⟨hqueued, hordered⟩ := horder hlast
    exact ⟨hqueued.serves hserves, hordered.serves hserves⟩
  case submit =>
    obtain ⟨hmost, hstaffed, horder⟩ := h
    refine ⟨by rwa [ht.limits_eq], (hstaffed.turn .drawn).turn ht, fun hlast => ?_⟩
    have hbefore : l.accepted.length ≤ UInt64.size := by
      rw [Log.accepted_append, List.length_append] at hlast
      exact Nat.le_of_add_right_le hlast
    obtain ⟨hqueued, hordered⟩ := horder hbefore
    exact ⟨hqueued.submit hlast ht, hordered.submit hqueued hstaffed hmost hlast ht⟩

end Order

/-! ## A pool with one thread and room for one task -/

/-- One thread, and room for one task in the primary queue. -/
def Limits.least : Limits := ⟨"pool", 1, 1, 1, ⟨40, 1500, 2500⟩, by decide, by decide, by decide⟩

/-- Three tasks are submitted; the first ends, the thread takes the second, and another one is submitted;
then the second ends, and the thread takes the next. -/
def Action.rush : List (Action Nat) :=
  [.submit "lane" 1 0, .submit "lane" 2 0, .submit "lane" 3 0,
    .turn 1 false 0, .turn 1 false 0, .turn 1 false 0, .submit "lane" 4 0,
    .turn 1 false 0, .turn 1 false 0, .turn 1 false 0]

/-- Only the task that went ahead is out of order. -/
theorem begun_as_submitted_rush :
    ((Journal.start .least).run Action.rush).log.ahead = [⟨"lane", 4⟩] ∧
      ((Journal.start .least).run Action.rush).InOrder :=
  ⟨rfl, begun_as_submitted rfl (by decide) (by decide)⟩

/-- The fourth task is begun while the third waits in the overflow queue. -/
theorem overtaken : (∀ a ∈ Action.rush, a.isAtomic = true) ∧
    ((Journal.start .least).run Action.rush).log.accepted
      = [⟨"lane", 1⟩, ⟨"lane", 2⟩, ⟨"lane", 3⟩, ⟨"lane", 4⟩] ∧
    ((Journal.start .least).run Action.rush).log.begun = [⟨"lane", 1⟩, ⟨"lane", 2⟩, ⟨"lane", 4⟩] ∧
    ((Journal.start .least).run Action.rush).pool.overflow.tasks = [⟨"lane", 3⟩] :=
  ⟨by decide, rfl, rfl, rfl⟩

/-! ## Passing a task over

As long as tasks come one at a time while the thread is at work, the task in the overflow queue stays
there: whenever overflow could move up, the primary queue is full again. -/

/-- The only thread is at a phase, the primary queue with its room for one task is as given, and a task
waits in the overflow queue. -/
structure Outline.Passing (o : Outline α) (w : Waiting (Task α)) (phase : Phase α)
    (primary : List (Task α)) : Prop where
  core : o.limits.core = 1
  capacity : o.limits.capacity = 1
  takes : o.isShutDown = false
  threads : o.threads = [⟨1, phase⟩]
  primary : o.primary = primary
  parked : o.parked = [w]

section Passing

variable {p : Pool α} {j : Journal α} {w : Waiting (Task α)} {task next : Task α} {phase : Phase α}
  {primary : List (Task α)}

theorem Outline.Passing.among (h : p.outline.Passing w phase primary) :
    Among p.threads ⟨1, phase⟩ [] [] := by
  refine ⟨h.threads, ?_⟩
  intro u hu
  cases hu

theorem Outline.Passing.phase? (h : p.outline.Passing w phase primary) : p.phase? 1 = some phase := by
  have hthreads : p.threads = [⟨1, phase⟩] := h.threads
  simp [Pool.phase?, hthreads]

/-- Nothing moves up while the primary queue is full. -/
theorem Outline.Passing.full {o : Outline α} (h : o.Passing w phase [task]) :
    o.filled = [task] ∧ o.staying = [w] ∧ o.leaving = [] := by
  have hroom : o.room = 0 := by
    rw [Outline.room, h.capacity, h.primary]
    rfl
  have hleaving : o.leaving = [] := by
    rw [Outline.leaving, hroom]
    rfl
  refine ⟨?_, ?_, hleaving⟩
  · rw [Outline.filled, hleaving, h.primary]
    rfl
  · rw [Outline.staying, hroom, h.parked]
    rfl

/-- A task that is submitted goes ahead of the one that waits. -/
theorem passing_submit (h : p.outline.Passing w (.running task) []) (label : String) (work : α) :
    (p.act (.submit label work 0)).outline.Passing w (.running task) [⟨label, work⟩] ∧
      (p.log (.submit label work 0)).begun = [] := by
  have hthreads : p.threads = [⟨1, .running task⟩] := h.threads
  have hplace : p.place = .primary := by
    simp [place, hthreads, show p.limits.core = 1 from h.core, show p.primary = [] from h.primary,
      show p.limits.capacity = 1 from h.capacity]
  have hsubmit : p.act (.submit label work 0) = _ :=
    congrArg (fun r => (Except.toOption r).getD p.draw.2)
      (enter_of_open (p := p.draw.2) h.takes p.nextSeq label work 0)
  rw [hsubmit, show p.draw.2.place = .primary from hplace]
  refine ⟨⟨h.core, h.capacity, h.takes, ?_, ?_, h.parked⟩, ?_⟩
  · show wakeFirst 1 p.threads = _
    rw [hthreads]
    rfl
  · show p.primary ++ [⟨label, work⟩] = _
    rw [show p.primary = [] from h.primary]
    rfl
  · have hopen : p.isShutDown = false := h.takes
    simp [log, entryLog, hopen, hplace]

/-- The thread finishes its task, and the other one waits on. -/
theorem passing_finish (h : p.outline.Passing w (.running task) primary) :
    (p.act (.turn 1 false 0)).outline.Passing w .finished primary ∧
      (p.log (.turn 1 false 0)).begun = [] := by
  simp only [act, log, h.phase?]
  rw [outline_finish h.among]
  exact ⟨⟨h.core, h.capacity, h.takes, rfl, h.primary, h.parked⟩, trivial⟩

/-- The thread finds the primary queue full, and moves nothing. -/
theorem passing_drain (h : p.outline.Passing w .finished [next]) :
    (p.act (.turn 1 false 0)).outline.Passing w .seeking [next] ∧
      (p.log (.turn 1 false 0)).begun = [] := by
  obtain ⟨hfilled, hstaying, hleaving⟩ := h.full
  simp only [act, log, h.phase?]
  rw [outline_drain h.among, hfilled, hstaying, hleaving]
  exact ⟨⟨h.core, h.capacity, h.takes, rfl, rfl, rfl⟩, trivial⟩

/-- The thread takes the task from the primary queue, not the one that waits longer. -/
theorem passing_seek (h : p.outline.Passing w .seeking [next]) :
    (p.act (.turn 1 false 0)).outline.Passing w (.running next) [] ∧
      (p.log (.turn 1 false 0)).begun = [next] := by
  obtain ⟨hfilled, hstaying, -⟩ := h.full
  simp only [act, log, h.phase?]
  rw [outline_seek_of_cons h.among hfilled, hstaying, seekLog_eq, hfilled]
  exact ⟨⟨h.core, h.capacity, h.takes, rfl, rfl, rfl⟩, rfl⟩

/-- A task is submitted, and the thread ends its task and takes the next one. -/
def Action.pass (task : Task α) : List (Action α) :=
  [.submit task.label task.work 0, .turn 1 false 0, .turn 1 false 0, .turn 1 false 0]

/-- A task submitted while the thread is at work is begun before the one that waits. -/
theorem passing_pass (h : j.pool.outline.Passing w (.running task) []) (next : Task α) :
    (j.run (Action.pass next)).pool.outline.Passing w (.running next) [] ∧
      (j.run (Action.pass next)).log.begun = j.log.begun ++ [next] := by
  obtain ⟨hsubmit, hnone⟩ := passing_submit h next.label next.work
  obtain ⟨hfinish, hnone'⟩ := passing_finish hsubmit
  obtain ⟨hdrain, hnone''⟩ := passing_drain hfinish
  obtain ⟨hseek, hbegun⟩ := passing_seek hdrain
  refine ⟨hseek, ?_⟩
  simp only [Journal.run, Action.pass, List.foldl_cons, List.foldl_nil, Journal.step, Log.begun_append,
    hnone, hnone', hnone'', hbegun, List.append_nil]

/-- Any number of tasks go by. -/
theorem passing_run (h : j.pool.outline.Passing w (.running task) []) (late : List (Task α)) :
    (∃ last, (j.run (late.flatMap Action.pass)).pool.outline.Passing w (.running last) []) ∧
      (j.run (late.flatMap Action.pass)).log.begun = j.log.begun ++ late := by
  induction late generalizing j task with
  | nil => exact ⟨⟨task, h⟩, (List.append_nil _).symm⟩
  | cons next late ih =>
    obtain ⟨hnext, hbegun⟩ := passing_pass h next
    obtain ⟨hlast, hrun⟩ := ih hnext
    rw [List.flatMap_cons, Journal.run_append]
    refine ⟨hlast, ?_⟩
    rw [hrun, hbegun, List.append_assoc]
    rfl

end Passing

/-- However many tasks are submitted, one after another, they are all begun before the one that waits. -/
theorem passed_over (late : List (Task Nat)) :
    ((Journal.start .least).run (Action.rush ++ late.flatMap Action.pass)).log.begun
        = ((Journal.start .least).run Action.rush).log.begun ++ late ∧
      ((Journal.start .least).run (Action.rush ++ late.flatMap Action.pass)).pool.overflow.tasks
        = [⟨"lane", 3⟩] := by
  have hrush : ((Journal.start .least).run Action.rush).pool.outline.Passing ⟨2, 0, ⟨"lane", 3⟩⟩
      (.running ⟨"lane", 4⟩) [] := ⟨rfl, rfl, rfl, rfl, rfl, rfl⟩
  rw [Journal.run_append]
  obtain ⟨⟨last, hlast⟩, hbegun⟩ := passing_run hrush late
  exact ⟨hbegun, congrArg (List.map Waiting.task) hlast.parked⟩

end FlightRelay.Pool

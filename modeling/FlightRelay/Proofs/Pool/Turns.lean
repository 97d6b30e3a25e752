import FlightRelay.Proofs.Pool.Outline

/-!
# Turns of a pool

Submissions, the steps of threads and the end of the intake follow each other in any order.  Whatever
comes next, `Turn` lists all that it can do to threads and queues, with the conditions under which the
pool does so; what is kept by every turn is kept by every run.
-/

namespace FlightRelay.Pool

variable {α : Type}

/-! ## Actions -/

/-- What can happen to a pool next. -/
inductive Action (α : Type) where
  /-- A task is submitted, and nothing comes between its number and its place. -/
  | submit (label : String) (work : α) (now : Nat)
  /-- Somebody who submits draws a number. -/
  | draw
  /-- Somebody who has drawn a number hands in a task. -/
  | enter (seq : UInt64) (label : String) (work : α) (now : Nat)
  /-- A thread that is awake goes on; a task that it works on ends, perhaps by panicking. -/
  | turn (id : Nat) (panicked : Bool) (now : Nat)
  /-- A thread has slept as long as it may. -/
  | expire (id : Nat) (now : Nat)
  /-- A thread wakes up for no reason. -/
  | stir (id : Nat) (now : Nat)
  | shutDown

/-- A submission is not taken apart. -/
def Action.isAtomic : Action α → Bool
  | .draw | .enter .. => false
  | _ => true

/-- The pool after an action; it stays as it is if nothing of the kind can happen. -/
def act (p : Pool α) : Action α → Pool α
  | .submit label work now => (p.submit label work now).toOption.getD p.draw.2
  | .draw => p.draw.2
  | .enter seq label work now => (p.enter seq label work now).toOption.getD p
  | .turn id panicked now =>
    match p.phase? id with
    | some (.running _) => p.finish id panicked now
    | some .finished => p.drain id now
    | some .seeking => p.seek id now
    | _ => p
  | .expire id now =>
    match p.phase? id with
    | some .waiting => p.expire id now
    | _ => p
  | .stir id now =>
    match p.phase? id with
    | some .waiting => p.seek id now
    | _ => p
  | .shutDown => p.shutDown

/-! ## What happens to tasks -/

/-- What happened to tasks, in order. -/
structure Log (α : Type) where
  /-- The pool took the task. -/
  accepted : List (Task α) := []
  /-- A thread began with the task. -/
  begun : List (Task α) := []
  /-- The task ended, perhaps by panicking. -/
  ended : List (Task α) := []
  /-- The task was put into the overflow queue. -/
  parked : List (Task α) := []
  /-- The task left the overflow queue. -/
  unparked : List (Task α) := []
  /-- The task was put into the primary queue while others waited in the overflow queue. -/
  ahead : List (Task α) := []

namespace Log

/-- More has happened. -/
def append (l m : Log α) : Log α where
  accepted := l.accepted ++ m.accepted
  begun := l.begun ++ m.begun
  ended := l.ended ++ m.ended
  parked := l.parked ++ m.parked
  unparked := l.unparked ++ m.unparked
  ahead := l.ahead ++ m.ahead

instance : Append (Log α) := ⟨append⟩

section Fields

variable (l m : Log α)

@[simp] theorem accepted_append : (l ++ m).accepted = l.accepted ++ m.accepted := rfl
@[simp] theorem begun_append : (l ++ m).begun = l.begun ++ m.begun := rfl
@[simp] theorem ended_append : (l ++ m).ended = l.ended ++ m.ended := rfl
@[simp] theorem parked_append : (l ++ m).parked = l.parked ++ m.parked := rfl
@[simp] theorem unparked_append : (l ++ m).unparked = l.unparked ++ m.unparked := rfl
@[simp] theorem ahead_append : (l ++ m).ahead = l.ahead ++ m.ahead := rfl

theorem append_empty : l ++ {} = l := by
  show append l {} = l
  simp [append]

end Fields

end Log

/-- What happens when a task is handed in. -/
def entryLog (p : Pool α) (task : Task α) : Log α :=
  if p.isShutDown then {}
  else
    match p.place with
    | .thread => { accepted := [task], begun := [task] }
    | .primary => { accepted := [task], ahead := if p.overflow.size = 0 then [] else [task] }
    | .overflow => { accepted := [task], parked := [task] }

/-- What the overflow queue loses to the primary queue. -/
def moved (p : Pool α) : List (Task α) := p.moveOverflow.primary.drop p.primary.length

/-- What happens when a thread looks for a task. -/
def seekLog (p : Pool α) : Log α := { begun := p.moveOverflow.primary.take 1, unparked := p.moved }

/-- What an action does to tasks. -/
def log (p : Pool α) : Action α → Log α
  | .submit label work _ => p.entryLog ⟨label, work⟩
  | .draw => {}
  | .enter _ label work _ => p.entryLog ⟨label, work⟩
  | .turn id _ _ =>
    match p.phase? id with
    | some (.running task) => { ended := [task] }
    | some .finished => { unparked := p.moved }
    | some .seeking => p.seekLog
    | _ => {}
  | .expire id _ | .stir id _ =>
    match p.phase? id with
    | some .waiting => p.seekLog
    | _ => {}
  | .shutDown => {}

/-! ## Turns -/

/-- All that one action other than an atomic submission can do. -/
inductive Turn : Action α → Outline α → Outline α → Log α → Prop
  /-- Nothing of the kind can happen, or the pool takes no more tasks. -/
  | idle {a : Action α} {o : Outline α} (closed : a.isAtomic = false → o.isShutDown = true) :
      Turn a o o {}
  | drawn {o : Outline α} : Turn .draw o { o with nextSeq := o.nextSeq + 1 } {}
  /-- A new thread begins with the task. -/
  | started {o : Outline α} {seq : UInt64} {label : String} {work : α} {now : Nat}
      (takes : o.isShutDown = false)
      (short : o.threads.length < o.limits.core
        ∨ o.limits.capacity ≤ o.primary.length ∧ o.threads.length < o.limits.most) :
      Turn (.enter seq label work now) o
        { o with
          threads := o.threads ++ [⟨o.ids.leastFree, .running ⟨label, work⟩⟩]
          ids := o.ids.acquire.2
          submitted := o.submitted + 1 }
        { accepted := [⟨label, work⟩], begun := [⟨label, work⟩] }
  /-- The task goes to the primary queue, and wakes a thread. -/
  | queued {o : Outline α} {seq : UInt64} {label : String} {work : α} {now : Nat}
      (takes : o.isShutDown = false) (staffed : o.limits.core ≤ o.threads.length)
      (roomy : o.primary.length < o.limits.capacity) :
      Turn (.enter seq label work now) o
        { o with
          primary := o.primary ++ [⟨label, work⟩]
          threads := wakeFirst 1 o.threads
          submitted := o.submitted + 1 }
        { accepted := [⟨label, work⟩], ahead := if o.parked = [] then [] else [⟨label, work⟩] }
  /-- The task goes to the overflow queue. -/
  | parked {o : Outline α} {seq : UInt64} {label : String} {work : α} {now : Nat}
      (takes : o.isShutDown = false) (staffed : o.limits.most ≤ o.threads.length)
      (full : o.limits.capacity ≤ o.primary.length) :
      Turn (.enter seq label work now) o
        { o with
          parked := Overflow.insertBySeq ⟨seq, now, ⟨label, work⟩⟩ o.parked
          submitted := o.submitted + 1 }
        { accepted := [⟨label, work⟩], parked := [⟨label, work⟩] }
  | ended {o : Outline α} {id now : Nat} {panicked : Bool} {task : Task α}
      {before after : List (Thread α)} (among : Among o.threads ⟨id, .running task⟩ before after) :
      Turn (.turn id panicked now) o
        { o with
          threads := before ++ ⟨id, .finished⟩ :: after
          completed := if panicked then o.completed else o.completed + 1
          panicked := if panicked then o.panicked + 1 else o.panicked }
        { ended := [task] }
  /-- Overflow fills the primary queue, and threads are woken for all but one of the tasks. -/
  | drained {o : Outline α} {id now : Nat} {panicked : Bool} {before after : List (Thread α)}
      (among : Among o.threads ⟨id, .finished⟩ before after) :
      Turn (.turn id panicked now) o
        { o with
          primary := o.filled
          parked := o.staying
          threads := wakeFirst (o.leaving.length - 1) (before ++ ⟨id, .seeking⟩ :: after) }
        { unparked := o.leaving }
  /-- A thread takes the next task. -/
  | took {a : Action α} {o : Outline α} {id : Nat} {phase : Phase α} {task : Task α}
      {rest : List (Task α)} {before after : List (Thread α)} (own : a.isAtomic = true)
      (among : Among o.threads ⟨id, phase⟩ before after) (free : phase = .seeking ∨ phase = .waiting)
      (next : o.filled = task :: rest) :
      Turn a o
        { o with
          primary := rest
          parked := o.staying
          threads := before ++ ⟨id, .running task⟩ :: after }
        { begun := [task], unparked := o.leaving }
  /-- A thread finds nothing and goes to sleep. -/
  | slept {a : Action α} {o : Outline α} {id : Nat} {phase : Phase α} {before after : List (Thread α)}
      (own : a.isAtomic = true) (among : Among o.threads ⟨id, phase⟩ before after)
      (free : phase = .seeking ∨ phase = .waiting) (primary : o.primary = []) (parked : o.parked = [])
      (takes : o.isShutDown = false) :
      Turn a o { o with threads := before ++ after ++ [⟨id, .waiting⟩] } {}
  /-- A thread finds nothing and ends. -/
  | retired {a : Action α} {o : Outline α} {id : Nat} {phase : Phase α} {before after : List (Thread α)}
      (own : a.isAtomic = true) (among : Among o.threads ⟨id, phase⟩ before after)
      (free : phase = .seeking ∨ phase = .waiting) (primary : o.primary = []) (parked : o.parked = [])
      (spare : o.isShutDown = true ∨ o.limits.core < o.threads.length) :
      Turn a o { o with threads := before ++ after, ids := (o.ids.release id).2 } {}
  /-- The pool takes no more tasks, and wakes all threads. -/
  | shut {o : Outline α} : Turn .shutDown o
      { o with isShutDown := true, threads := wakeFirst o.threads.length o.threads } {}

section Turns

variable {p : Pool α} {id now : Nat} {phase : Phase α} {before after : List (Thread α)} {a : Action α}
  {o o' q : Outline α} {l m : Log α}

theorem Turn.of_eq (h : Turn a o o' l) (ho : q = o') (hl : m = l) : Turn a o q m := by
  rw [ho, hl]
  exact h

/-- A task that enters starts a thread, or waits in one of the queues, or is refused. -/
theorem turn_enter (hp : p.outline.Numbered) (seq : UInt64) (label : String) (work : α) (now : Nat) :
    Turn (.enter seq label work now) p.outline (p.act (.enter seq label work now)).outline
      (p.entryLog ⟨label, work⟩) := by
  cases hshut : p.isShutDown with
  | true =>
    simp only [act, enter, entryLog, hshut]
    exact .idle fun _ => hshut
  | false =>
    rw [act, enter_of_open hshut, entryLog, if_neg (by rw [hshut]; decide)]
    simp only [Except.toOption, Option.getD_some]
    obtain ⟨hplace, hshort⟩ | ⟨hplace, hstaffed, hroomy⟩ | ⟨hplace, hstaffed, hfull⟩ := p.place_cases
    · rw [hplace]
      exact (Turn.started hshut hshort).of_eq (outline_spawn (p.tally _) hp.fresh ⟨label, work⟩) rfl
    · rw [hplace]
      refine (Turn.queued hshut hstaffed hroomy).of_eq rfl ?_
      simp only [Overflow.size, List.length_eq_zero_iff]
      rfl
    · rw [hplace]
      exact (Turn.parked hshut hstaffed hfull).of_eq (outline_observe _ now) rfl

/-- What a thread moves from the overflow is what there is room for in the primary queue. -/
theorem moved_eq : p.moved = p.outline.leaving := by
  rw [moved, primary_moveOverflow]
  exact List.drop_left

/-- A thread that looks for work begins the first task of the queue, after it is filled. -/
theorem seekLog_eq : p.seekLog = { begun := p.outline.filled.take 1, unparked := p.outline.leaving } := by
  rw [seekLog, moved_eq, primary_moveOverflow]

/-- Where both queues are empty, there is nothing to begin. -/
theorem seekLog_of_empty (hprimary : p.outline.primary = []) (hparked : p.outline.parked = []) :
    p.seekLog = {} := by
  rw [seekLog_eq, Outline.filled, Outline.leaving, hprimary, hparked, List.take_nil]
  rfl

/-- A thread that looks for work finds some, or goes to sleep, or ends once the pool is shut down. -/
theorem turn_seek (own : a.isAtomic = true) (h : Among p.threads ⟨id, phase⟩ before after)
    (free : phase = .seeking ∨ phase = .waiting) :
    Turn a p.outline (p.seek id now).outline p.seekLog := by
  cases hfilled : p.outline.filled with
  | cons task rest =>
    refine (Turn.took own h free hfilled).of_eq (outline_seek_of_cons h hfilled) ?_
    rw [seekLog_eq, hfilled]
    rfl
  | nil =>
    obtain ⟨hprimary, hparked⟩ := Outline.filled_eq_nil hfilled
    have hlog := seekLog_of_empty hprimary hparked
    have hseek : (p.seek id now).outline = _ := outline_seek_of_nil h hfilled
    cases hshut : p.isShutDown with
    | true =>
      rw [if_pos hshut] at hseek
      exact (Turn.retired own h free hprimary hparked (.inl hshut)).of_eq hseek hlog
    | false =>
      rw [if_neg (by rw [hshut]; decide)] at hseek
      exact (Turn.slept own h free hprimary hparked hshut).of_eq hseek hlog

/-- A thread whose time is up ends where nothing waits and the core is staffed without it; otherwise it
looks for work. -/
theorem turn_expire (own : a.isAtomic = true) (h : Among p.threads ⟨id, .waiting⟩ before after) :
    Turn a p.outline (p.expire id now).outline p.seekLog := by
  unfold expire
  split
  · rename_i hspare
    simp only [Bool.and_eq_true, List.isEmpty_iff, decide_eq_true_eq] at hspare
    obtain ⟨⟨hprimary, hsize⟩, hspare⟩ := hspare
    have hparked : p.outline.parked = [] := List.length_eq_zero_iff.mp hsize
    exact (Turn.retired own h (.inr rfl) hprimary hparked (.inr hspare)).of_eq (outline_retire h)
      (seekLog_of_empty hprimary hparked)
  · exact turn_seek own h (.inr rfl)

/-- A shutdown wakes everyone and takes no more tasks. -/
theorem turn_shutDown : Turn .shutDown p.outline p.shutDown.outline {} := by
  unfold shutDown
  split
  · exact .idle nofun
  · exact .shut

/-- Whatever happens to a pool is a turn, or the two turns of a submission. -/
theorem turn_act (hp : p.outline.Numbered) (ha : ∀ label work now, a ≠ .submit label work now) :
    Turn a p.outline (p.act a).outline (p.log a) := by
  cases a with
  | submit label work now => exact absurd rfl (ha label work now)
  | draw => exact .drawn
  | enter seq label work now => exact turn_enter hp seq label work now
  | turn id panicked now =>
    -- the phase of the thread decides what its turn is
    simp only [act, log]
    split
    · rename_i task hphase
      obtain ⟨before, after, hamong⟩ := exists_among hp hphase
      exact (Turn.ended hamong).of_eq (outline_finish hamong) rfl
    · rename_i hphase
      obtain ⟨before, after, hamong⟩ := exists_among hp hphase
      exact (Turn.drained hamong).of_eq (outline_drain hamong) (by rw [moved_eq])
    · rename_i hphase
      obtain ⟨before, after, hamong⟩ := exists_among hp hphase
      exact turn_seek rfl hamong (.inl rfl)
    · exact .idle nofun
  | expire id now =>
    simp only [act, log]
    split
    · rename_i hphase
      obtain ⟨before, after, hamong⟩ := exists_among hp hphase
      exact turn_expire rfl hamong
    · exact .idle nofun
  | stir id now =>
    simp only [act, log]
    split
    · rename_i hphase
      obtain ⟨before, after, hamong⟩ := exists_among hp hphase
      exact turn_seek rfl hamong (.inr rfl)
    · exact .idle nofun
  | shutDown => exact turn_shutDown

end Turns

end FlightRelay.Pool

import FlightRelay.Proofs.Pool.Alerts
import FlightRelay.Proofs.Pool.Journal

/-!
# Episodes of a pool

A pool looks at its backlog when it puts a task into the overflow queue and when a thread that has ended a
task moves overflow up, but not when a thread that looks for a task does so.  A new backlog is escalated
once the monitor has seen the overflow queue below the size of the policy: when that is two or more, the
first task that waits again is seen so; when it is one, the empty queue must have been seen; and when it is
zero, nothing is ever below it, and the first escalation is the last one.

What was seen is reported a little later, when the queues are free for others again, and so the reports may
fall behind; they are to keep their order.
-/

namespace FlightRelay.Pool

variable {α : Type}

/-! ## Looks at the backlog -/

/-- What there is to see of the overflow queue. -/
def sighting (p : Pool α) (now : Nat) : Sighting := ⟨p.overflow.size, p.overflow.oldestWait now, now⟩

/-- When an action looks at the backlog, if it does. -/
def looksAt? (p : Pool α) : Action α → Option Nat
  | .submit _ _ now | .enter _ _ _ now =>
    if p.isShutDown then none
    else
      match p.place with
      | .overflow => some now
      | _ => none
  | .turn id _ now =>
    match p.phase? id with
    | some .finished => if p.overflow.size = 0 then none else some now
    | _ => none
  | _ => none

/-- What an action sees of the backlog, if it looks: what is left when it has moved tasks. -/
def sighting? (p : Pool α) (a : Action α) : Option Sighting := (p.looksAt? a).map (p.act a).sighting

/-- What actions see of the backlog, one after another. -/
def sightings : Pool α → List (Action α) → List Sighting
  | _, [] => []
  | p, a :: actions => (p.sighting? a).toList ++ (p.act a).sightings actions

/-- The monitor with its policy, and how often it has escalated. -/
structure Alarm where
  policy : BacklogPolicy
  monitor : BacklogMonitor
  escalations : Nat
  deriving DecidableEq

/-- A sighting is reported. -/
def Alarm.hear (al : Alarm) (s : Sighting) : Alarm where
  policy := al.policy
  monitor := (al.monitor.look al.policy s).2
  escalations := al.escalations + if (al.monitor.look al.policy s).1 = .escalate then 1 else 0

/-- What a pool reports by. -/
def alarm (p : Pool α) : Alarm := ⟨p.limits.backlog, p.monitor, p.counters.escalations⟩

/-- All that an action can do to the overflow queue and to what is reported of it. -/
inductive Backlogs (p q : Pool α) : Option Sighting → Prop
  /-- Nobody looks, even if tasks have left. -/
  | unseen (n : Nat) (alarm : q.alarm = p.alarm)
      (overflow : q.overflow.entries = p.overflow.entries.drop n) : Backlogs p q none
  | parked (w : Waiting (Task α)) (now : Nat) (alarm : q.alarm = p.alarm.hear (q.sighting now))
      (overflow : q.overflow = p.overflow.push w) : Backlogs p q (some (q.sighting now))
  | drained (now : Nat) (waits : p.overflow.size ≠ 0) (alarm : q.alarm = p.alarm.hear (q.sighting now)) :
      Backlogs p q (some (q.sighting now))

section Acts

variable {p q : Pool α} {id now : Nat}

/-- To look at the backlog is to let the alarm hear of it. -/
theorem alarm_observe : (p.observe now).alarm = p.alarm.hear (p.sighting now) := by
  unfold observe
  simp only [Alarm.hear, BacklogMonitor.look, alarm, sighting]
  split
  · rename_i hescalate
    simp [tally, hescalate]
  · rename_i hother
    simp [hother]

/-- To look at the backlog leaves it as it is. -/
theorem overflow_observe : (p.observe now).overflow = p.overflow := by
  unfold observe
  dsimp only
  split <;> rfl

/-- After a look, what was heard is what there still is to see. -/
theorem hear_observe : (p.observe now).alarm = p.alarm.hear ((p.observe now).sighting now) := by
  rw [alarm_observe, sighting, sighting, overflow_observe]

/-- Moving is not heard of by itself. -/
theorem alarm_moveOverflow : p.moveOverflow.alarm = p.alarm := by
  rw [moveOverflow, moveUpTo_eq]
  rfl

theorem overflow_moveOverflow :
    p.moveOverflow.overflow.entries = p.overflow.entries.drop (p.limits.capacity - p.primary.length) := by
  rw [moveOverflow, moveUpTo_eq]

/-- A thread that looks for a task does not look at the backlog. -/
theorem backlogs_seek : Backlogs p (p.seek id now) none := by
  have hmoved : Backlogs p p.moveOverflow none := .unseen _ alarm_moveOverflow overflow_moveOverflow
  obtain ⟨n, halarm, hoverflow⟩ := hmoved
  unfold seek
  dsimp only
  split
  · exact .unseen n halarm hoverflow
  · split <;> exact .unseen n halarm hoverflow

theorem backlogs_expire : Backlogs p (p.expire id now) none := by
  unfold expire
  split
  · exact .unseen 0 rfl rfl
  · exact backlogs_seek

theorem backlogs_shutDown : Backlogs p p.shutDown none := by
  unfold shutDown
  split <;> exact .unseen 0 rfl rfl

/-- A thread that moves tasks reports the backlog that is left, unless there was none. -/
theorem backlogs_drain : Backlogs p (p.drain id now)
    (if p.overflow.size = 0 then none else some ((p.drain id now).sighting now)) := by
  split
  · rename_i hnone
    rw [drain, if_pos (by exact hnone)]
    exact .unseen 0 rfl rfl
  · rename_i hwaits
    refine .drained now hwaits ?_
    rw [drain, if_neg (by exact hwaits), hear_observe]
    exact congrArg (Alarm.hear · _) (alarm_moveOverflow (p := p.setPhase id .seeking))

/-- A task that is handed in is seen if it goes to the overflow queue. -/
theorem backlogs_enter {seq : UInt64} {label : String} {work : α}
    (hq : (p.enter seq label work now).toOption.getD p = q) :
    Backlogs p q ((p.looksAt? (.enter seq label work now)).map q.sighting) := by
  subst hq
  cases hshut : p.isShutDown with
  | true =>
    simp only [looksAt?, enter, hshut, if_true]
    exact .unseen 0 rfl rfl
  | false =>
    rw [enter_of_open hshut]
    simp only [looksAt?, hshut, Except.toOption, Option.getD_some]
    cases hplace : p.place with
    | thread => exact .unseen 0 rfl rfl
    | primary => exact .unseen 0 rfl rfl
    | overflow => exact .parked ⟨seq, now, ⟨label, work⟩⟩ now hear_observe overflow_observe

/-- Drawing a number leaves the backlog alone. -/
theorem Backlogs.of_draw {seen : Option Sighting} (h : Backlogs p.draw.2 q seen) : Backlogs p q seen := by
  cases h with
  | unseen n alarm overflow => exact .unseen n alarm overflow
  | parked w now alarm overflow => exact .parked w now alarm overflow
  | drained now waits alarm => exact .drained now waits alarm

/-- Every action reports the backlog as it leaves it, or nothing. -/
theorem backlogs_act (p : Pool α) (a : Action α) : Backlogs p (p.act a) (p.sighting? a) := by
  cases a with
  | submit label work now => exact (backlogs_enter (p := p.draw.2) rfl).of_draw
  | enter seq label work now => exact backlogs_enter rfl
  | turn id panicked now =>
    unfold sighting? looksAt? act
    dsimp only
    cases p.phase? id with
    | none => exact .unseen 0 rfl rfl
    | some phase =>
      cases phase with
      | running task => cases panicked <;> exact .unseen 0 rfl rfl
      | finished =>
        -- whoever drains looks only if there was something to move
        have hdrain : Backlogs p (p.drain id now) _ := backlogs_drain
        dsimp only
        split at hdrain
        · rename_i hnone
          rw [if_pos hnone]
          exact hdrain
        · rename_i hwaits
          rw [if_neg hwaits]
          exact hdrain
      | seeking => exact backlogs_seek
      | waiting => exact .unseen 0 rfl rfl
  | expire id now =>
    unfold sighting? looksAt? act
    dsimp only
    split
    · exact backlogs_expire
    · exact .unseen 0 rfl rfl
  | stir id now =>
    unfold sighting? looksAt? act
    dsimp only
    split
    · exact backlogs_seek
    · exact .unseen 0 rfl rfl
  | draw => exact .unseen 0 rfl rfl
  | shutDown => exact backlogs_shutDown

/-- An action reports what it sees, and nothing else. -/
theorem alarm_act (p : Pool α) (a : Action α) :
    (p.act a).alarm = (p.sighting? a).elim p.alarm p.alarm.hear := by
  have hbacklogs := backlogs_act p a
  generalize p.sighting? a = seen, p.act a = q at hbacklogs ⊢
  cases hbacklogs with
  | unseen n alarm => exact alarm
  | parked w now alarm => exact alarm
  | drained now waits alarm => exact alarm

/-- Out of an empty overflow queue nothing is seen until one task waits there. -/
theorem empty_act (hnone : p.overflow.size = 0) (a : Action α) :
    p.sighting? a = none ∧ (p.act a).overflow.size = 0 ∨ ∃ s, p.sighting? a = some s ∧ s.queued = 1 := by
  have hentries : p.overflow.entries = [] := List.length_eq_zero_iff.mp hnone
  have hbacklogs := backlogs_act p a
  generalize p.sighting? a = seen, p.act a = q at hbacklogs ⊢
  cases hbacklogs with
  | unseen n alarm overflow =>
    refine .inl ⟨rfl, ?_⟩
    rw [Overflow.size, overflow, hentries, List.drop_nil]
    rfl
  | parked w now alarm overflow =>
    refine .inr ⟨_, rfl, ?_⟩
    rw [sighting, overflow, Overflow.push, hentries]
    rfl
  | drained now waits => exact absurd hnone waits

/-- Whatever happens next, the first look finds one task. -/
theorem queued_of_head {actions : List (Action α)} (hnone : p.overflow.size = 0) :
    ∀ s ∈ (p.sightings actions).head?, s.queued = 1 := by
  induction actions generalizing p with
  | nil => nofun
  | cons a actions ih =>
    rw [sightings]
    rcases empty_act hnone a with ⟨hunseen, hafter⟩ | ⟨s, hseen, hone⟩
    · rw [hunseen]
      exact ih hafter
    · rw [hseen]
      intro t ht
      obtain rfl : s = t := Option.some.inj ht
      exact hone

end Acts

/-! ## One episode after another -/

section Monitor

variable {policy : BacklogPolicy} {m : BacklogMonitor} {s : Sighting} {quiet : List Sighting}

namespace BacklogMonitor

theorem follow_append {before after : List Sighting} :
    m.follow policy (before ++ after) = (m.follow policy before).follow policy after := List.foldl_append

/-- An episode is open only if the last sighting has opened it or left it open. -/
theorem escalated_look (h : (m.look policy s).2.escalated = true) :
    s.Exceeds policy ∨ m.HoldsOpen policy s := by
  have hlooks := m.looks policy s
  generalize (m.look policy s).1 = alert, (m.look policy s).2 = m' at hlooks h
  cases hlooks with
  | clear escalated nothing stays => exact .inr (stays.mp h)
  | escalate waits exceeds => exact .inl exceeds
  | withheld waits isOpen => exact .inr isOpen
  | warn => cases h
  | spared => cases h

/-- Without an open episode, a backlog that passes both bounds is escalated. -/
theorem escalate_of_exceeds (hclosed : m.escalated = false) (hexceeds : s.Exceeds policy) :
    (m.look policy s).1 = .escalate := by
  have hopen : ¬ m.HoldsOpen policy s := fun h => Bool.false_ne_true (hclosed.symm.trans h.1)
  have hlooks := m.looks policy s
  generalize (m.look policy s).1 = alert, (m.look policy s).2 = m' at hlooks
  cases hlooks with
  | clear escalated nothing => exact absurd (nothing ▸ hexceeds.1) (Nat.not_lt_zero _)
  | escalate => rfl
  | withheld waits isOpen => exact absurd isOpen hopen
  | warn waits within => exact absurd hexceeds within
  | spared waits within => exact absurd hexceeds within

/-- A sighting below the size ends the episode. -/
theorem closed_look (hbelow : s.queued < policy.size) : (m.look policy s).2.escalated = false := by
  apply Bool.eq_false_iff.mpr
  intro hescalated
  rcases escalated_look hescalated with hexceeds | hopen
  · exact Nat.lt_asymm hbelow hexceeds.1
  · exact Nat.not_le_of_lt hbelow hopen.2

/-- Nothing but a backlog that passes both bounds opens an episode. -/
theorem closed_follow (hclosed : m.escalated = false) (hquiet : ∀ s ∈ quiet, ¬ s.Exceeds policy) :
    (m.follow policy quiet).escalated = false := by
  induction quiet generalizing m with
  | nil => exact hclosed
  | cons s quiet ih =>
    apply ih
    · apply Bool.eq_false_iff.mpr
      intro hescalated
      rcases escalated_look hescalated with hexceeds | hopen
      · exact hquiet s List.mem_cons_self hexceeds
      · exact Bool.false_ne_true (hclosed.symm.trans hopen.1)
    · intro t ht
      exact hquiet t (List.mem_cons_of_mem s ht)

/-- An episode stays ended until both bounds are passed again. -/
theorem closed_since (hbelow : s.queued < policy.size) (hquiet : ∀ t ∈ quiet, ¬ t.Exceeds policy) :
    (m.follow policy (s :: quiet)).escalated = false := by
  show ((m.look policy s).2.follow policy quiet).escalated = false
  exact closed_follow (closed_look hbelow) hquiet

end BacklogMonitor

end Monitor

/-! ## Reports that come later -/

/-- A pool whose sightings are reported some time after they were made. -/
structure Watch (α : Type) where
  pool : Pool α
  /-- What was seen and is not yet reported, first seen first. -/
  pending : List Sighting
  /-- What was reported, in this order. -/
  heard : List Sighting
  alarm : Alarm

namespace Watch

/-- What can happen next. -/
inductive Step (α : Type) where
  | act (a : Action α)
  /-- One of the sightings that are pending is reported. -/
  | report (place : Nat)

/-- The action of a step, if it is one. -/
def Step.action? : Step α → Option (Action α)
  | .act a => some a
  | .report _ => none

/-- The step reports the first of the sightings that are pending, if it reports any. -/
def Step.keepsOrder : Step α → Bool
  | .act _ => true
  | .report place => place = 0

/-- A pool that was just started. -/
def start (limits : Limits) : Watch α := ⟨.start limits, [], [], (Pool.start limits : Pool α).alarm⟩

/-- A step is taken; there may be nothing to report at the place. -/
def step (w : Watch α) : Step α → Watch α
  | .act a => { w with pool := w.pool.act a, pending := w.pending ++ (w.pool.sighting? a).toList }
  | .report place =>
    match w.pending[place]? with
    | none => w
    | some s =>
      { w with pending := w.pending.eraseIdx place, heard := w.heard ++ [s], alarm := w.alarm.hear s }

/-- Steps are taken one after another. -/
def run (w : Watch α) (steps : List (Step α)) : Watch α := steps.foldl step w

/-- What was seen so far, as it was reported or is to be reported. -/
def seen (w : Watch α) : List Sighting := w.heard ++ w.pending

/-- The last look found nothing. -/
def SawEmpty (w : Watch α) : Prop := ∃ s, w.seen.getLast? = some s ∧ s.queued = 0

/-- No sighting is reported before an earlier one. -/
def InOrder (steps : List (Step α)) : Prop := ∀ e ∈ steps, e.keepsOrder = true

instance (steps : List (Step α)) : Decidable (InOrder steps) :=
  inferInstanceAs (Decidable (∀ e ∈ steps, e.keepsOrder = true))

variable {w : Watch α} {steps : List (Step α)} {first : Alarm}

theorem run_append (w : Watch α) (first second : List (Step α)) :
    w.run (first ++ second) = (w.run first).run second := List.foldl_append

/-- What is remembered is what follows from the reports. -/
theorem alarm_run (h : w.alarm = w.heard.foldl Alarm.hear first) :
    (w.run steps).alarm = (w.run steps).heard.foldl Alarm.hear first := by
  induction steps generalizing w with
  | nil => exact h
  | cons e steps ih =>
    apply ih
    cases e with
    | act a => exact h
    | report place =>
      rw [step]
      split
      · exact h
      · rw [List.foldl_append, ← h]
        rfl

/-- If the reports keep their order, all that was seen is in the order in which it was seen. -/
theorem seen_run (h : InOrder steps) :
    (w.run steps).seen = w.seen ++ w.pool.sightings (steps.filterMap Step.action?) := by
  induction steps generalizing w with
  | nil => exact (List.append_nil _).symm
  | cons e steps ih =>
    have hrest := ih (w := w.step e) fun later hlater => h later (List.mem_cons_of_mem e hlater)
    cases e with
    | act a =>
      have hseen : (w.step (.act a)).seen = w.seen ++ (w.pool.sighting? a).toList :=
        (List.append_assoc _ _ _).symm
      rw [hseen, List.append_assoc] at hrest
      exact hrest
    | report place =>
      obtain rfl : place = 0 := of_decide_eq_true (h (.report place) List.mem_cons_self)
      have hsame : (w.step (.report 0)).seen = w.seen ∧ (w.step (.report 0)).pool = w.pool := by
        rw [step, seen, seen]
        cases hpending : w.pending with
        | nil => exact ⟨congrArg _ hpending, rfl⟩
        | cons s rest => exact ⟨List.append_assoc _ _ _, rfl⟩
      rw [hsame.1, hsame.2] at hrest
      exact hrest

/-- Each action is followed by the report of what it saw. -/
def promptly (actions : List (Action α)) : List (Step α) :=
  actions.flatMap fun a => [.act a, .report 0]

/-- Where sightings are reported at once, the watch is the pool itself. -/
theorem alarm_promptly (actions : List (Action α)) (hpending : w.pending = [])
    (halarm : w.alarm = w.pool.alarm) :
    (w.run (promptly actions)).pool = actions.foldl act w.pool ∧
      (w.run (promptly actions)).pending = [] ∧
      (w.run (promptly actions)).alarm = (actions.foldl act w.pool).alarm := by
  induction actions generalizing w with
  | nil => exact ⟨rfl, hpending, halarm⟩
  | cons a actions ih =>
    have hstep : (w.run [.act a, .report 0]).pool = w.pool.act a ∧
        (w.run [.act a, .report 0]).pending = [] ∧
        (w.run [.act a, .report 0]).alarm = (w.pool.act a).alarm := by
      rw [alarm_act, ← halarm]
      simp only [run, List.foldl_cons, List.foldl_nil, step, hpending, List.nil_append]
      cases w.pool.sighting? a with
      | none => exact ⟨rfl, rfl, rfl⟩
      | some s => exact ⟨rfl, rfl, rfl⟩
    obtain ⟨hpool, hnone, hheard⟩ := hstep
    have hrest := ih hnone (hheard.trans (congrArg Pool.alarm hpool.symm))
    rw [hpool, ← run_append] at hrest
    exact hrest

end Watch

/-! ## A new backlog is escalated -/

section Anew

variable {al : Alarm} {w : Watch α} {limits : Limits} {heard : List Sighting}

/-- What the alarm has heard is what its monitor has followed. -/
theorem foldl_hear : heard.foldl Alarm.hear al
    = ⟨al.policy, al.monitor.follow al.policy heard, (heard.foldl Alarm.hear al).escalations⟩ := by
  induction heard generalizing al with
  | nil => rfl
  | cons s heard ih => exact ih

namespace Watch

/-- The monitor follows what is reported. -/
theorem alarm_start (limits : Limits) (steps : List (Step α)) :
    ((start limits).run steps).alarm = ⟨limits.backlog,
      BacklogMonitor.start.follow limits.backlog ((start limits).run steps).heard,
      ((start limits).run steps).alarm.escalations⟩ := by
  have halarm : ((start limits).run steps).alarm = _ := alarm_run rfl
  rw [foldl_hear] at halarm
  rw [halarm]
  rfl

/-- A look that finds nothing ends the episode. -/
theorem SawEmpty.closed {policy : BacklogPolicy} {m : BacklogMonitor} (h : w.SawEmpty)
    (hpos : 1 ≤ policy.size) : (m.follow policy w.seen).escalated = false := by
  obtain ⟨last, hlast, hnothing⟩ := h
  obtain ⟨before, hseen⟩ := List.getLast?_eq_some_iff.mp hlast
  rw [hseen, BacklogMonitor.follow_append]
  apply BacklogMonitor.closed_look
  rw [hnothing]
  exact hpos

end Watch

end Anew

/-- Once the overflow queue is empty, the next backlog that passes both bounds is escalated, whether or not
one was escalated before: if the size is two or more, or if it is one and the last look has found the queue
empty.  The episode has ended with the first look, if not before. -/
theorem escalates_anew (limits : Limits) (first second : List (Watch.Step α))
    (hinOrder : Watch.InOrder (first ++ second))
    (hempty : ((Watch.start limits).run first).pool.overflow.size = 0)
    (hsize : 2 ≤ limits.backlog.size ∨
      1 ≤ limits.backlog.size ∧ ((Watch.start limits).run first).SawEmpty)
    (quiet : List Sighting)
    (hheard : ((Watch.start limits).run (first ++ second)).heard
      = ((Watch.start limits).run first).seen ++ quiet)
    (hquiet : ∀ s ∈ quiet, ¬ s.Exceeds limits.backlog) :
    (((Watch.start limits).run first).SawEmpty ∨ quiet ≠ [] →
      ((Watch.start limits).run (first ++ second)).alarm.monitor.escalated = false) ∧
    ∀ s rest, ((Watch.start limits).run (first ++ second)).pending = s :: rest →
      s.Exceeds limits.backlog →
      (((Watch.start limits).run (first ++ second)).step (.report 0)).alarm.escalations
        = ((Watch.start limits).run (first ++ second)).alarm.escalations + 1 := by
  have halarm := Watch.alarm_start (α := α) limits (first ++ second)
  have hlater : Watch.InOrder second := fun e he => hinOrder e (List.mem_append_right first he)
  have hseen := Watch.seen_run (w := (Watch.start limits).run first) hlater
  rw [← Watch.run_append] at hseen
  generalize (Watch.start limits).run (first ++ second) = w₂ at *
  generalize (Watch.start limits).run first = w₁ at *
  -- what was seen since the queue was empty begins with a single task
  rw [Watch.seen, hheard, List.append_assoc] at hseen
  have hsince := List.append_cancel_left hseen
  have hhead : ∀ s ∈ (quiet ++ w₂.pending).head?, s.queued = 1 := by
    rw [hsince]
    exact queued_of_head hempty
  have hpos : 1 ≤ limits.backlog.size := by omega
  have hclosed : w₁.SawEmpty ∨ quiet ≠ [] → w₂.alarm.monitor.escalated = false := by
    intro hsome
    rw [halarm, hheard, BacklogMonitor.follow_append]
    rcases hsize with htwo | ⟨-, hsaw⟩
    · rcases hsome with hsaw | hsome
      · exact BacklogMonitor.closed_follow (hsaw.closed hpos) hquiet
      · obtain ⟨s, quiet, rfl⟩ := List.exists_cons_of_ne_nil hsome
        have hone := hhead s rfl
        have hbelow : s.queued < limits.backlog.size := by omega
        exact BacklogMonitor.closed_since hbelow fun t ht => hquiet t (List.mem_cons_of_mem s ht)
    · exact BacklogMonitor.closed_follow (hsaw.closed hpos) hquiet
  refine ⟨hclosed, ?_⟩
  intro s rest hpending hexceeds
  have hsome : w₁.SawEmpty ∨ quiet ≠ [] := by
    refine .inr ?_
    rintro rfl
    rw [hpending] at hhead
    have hone := hhead s rfl
    have hmore := hexceeds.1
    omega
  have hescalate := BacklogMonitor.escalate_of_exceeds (hclosed hsome) hexceeds
  have hpolicy : w₂.alarm.policy = limits.backlog := by rw [halarm]
  simp only [Watch.step, hpending, List.getElem?_cons_zero, Alarm.hear, hpolicy, hescalate, if_true]

/-- Threads that are all core threads, room for one task in the primary queue, and an escalation as soon as
more tasks than the size wait and the first of them has waited at all. -/
def Limits.watchful (threads size : Nat) (hthreads : 0 < threads) : Limits :=
  ⟨"pool", threads, threads, 1, ⟨size, 0, 2500⟩, hthreads, Nat.le_refl threads, Nat.one_pos⟩

/-- Tasks are submitted at the given times. -/
def Action.burst (times : List Nat) : List (Action Nat) := times.map fun now => .submit "lane" now now

/-- Each thread takes a turn; this is done so many times. -/
def Action.rounds (threads : List Nat) : Nat → List (Action Nat)
  | 0 => []
  | n + 1 => threads.map (fun id => .turn id false 5) ++ Action.rounds threads n

/-- One thread with a size of two is overloaded, works off all that waits, and is overloaded again; the
sightings of the second time are reported late. -/
def Watch.overload : List (Watch.Step Nat) × List (Watch.Step Nat) :=
  (promptly (Action.burst [0, 0, 1, 2, 3] ++ Action.rounds [1] 12),
    (Action.burst [10, 10, 10, 10, 11]).map .act ++ List.replicate 3 (.report 0))

theorem escalates_anew_overload :
    Watch.InOrder (Watch.overload.1 ++ Watch.overload.2) ∧
    ((Watch.start (.watchful 1 2 Nat.one_pos)).run Watch.overload.1).pool.overflow.size = 0 ∧
    ((Watch.start (.watchful 1 2 Nat.one_pos)).run Watch.overload.1).alarm.escalations = 1 ∧
    ((Watch.start (.watchful 1 2 Nat.one_pos)).run
      (Watch.overload.1 ++ Watch.overload.2)).alarm.monitor.escalated = false ∧
    (((Watch.start (.watchful 1 2 Nat.one_pos)).run
        (Watch.overload.1 ++ Watch.overload.2)).step (.report 0)).alarm.escalations
      = ((Watch.start (.watchful 1 2 Nat.one_pos)).run
          (Watch.overload.1 ++ Watch.overload.2)).alarm.escalations + 1 := by
  have hinOrder : Watch.InOrder (Watch.overload.1 ++ Watch.overload.2) := by decide
  have hempty : ((Watch.start (.watchful 1 2 Nat.one_pos)).run Watch.overload.1).pool.overflow.size = 0 := by
    decide
  obtain ⟨hended, hescalates⟩ := escalates_anew (.watchful 1 2 Nat.one_pos) Watch.overload.1
    Watch.overload.2 hinOrder hempty (.inl (Nat.le_refl 2)) [⟨1, 0, 10⟩, ⟨2, 0, 10⟩, ⟨3, 0, 10⟩]
    (by decide) (by decide)
  exact ⟨hinOrder, hempty, by decide, hended (.inr (by decide)),
    hescalates ⟨4, 1, 11⟩ [] (by decide) (by decide)⟩

/-! ## Backlogs that are not escalated -/

/-- At most one escalation was made, and its episode has not ended. -/
def Alarm.Once (al : Alarm) : Prop :=
  al.escalations = 0 ∨ al.escalations = 1 ∧ al.monitor.escalated = true

/-- Where the size is zero, an alarm that has escalated stays as it is. -/
theorem once_hear {al : Alarm} (hzero : al.policy.size = 0) (h : al.Once) (s : Sighting) :
    (al.hear s).Once := by
  have hlooks := al.monitor.looks al.policy s
  -- nothing is below a size of zero
  have hopen : al.monitor.HoldsOpen al.policy s ↔ al.monitor.escalated = true :=
    and_iff_left (hzero ▸ Nat.zero_le _)
  unfold Alarm.hear Alarm.Once
  generalize (al.monitor.look al.policy s).1 = alert, (al.monitor.look al.policy s).2 = m at hlooks ⊢
  rcases h with hnone | ⟨hone, hescalated⟩
  · cases hlooks with
    | escalate => exact .inr ⟨by simp [hnone], rfl⟩
    | _ => exact .inl (by simp [hnone])
  · have hholds := hopen.mpr hescalated
    cases hlooks with
    | clear escalated nothing stays => exact .inr ⟨by simp [hone], stays.mpr hholds⟩
    | escalate waits exceeds closed => exact absurd hholds closed
    | withheld => exact .inr ⟨by simp [hone], rfl⟩
    | warn waits within closed => exact absurd hholds closed
    | spared waits within closed => exact absurd hholds closed

/-- Where the size is zero, a pool escalates at most once in its life: no number of tasks is below the size,
and so the episode never ends. -/
theorem escalations_le_one {limits : Limits} (hzero : limits.backlog.size = 0)
    (actions : List (Action α)) :
    ((Journal.start limits).run actions).pool.counters.escalations ≤ 1 := by
  have hkeeps : ∀ j : Journal α, j.pool.alarm.policy.size = 0 → j.pool.alarm.Once →
      (j.run actions).pool.alarm.Once := by
    induction actions with
    | nil => exact fun j _ h => h
    | cons a actions ih =>
      intro j hpolicy h
      have hact := alarm_act j.pool a
      refine ih (j.step a) ?_ ?_
      · show (j.pool.act a).alarm.policy.size = 0
        rw [hact]
        cases j.pool.sighting? a <;> exact hpolicy
      · show (j.pool.act a).alarm.Once
        rw [hact]
        cases j.pool.sighting? a with
        | none => exact h
        | some s => exact once_hear hpolicy h s
  rcases hkeeps (.start limits) hzero (.inl rfl) with hnone | ⟨hone, -⟩
  · exact Nat.le_trans (Nat.le_of_eq hnone) (Nat.zero_le 1)
  · exact Nat.le_of_eq hone

/-- After an escalation the overflow queue is empty, and yet the next sighting that passes both bounds is not
escalated. -/
structure Unescalated (limits : Limits) (earlier later : List (Action α)) (a : Action α) : Prop where
  escalated : ((Journal.start limits).run earlier).pool.counters.escalations = 1
  drained : ((Journal.start limits).run earlier).pool.overflow.size = 0
  quiet : ∀ s ∈ ((Journal.start limits).run earlier).pool.sightings later, ¬ s.Exceeds limits.backlog
  exceeds : ∃ s, ((Journal.start limits).run (earlier ++ later)).pool.sighting? a = some s ∧
    s.Exceeds limits.backlog
  silent : ((Journal.start limits).run (earlier ++ later ++ [a])).pool.counters.escalations = 1

/-- An empty queue does not always let the next backlog be escalated.  With a size of zero, one thread works
off all that waits.  With a size of one, three threads take what waits when they look for tasks, and nobody
sees the queue empty.  With a size of two, four threads do so, and then the third task that waits is reported
before the first one. -/
theorem drained_unescalated :
    Unescalated (.watchful 1 0 Nat.one_pos) (Action.burst [0, 0, 1, 2] ++ Action.rounds [1] 9)
      (Action.burst [10, 10]) (.submit "lane" 11 11) ∧
    Unescalated (.watchful 3 1 (Nat.succ_pos 2)) (Action.burst [0, 0, 0, 0, 1, 2] ++ Action.rounds [1, 2, 3] 3)
      (Action.burst [10, 10]) (.submit "lane" 11 11) ∧
    ∃ drained again : Watch Nat,
      drained = (Watch.start (.watchful 4 2 (Nat.succ_pos 3))).run
        (Watch.promptly (Action.burst [0, 0, 0, 0, 0, 1, 2, 3] ++ Action.rounds [1, 2, 3, 4] 3)) ∧
      drained.alarm.escalations = 1 ∧ drained.pool.overflow.size = 0 ∧ drained.pending = [] ∧
      again = drained.run ((Action.burst [10, 10, 10, 11]).map .act) ∧
      again.pending = [⟨1, 0, 10⟩, ⟨2, 0, 10⟩, ⟨3, 1, 11⟩] ∧
      (⟨3, 1, 11⟩ : Sighting).Exceeds (Limits.watchful 4 2 (Nat.succ_pos 3)).backlog ∧
      (again.step (.report 2)).alarm.escalations = 1 := by
  refine ⟨⟨by decide, by decide, by decide, ⟨⟨2, 1, 11⟩, by decide, by decide⟩, by decide⟩,
    ⟨by decide, by decide, by decide, ⟨⟨2, 1, 11⟩, by decide, by decide⟩, by decide⟩,
    _, _, rfl, by decide, by decide, by decide, rfl, by decide, by decide, by decide⟩

end FlightRelay.Pool

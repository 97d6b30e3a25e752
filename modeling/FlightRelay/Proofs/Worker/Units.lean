import FlightRelay.Proofs.Worker.Latency
import FlightRelay.Worker.Status

/-!
# Units of work and their record

Whoever has the record of a worker may begin and end units, in any order, and a guard ends whatever unit is
open when it is dropped.  The record agrees with itself all the same: a worker runs exactly while a unit is
open, a unit counts once, by what ends it, and nothing counts while the worker is shut down.
-/

namespace FlightRelay

namespace WorkerStatus

/-- What holds of a record at any time. -/
structure Regular (s : WorkerStatus) : Prop where
  running_iff : s.state = .running ↔ s.started.isSome
  /-- The latencies are the last ones of all units that came to their end. -/
  latencies : ∃ units, LatencyRing.Holds latencyCapacity units s.latencies ∧ units.length = s.executed

/-- How many units a record knows of: those that came to their end, and the open one. -/
def known (s : WorkerStatus) : Nat := s.executed + s.started.toList.length

variable {s : WorkerStatus} {started now : Nat} {name activity : String} {priority : UInt32}

/-! ## Records at any time -/

/-- Whoever does not run has no unit open. -/
theorem Regular.started_eq_none (h : s.Regular) (hstate : s.state ≠ .running) : s.started = none :=
  Option.not_isSome_iff_eq_none.mp (mt h.running_iff.mpr hstate)

/-- Without an open unit, nobody runs. -/
theorem Regular.state_ne_running (h : s.Regular) (hstarted : s.started = none) : s.state ≠ .running := by
  intro hstate
  have hsome := h.running_iff.mp hstate
  rw [hstarted] at hsome
  cases hsome

/-- With an open unit, the worker runs. -/
theorem Regular.state_eq_running (h : s.Regular) (hstarted : s.started = some started) :
    s.state = .running :=
  h.running_iff.mpr (Option.isSome_iff_exists.mpr ⟨started, hstarted⟩)

/-- A worker runs since its unit was begun. -/
theorem Regular.runningSince_eq (h : s.Regular) : s.runningSince = s.started := by
  rw [runningSince]
  split
  · rfl
  · rename_i hstate
    exact (h.started_eq_none hstate).symm

/-- There is a latency for each unit, up to the capacity. -/
theorem Regular.size_latencies (h : s.Regular) : s.latencies.size = min s.executed latencyCapacity := by
  obtain ⟨units, holds, hcount⟩ := h.latencies
  rw [holds.size_eq, hcount]
  rfl

/-- Nothing is open after a shutdown. -/
theorem Regular.started_of_shutdown (h : s.Regular) (hstate : s.state = .shutdown) : s.started = none := by
  apply h.started_eq_none
  rw [hstate]
  nofun

/-! ## Beginnings and ends -/

/-- Nothing begins after a shutdown. -/
theorem begin_of_shutdown (h : s.state = .shutdown) : s.begin activity now = s := if_pos h

/-- Before a shutdown, a unit begins, whatever was open. -/
theorem begin_of_ne_shutdown (h : s.state ≠ .shutdown) :
    s.begin activity now = { s with state := .running, started := some now, activity := activity } :=
  if_neg h

/-- An end closes the open unit and counts it. -/
theorem Regular.finish_of_some (h : s.Regular) (hstarted : s.started = some started) :
    s.finish now = { s with
      state := .idle
      started := none
      latencies := s.latencies.record (now - started)
      executed := s.executed + 1 } := by
  unfold WorkerStatus.finish
  rw [hstarted]
  dsimp only
  rw [if_pos (h.state_eq_running hstarted)]

/-- Without an open unit there is nothing to end. -/
theorem Regular.finish_of_none (h : s.Regular) (hstarted : s.started = none) : s.finish now = s := by
  unfold WorkerStatus.finish
  rw [hstarted]
  dsimp only
  rw [if_neg (h.state_ne_running hstarted)]

theorem regular_created (name : String) (priority : UInt32) : (created name priority).Regular where
  running_iff := ⟨nofun, nofun⟩
  latencies := ⟨[], LatencyRing.holds_empty latencyCapacity, rfl⟩

/-- A unit that begins leaves the status regular. -/
theorem Regular.begin (h : s.Regular) : (s.begin activity now).Regular := by
  by_cases hstate : s.state = .shutdown
  · rw [begin_of_shutdown hstate]
    exact h
  · rw [begin_of_ne_shutdown hstate]
    exact ⟨iff_of_true rfl rfl, h.latencies⟩

/-- A unit that ends leaves the status regular. -/
theorem Regular.finish (h : s.Regular) : (s.finish now).Regular := by
  cases hstarted : s.started with
  | none =>
    rw [h.finish_of_none hstarted]
    exact h
  | some started =>
    obtain ⟨units, holds, hcount⟩ := h.latencies
    rw [h.finish_of_some hstarted]
    refine ⟨⟨nofun, nofun⟩, units ++ [now - started], holds.record _, ?_⟩
    rw [List.length_append, hcount]
    rfl

/-- Whoever is shut down or opened again has no open unit. -/
theorem Regular.shutDown (h : s.Regular) : s.shutDown.Regular := ⟨⟨nofun, nofun⟩, h.latencies⟩

/-- A worker that is opened again has no unit open. -/
theorem Regular.reopen (h : s.Regular) : s.reopen.Regular := ⟨⟨nofun, nofun⟩, h.latencies⟩

theorem Regular.setActivity (h : s.Regular) : (s.setActivity activity).Regular :=
  ⟨h.running_iff, h.latencies⟩

/-- A unit that begins is not counted yet. -/
theorem executed_begin : (s.begin activity now).executed = s.executed := by
  unfold WorkerStatus.begin
  split <;> rfl

/-- A unit that ends is counted once. -/
theorem Regular.executed_finish (h : s.Regular) :
    (s.finish now).executed = s.executed + if s.started.isSome then 1 else 0 := by
  cases hstarted : s.started with
  | none =>
    rw [h.finish_of_none hstarted]
    rfl
  | some started =>
    rw [h.finish_of_some hstarted]
    rfl

/-- A unit that begins adds one to those that are known. -/
theorem known_begin_le : (s.begin activity now).known ≤ s.known + 1 := by
  by_cases hstate : s.state = .shutdown
  · rw [begin_of_shutdown hstate]
    exact Nat.le_succ _
  · rw [begin_of_ne_shutdown hstate]
    exact Nat.succ_le_succ (Nat.le_add_right _ _)

/-- A unit that comes to its end was known before. -/
theorem Regular.known_finish (h : s.Regular) : (s.finish now).known = s.known := by
  cases hstarted : s.started with
  | none => rw [h.finish_of_none hstarted]
  | some started =>
    rw [h.finish_of_some hstarted, known, known, hstarted]
    rfl

end WorkerStatus

namespace GuardedStatus

/-! ## Uses of a record -/

/-- What is done with a record. -/
inductive Use where
  | begin (activity : String) (now : Nat)
  | finish (now : Nat)
  /-- A unit is begun, and a guard handed out. -/
  | execute (activity : String) (now : Nat)
  | dropGuard (now : Nat)
  | setActivity (activity : String)
  | shutDown
  | reopen
  deriving DecidableEq

/-- A record after it was used. -/
def use (g : GuardedStatus) : Use → GuardedStatus
  | .begin activity now => { g with status := g.status.begin activity now }
  | .finish now => { g with status := g.status.finish now }
  | .execute activity now => g.execute activity now
  | .dropGuard now => g.dropGuard now
  | .setActivity activity => { g with status := g.status.setActivity activity }
  | .shutDown => { g with status := g.status.shutDown }
  | .reopen => { g with status := g.status.reopen }

/-- A record after all its uses. -/
def after (name : String) (priority : UInt32) (past : List Use) : GuardedStatus :=
  past.foldl use ⟨.created name priority, 0⟩

/-- Somebody begins a unit, with a guard or without. -/
def Use.begins : Use → Bool
  | .begin _ _ => true
  | .execute _ _ => true
  | _ => false

/-- Somebody ends what is open, or drops a guard that is out. -/
def Use.ends (g : GuardedStatus) : Use → Bool
  | .finish _ => true
  | .dropGuard _ => 0 < g.guards
  | _ => false

/-- What holds of a record whatever was done with it, and what follows from whatever is done next. -/
structure Booked (past : List Use) (g : GuardedStatus) : Prop where
  /-- A worker runs exactly while a unit is open, and has been running since that unit was begun. -/
  running_iff : g.status.state = .running ↔ g.status.started.isSome
  runningSince : g.status.runningSince = g.status.started
  /-- A unit counts as executed by what ends it, and by nothing else. -/
  executed_use : ∀ u : Use, (g.use u).status.executed
    = g.status.executed + if u.ends g && g.status.started.isSome then 1 else 0
  closed : ∀ u : Use, u.ends g → g.status.started.isSome →
    (g.use u).status.started = none ∧ (g.use u).status.state = .idle
  unchanged : ∀ u : Use, u.ends g → g.status.started = none → (g.use u).status = g.status
  executed_le : g.status.executed ≤ past.countP Use.begins
  size_latencies : g.status.latencies.size = min g.status.executed WorkerStatus.latencyCapacity
  /-- From a shutdown until the worker is opened again nothing is begun, and nothing counts. -/
  shut : ∀ later : List Use, .reopen ∉ later →
    (later.foldl use (g.use .shutDown)).status.state = .shutdown ∧
      (later.foldl use (g.use .shutDown)).status.executed = g.status.executed

variable {g : GuardedStatus} {u : Use} {s : WorkerStatus} {past later : List Use}

/-! ## One use -/

/-- What becomes of a record that is used. -/
inductive Effect (g : GuardedStatus) : Use → WorkerStatus → Prop where
  | begun {u : Use} (activity : String) (now : Nat) : u.begins → ¬ u.ends g →
    Effect g u (g.status.begin activity now)
  | ended {u : Use} (now : Nat) : u.ends g → Effect g u (g.status.finish now)
  /-- No guard is out that could be dropped. -/
  | nothing (now : Nat) : ¬ (Use.dropGuard now).ends g → Effect g (.dropGuard now) g.status
  | renamed (activity : String) : Effect g (.setActivity activity) (g.status.setActivity activity)
  | shut : Effect g .shutDown g.status.shutDown
  | reopened : Effect g .reopen g.status.reopen

/-- Every use has one of these effects. -/
theorem effect (g : GuardedStatus) (u : Use) : Effect g u (g.use u).status := by
  cases u with
  | begin activity now => exact .begun activity now rfl nofun
  | execute activity now => exact .begun activity now rfl nofun
  | finish now => exact .ended now rfl
  | dropGuard now =>
    show Effect g _ (g.dropGuard now).status
    rw [dropGuard]
    split
    · rename_i hguards
      refine .nothing now fun hends => ?_
      exact Nat.ne_of_gt (of_decide_eq_true hends) hguards
    · rename_i hguards
      exact .ended now (decide_eq_true (Nat.pos_of_ne_zero hguards))
  | setActivity activity => exact .renamed activity
  | shutDown => exact .shut
  | reopen => exact .reopened

/-- Whatever the use, the status stays regular. -/
theorem Effect.regular (he : Effect g u s) (h : g.status.Regular) : s.Regular := by
  cases he with
  | begun => exact h.begin
  | ended => exact h.finish
  | nothing => exact h
  | renamed => exact h.setActivity
  | shut => exact h.shutDown
  | reopened => exact h.reopen

/-- A record gets to know of a unit only when one is begun. -/
theorem Effect.known_le (he : Effect g u s) (h : g.status.Regular) :
    s.known ≤ g.status.known + if u.begins then 1 else 0 := by
  cases he with
  | begun activity now hbegins =>
    rw [if_pos hbegins]
    exact WorkerStatus.known_begin_le
  | ended now =>
    rw [h.known_finish]
    exact Nat.le_add_right _ _
  | nothing | renamed => exact Nat.le_add_right _ _
  -- an open unit is forgotten
  | shut | reopened => exact Nat.add_le_add_left (Nat.zero_le _) _

/-- What ends the open unit counts it, and nothing else counts. -/
theorem Effect.executed_eq (he : Effect g u s) (h : g.status.Regular) :
    s.executed = g.status.executed + if u.ends g && g.status.started.isSome then 1 else 0 := by
  cases he with
  | begun activity now _ hends =>
    rw [WorkerStatus.executed_begin, Bool.eq_false_iff.mpr hends]
    rfl
  | ended now hends =>
    rw [hends, Bool.true_and]
    exact h.executed_finish
  | nothing now hends =>
    rw [Bool.eq_false_iff.mpr hends]
    rfl
  | renamed | shut | reopened => rfl

/-- Who is shut down stays so, whatever is begun and ended, until the record is opened again. -/
theorem Effect.state_eq_shutdown (he : Effect g u s) (h : g.status.Regular)
    (hstate : g.status.state = .shutdown) (hu : u ≠ .reopen) : s.state = .shutdown := by
  cases he with
  | begun =>
    rw [WorkerStatus.begin_of_shutdown hstate]
    exact hstate
  | ended =>
    rw [h.finish_of_none (h.started_of_shutdown hstate)]
    exact hstate
  | nothing | renamed => exact hstate
  | shut => rfl
  | reopened => exact absurd rfl hu

/-- However a unit ends, it is closed. -/
theorem Effect.closed (he : Effect g u s) (h : g.status.Regular) (hends : u.ends g)
    (hopen : g.status.started.isSome) : s.started = none ∧ s.state = .idle := by
  obtain ⟨started, hstarted⟩ := Option.isSome_iff_exists.mp hopen
  cases he with
  | begun _ _ _ hnot => exact absurd hends hnot
  | ended =>
    rw [h.finish_of_some hstarted]
    exact ⟨rfl, rfl⟩
  | nothing _ hnot => exact absurd hends hnot
  | renamed | shut | reopened => cases hends

/-- To end what is not open does nothing. -/
theorem Effect.unchanged (he : Effect g u s) (h : g.status.Regular) (hends : u.ends g)
    (hnone : g.status.started = none) : s = g.status := by
  cases he with
  | begun _ _ _ hnot => exact absurd hends hnot
  | ended => exact h.finish_of_none hnone
  | nothing => rfl
  | renamed | shut | reopened => cases hends

/-! ## Use after use -/

/-- After every history, the status is regular. -/
theorem regular_after (name : String) (priority : UInt32) (past : List Use) :
    (after name priority past).status.Regular := by
  induction past using List.reverseRecOn with
  | nil => exact WorkerStatus.regular_created name priority
  | append_singleton past u ih =>
    rw [after, List.foldl_append]
    exact (effect _ u).regular ih

/-- No more units are known than were begun. -/
theorem known_after_le (name : String) (priority : UInt32) (past : List Use) :
    (after name priority past).status.known ≤ past.countP Use.begins := by
  induction past using List.reverseRecOn with
  | nil => exact Nat.le_refl 0
  | append_singleton past u ih =>
    rw [after, List.foldl_append, List.countP_append, List.countP_singleton]
    have hu := (effect _ u).known_le (regular_after name priority past)
    exact hu.trans (Nat.add_le_add_right ih _)

/-- A worker that is shut down stays so until it is opened again, and books nothing. -/
theorem shut_run (h : g.status.Regular) (hstate : g.status.state = .shutdown) (hlater : .reopen ∉ later) :
    (later.foldl use g).status.state = .shutdown ∧
      (later.foldl use g).status.executed = g.status.executed := by
  induction later generalizing g with
  | nil => exact ⟨hstate, rfl⟩
  | cons u later ih =>
    have hu : u ≠ .reopen := (List.ne_of_not_mem_cons hlater).symm
    have he := effect g u
    have hexecuted : (g.use u).status.executed = g.status.executed := by
      rw [he.executed_eq h, h.started_of_shutdown hstate, Option.isSome_none, Bool.and_false]
      rfl
    obtain ⟨hlast, hlastExecuted⟩ :=
      ih (he.regular h) (he.state_eq_shutdown h hstate hu) (List.not_mem_of_not_mem_cons hlater)
    exact ⟨hlast, hlastExecuted.trans hexecuted⟩

/-- Whatever is done with the record of a worker, in whatever order, and however many guards are dropped too
late: it says that the worker runs exactly while a unit is open, counts each unit once, when it is ended,
keeps the latencies of as many units as there is room for, and counts nothing between a shutdown and the
next opening. -/
theorem units_booked (name : String) (priority : UInt32) (past : List Use) :
    Booked past (after name priority past) := by
  have regular := regular_after name priority past
  exact
    { running_iff := regular.running_iff
      runningSince := regular.runningSince_eq
      executed_use := fun u => (effect _ u).executed_eq regular
      closed := fun u hends hopen => (effect _ u).closed regular hends hopen
      unchanged := fun u hends hnone => (effect _ u).unchanged regular hends hnone
      executed_le := (Nat.le_add_right _ _).trans (known_after_le name priority past)
      size_latencies := regular.size_latencies
      shut := fun later hlater => shut_run regular.shutDown rfl hlater }

end GuardedStatus

end FlightRelay

import FlightRelay.Proofs.Supervisor.Healing

/-!
# Dead stages come back

A stage is alive while the task of its slot goes on.  As long as no stop has begun, the report of a
watcher brings the stage of its task back, and a sweep leaves no stage dead: what it has seen dead it
restarts, and what it has seen hang it ends and restarts, whether or not the task can be ended.  For this
each slot must have the task that was started for it (`SlotTable.Owned`), so that nothing that is done
about one stage touches another (`SlotTable.Untouched`).
-/

namespace FlightRelay

variable {t t' : SlotTable} {s : Supervisor} {stage other : String} {slot : Slot}
  {generation task threshold now : Nat} {k : StageTask} {o : Observation}

namespace SlotTable

/-! ## Slots and their tasks -/

/-- Each slot has a task that was started for its stage, at its generation. -/
def Owned (t : SlotTable) : Prop :=
  ∀ stage slot, t.find? stage = some slot →
    ∃ k, t.tasks[slot.task]? = some k ∧ k.stage = stage ∧ k.generation = slot.generation

/-- The stage has a slot, and its task has not come to its end. -/
def Alive (t : SlotTable) (stage : String) : Prop :=
  ∃ slot k, t.find? stage = some slot ∧ t.tasks[slot.task]? = some k ∧ k.state ≠ .ended

/-- A stage has the slot that it had, and the task of the slot does what it did. -/
def Untouched (t t' : SlotTable) (stage : String) : Prop :=
  t'.find? stage = t.find? stage ∧
    ∀ slot, t.find? stage = some slot → t'.tasks[slot.task]? = t.tasks[slot.task]?

theorem alive_of_find? (h : t.find? stage = some slot) (found : t.tasks[slot.task]? = some k)
    (hstate : k.state ≠ .ended) : t.Alive stage := ⟨slot, k, h, found, hstate⟩

theorem Untouched.refl : Untouched t t stage := ⟨rfl, fun _ _ => rfl⟩

/-- A stage that was not touched is as alive as it was. -/
theorem Untouched.alive (h : Untouched t t' stage) (halive : t.Alive stage) : t'.Alive stage := by
  obtain ⟨slot, k, hslot, found, hstate⟩ := halive
  exact ⟨slot, k, h.1.trans hslot, (h.2 slot hslot).trans found, hstate⟩

/-- What was untouched twice was untouched. -/
theorem Untouched.trans {t'' : SlotTable} (h : Untouched t t' stage) (h' : Untouched t' t'' stage) :
    Untouched t t'' stage :=
  ⟨h'.1.trans h.1, fun slot hslot => (h'.2 slot (h.1.trans hslot)).trans (h.2 slot hslot)⟩

/-- The task of a slot exists. -/
theorem Owned.lt (h : t.Owned) (hslot : t.find? stage = some slot) : slot.task < t.tasks.length := by
  obtain ⟨k, found, -⟩ := h _ _ hslot
  exact (List.getElem?_eq_some_iff.mp found).1

/-- Two stages do not share a task. -/
theorem Owned.task_ne {slot' : Slot} (h : t.Owned) (hslot : t.find? stage = some slot)
    (hslot' : t.find? other = some slot') (hne : other ≠ stage) : slot'.task ≠ slot.task := by
  obtain ⟨k, found, hk, -⟩ := h _ _ hslot
  obtain ⟨k', found', hk', -⟩ := h _ _ hslot'
  intro heq
  rw [heq, found] at found'
  obtain rfl := Option.some.inj found'
  exact hne (hk'.symm.trans hk)

/-! ## What is done about one stage -/

/-- A task goes over to something else, and the slots stay. -/
theorem Owned.outlast {tasks : List StageTask} (h : t.Owned) (htasks : Outlast t.tasks tasks) :
    ({ t with tasks } : SlotTable).Owned := by
  intro stage slot hslot
  obtain ⟨k, found, hstage, hgeneration⟩ := h stage slot hslot
  obtain ⟨k', found', hsame, -⟩ := htasks.getElem? found
  refine ⟨k', found', ?_, ?_⟩
  · exact (congrArg StageTask.stage hsame).trans hstage
  · exact (congrArg StageTask.generation hsame).trans hgeneration

theorem Owned.setState (h : t.Owned) : (t.setState task .ended).Owned := h.outlast outlast_setState

/-- The end of a task touches no stage that has another one. -/
theorem untouched_setState (hne : ∀ slot, t.find? stage = some slot → slot.task ≠ task) {state : TaskState} :
    Untouched t (t.setState task state) stage := by
  refine ⟨rfl, fun slot hslot => ?_⟩
  show (t.tasks.modify task _)[slot.task]? = _
  simp [(hne slot hslot).symm]

/-- A new slot has a new task. -/
theorem Owned.spawn (h : t.Owned) (stage : String) (worker generation restarts : Nat) :
    (t.spawn stage worker generation restarts).Owned := by
  intro other slot' hslot'
  rw [find?_spawn] at hslot'
  by_cases hother : other = stage
  · rw [if_pos hother] at hslot'
    obtain rfl := Option.some.inj hslot'
    exact ⟨_, List.getElem?_concat_length, hother.symm, rfl⟩
  · rw [if_neg hother] at hslot'
    obtain ⟨k, found, hk⟩ := h _ _ hslot'
    exact ⟨k, (List.getElem?_append_left (h.lt hslot')).trans found, hk⟩

/-- New slots have new tasks, each its own. -/
theorem Owned.spawnEach (h : t.Owned) (names : List String) (place : Nat) :
    (t.spawnEach names place).Owned := by
  induction names generalizing t place with
  | nil => exact h
  | cons name names ih => exact ih (h.spawn _ _ _ _) _

/-- A successor has a task of its own. -/
theorem Owned.succeed (h : t.Owned) (stage : String) (slot : Slot) : (t.succeed stage slot).Owned :=
  h.spawn stage _ _ _

/-- The successor of one stage touches no other. -/
theorem untouched_succeed (h : t.Owned) (hne : other ≠ stage) :
    Untouched t (t.succeed stage slot) other :=
  ⟨find?_succeed.trans (if_neg hne), fun _ hslot => getElem?_succeed_of_lt (h.lt hslot)⟩

/-- A stage that was restarted is alive. -/
theorem alive_succeed (up : t.shuttingDown = false) (stage : String) (slot : Slot) :
    (t.succeed stage slot).Alive stage := by
  refine alive_of_find? (find?_succeed.trans (if_pos rfl)) List.getElem?_concat_length ?_
  show (if t.shuttingDown then TaskState.ended else .ready) ≠ .ended
  rw [up]
  decide

end SlotTable

open SlotTable

namespace Supervisor

/-! ## Restarts -/

/-- While no stop has begun, a restart at the generation of the slot makes a successor. -/
theorem restart_of_find? (up : s.table.shuttingDown = false) (hslot : s.table.find? stage = some slot) :
    s.restart stage slot.generation
      = ⟨s.crew.modify slot.worker WorkerStatus.reopen, s.table.succeed stage slot⟩ := by
  rw [restart_eq, up, if_neg Bool.false_ne_true, replace_of_some hslot]

/-- A call for the restart of a generation that a stage is not at changes nothing. -/
theorem restart_of_ne (h : ∀ slot, s.table.find? stage = some slot → slot.generation ≠ generation) :
    s.restart stage generation = s := by
  refine restart_of_none ?_
  rw [← Option.not_isSome_iff_eq_none, restart?_isSome_iff]
  rintro ⟨⟨slot, hslot, hgeneration⟩, -⟩
  exact h slot hslot hgeneration

/-- A generation that was to be replaced is over. -/
theorem generation_ne_of_restart (up : s.table.shuttingDown = false)
    (h : (s.restart stage generation).table.find? stage = some slot) : slot.generation ≠ generation := by
  by_cases hbefore : ∃ slot, s.table.find? stage = some slot ∧ slot.generation = generation
  · obtain ⟨before, hslot, rfl⟩ := hbefore
    rw [restart_of_find? up hslot, find?_succeed, if_pos rfl] at h
    obtain rfl := Option.some.inj h
    exact Nat.succ_ne_self _
  · rw [restart_of_ne fun slot hfind heq => hbefore ⟨slot, hfind, heq⟩] at h
    exact fun heq => hbefore ⟨slot, h, heq⟩

/-- The watcher of the task of a slot brings the stage back. -/
theorem taskExited_of_find? (up : s.table.shuttingDown = false) (owned : s.table.Owned)
    (hslot : s.table.find? stage = some slot) :
    s.taskExited slot.task
      = ⟨s.crew.modify slot.worker WorkerStatus.reopen,
          (s.table.setState slot.task .ended).succeed stage slot⟩ := by
  obtain ⟨k, found, rfl, hgeneration⟩ := owned _ _ hslot
  rw [taskExited_of_getElem? found, hgeneration]
  exact restart_of_find? (s := { s with table := s.table.setState slot.task .ended }) up hslot

/-- After a start each slot has its task. -/
theorem owned_of_start {crew : Crew} (h : (create crew).start = (.ok (), s)) : s.table.Owned := by
  rw [(start_eq_ok h).2]
  exact Owned.spawnEach (t := .empty) (fun _ _ hslot => by cases hslot) _ _

/-- One stage is brought to life, and the others are left alone. -/
structure Tended (s s' : Supervisor) (stage : String) : Prop where
  up : s'.table.shuttingDown = false
  owned : s'.table.Owned
  alive : s'.table.Alive stage
  others : ∀ other, other ≠ stage → Untouched s.table s'.table other

/-- A stage with a successor is tended. -/
theorem tended_succeed {crew : Crew} (up : s.table.shuttingDown = false) (owned : s.table.Owned)
    (hslot : s.table.find? stage = some slot) (ht : t = s.table ∨ t = s.table.setState slot.task .ended) :
    Tended s ⟨crew, t.succeed stage slot⟩ stage := by
  obtain rfl | rfl := ht
  · exact ⟨up, owned.succeed _ _, alive_succeed up _ _, fun _ hne => untouched_succeed owned hne⟩
  · refine ⟨up, owned.setState.succeed _ _, alive_succeed (t := s.table.setState _ _) up _ _,
      fun other hne => ?_⟩
    have hended : Untouched s.table (s.table.setState slot.task .ended) other :=
      untouched_setState fun slot' hslot' => owned.task_ne hslot hslot' hne
    exact hended.trans (untouched_succeed owned.setState hne)

/-- A stage whose task exits is tended. -/
theorem tended_taskExited (up : s.table.shuttingDown = false) (owned : s.table.Owned)
    (hslot : s.table.find? stage = some slot) : Tended s (s.taskExited slot.task) stage := by
  rw [taskExited_of_find? up owned hslot]
  exact tended_succeed up owned hslot (.inr rfl)

/-- The slot that follows, once a watcher has reported. -/
theorem find?_taskExited (up : s.table.shuttingDown = false) (owned : s.table.Owned)
    (hslot : s.table.find? stage = some slot) :
    (s.taskExited slot.task).table.find? stage
      = some ⟨slot.worker, slot.generation + 1, slot.restarts + 1, s.table.tasks.length⟩ := by
  rw [taskExited_of_find? up owned hslot, find?_succeed, if_pos rfl]
  exact congrArg (fun n => some (Slot.mk _ _ _ n)) (List.length_modify ..)

/-! ## Sweeps -/

/-- What is done about a stage that is as it was seen: nothing if it is alive, or its slot is replaced,
whatever was done about the task. -/
theorem actOn_cases (threshold now : Nat) (up : s.table.shuttingDown = false) (owned : s.table.Owned)
    (hslot : s.table.find? o.stage = some o.slot) (hended : s.table.hasEnded o.slot.task = o.ended) :
    (o.ended = false ∧ actOn threshold now s o = s) ∨
      ∃ crew t, (t = s.table ∨ t = s.table.setState o.slot.task .ended) ∧
        actOn threshold now s o = ⟨crew, t.succeed o.stage o.slot⟩ := by
  unfold actOn
  cases ho : o.ended with
  | true => exact .inr ⟨_, _, .inl rfl, restart_of_find? up hslot⟩
  | false =>
    rw [if_neg Bool.false_ne_true]
    cases s.runningSince o with
    | none => exact .inl ⟨rfl, rfl⟩
    | some started =>
      dsimp only
      split
      · exact .inl ⟨rfl, rfl⟩
      · refine .inr ?_
        -- once the watcher has brought the stage back, the sweep asks for a generation that is over
        have hover (crew : Crew) :
            Supervisor.restart ⟨crew, (s.table.setState o.slot.task .ended).succeed o.stage o.slot⟩
                o.stage o.slot.generation
              = ⟨crew, (s.table.setState o.slot.task .ended).succeed o.stage o.slot⟩ := by
          refine restart_of_ne fun slot hnext => ?_
          rw [find?_succeed, if_pos rfl] at hnext
          obtain rfl := Option.some.inj hnext
          exact Nat.succ_ne_self _
        obtain ⟨k, found, -⟩ := owned _ _ hslot
        unfold endTask
        rw [found]
        cases hstate : k.state with
        | ready =>
          simp only [hstate]
          rw [taskExited_of_find? up owned hslot, hover]
          exact ⟨_, _, .inr rfl, rfl⟩
        | working =>
          simp only [hstate]
          rw [taskExited_of_find? (s := { s with crew := s.crew.modify k.worker fun w => w.finish now })
            up owned hslot, hover]
          exact ⟨_, _, .inr rfl, rfl⟩
        | stuck =>
          simp only [hstate]
          exact ⟨_, _, .inl rfl, restart_of_find? up hslot⟩
        | ended =>
          rw [ho, Bool.eq_false_iff] at hended
          exact absurd (hasEnded_iff.mpr ⟨k, found, hstate⟩) hended

/-- A stage that a sweep acts on is tended: it is alive, or has got a successor. -/
theorem tended_actOn (threshold now : Nat) (up : s.table.shuttingDown = false) (owned : s.table.Owned)
    (hslot : s.table.find? o.stage = some o.slot) (hended : s.table.hasEnded o.slot.task = o.ended) :
    Tended s (actOn threshold now s o) o.stage := by
  obtain ⟨ho, heq⟩ | ⟨crew, t, ht, heq⟩ := actOn_cases threshold now up owned hslot hended
  · rw [heq]
    obtain ⟨k, found, -⟩ := owned _ _ hslot
    refine ⟨up, owned, alive_of_find? hslot found fun hstate => ?_, fun _ _ => .refl⟩
    rw [hasEnded_iff.mpr ⟨k, found, hstate⟩, ho] at hended
    cases hended
  · rw [heq]
    exact tended_succeed up owned hslot ht

/-- A table has what a sweep saw. -/
def Shows (t : SlotTable) (o : Observation) : Prop :=
  t.find? o.stage = some o.slot ∧ t.hasEnded o.slot.task = o.ended

/-- What is observed of a stage that was not touched still holds. -/
theorem Shows.untouched (h : Shows t o) (huntouched : Untouched t t' o.stage) : Shows t' o := by
  refine ⟨huntouched.1.trans h.1, ?_⟩
  rw [← h.2, hasEnded, state?, huntouched.2 _ h.1]
  rfl

/-- Acting on all that was seen, stage by stage, leaves none of these stages dead. -/
theorem alive_actOnEach (up : s.table.shuttingDown = false) (owned : s.table.Owned)
    (os : List Observation) (once : (os.map Observation.stage).Nodup) (shows : ∀ o ∈ os, Shows s.table o)
    (hstage : stage ∈ os.map Observation.stage ∨ s.table.Alive stage) :
    (os.foldl (actOn threshold now) s).table.Alive stage := by
  induction os generalizing s with
  | nil => simpa using hstage
  | cons o os ih =>
    obtain ⟨hnew, honce⟩ := List.nodup_cons.mp once
    obtain ⟨hslot, hended⟩ := shows o List.mem_cons_self
    have tended := tended_actOn threshold now up owned hslot hended
    refine ih tended.up tended.owned honce (fun o' ho' => ?_) ?_
    · have hne : o'.stage ≠ o.stage := fun heq => hnew (heq ▸ List.mem_map_of_mem ho')
      exact (shows o' (List.mem_cons_of_mem _ ho')).untouched (tended.others _ hne)
    · by_cases heq : stage = o.stage
      · exact .inr (heq ▸ tended.alive)
      · obtain hmem | halive := hstage
        · exact .inl ((List.mem_cons.mp hmem).resolve_left heq)
        · exact .inr ((tended.others _ heq).alive halive)

/-- A sweep leaves no stage dead. -/
theorem alive_sweep (up : s.table.shuttingDown = false) (owned : s.table.Owned)
    (distinct : (s.table.slots.map Prod.fst).Nodup) (hslot : s.table.find? stage = some slot) :
    (s.sweep threshold now).table.Alive stage := by
  have hnames : s.observe.map Observation.stage = s.table.slots.map Prod.fst := by
    unfold observe
    rw [List.map_map]
    rfl
  refine alive_actOnEach up owned s.observe (hnames ▸ distinct) (fun o ho => ?_) (.inl ?_)
  · obtain ⟨⟨name, slot'⟩, hmem, rfl⟩ := List.mem_map.mp ho
    exact ⟨lookup_of_mem distinct hmem, rfl⟩
  · rw [hnames]
    exact List.mem_map.mpr ⟨(stage, slot), mem_of_lookup hslot, rfl⟩

/-! ## Nobody who heals stops -/

theorem shuttingDown_replace :
    (s.replace stage generation).table.shuttingDown = s.table.shuttingDown := by
  obtain heq | ⟨slot, -, -, heq⟩ := s.replace_cases stage generation
  · rw [heq]
  · rw [heq]
    rfl

theorem shuttingDown_restart :
    (s.restart stage generation).table.shuttingDown = s.table.shuttingDown := by
  rw [restart_eq]
  split
  · rfl
  · exact shuttingDown_replace

theorem shuttingDown_taskExited : (s.taskExited task).table.shuttingDown = s.table.shuttingDown := by
  unfold taskExited
  split
  · exact shuttingDown_restart
  · rfl

theorem shuttingDown_endTask : (s.endTask task now).table.shuttingDown = s.table.shuttingDown := by
  unfold endTask
  split
  · rfl
  · split
    · exact shuttingDown_taskExited
    · exact shuttingDown_taskExited
    · rfl
    · rfl

theorem shuttingDown_abort : (s.abort stage now).2.table.shuttingDown = s.table.shuttingDown := by
  unfold abort
  split
  · exact shuttingDown_endTask
  · rfl

theorem shuttingDown_actOn : (actOn threshold now s o).table.shuttingDown = s.table.shuttingDown := by
  unfold actOn
  split
  · exact shuttingDown_restart
  · split
    · rfl
    · split
      · rfl
      · exact shuttingDown_restart.trans shuttingDown_endTask

/-- No sweep begins a stop. -/
theorem shuttingDown_sweep : (s.sweep threshold now).table.shuttingDown = s.table.shuttingDown := by
  unfold sweep
  generalize s.observe = os
  induction os generalizing s with
  | nil => rfl
  | cons o os ih => exact ih.trans shuttingDown_actOn

end Supervisor

namespace Vigil

variable {v v' : Vigil} {m : Move} {ms : List Move}

/-- A stop is for good. -/
theorem Step.down (step : Step v m v') (h : v.supervisor.table.shuttingDown = true) :
    v'.supervisor.table.shuttingDown = true := by
  cases step with
  | work _ _ => exact h
  | exit _ _ => exact Supervisor.shuttingDown_taskExited.trans h
  | look => exact h
  | heal _ => exact Supervisor.shuttingDown_restart.trans h
  | stop => rfl
  | enter _ => exact h
  | late => exact Supervisor.shuttingDown_replace.trans h

/-- A stop that has begun is never taken back. -/
theorem Course.down (course : Course v ms v') (h : v.supervisor.table.shuttingDown = true) :
    v'.supervisor.table.shuttingDown = true := by
  induction course with
  | done => exact h
  | move step _ ih => exact ih (step.down h)

/-- Where tasks are restarted nobody has stopped. -/
theorem Course.unstopped (course : Course v ms v') (up : v'.supervisor.table.shuttingDown = false) :
    .stop ∉ ms := by
  induction course with
  | done => exact List.not_mem_nil
  | @move _ _ _ m ms step rest ih =>
    refine List.not_mem_cons_of_ne_of_not_mem (fun heq => ?_) (ih up)
    subst heq
    cases step with
    | stop => exact Bool.noConfusion (up.symm.trans (rest.down rfl))

end Vigil

end FlightRelay

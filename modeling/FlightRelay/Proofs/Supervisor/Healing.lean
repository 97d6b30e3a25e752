import FlightRelay.Proofs.Supervisor.Slots
import FlightRelay.Supervisor.Basic

/-!
# Two healers

The end of a task is reported by its watcher, and found by a sweep as well: each of them asks for a
restart of the generation that it knows of, and what a sweep knows may be old.  In whatever order they
ask, and whatever operators and a stop do in between, a generation is replaced once.

A call for a restart looks for a stop before it gets the table, so that a stop may begin in between:
`Move.enter` is the first half of such a call, and `Move.late` the rest of it.  A stage that is restarted
in this way is restarted after the stop has begun.
-/

namespace FlightRelay

open SlotTable

/-- The names of the workers. -/
def Crew.names (crew : Crew) : List String := crew.workers.map fun w => w.status.name

/-- A restart that saw no stop: it replaces the slot of the stage if that is still at the generation. -/
def Supervisor.replace (s : Supervisor) (stage : String) (generation : Nat) : Supervisor :=
  match s.table.replace? stage generation with
  | some (worker, table) => ⟨s.crew.modify worker WorkerStatus.reopen, table⟩
  | none => s

/-- A supervisor in use, with a journal. -/
structure Vigil where
  supervisor : Supervisor
  /-- All that sweeps have seen. -/
  seen : List Observation
  /-- The tasks whose watchers have reported. -/
  reported : List Nat
  /-- The restarts: each stage with the generation that was replaced, oldest first. -/
  restarted : List (String × Nat)

namespace Vigil

/-- Nothing was done yet. -/
def begun (s : Supervisor) : Vigil := ⟨s, [], [], []⟩

/-- What can happen next. -/
inductive Move where
  /-- Workers and tasks go on: units begin and end, and so do tasks, by themselves or because an
  operator, a sweep or a stop ended them. -/
  | work (crew : Crew) (tasks : List StageTask)
  /-- The watcher of a task reports that the task came to its end. -/
  | exit (task : Nat)
  /-- A sweep looks at all slots. -/
  | look
  /-- A sweep restarts a stage that it saw dead, or saw hang and has ended. -/
  | heal (o : Observation)
  /-- A stop tells all tasks to end. -/
  | stop
  /-- A call for a restart looks for a stop and finds none. -/
  | enter (stage : String) (generation : Nat)
  /-- A call that looked for a stop earlier gets the table. -/
  | late (stage : String) (generation : Nat)

/-- A call that a stop may have overtaken. -/
def Move.isLate : Move → Bool
  | .late _ _ => true
  | _ => false

/-- One move.  A watcher reports once, and a sweep acts on what some sweep saw, however long ago. -/
inductive Step : Vigil → Move → Vigil → Prop
  | work {v : Vigil} {crew : Crew} {tasks : List StageTask}
      (workers : crew.names = v.supervisor.crew.names) (outlast : Outlast v.supervisor.table.tasks tasks) :
      Step v (.work crew tasks) { v with supervisor := ⟨crew, { v.supervisor.table with tasks }⟩ }
  | exit {v : Vigil} {task : Nat} {k : StageTask} (found : v.supervisor.table.tasks[task]? = some k)
      (first : task ∉ v.reported) :
      Step v (.exit task)
        { v with
          supervisor := v.supervisor.taskExited task
          reported := task :: v.reported
          restarted := v.restarted
            ++ noted (v.supervisor.table.restart? k.stage k.generation) k.stage k.generation }
  | look {v : Vigil} : Step v .look { v with seen := v.seen ++ v.supervisor.observe }
  | heal {v : Vigil} {o : Observation} (seen : o ∈ v.seen) :
      Step v (.heal o)
        { v with
          supervisor := v.supervisor.restart o.stage o.slot.generation
          restarted := v.restarted
            ++ noted (v.supervisor.table.restart? o.stage o.slot.generation) o.stage o.slot.generation }
  | stop {v : Vigil} :
      Step v .stop { v with supervisor := { v.supervisor with table := v.supervisor.table.shutDown } }
  | enter {v : Vigil} {stage : String} {generation : Nat}
      (up : v.supervisor.table.shuttingDown = false) : Step v (.enter stage generation) v
  | late {v : Vigil} {stage : String} {generation : Nat} :
      Step v (.late stage generation)
        { v with
          supervisor := v.supervisor.replace stage generation
          restarted := v.restarted
            ++ noted (v.supervisor.table.replace? stage generation) stage generation }

/-- One move after the other. -/
inductive Course : Vigil → List Move → Vigil → Prop
  | done {v : Vigil} : Course v [] v
  | move {v v' v'' : Vigil} {m : Move} {ms : List Move} (step : Step v m v') (rest : Course v' ms v'') :
      Course v (m :: ms) v''

/-- Every call that gets the table late has looked for a stop before. -/
def Answerable (ms : List Move) : Prop :=
  ∀ before stage generation behind, ms = before ++ .late stage generation :: behind →
    .enter stage generation ∈ before

end Vigil

variable {s s' first : Supervisor} {stage : String} {slot : Slot} {generation task now : Nat}
  {k : StageTask} {crew : Crew} {v v' v'' : Vigil} {m : Vigil.Move} {ms ns : List Vigil.Move}
  {o : Observation}

/-! ## Restarts -/

namespace Supervisor

/-- A restart is a replacement, unless a stop has begun. -/
theorem restart_eq : s.restart stage generation
    = if s.table.shuttingDown then s else s.replace stage generation := by
  unfold restart replace
  rw [restart?_eq]
  cases s.table.shuttingDown <;> rfl

/-- A task that has ended is replaced if its stage is still at its generation. -/
theorem taskExited_of_getElem? (h : s.table.tasks[task]? = some k) :
    s.taskExited task
      = { s with table := s.table.setState task .ended }.restart k.stage k.generation := by
  unfold taskExited
  rw [h]

/-- Nobody is restarted who is at another generation, or while everything ends. -/
theorem restart_of_none (h : s.table.restart? stage generation = none) :
    s.restart stage generation = s := by
  unfold restart
  rw [h]

/-- The end of a task that nobody answers is noted, and that is all. -/
theorem taskExited_of_none (found : s.table.tasks[task]? = some k)
    (h : s.table.restart? k.stage k.generation = none) :
    s.taskExited task = { s with table := s.table.setState task .ended } := by
  rw [taskExited_of_getElem? found]
  refine restart_of_none ?_
  rw [← Option.not_isSome_iff_eq_none, restart?_isSome_iff] at h ⊢
  exact h

/-- A slot that is at the generation gives way to the next one, and its worker is opened again. -/
theorem replace_of_some (h : s.table.find? stage = some slot) :
    s.replace stage slot.generation
      = ⟨s.crew.modify slot.worker WorkerStatus.reopen, s.table.succeed stage slot⟩ := by
  unfold replace SlotTable.replace?
  rw [h]
  simp

/-- A call for a restart that saw no stop changes nothing, or the slot of the stage is followed by the next
one. -/
theorem replace_cases (s : Supervisor) (stage : String) (generation : Nat) :
    s.replace stage generation = s ∨ ∃ slot, s.table.find? stage = some slot ∧ slot.generation = generation ∧
      s.replace stage generation
        = ⟨s.crew.modify slot.worker WorkerStatus.reopen, s.table.succeed stage slot⟩ := by
  by_cases hslot : ∃ slot, s.table.find? stage = some slot ∧ slot.generation = generation
  · obtain ⟨slot, hslot, rfl⟩ := hslot
    exact .inr ⟨slot, hslot, rfl, replace_of_some hslot⟩
  · have hnone : s.table.replace? stage generation = none := by
      refine Option.eq_none_iff_forall_ne_some.mpr fun answer hanswer => hslot ?_
      obtain ⟨slot, hfind, hgeneration, -⟩ := replace?_eq_some_iff.mp hanswer
      exact ⟨slot, hfind, hgeneration⟩
    refine .inl ?_
    unfold replace
    rw [hnone]

/-- A restart leaves the tasks as they are that were there before. -/
theorem getElem?_restart_of_lt (h : task < s.table.tasks.length) :
    (s.restart stage generation).table.tasks[task]? = s.table.tasks[task]? := by
  unfold restart
  cases hanswer : s.table.restart? stage generation with
  | none => rfl
  | some answer =>
    obtain ⟨worker, table⟩ := answer
    rw [restart?_eq] at hanswer
    split at hanswer
    · cases hanswer
    · obtain ⟨slot, -, -, -, rfl⟩ := replace?_eq_some_iff.mp hanswer
      exact getElem?_succeed_of_lt h

/-- A task that has ended stays so through a restart. -/
theorem hasEnded_restart (h : s.table.hasEnded task = true) :
    (s.restart stage generation).table.hasEnded task = true := by
  obtain ⟨k, found, hstate⟩ := hasEnded_iff.mp h
  have hlt := (List.getElem?_eq_some_iff.mp found).1
  exact hasEnded_iff.mpr ⟨k, (getElem?_restart_of_lt hlt).trans found, hstate⟩

end Supervisor

/-! ## Workers stay -/

theorem WorkerStatus.name_finish {w : WorkerStatus} : (w.finish now).name = w.name := by
  unfold finish
  cases w.started <;> rfl

namespace Crew

/-- Changing a record leaves alone what does not depend on the change. -/
theorem map_modify {α : Type} {g : StageWorker → α} {i : Nat} {f : WorkerStatus → WorkerStatus}
    (hg : ∀ w, g { w with status := f w.status } = g w) :
    (crew.modify i f).workers.map g = crew.workers.map g := by
  unfold modify
  refine List.ext_getElem? fun j => ?_
  rw [List.getElem?_map, List.getElem?_map, List.getElem?_modify]
  cases crew.workers[j]? with
  | none => rfl
  | some w =>
    by_cases h : i = j
    · simp [h, hg]
    · simp [h]

theorem names_modify {i : Nat} {f : WorkerStatus → WorkerStatus} (hf : ∀ w, (f w).name = w.name) :
    (crew.modify i f).names = crew.names :=
  map_modify fun w => hf w.status

theorem names_finish {i : Nat} : (crew.modify i fun w => w.finish now).names = crew.names :=
  names_modify fun _ => WorkerStatus.name_finish

theorem names_closeEach (places : List Nat) : (crew.closeEach places).names = crew.names := by
  induction places generalizing crew with
  | nil => rfl
  | cons i is ih =>
    show ((crew.close i).closeEach is).names = _
    rw [ih]
    unfold close
    dsimp only
    split
    · exact names_modify fun _ => rfl
    · rfl

/-- Opening a crew leaves its statuses as they are. -/
theorem workers_openFrom (i : Nat) (opened : List Nat) (ws : List StageWorker) :
    (crew.openFrom i opened ws).2.workers = crew.workers := by
  induction ws generalizing crew i opened with
  | nil => rfl
  | cons w ws ih =>
    unfold openFrom
    cases w.obstacle with
    | none => exact ih _ _
    | some e => rfl

theorem names_openAll : crew.openAll.2.names = crew.names := by
  have h : (crew.openFrom 0 [] crew.workers).2.names = crew.names :=
    congrArg (List.map fun w : StageWorker => w.status.name) (workers_openFrom ..)
  unfold openAll
  generalize crew.openFrom 0 [] crew.workers = opening at h
  obtain ⟨⟨_ | failure, opened⟩, crew'⟩ := opening
  · exact h
  · exact (names_closeEach opened).trans h

theorem names_modifyAll {f : WorkerStatus → WorkerStatus} (hf : ∀ w, (f w).name = w.name) :
    (crew.modifyAll f).names = crew.names := by
  show (crew.workers.map fun w => { w with status := f w.status }).map (fun w => w.status.name) = _
  rw [List.map_map]
  exact List.map_congr_left fun w _ => hf w.status

end Crew

namespace Supervisor

theorem names_finishUnits : (s.finishUnits now).crew.names = s.crew.names := by
  unfold finishUnits
  dsimp only
  generalize s.table.tasks = ks, s.crew = crew
  induction ks generalizing crew with
  | nil => rfl
  | cons k ks ih =>
    rw [List.foldl_cons, ih]
    split
    · exact Crew.names_finish
    · rfl

theorem names_replace : (s.replace stage generation).crew.names = s.crew.names := by
  unfold replace
  cases s.table.replace? stage generation with
  | none => rfl
  | some answer => exact Crew.names_modify (f := .reopen) fun _ => rfl

theorem names_restart : (s.restart stage generation).crew.names = s.crew.names := by
  rw [restart_eq]
  split
  · rfl
  · exact names_replace

theorem names_stop {r : Registry} : (s.stop r now).1.crew.names = s.crew.names := by
  unfold stop
  split
  · rfl
  · exact (Crew.names_closeEach _).trans names_finishUnits

/-! ## A start -/

/-- The table after a start has one slot for each worker of the crew, in order. -/
theorem table_spawnAll : s.spawnAll.table = s.table.spawnEach s.crew.names 0 := by
  show s.crew.workers.zipIdx.foldl _ _ = _
  unfold spawnEach Crew.names
  rw [List.zipIdx_map, List.foldl_map]
  rfl

/-- A start that goes well gives every worker a first task. -/
theorem start_eq_ok (h : s.start = (.ok (), s')) :
    s'.crew.names = s.crew.names ∧
      s'.table = { s.table.spawnEach s.crew.names 0 with sweeping := !s.table.shuttingDown } := by
  have hnames : s.crew.openAll.2.names = s.crew.names := Crew.names_openAll
  unfold start at h
  split at h
  · cases h
  · rename_i crew heq
    obtain rfl := (Prod.mk.inj h).2
    rw [heq] at hnames
    have htable : (spawnAll ⟨crew, s.table⟩).table = s.table.spawnEach s.crew.names 0 :=
      table_spawnAll.trans (congrArg (s.table.spawnEach · 0) hnames)
    refine ⟨(Crew.names_modifyAll (f := .reopen) fun _ => rfl).trans hnames, ?_⟩
    show { (spawnAll ⟨crew, s.table⟩).table with
      sweeping := !(spawnAll ⟨crew, s.table⟩).table.shuttingDown } = _
    rw [htable, shuttingDown_spawnEach]

/-- A start that does not go well starts no task. -/
theorem start_eq_error {e : StartError} (h : s.start = (.error e, s')) :
    s'.crew.names = s.crew.names ∧ s'.table = s.table := by
  have hnames : s.crew.openAll.2.names = s.crew.names := Crew.names_openAll
  unfold start at h
  split at h
  · rename_i heq
    obtain rfl := (Prod.mk.inj h).2
    rw [heq] at hnames
    exact ⟨hnames, rfl⟩
  · cases h

theorem names_start : s.start.2.crew.names = s.crew.names := by
  cases hanswer : s.start.1 with
  | ok => exact (start_eq_ok (Prod.ext hanswer rfl)).1
  | error e => exact (start_eq_error (Prod.ext hanswer rfl)).1

end Supervisor

/-! ## What is kept -/

namespace Supervisor

/-- The accounts are in order, and the workers are those that were there first. -/
structure Kept (first s : Supervisor) (replaced : List (String × Nat)) : Prop where
  accounts : Accounts first.table s.table replaced
  workers : s.crew.names = first.crew.names

variable {replaced : List (String × Nat)}

/-- A replacement is noted if it has success. -/
theorem Kept.replace (h : Kept first s replaced) (stage : String) (generation : Nat) :
    Kept first (s.replace stage generation)
      (replaced ++ noted (s.table.replace? stage generation) stage generation) := by
  unfold Supervisor.replace noted
  cases hanswer : s.table.replace? stage generation with
  | none =>
    show Kept first s (replaced ++ [])
    rwa [List.append_nil]
  | some answer =>
    obtain ⟨worker, table⟩ := answer
    exact ⟨h.accounts.replace hanswer, (Crew.names_modify (f := .reopen) fun _ => rfl).trans h.workers⟩

/-- A restart is noted if it has success. -/
theorem Kept.restart (h : Kept first s replaced) (stage : String) (generation : Nat) :
    Kept first (s.restart stage generation)
      (replaced ++ noted (s.table.restart? stage generation) stage generation) := by
  rw [restart_eq, restart?_eq]
  split
  · show Kept first s (replaced ++ [])
    rwa [List.append_nil]
  · exact h.replace stage generation

/-- What tasks do makes no difference for the accounts. -/
theorem Kept.outlast {tasks : List StageTask} (h : Kept first s replaced)
    (hcrew : crew.names = s.crew.names) (htasks : Outlast s.table.tasks tasks) :
    Kept first ⟨crew, { s.table with tasks }⟩ replaced :=
  ⟨h.accounts.congr rfl rfl fun _ hk => htasks.origin hk, hcrew.trans h.workers⟩

/-- A task that exits brings about one restart of its stage and generation at most. -/
theorem Kept.taskExited (h : Kept first s replaced) (found : s.table.tasks[task]? = some k) :
    Kept first (s.taskExited task)
      (replaced ++ noted (s.table.restart? k.stage k.generation) k.stage k.generation) := by
  have hended : Kept first { s with table := s.table.setState task .ended } replaced :=
    h.outlast rfl outlast_setState
  rw [taskExited_of_getElem? found, ← noted_setState]
  exact hended.restart k.stage k.generation

/-- After the start all stages are at their first task. -/
theorem fresh_of_start (h : (create crew).start = (.ok (), s)) : s.table.Fresh := by
  have hall := Fresh.empty.spawnEach crew.names 0
  rw [(start_eq_ok h).2]
  exact ⟨hall.distinct, hall.slots, hall.total, hall.tasks⟩

/-- After a start, nothing was replaced yet. -/
theorem kept_of_start (h : (create crew).start = (.ok (), s)) : Kept s s [] :=
  ⟨(fresh_of_start h).accounts, rfl⟩

end Supervisor

namespace Vigil

/-- Whatever happens, the workers are those that were there. -/
theorem Step.names (step : Step v m v') : v'.supervisor.crew.names = v.supervisor.crew.names := by
  cases step with
  | work workers _ => exact workers
  | exit found _ =>
    show (v.supervisor.taskExited _).crew.names = _
    rw [Supervisor.taskExited_of_getElem? found]
    exact Supervisor.names_restart
  | look => rfl
  | heal _ => exact Supervisor.names_restart
  | stop => rfl
  | enter _ => rfl
  | late => exact Supervisor.names_replace

/-- Every move notes the restarts that it makes. -/
theorem Step.kept (step : Step v m v') (h : Supervisor.Kept first v.supervisor v.restarted) :
    Supervisor.Kept first v'.supervisor v'.restarted := by
  cases step with
  | work workers outlast => exact h.outlast workers outlast
  | exit found _ => exact h.taskExited found
  | look => exact h
  | heal _ => exact h.restart _ _
  | stop => exact ⟨h.accounts.congr rfl rfl fun k hk => ⟨k, hk, rfl, rfl⟩, h.workers⟩
  | enter _ => exact h
  | late => exact h.replace _ _

/-- All the way, the restarts that were made are noted. -/
theorem Course.kept (course : Course v ms v') (h : Supervisor.Kept first v.supervisor v.restarted) :
    Supervisor.Kept first v'.supervisor v'.restarted := by
  induction course with
  | done => exact h
  | move step _ ih => exact ih (step.kept h)

/-! ## After the beginning of a stop -/

/-- All that happened to the slots is some restarts: the stages that were not restarted have the slots that
they had. -/
structure Still (v : Vigil) (late : List (String × Nat)) (v' : Vigil) : Prop where
  shuttingDown : v'.supervisor.table.shuttingDown = true
  restarted : v'.restarted = v.restarted ++ late
  others : ∀ stage, stage ∉ late.map Prod.fst →
    v'.supervisor.table.find? stage = v.supervisor.table.find? stage

/-- A move under a stop that leaves the slots alone restarts nothing. -/
theorem Still.of_slots (down : v'.supervisor.table.shuttingDown = true)
    (slots : v'.supervisor.table.slots = v.supervisor.table.slots) (restarted : v'.restarted = v.restarted) :
    Still v [] v' :=
  ⟨down, restarted.trans (List.append_nil _).symm, fun _ _ => by rw [find?, find?, slots]⟩

/-- What was restarted on two ways under a stop was restarted on both together. -/
theorem Still.trans {late later : List (String × Nat)} (h : Still v late v') (h' : Still v' later v'') :
    Still v (late ++ later) v'' := by
  refine ⟨h'.shuttingDown, ?_, fun stage hstage => ?_⟩
  · rw [h'.restarted, h.restarted, List.append_assoc]
  · rw [List.map_append, List.mem_append, not_or] at hstage
    exact (h'.others _ hstage.2).trans (h.others _ hstage.1)

/-- A call that a stop has overtaken may replace the slot of its stage, and no other. -/
theorem still_late (h : v.supervisor.table.shuttingDown = true) (stage : String) (generation : Nat) :
    Still v (noted (v.supervisor.table.replace? stage generation) stage generation)
      { v with
        supervisor := v.supervisor.replace stage generation
        restarted := v.restarted
          ++ noted (v.supervisor.table.replace? stage generation) stage generation } := by
  unfold Supervisor.replace noted
  cases hanswer : v.supervisor.table.replace? stage generation with
  | none => exact .of_slots h rfl (List.append_nil _)
  | some answer =>
    obtain ⟨worker, table⟩ := answer
    obtain ⟨slot, -, -, -, rfl⟩ := replace?_eq_some_iff.mp hanswer
    exact ⟨h, rfl, fun other hother => find?_succeed.trans (if_neg (mt List.mem_singleton.mpr hother))⟩

/-- Once a stop has begun, a move restarts nothing unless a stop has overtaken it. -/
theorem Step.still (step : Step v m v') (h : v.supervisor.table.shuttingDown = true) :
    ∃ late, Still v late v' ∧ ∀ e ∈ late, m = .late e.1 e.2 := by
  have hnone : ∀ stage generation, v.supervisor.table.restart? stage generation = none :=
    fun stage generation => by rw [restart?_eq, if_pos h]
  cases step with
  | work _ _ => exact ⟨[], .of_slots h rfl rfl, nofun⟩
  | exit found _ =>
    rw [Supervisor.taskExited_of_none found (hnone _ _), hnone]
    exact ⟨[], .of_slots h rfl (List.append_nil _), nofun⟩
  | look => exact ⟨[], .of_slots h rfl rfl, nofun⟩
  | heal _ =>
    rw [Supervisor.restart_of_none (hnone _ _), hnone]
    exact ⟨[], .of_slots h rfl (List.append_nil _), nofun⟩
  | stop => exact ⟨[], .of_slots rfl rfl rfl, nofun⟩
  | enter up => exact Bool.noConfusion (h.symm.trans up)
  | @late stage generation =>
    refine ⟨_, still_late h stage generation, fun e he => ?_⟩
    unfold noted at he
    split at he
    · rw [List.mem_singleton.mp he]
    · cases he

/-- Under a stop, nothing is restarted but what restarts overtaken by it had read before. -/
theorem Course.still (course : Course v ms v') (h : v.supervisor.table.shuttingDown = true) :
    ∃ late, Still v late v' ∧ ∀ e ∈ late, .late e.1 e.2 ∈ ms := by
  induction course with
  | done => exact ⟨[], .of_slots h rfl rfl, nofun⟩
  | move step _ ih =>
    obtain ⟨late, hhead, hlate⟩ := step.still h
    obtain ⟨later, htail, hlater⟩ := ih hhead.shuttingDown
    refine ⟨late ++ later, hhead.trans htail, fun e he => ?_⟩
    obtain hfirst | hrest := List.mem_append.mp he
    · exact hlate e hfirst ▸ List.mem_cons_self
    · exact List.mem_cons_of_mem _ (hlater e hrest)

/-- Nobody finds no stop once one has begun. -/
theorem Course.not_enter (course : Course v ms v') (h : v.supervisor.table.shuttingDown = true)
    (stage : String) (generation : Nat) : .enter stage generation ∉ ms := by
  induction course with
  | done => exact List.not_mem_nil
  | move step _ ih =>
    obtain ⟨_, still, -⟩ := step.still h
    refine List.not_mem_cons_of_ne_of_not_mem (fun heq => ?_) (ih still.shuttingDown)
    subst heq
    cases step with
    | enter up => exact Bool.noConfusion (h.symm.trans up)

/-- A call that gets the table after a stop has begun has looked for it before. -/
theorem Course.entered (course : Course v ns v') (h : v.supervisor.table.shuttingDown = true)
    (answerable : Answerable (ms ++ ns)) (hlate : .late stage generation ∈ ns) :
    .enter stage generation ∈ ms := by
  obtain ⟨before, behind, rfl⟩ := List.append_of_mem hlate
  have hentered := answerable (ms ++ before) stage generation behind (List.append_assoc ..).symm
  refine (List.mem_append.mp hentered).resolve_right fun hafter => ?_
  exact course.not_enter h stage generation (List.mem_append_left _ hafter)

/-! ## The calls of a supervisor -/

/-- Who has reported has come to an end. -/
def Prompt (v : Vigil) : Prop := ∀ task ∈ v.reported, v.supervisor.table.hasEnded task = true

/-- Some moves lead to a supervisor, none of them overtaken by a stop; all that was seen is still
known. -/
def Attains (v : Vigil) (s : Supervisor) : Prop :=
  ∃ ms v', Course v ms v' ∧ (∀ m ∈ ms, m.isLate = false) ∧ v'.supervisor = s ∧ v.seen ⊆ v'.seen ∧
    v'.Prompt

/-- One course after another is a course. -/
theorem Course.append (before : Course v ms v') (behind : Course v' ns v'') :
    Course v (ms ++ ns) v'' := by
  induction before with
  | done => exact behind
  | move step _ ih => exact .move step (ih behind)

theorem Attains.refl (h : v.Prompt) : v.Attains v.supervisor :=
  ⟨[], v, .done, fun _ hm => absurd hm List.not_mem_nil, rfl, List.Subset.refl _, h⟩

/-- One call after the other. -/
theorem Attains.trans (h : v.Attains s)
    (hnext : ∀ v' : Vigil, v'.supervisor = s → v'.Prompt → v.seen ⊆ v'.seen → v'.Attains s') :
    v.Attains s' := by
  obtain ⟨ms, v', hbefore, hms, hs, hseen, hprompt⟩ := h
  obtain ⟨ns, v'', hbehind, hns, hs', hseen', hprompt'⟩ := hnext v' hs hprompt hseen
  refine ⟨ms ++ ns, v'', hbefore.append hbehind, fun m hm => ?_, hs',
    List.Subset.trans hseen hseen', hprompt'⟩
  exact (List.mem_append.mp hm).elim (hms m) (hns m)

/-- One move is enough. -/
theorem Attains.of_step (step : Step v m v') (hm : m.isLate = false) (h : v'.Prompt) :
    v.Attains v'.supervisor := by
  refine ⟨[m], v', .move step .done, by simpa using hm, rfl, ?_, h⟩
  cases step with
  | look => exact List.subset_append_left _ _
  | _ => exact List.Subset.refl _

/-- What the tasks do by themselves is a move. -/
theorem attains_work {tasks : List StageTask} (h : v.Prompt)
    (hcrew : crew.names = v.supervisor.crew.names) (htasks : Outlast v.supervisor.table.tasks tasks) :
    v.Attains ⟨crew, { v.supervisor.table with tasks }⟩ :=
  .of_step (.work hcrew htasks) rfl fun task htask => htasks.hasEnded (h task htask)

/-- A restart on what was seen is a move. -/
theorem attains_heal (h : v.Prompt) (hseen : o ∈ v.seen) :
    v.Attains (v.supervisor.restart o.stage o.slot.generation) :=
  .of_step (.heal hseen) rfl fun task htask => Supervisor.hasEnded_restart (h task htask)

/-- A task comes to its end, and its watcher reports it at once. -/
theorem attains_taskExited (h : v.Prompt) (found : v.supervisor.table.tasks[task]? = some k)
    (hrunning : k.state ≠ .ended) : v.Attains (v.supervisor.taskExited task) := by
  have hfirst : task ∉ v.reported := fun hreported => by
    have hended := hasEnded_iff.mp (h task hreported)
    obtain ⟨k', hk', hstate⟩ := hended
    rw [found] at hk'
    exact hrunning (Option.some.inj hk' ▸ hstate)
  refine .of_step (.exit found hfirst) rfl fun other hother => ?_
  show (v.supervisor.taskExited task).table.hasEnded other = true
  rw [Supervisor.taskExited_of_getElem? found]
  refine Supervisor.hasEnded_restart ?_
  obtain rfl | hbefore := List.mem_cons.mp hother
  · refine hasEnded_iff.mpr ⟨{ k with state := .ended }, ?_, rfl⟩
    rw [setState, List.getElem?_modify, found]
    simp
  · exact outlast_setState.hasEnded (h other hbefore)

/-- The end of a task, with the restart that follows, is a move or two. -/
theorem attains_endTask (h : v.Prompt) (task now : Nat) :
    v.Attains (v.supervisor.endTask task now) := by
  unfold Supervisor.endTask
  cases found : v.supervisor.table.tasks[task]? with
  | none => exact .refl h
  | some k =>
    cases hstate : k.state with
    | ready =>
      simp only [hstate]
      exact attains_taskExited h found (by rw [hstate]; decide)
    | working =>
      simp only [hstate]
      have hunit : v.Attains
          { v.supervisor with crew := v.supervisor.crew.modify k.worker fun w => w.finish now } :=
        attains_work h Crew.names_finish outlast_refl
      refine hunit.trans fun v' hv' h' _ => ?_
      rw [← hv']
      exact attains_taskExited h' (by rw [hv']; exact found) (by rw [hstate]; decide)
    | stuck =>
      simp only [hstate]
      exact .refl h
    | ended =>
      simp only [hstate]
      exact .refl h

/-- An operator ends a task. -/
theorem attains_abort (h : v.Prompt) (stage : String) (now : Nat) :
    v.Attains (v.supervisor.abort stage now).2 := by
  unfold Supervisor.abort
  cases v.supervisor.table.find? stage with
  | none => exact .refl h
  | some slot => exact attains_endTask h slot.task now

/-- A sweep acts on something that was seen. -/
theorem attains_actOn (h : v.Prompt) (hseen : o ∈ v.seen) (threshold now : Nat) :
    v.Attains (Supervisor.actOn threshold now v.supervisor o) := by
  unfold Supervisor.actOn
  split
  · exact attains_heal h hseen
  · cases v.supervisor.runningSince o with
    | none => exact .refl h
    | some started =>
      dsimp only
      split
      · exact .refl h
      · refine (attains_endTask h o.slot.task now).trans fun v' hv' h' hkeeps => ?_
        rw [← hv']
        exact attains_heal h' (hkeeps hseen)

/-- To act on each observation of a sweep is a course. -/
theorem attains_actOnEach (h : v.Prompt) (os : List Observation) (hseen : ∀ o ∈ os, o ∈ v.seen)
    (threshold now : Nat) : v.Attains (os.foldl (Supervisor.actOn threshold now) v.supervisor) := by
  induction os generalizing v with
  | nil => exact .refl h
  | cons o os ih =>
    refine (attains_actOn h (hseen o List.mem_cons_self) threshold now).trans fun v' hv' h' hkeeps => ?_
    rw [List.foldl_cons, ← hv']
    exact ih h' fun o' ho' => hkeeps (hseen o' (List.mem_cons_of_mem _ ho'))

/-- A whole sweep. -/
theorem attains_sweep (h : v.Prompt) (threshold now : Nat) :
    v.Attains (v.supervisor.sweep threshold now) := by
  have hlooked : Prompt { v with seen := v.seen ++ v.supervisor.observe } := h
  have hacts : Attains { v with seen := v.seen ++ v.supervisor.observe }
      (v.supervisor.sweep threshold now) :=
    attains_actOnEach hlooked _ (fun _ ho => List.mem_append_right _ ho) threshold now
  obtain ⟨ms, v', hcourse, hms, hv', hseen, h'⟩ := hacts
  refine ⟨.look :: ms, v', .move .look hcourse, fun m hm => ?_, hv', ?_, h'⟩
  · obtain rfl | hrest := List.mem_cons.mp hm
    · rfl
    · exact hms m hrest
  · exact List.Subset.trans (List.subset_append_left _ _) hseen

/-! ## At most once for a failure -/

/-- What holds of the restarts at any time, after a start left a supervisor. -/
structure HealsOnce (first : Supervisor) (ms : List Move) (v : Vigil) : Prop where
  /-- A call has success if the stage is known and at the generation, and no stop has begun. -/
  success : ∀ stage generation,
    (v.supervisor.table.restart? stage generation).isSome ↔
      (∃ slot, v.supervisor.table.find? stage = some slot ∧ slot.generation = generation) ∧
        v.supervisor.table.shuttingDown = false
  /-- A call without success changes nothing. -/
  failure : ∀ stage generation, v.supervisor.table.restart? stage generation = none →
    v.supervisor.restart stage generation = v.supervisor
  /-- A call that has looked for a stop has success if the stage is known and at the generation, whether or
  not a stop has begun by now. -/
  delayed : ∀ stage generation,
    (v.supervisor.table.replace? stage generation).isSome ↔
      ∃ slot, v.supervisor.table.find? stage = some slot ∧ slot.generation = generation
  /-- Both calls do the same if no stop has begun. -/
  same : v.supervisor.table.shuttingDown = false → ∀ stage generation,
    v.supervisor.restart stage generation = v.supervisor.replace stage generation
  /-- A call with success gives the stage a new task of the same worker, one generation on; the other
  stages keep what they have. -/
  successor : ∀ stage slot other, v.supervisor.table.find? stage = some slot →
    (v.supervisor.replace stage slot.generation).table.find? other
      = if other = stage then
          some ⟨slot.worker, slot.generation + 1, slot.restarts + 1, v.supervisor.table.tasks.length⟩
        else v.supervisor.table.find? other
  /-- A stage is at the generation that its restarts led to. -/
  counted : ∀ stage slot, v.supervisor.table.find? stage = some slot →
    slot.generation = slot.restarts ∧
      slot.restarts = (v.restarted.filter fun e => e.1 = stage).length
  /-- No generation of a stage was replaced twice. -/
  once : v.restarted.Nodup
  /-- Each stage has the worker that it had first. -/
  worker : ∀ stage, (v.supervisor.table.find? stage).map Slot.worker
    = (first.table.find? stage).map Slot.worker
  workers : v.supervisor.crew.names = first.crew.names
  /-- The supervisor counts the restarts of all stages. -/
  total : v.supervisor.table.restarts = (v.supervisor.table.slots.map fun e => e.2.restarts).sum
  /-- A task that is not of the generation of its stage is of an earlier one, and its end changes no
  slot. -/
  lateExit : ∀ task k slot, v.supervisor.table.tasks[task]? = some k →
    v.supervisor.table.find? k.stage = some slot → k.generation ≠ slot.generation →
    k.generation < slot.generation ∧
      v.supervisor.taskExited task
        = { v.supervisor with table := v.supervisor.table.setState task .ended }
  /-- Once a stop has begun no slot is replaced any more but by calls that it has overtaken: those got the
  table after it, and have looked for a stop before it. -/
  stopped : v.supervisor.table.shuttingDown = true → ∀ ns v', Course v ns v' →
    ∃ late, Still v late v' ∧ (∀ e ∈ late, .late e.1 e.2 ∈ ns) ∧
      (Answerable (ms ++ ns) → ∀ e ∈ late, .enter e.1 e.2 ∈ ms)

/-- However watchers, sweeps, operators and a stop take turns after a start, a stage is restarted at most
once for each failure. -/
theorem heals_once (started : (Supervisor.create crew).start = (.ok (), first))
    (course : Course (begun first) ms v) : HealsOnce first ms v := by
  have kept := course.kept (Supervisor.kept_of_start started)
  have accounts := kept.accounts
  refine ⟨fun _ _ => restart?_isSome_iff, fun _ _ => Supervisor.restart_of_none,
    fun _ _ => replace?_isSome_iff, fun up _ _ => ?_, ?_, ?_, accounts.nodup, accounts.worker, kept.workers,
    accounts.sum.symm, ?_, ?_⟩
  · rw [Supervisor.restart_eq, up, if_neg Bool.false_ne_true]
  · intro stage slot other hslot
    rw [Supervisor.replace_of_some hslot]
    exact find?_succeed
  · intro stage slot hslot
    have hrestarts := accounts.restarts _ _ hslot
    exact ⟨hrestarts.symm, hrestarts.trans (accounts.counted hslot)⟩
  · intro task k slot found hslot hne
    obtain ⟨slot', hslot', hle⟩ := accounts.tasks k (List.mem_of_getElem? found)
    rw [hslot] at hslot'
    obtain rfl := Option.some.inj hslot'
    refine ⟨Nat.lt_of_le_of_ne hle hne, Supervisor.taskExited_of_none found ?_⟩
    rw [← Option.not_isSome_iff_eq_none, restart?_isSome_iff]
    rintro ⟨⟨slot', hslot', hgeneration⟩, -⟩
    rw [hslot] at hslot'
    obtain rfl := Option.some.inj hslot'
    exact hne hgeneration.symm
  · intro hdown ns v' hcourse
    obtain ⟨late, still, hlate⟩ := hcourse.still hdown
    exact ⟨late, still, hlate, fun answerable e he => hcourse.entered hdown answerable (hlate e he)⟩

/-- A stage hangs: a sweep replaces its task, which comes to its end only then; the next task fails, and
so does the one after it, whose watcher is overtaken by a stop. -/
theorem heals_once_hung :
    let ms : List Move := [.look, .heal ⟨"accept", ⟨0, 0, 0, 0⟩, false⟩, .exit 0, .exit 9,
      .enter "accept" 2, .stop, .late "accept" 2]
    ∃ v, (Supervisor.create .relay).start = (.ok (), (Supervisor.create .relay).start.2) ∧
      Course (begun (Supervisor.create .relay).start.2) ms v ∧
      v.restarted = [("accept", 0), ("accept", 1), ("accept", 2)] ∧
      HealsOnce (Supervisor.create .relay).start.2 ms v := by
  intro ms
  have started : (Supervisor.create .relay).start = (.ok (), (Supervisor.create .relay).start.2) := rfl
  obtain ⟨v, course, hv⟩ : ∃ v, Course (begun (Supervisor.create .relay).start.2) ms v ∧
      v.restarted = [("accept", 0), ("accept", 1), ("accept", 2)] :=
    ⟨_, .move .look <| .move (.heal (by decide)) <| .move (.exit rfl (by decide)) <|
      .move (.exit rfl (by decide)) <| .move (.enter rfl) <| .move .stop <| .move .late .done, rfl⟩
  exact ⟨v, started, course, hv, heals_once started course⟩

/-- The task of the accepting stage ends, its watcher looks for a stop, and then a stop begins. -/
def overtaking : List Move :=
  let first := (Supervisor.create .relay).start.2
  [.work first.crew (first.table.setState 0 .ended).tasks, .enter "accept" 0, .stop]

/-- The stop has begun when the watcher gets the table, and the stage is restarted all the same. -/
theorem restarted_under_stop :
    ∃ v v', Course (begun (Supervisor.create .relay).start.2) overtaking v ∧
      v.supervisor.table.shuttingDown = true ∧ v.restarted = [] ∧
      Course v [.late "accept" 0] v' ∧ Answerable (overtaking ++ [.late "accept" 0]) ∧
      v'.restarted = [("accept", 0)] ∧ v'.supervisor.table.restarts = 1 := by
  refine ⟨_, _, .move (.work rfl outlast_setState) <| .move (.enter rfl) <| .move .stop .done, rfl, rfl,
    .move .late .done, ?_, rfl, rfl⟩
  intro before stage generation behind heq
  obtain _ | ⟨a, _ | ⟨b, _ | ⟨c, _ | ⟨d, before⟩⟩⟩⟩ := before <;> simp [overtaking] at heq
  obtain ⟨rfl, rfl, rfl, ⟨rfl, rfl⟩, -⟩ := heq
  simp

end Vigil

end FlightRelay

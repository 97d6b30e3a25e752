import FlightRelay.Proofs.Registry.Removal
import FlightRelay.Proofs.Supervisor.Posts

/-!
# Opened once and closed once

A start opens the workers one after the other.  If one of them does not open, those before it are closed
again, the last one first, and nothing goes on.  If all of them open, each stage gets a task; tasks fail, are
ended and replaced, but no worker is closed until somebody stops the supervisor.  The first stop closes all
workers in order, and whatever is done from then on, further stops included, closes none again and brings no
stage back.
-/

namespace FlightRelay

open SlotTable

variable {crew : Crew} {w : StageWorker} {ws rest : List StageWorker} {e : StageError} {i k : Nat}
  {opened : List Nat}

/-! ## Opening a crew -/

namespace Crew

/-- Workers that all open are opened in order. -/
theorem openFrom_of_open (h : ∀ w ∈ ws, w.obstacle = none) :
    crew.openFrom i opened ws
      = (⟨none, (List.range' i ws.length).reverse ++ opened⟩,
        { crew with journal := crew.journal ++ (List.range' i ws.length).map .opened }) := by
  induction ws generalizing crew i opened with
  | nil => simp [openFrom]
  | cons w ws ih =>
    have hw : w.obstacle = none := h w List.mem_cons_self
    have hws : ∀ w ∈ ws, w.obstacle = none := fun w hw => h w (List.mem_cons_of_mem _ hw)
    simp only [openFrom, hw]
    rw [ih hws]
    simp [note, List.range'_succ]

/-- The first worker that does not open is the last one that is asked. -/
theorem openFrom_of_obstacle (h : ∀ w ∈ ws, w.obstacle = none) (hw : w.obstacle = some e) :
    crew.openFrom i opened (ws ++ w :: rest)
      = (⟨some (i + ws.length, e), (List.range' i ws.length).reverse ++ opened⟩,
        { crew with journal := crew.journal ++ (List.range' i (ws.length + 1)).map .opened }) := by
  induction ws generalizing crew i opened with
  | nil => simp [openFrom, hw, note]
  | cons v ws ih =>
    have hv : v.obstacle = none := h v List.mem_cons_self
    have hws : ∀ w ∈ ws, w.obstacle = none := fun w hw => h w (List.mem_cons_of_mem _ hw)
    simp only [List.cons_append, openFrom, hv]
    rw [ih hws]
    simp [note, List.range'_succ]
    omega

/-- If all workers open, nothing is closed. -/
theorem openAll_of_open (h : ∀ w ∈ crew.workers, w.obstacle = none) :
    crew.openAll = (⟨none, (List.range crew.workers.length).reverse⟩,
      { crew with journal := crew.journal ++ (List.range crew.workers.length).map .opened }) := by
  unfold openAll
  rw [openFrom_of_open h, ← List.range_eq_range', List.append_nil]

/-- If one does not open, those before it are closed again, the last one first. -/
theorem openAll_of_obstacle (hk : crew.workers[k]? = some w) (hw : w.obstacle = some e)
    (h : ∀ v ∈ crew.workers.take k, v.obstacle = none) :
    crew.openAll = (⟨some (k, e), (List.range k).reverse⟩,
      Crew.closeEach { crew with journal := crew.journal ++ (List.range (k + 1)).map WorkerCall.opened }
        (List.range k).reverse) := by
  obtain ⟨hlt, rfl⟩ := List.getElem?_eq_some_iff.mp hk
  have hsplit : crew.workers = crew.workers.take k ++ crew.workers[k] :: crew.workers.drop (k + 1) := by
    rw [← List.drop_eq_getElem_cons hlt, List.take_append_drop]
  have hlength : (crew.workers.take k).length = k := List.length_take_of_le (Nat.le_of_lt hlt)
  have hopen : crew.openFrom 0 [] (crew.workers.take k ++ crew.workers[k] :: crew.workers.drop (k + 1)) = _ :=
    openFrom_of_obstacle h hw
  rw [← hsplit, hlength, Nat.zero_add, List.append_nil, ← List.range_eq_range',
    ← List.range_eq_range'] at hopen
  unfold openAll
  rw [hopen]

/-- The name at a place is that of the status there. -/
theorem name_status? (i : Nat) : (crew.status? i).map WorkerStatus.name = crew.names[i]? := by
  rw [status?, names, List.getElem?_map, Option.map_map]
  rfl

theorem length_names : crew.names.length = crew.workers.length := List.length_map _

end Crew

/-! ## One task for each stage -/

namespace SlotTable

variable {t : SlotTable} {name : String} {names : List String}

/-- A start makes one task for each name, ready unless a stop has begun. -/
theorem tasks_spawnEach (t : SlotTable) (names : List String) (place : Nat) :
    (t.spawnEach names place).tasks = t.tasks ++ (names.zipIdx place).map fun e =>
      ⟨e.1, e.2, 0, if t.shuttingDown then .ended else .ready⟩ := by
  induction names generalizing t place with
  | nil => exact (List.append_nil _).symm
  | cons name names ih =>
    refine (ih (t.spawn name place 0 0) (place + 1)).trans ?_
    exact List.append_assoc ..

/-- Stages that are not started keep what they have. -/
theorem find?_spawnEach_of_not_mem (h : name ∉ names) (place : Nat) :
    (t.spawnEach names place).find? name = t.find? name := by
  induction names generalizing t place with
  | nil => rfl
  | cons first names ih =>
    refine (ih (List.not_mem_of_not_mem_cons h) _).trans ?_
    exact find?_spawn.trans (if_neg (List.ne_of_not_mem_cons h))

/-- Stages of different names get a slot each, for the task that runs their worker. -/
theorem find?_spawnEach (distinct : names.Nodup) (h : names[i]? = some name) (place : Nat) :
    (t.spawnEach names place).find? name = some ⟨place + i, 0, 0, t.tasks.length + i⟩ := by
  induction names generalizing t place i with
  | nil => cases h
  | cons first names ih =>
    obtain ⟨hfirst, hnames⟩ := List.nodup_cons.mp distinct
    show ((t.spawn first place 0 0).spawnEach names (place + 1)).find? name = _
    cases i with
    | zero =>
      obtain rfl : first = name := Option.some.inj h
      exact (find?_spawnEach_of_not_mem hfirst _).trans (find?_spawn.trans (if_pos rfl))
    | succ i =>
      have hlength : (t.spawn first place 0 0).tasks.length = t.tasks.length + 1 := List.length_append
      have hplace : place + 1 + i = place + (i + 1) := by omega
      have htask : t.tasks.length + 1 + i = t.tasks.length + (i + 1) := by omega
      rw [ih hnames h, hlength, hplace, htask]

end SlotTable

/-! ## A start -/

namespace Supervisor

variable {s : Supervisor} {task : Nat}

/-- What a start leaves that went well. -/
structure Started (crew : Crew) (s : Supervisor) : Prop where
  /-- Each worker was opened once, in order, and none was closed. -/
  journal : s.crew.journal = crew.journal ++ (List.range crew.workers.length).map .opened
  /-- There is one task for each stage. -/
  tasks : s.table.tasks = crew.names.zipIdx.map fun e => ⟨e.1, e.2, 0, .ready⟩
  /-- The slot of a stage is that of its task. -/
  slots : ∀ (i : Nat) (name : String), crew.names[i]? = some name →
    s.table.find? name = some ⟨i, 0, 0, i⟩
  sweeping : s.table.sweeping = true

/-- What a start leaves if the worker at a place does not open. -/
structure Undone (crew : Crew) (k : Nat) (s : Supervisor) : Prop where
  /-- The workers up to that place were opened once, in order, and those before it were closed once, in
  reverse order. -/
  journal : s.crew.journal = crew.journal ++ (List.range (k + 1)).map .opened
    ++ (List.range k).reverse.map .closed
  /-- There is no task, no slot and no sweep. -/
  table : s.table = .empty

/-- A crew of which everyone can be opened is started. -/
theorem started_of_start (h : ∀ w ∈ crew.workers, w.obstacle = none) (distinct : crew.names.Nodup) :
    ∃ s, (create crew).start = (.ok (), s) ∧ s.Started crew := by
  obtain ⟨s, hstart, hjournal⟩ : ∃ s, (create crew).start = (.ok (), s) ∧
      s.crew.journal = crew.journal ++ (List.range crew.workers.length).map .opened := by
    unfold start create
    rw [Crew.openAll_of_open h]
    exact ⟨_, rfl, rfl⟩
  have htable : s.table = { SlotTable.empty.spawnEach crew.names 0 with sweeping := true } :=
    (start_eq_ok hstart).2
  refine ⟨s, hstart, hjournal, ?_, fun i name hname => ?_, by rw [htable]⟩
  · rw [htable]
    exact tasks_spawnEach .empty crew.names 0
  · have hslot : (SlotTable.empty.spawnEach crew.names 0).find? name = some ⟨0 + i, 0, 0, 0 + i⟩ :=
      find?_spawnEach distinct hname 0
    rw [Nat.zero_add] at hslot
    rw [htable]
    exact hslot

/-- If a worker cannot be opened, those before it are closed again, and the start says who it was. -/
theorem undone_of_start (hk : crew.workers[k]? = some w) (hw : w.obstacle = some e)
    (h : ∀ v ∈ crew.workers.take k, v.obstacle = none) :
    ∃ s, (create crew).start = (.error (.stageOpen w.status.name e), s) ∧ s.Undone crew k := by
  let asked : Crew := { crew with journal := crew.journal ++ (List.range (k + 1)).map .opened }
  -- the name is read when the others are closed again, which changes their records but not their names
  have hname : (((asked.closeEach (List.range k).reverse).status? k).map WorkerStatus.name).getD ""
      = w.status.name := by
    rw [Crew.name_status?, Crew.names_closeEach, Crew.names, List.getElem?_map, hk]
    rfl
  refine ⟨⟨asked.closeEach (List.range k).reverse, .empty⟩, ?_, Crew.journal_closeEach _, rfl⟩
  unfold start create
  rw [Crew.openAll_of_obstacle hk hw h]
  exact Prod.ext (congrArg (fun stage => (.error (.stageOpen stage e) : Except StartError Unit)) hname) rfl

/-! ## What is done between a start and a stop -/

/-- A supervisor is as another was: it has the same workers, none of them was opened or closed in between,
and it heals if the other did.  Each slot has its task. -/
structure Stands (first s : Supervisor) : Prop where
  down : s.table.shuttingDown = first.table.shuttingDown
  journal : s.crew.journal = first.crew.journal
  workers : s.crew.names = first.crew.names
  owned : s.table.Owned

variable {first : Supervisor} {crew' : Crew} {tasks : List StageTask} {t : StageTask}

/-- After a start the supervisor heals, and each slot has its task. -/
theorem stands_of_start (h : (create crew).start = (.ok (), s)) :
    Stands s s ∧ s.table.shuttingDown = false ∧ s.crew.names = crew.names := by
  obtain ⟨names, table⟩ := start_eq_ok h
  have up : s.table.shuttingDown = false := by
    rw [table]
    exact shuttingDown_spawnEach crew.names 0
  exact ⟨⟨rfl, rfl, rfl, owned_of_start h⟩, up, names⟩

theorem Stands.outlast (h : Stands first s) (journal : crew'.journal = s.crew.journal)
    (workers : crew'.names = s.crew.names) (htasks : Outlast s.table.tasks tasks) :
    Stands first ⟨crew', { s.table with tasks }⟩ :=
  ⟨h.down, journal.trans h.journal, workers.trans h.workers, h.owned.outlast htasks⟩

theorem Stands.replace (h : Stands first s) (stage : String) (generation : Nat) :
    Stands first (s.replace stage generation) := by
  obtain heq | ⟨slot, -, -, heq⟩ := s.replace_cases stage generation
  · rw [heq]
    exact h
  · rw [heq]
    exact ⟨h.down, h.journal, (Crew.names_modify (f := .reopen) fun _ => rfl).trans h.workers,
      h.owned.succeed stage slot⟩

theorem Stands.restart (h : Stands first s) (stage : String) (generation : Nat) :
    Stands first (s.restart stage generation) := by
  rw [restart_eq]
  split
  · exact h
  · exact h.replace stage generation

theorem Stands.taskExited (h : Stands first s) (found : s.table.tasks[task]? = some t) :
    Stands first (s.taskExited task) := by
  have hended : Stands first { s with table := s.table.setState task .ended } :=
    h.outlast rfl rfl outlast_setState
  rw [taskExited_of_getElem? found]
  exact hended.restart _ _

end Supervisor

namespace Vigil

variable {first : Supervisor} {v v' : Vigil} {m : Move}

/-- The workers go on with their work: nobody opens or closes one. -/
def Move.Quiet (journal : List WorkerCall) : Move → Prop
  | .work crew _ => crew.journal = journal
  | _ => True

/-- Every move of the supervisor but a stop leaves the start standing. -/
theorem Step.stands (step : Step v m v') (hm : m ≠ .stop) (quiet : m.Quiet v.supervisor.crew.journal)
    (h : Supervisor.Stands first v.supervisor) : Supervisor.Stands first v'.supervisor := by
  cases step with
  | work workers outlast => exact h.outlast quiet workers outlast
  | exit found _ => exact h.taskExited found
  | look => exact h
  | heal _ => exact h.restart _ _
  | stop => exact absurd rfl hm
  | enter _ => exact h
  | late => exact h.replace _ _

end Vigil

/-! ## What is done after a stop -/

namespace SlotTable

/-- No task goes on but those that could not be ended at some time before. -/
def Silenced (before t : SlotTable) : Prop :=
  ∀ task k, t.tasks[task]? = some k → k.state = .ended ∨ before.state? task = some .stuck

variable {before t : SlotTable} {tasks : List StageTask} {stage : String} {slot : Slot}

/-- Tasks that have ended stay so. -/
theorem Silenced.outlast (h : Silenced before t) (htasks : Outlast t.tasks tasks) :
    Silenced before { t with tasks } := by
  intro task k' found
  obtain ⟨k, hk, -, hended⟩ := htasks.of_getElem? found
  exact (h task k hk).imp_left hended

/-- A task that is started now ends at once. -/
theorem Silenced.spawn (h : Silenced before t) (down : t.shuttingDown = true) (stage : String)
    (worker generation restarts : Nat) : Silenced before (t.spawn stage worker generation restarts) := by
  intro task k found
  have found : (t.tasks ++ [_])[task]? = some k := found
  obtain hlt | hle := Nat.lt_or_ge task t.tasks.length
  · exact h task k ((List.getElem?_append_left hlt).symm.trans found)
  · rw [List.getElem?_append_right hle] at found
    obtain rfl := List.mem_singleton.mp (List.mem_of_getElem? found)
    exact .inl (if_pos down)

/-- A stop ends all tasks but those that hang. -/
theorem silenced_endTasks : Silenced t t.endTasks := by
  intro task k found
  rw [endTasks, List.getElem?_map] at found
  obtain ⟨k, hk, rfl⟩ := Option.map_eq_some_iff.mp found
  split
  · rename_i hstuck
    exact .inr (by rw [state?, hk, Option.map_some, hstuck])
  · exact .inl rfl

/-- The task of a stage that passes for alive could not be ended. -/
theorem Silenced.stuck (h : Silenced before t) (owned : t.Owned) (hslot : t.find? stage = some slot)
    (alive : t.hasEnded slot.task = false) : before.state? slot.task = some .stuck := by
  obtain ⟨k, found, -⟩ := owned _ _ hslot
  refine (h _ _ found).resolve_left fun hended => ?_
  rw [hasEnded_iff.mpr ⟨k, found, hended⟩] at alive
  cases alive

end SlotTable

/-- A report of a stage that is alive tells of such a task. -/
theorem SlotTable.Silenced.stuck_of_mem_reports {before : SlotTable} {s : Supervisor} {now : Nat}
    {report : StageReport} (h : Silenced before s.table) (owned : s.table.Owned)
    (hreport : report ∈ s.reports now) (alive : report.alive = true) :
    ∃ slot, s.table.find? report.name = some slot ∧ before.state? slot.task = some .stuck := by
  obtain ⟨w, -, rfl⟩ := List.mem_map.mp (List.mem_mergeSort.mp hreport)
  have alive : ((s.table.find? w.status.name).map fun slot => !s.table.hasEnded slot.task).getD false
      = true := alive
  cases hslot : s.table.find? w.status.name with
  | none =>
    rw [hslot] at alive
    cases alive
  | some slot =>
    rw [hslot] at alive
    have running : s.table.hasEnded slot.task = false := by simpa using alive
    exact ⟨slot, hslot, h.stuck owned hslot running⟩

/-- Under a stop, no move brings a task to life. -/
theorem Vigil.Step.silenced {before : SlotTable} {v v' : Vigil} {m : Move} (step : Step v m v')
    (down : v.supervisor.table.shuttingDown = true) (h : Silenced before v.supervisor.table) :
    Silenced before v'.supervisor.table := by
  have hnone : ∀ stage generation, v.supervisor.table.restart? stage generation = none :=
    fun stage generation => by rw [restart?_eq, if_pos down]
  cases step with
  | work _ outlast => exact h.outlast outlast
  | exit found _ =>
    rw [Supervisor.taskExited_of_none found (hnone _ _)]
    exact h.outlast outlast_setState
  | look => exact h
  | heal _ =>
    rw [Supervisor.restart_of_none (hnone _ _)]
    exact h
  | stop => exact h
  | enter _ => exact h
  | @late stage generation =>
    show Silenced before (v.supervisor.replace stage generation).table
    obtain heq | ⟨slot, -, -, heq⟩ := v.supervisor.replace_cases stage generation
    · rw [heq]
      exact h
    · rw [heq]
      exact h.spawn down stage slot.worker (slot.generation + 1) (slot.restarts + 1)

/-- A supervisor that was started, with the registry of the connections. -/
structure Tenure where
  vigil : Vigil
  registry : Registry

namespace Tenure

/-- The tenure after a call for a stop. -/
def stopped (t : Tenure) (now : Nat) : Tenure :=
  let (supervisor, registry) := t.vigil.supervisor.stop t.registry now
  ⟨{ t.vigil with supervisor }, registry⟩

/-- What can happen next. -/
inductive Move where
  | stop (now : Nat)
  /-- Units and tasks go on or come to their end, watchers report, and sweeps look and heal. -/
  | heal (move : Vigil.Move)
  /-- A stage does something to the registry. -/
  | serve (op : Registry.Operation)

/-- One move.  Only a stop closes workers, and only a stop tells all tasks to end. -/
inductive Step : Tenure → Move → Tenure → Prop
  | stop {t : Tenure} {now : Nat} : Step t (.stop now) (t.stopped now)
  | heal {t : Tenure} {m : Vigil.Move} {vigil : Vigil} (move : Vigil.Step t.vigil m vigil)
      (unforced : m ≠ .stop) (quiet : m.Quiet t.vigil.supervisor.crew.journal) :
      Step t (.heal m) { t with vigil }
  | serve {t : Tenure} {op : Registry.Operation} :
      Step t (.serve op) { t with registry := t.registry.apply op }

/-- One move after the other. -/
inductive Course : Tenure → List Move → Tenure → Prop
  | done {t : Tenure} : Course t [] t
  | move {t t' t'' : Tenure} {m : Move} {ms : List Move} (step : Step t m t') (rest : Course t' ms t'') :
      Course t (m :: ms) t''

/-- The move registers a connection. -/
def Move.Registers : Move → Prop
  | .serve op => ∃ id, op.Registers id
  | _ => False

variable {first : Supervisor} {crew : Crew} {before : SlotTable} {t t' : Tenure} {m : Move} {ms : List Move}
  {now : Nat}

/-! ### Until the first stop -/

/-- Every move of a tenure but a stop leaves the start standing. -/
theorem Step.stands (step : Step t m t') (hm : ∀ now, m ≠ .stop now)
    (h : Supervisor.Stands first t.vigil.supervisor) : Supervisor.Stands first t'.vigil.supervisor := by
  cases step with
  | stop => exact absurd rfl (hm _)
  | heal move unforced quiet => exact move.stands unforced quiet h
  | serve => exact h

/-- All the way up to the stop, the start stands. -/
theorem Course.stands (course : Course t ms t') (unstopped : ∀ now, .stop now ∉ ms)
    (h : Supervisor.Stands first t.vigil.supervisor) : Supervisor.Stands first t'.vigil.supervisor := by
  induction course with
  | done => exact h
  | move step _ ih =>
    refine ih (fun now hm => unstopped now (List.mem_cons_of_mem _ hm)) ?_
    exact step.stands (fun now hm => unstopped now (hm ▸ List.mem_cons_self)) h

/-! ### From the first stop on -/

/-- Everything is as a stop left it: no worker was opened or closed since, no task goes on that could be
ended, and nobody is connected. -/
structure Shut (first : Supervisor) (before : SlotTable) (t : Tenure) : Prop where
  stands : Supervisor.Stands first t.vigil.supervisor
  down : t.vigil.supervisor.table.shuttingDown = true
  silenced : Silenced before t.vigil.supervisor.table
  empty : ∀ id, t.registry.find? id = none

/-- The first stop ends the tasks and the units, closes all workers and drops the connections. -/
theorem stopped_of_up (up : t.vigil.supervisor.table.shuttingDown = false) :
    t.stopped now = ⟨{ t.vigil with supervisor :=
      ⟨({ t.vigil.supervisor with table := t.vigil.supervisor.table.shutDown }.finishUnits now).crew.closeAll,
        t.vigil.supervisor.table.shutDown.endTasks⟩ }, t.registry.clear⟩ := by
  rw [stopped, Supervisor.stop_of_up up]

/-- A further stop changes nothing. -/
theorem stopped_of_down (down : t.vigil.supervisor.table.shuttingDown = true) : t.stopped now = t := by
  rw [stopped, Supervisor.stop, if_pos down]

/-- After the first stop, everything is shut. -/
theorem shut_stopped (up : t.vigil.supervisor.table.shuttingDown = false)
    (owned : t.vigil.supervisor.table.Owned) (now : Nat) :
    Shut (t.stopped now).vigil.supervisor t.vigil.supervisor.table (t.stopped now) := by
  rw [stopped_of_up up]
  exact ⟨⟨rfl, rfl, rfl, owned.outlast outlast_endTasks⟩, rfl, silenced_endTasks, t.registry.find?_clear⟩

/-- A stop closes the workers in order, each of them once. -/
theorem journal_stopped (up : t.vigil.supervisor.table.shuttingDown = false) :
    (t.stopped now).vigil.supervisor.crew.journal = t.vigil.supervisor.crew.journal
      ++ (List.range t.vigil.supervisor.crew.workers.length).map .closed := by
  rw [stopped_of_up up, ← Crew.length_names, ← Supervisor.names_finishUnits, Crew.length_names]
  exact (Crew.journal_closeEach _).trans (congrArg (· ++ _) Supervisor.journal_finishUnits)

/-- No move but a registration opens anything that is shut. -/
theorem Step.shut (step : Step t m t') (hm : ¬ m.Registers) (h : Shut first before t) :
    Shut first before t' := by
  cases step with
  | stop => exact (stopped_of_down h.down).symm ▸ h
  | heal move unforced quiet =>
    exact ⟨move.stands unforced quiet h.stands, move.down h.down, move.silenced h.down h.silenced, h.empty⟩
  | serve =>
    exact ⟨h.stands, h.down, h.silenced,
      fun id => Registry.find?_apply (h.empty id) fun hop => hm ⟨id, hop⟩⟩

/-- Without registrations, all stays shut. -/
theorem Course.shut (course : Course t ms t') (hms : ∀ m ∈ ms, ¬ m.Registers) (h : Shut first before t) :
    Shut first before t' := by
  induction course with
  | done => exact h
  | move step _ ih =>
    refine ih (fun m hm => hms m (List.mem_cons_of_mem _ hm)) ?_
    exact step.shut (hms _ List.mem_cons_self) h

/-! ## From start to stop -/

/-- What holds from the first stop on, after a start that went well; `last` is what there was when the stop
came. -/
structure Closed (crew : Crew) (last t : Tenure) : Prop where
  /-- Each worker was opened once, in order, and then closed once, in order. -/
  journal : t.vigil.supervisor.crew.journal
    = crew.journal ++ (List.range crew.workers.length).map .opened
      ++ (List.range crew.workers.length).map .closed
  /-- No task goes on but those that could not be ended. -/
  silenced : Silenced last.vigil.supervisor.table t.vigil.supervisor.table
  /-- A stage that passes for alive is at such a task, -/
  alive : ∀ now, ∀ report ∈ t.vigil.supervisor.reports now, report.alive = true →
    ∃ slot, t.vigil.supervisor.table.find? report.name = some slot ∧
      last.vigil.supervisor.table.state? slot.task = some .stuck
  /-- and none is alive if all tasks could be ended. -/
  dead : (∀ k ∈ last.vigil.supervisor.table.tasks, k.state ≠ .stuck) →
    ∀ now, ∀ report ∈ t.vigil.supervisor.reports now, report.alive = false
  empty : t.registry.connections = []

/-- A stage that is reported alive after the stop is one whose task hung. -/
theorem alive_of_mem_reports {report : StageReport} (h : Shut first before t)
    (hreport : report ∈ t.vigil.supervisor.reports now) (alive : report.alive = true) :
    ∃ slot, t.vigil.supervisor.table.find? report.name = some slot ∧
      before.state? slot.task = some .stuck :=
  h.silenced.stuck_of_mem_reports h.stands.owned hreport alive

/-- What is shut was closed as it was opened: each worker once, last of all the first. -/
theorem closed_of_shut {last : Tenure} (started : first.Started crew)
    (stands : Supervisor.Stands first last.vigil.supervisor) (up : first.table.shuttingDown = false)
    (names : first.crew.names = crew.names)
    (h : Shut (last.stopped now).vigil.supervisor last.vigil.supervisor.table t) : Closed crew last t where
  journal := by
    have hlength : last.vigil.supervisor.crew.workers.length = crew.workers.length := by
      rw [← Crew.length_names, stands.workers, names, Crew.length_names]
    rw [h.stands.journal, journal_stopped (stands.down.trans up), stands.journal, started.journal, hlength]
  silenced := h.silenced
  alive _ _ hreport halive := alive_of_mem_reports h hreport halive
  dead obeys now report hreport := by
    refine Bool.eq_false_iff.mpr fun halive => ?_
    obtain ⟨slot, -, hstuck⟩ := alive_of_mem_reports h hreport halive
    obtain ⟨k, hk, hstate⟩ := Option.map_eq_some_iff.mp hstuck
    exact obeys k (List.mem_of_getElem? hk) hstate
  empty := by
    refine List.eq_nil_iff_forall_not_mem.mpr fun c hc => ?_
    exact Option.some_ne_none c ((Registry.find?_of_mem hc).symm.trans (h.empty c.id))

end Tenure

namespace Supervisor

/-- A start opens all workers or leaves none open, and stops close all that were opened, once, however many
stops there are and whatever else is done before them and between them. -/
theorem all_or_nothing (crew : Crew) (distinct : crew.names.Nodup) :
    ((∀ w ∈ crew.workers, w.obstacle = none) →
      ∃ s, (create crew).start = (.ok (), s) ∧ s.Started crew ∧
        ∀ registry ms last, Tenure.Course ⟨.begun s, registry⟩ ms last → (∀ now, .stop now ∉ ms) →
          ∀ now ns t, Tenure.Course (last.stopped now) ns t → (∀ m ∈ ns, ¬ m.Registers) →
            Tenure.Closed crew last t) ∧
    ∀ k w e, crew.workers[k]? = some w → w.obstacle = some e →
      (∀ v ∈ crew.workers.take k, v.obstacle = none) →
        ∃ s, (create crew).start = (.error (.stageOpen w.status.name e), s) ∧ s.Undone crew k := by
  refine ⟨fun hopen => ?_, fun k w e hk hw h => undone_of_start hk hw h⟩
  obtain ⟨s, hstart, started⟩ := started_of_start hopen distinct
  obtain ⟨stands, up, names⟩ := stands_of_start hstart
  refine ⟨s, hstart, started, fun registry ms last before unstopped now ns t after unregistered => ?_⟩
  have hlast : Stands s last.vigil.supervisor := before.stands unstopped stands
  have hshut := Tenure.shut_stopped (hlast.down.trans up) hlast.owned now
  exact Tenure.closed_of_shut started hlast up names (after.shut unregistered hshut)

/-- All workers of the relay open; the task of the logic stage fails and is replaced, the stop overtakes
a call for another restart, and there is a second stop.  If the third worker does not open, the second is closed, and then the
first. -/
theorem all_or_nothing_relay :
    Crew.relay.names.Nodup ∧
      (∃ s last t, (create .relay).start = (.ok (), s) ∧
        Tenure.Course ⟨.begun s, .empty⟩ [.heal (.exit 3), .heal (.enter "logic" 1)] last ∧
        Tenure.Course (last.stopped 0) [.heal (.late "logic" 1), .stop 7] t ∧
        Tenure.Closed .relay last t ∧ ∀ report ∈ t.vigil.supervisor.reports 7, report.alive = false) ∧
      ∃ crew s, crew.names = Crew.relay.names ∧
        (create crew).start = (.error (.stageOpen "decode" .notOpen), s) ∧ s.Undone crew 2 ∧
        s.crew.journal = [.opened 0, .opened 1, .opened 2, .closed 1, .closed 0] := by
  have distinct : Crew.relay.names.Nodup := by decide
  refine ⟨distinct, ?_, ?_⟩
  · obtain ⟨s, hstart, -, closes⟩ := (all_or_nothing .relay distinct).1 (by decide)
    obtain rfl : (create .relay).start.2 = s := congrArg Prod.snd hstart
    obtain ⟨last, t, before, after, obeys⟩ : ∃ last t,
        Tenure.Course ⟨.begun (create .relay).start.2, .empty⟩ [.heal (.exit 3), .heal (.enter "logic" 1)] last ∧
          Tenure.Course (last.stopped 0) [.heal (.late "logic" 1), .stop 7] t ∧
          ∀ k ∈ last.vigil.supervisor.table.tasks, k.state ≠ .stuck :=
      ⟨_, _, .move (.heal (.exit rfl (by decide)) (by simp) trivial) <|
          .move (.heal (.enter rfl) (by simp) trivial) .done,
        .move (.heal .late (by simp) trivial) <| .move .stop .done, by decide⟩
    have closed := closes .empty _ last before (by simp) 0 _ t after (by simp [Tenure.Move.Registers])
    exact ⟨_, last, t, hstart, before, after, closed, closed.dead obeys 7⟩
  · let crew : Crew := ⟨Crew.relay.workers.modify 2 fun w => { w with obstacle := some .notOpen }, []⟩
    have hnames : crew.names = Crew.relay.names := by decide
    obtain ⟨s, hstart, undone⟩ := (all_or_nothing crew (hnames ▸ distinct)).2 2 _ .notOpen rfl rfl (by decide)
    exact ⟨crew, s, hnames, hstart, undone, undone.journal⟩

end Supervisor

end FlightRelay

import FlightRelay.Proofs.Registry.Lookup
import FlightRelay.Proofs.Supervisor.Renewal

/-!
# Stages at their posts

A supervisor of the stages of the relay is in one of three conditions.  Before its first start there is
nothing to heal (`Vigil.Untried`).  From then on every stage has a task whose end nobody has reported
(`Supervisor.Manned`), so that whoever dies is brought back.  Once it was stopped and started again, no
stage is alive and none comes back (`Supervisor.Over`).  Each condition is kept whatever happens but the
start or the stop that leads to the next one.
-/

namespace FlightRelay

/-- The names of the stages, in order. -/
def Stage.names : List String := all.map name

/-- Every stage has a name on the list. -/
theorem Stage.mem_names (stage : Stage) : stage.name ∈ names := by cases stage <;> decide

open SlotTable

/-! ## Workers are closed -/

namespace Crew

variable {crew : Crew}

theorem journal_close (i : Nat) : (crew.close i).journal = crew.journal ++ [.closed i] := by
  unfold close
  dsimp only
  split <;> rfl

/-- Closing workers is noted in order. -/
theorem journal_closeEach (places : List Nat) :
    (crew.closeEach places).journal = crew.journal ++ places.map .closed := by
  induction places generalizing crew with
  | nil => exact (List.append_nil _).symm
  | cons i is ih =>
    show ((crew.close i).closeEach is).journal = _
    rw [ih, journal_close, List.append_assoc]
    rfl

/-- The workers of the stages are closed in order, each of them once. -/
theorem journal_closeAll (names : crew.names = Stage.names) :
    crew.closeAll.journal = crew.journal ++ Stage.all.map fun stage => .closed stage.place := by
  have hlength : crew.workers.length = Stage.names.length := by
    rw [← names, Crew.names, List.length_map]
  unfold closeAll
  rw [hlength]
  exact journal_closeEach _

end Crew

theorem Supervisor.journal_finishUnits {s : Supervisor} {now : Nat} :
    (s.finishUnits now).crew.journal = s.crew.journal := by
  unfold finishUnits
  dsimp only
  generalize s.table.tasks = ks, s.crew = crew
  induction ks generalizing crew with
  | nil => rfl
  | cons k ks ih =>
    rw [List.foldl_cons, ih]
    split <;> rfl

/-! ## Tasks that are started too late -/

namespace SlotTable

variable {t : SlotTable} {name other : String} {worker generation restarts : Nat} {names : List String}

/-- The stage has a slot, and its task has come to its end. -/
def Dead (t : SlotTable) (stage : String) : Prop :=
  ∃ slot, t.find? stage = some slot ∧ t.hasEnded slot.task = true

/-- A stage that is dead is not revived by work of the tasks. -/
theorem Dead.outlast {tasks : List StageTask} (h : t.Dead name) (htasks : Outlast t.tasks tasks) :
    ({ t with tasks } : SlotTable).Dead name := by
  obtain ⟨slot, hslot, hended⟩ := h
  exact ⟨slot, hslot, htasks.hasEnded hended⟩

/-- A task that is started while everything ends is ended. -/
theorem dead_spawn (down : t.shuttingDown = true) :
    (t.spawn name worker generation restarts).Dead name := by
  refine ⟨_, find?_spawn.trans (if_pos rfl), hasEnded_iff.mpr ⟨_, List.getElem?_concat_length, ?_⟩⟩
  exact if_pos down

/-- A task that is spawned under a stop is dead at once. -/
theorem Dead.spawn (h : t.Dead other) (down : t.shuttingDown = true) :
    (t.spawn name worker generation restarts).Dead other := by
  by_cases hother : other = name
  · exact hother ▸ dead_spawn down
  · obtain ⟨slot, hslot, hended⟩ := h
    obtain ⟨k, found, hstate⟩ := hasEnded_iff.mp hended
    have hlt := (List.getElem?_eq_some_iff.mp found).1
    refine ⟨slot, find?_spawn.trans ((if_neg hother).trans hslot), hasEnded_iff.mpr ⟨k, ?_, hstate⟩⟩
    exact (List.getElem?_append_left hlt).trans found

/-- All tasks that are spawned under a stop are dead at once. -/
theorem dead_spawnEach (down : t.shuttingDown = true) (names : List String) (place : Nat)
    (h : name ∈ names ∨ t.Dead name) : (t.spawnEach names place).Dead name := by
  induction names generalizing t place with
  | nil => exact h.resolve_left List.not_mem_nil
  | cons first names ih =>
    have hspawned : name ∈ names ∨ (t.spawn first place 0 0).Dead name := by
      obtain hmem | hdead := h
      · obtain rfl | htail := List.mem_cons.mp hmem
        · exact .inr (dead_spawn down)
        · exact .inl htail
      · exact .inr (hdead.spawn down)
    exact ih (t := t.spawn first place 0 0) down (place + 1) hspawned

end SlotTable

/-! ## Every stage at its post -/

/-- Whoever has a slot is a stage, and the slot has the worker of the stage. -/
def SlotTable.Posted (t : SlotTable) : Prop :=
  ∀ name slot, t.find? name = some slot → Stage.names[slot.worker]? = some name

/-- The slot that follows has the worker that was there. -/
theorem SlotTable.Posted.succeed {t : SlotTable} {name : String} {slot : Slot} (h : t.Posted)
    (hslot : t.find? name = some slot) : (t.succeed name slot).Posted := by
  intro other slot' hslot'
  rw [find?_succeed] at hslot'
  by_cases hother : other = name
  · rw [if_pos hother] at hslot'
    rw [← Option.some.inj hslot', hother]
    exact h name slot hslot
  · rw [if_neg hother] at hslot'
    exact h other slot' hslot'

namespace Supervisor

/-- A supervisor that heals: every stage has a task of its worker, and nobody has reported the end of
it. -/
structure Manned (s : Supervisor) (reported : List Nat) : Prop where
  up : s.table.shuttingDown = false
  /-- No stage has two slots. -/
  distinct : (s.table.slots.map Prod.fst).Nodup
  owned : s.table.Owned
  posted : ∀ stage : Stage, ∃ slot, s.table.find? stage.name = some slot ∧ slot.worker = stage.place ∧
    slot.task ∉ reported
  workers : s.table.Posted
  /-- Who has reported has come to an end. -/
  prompt : ∀ task ∈ reported, s.table.hasEnded task = true

variable {s s' : Supervisor} {crew : Crew} {reported : List Nat} {name : String} {slot : Slot}
  {task generation now : Nat} {k : StageTask}

theorem Manned.outlast {tasks : List StageTask} (h : s.Manned reported)
    (htasks : Outlast s.table.tasks tasks) : Manned ⟨crew, { s.table with tasks }⟩ reported where
  up := h.up
  distinct := h.distinct
  owned := h.owned.outlast htasks
  posted := h.posted
  workers := h.workers
  prompt task htask := htasks.hasEnded (h.prompt task htask)

/-- A task that came to its end is one of those that were started. -/
theorem lt_of_hasEnded (h : s.table.hasEnded task = true) : task < s.table.tasks.length := by
  obtain ⟨k, found, -⟩ := hasEnded_iff.mp h
  exact (List.getElem?_eq_some_iff.mp found).1

/-- A stage that is at its post gets the slot that follows. -/
theorem Manned.succeed (h : s.Manned reported) (hslot : s.table.find? name = some slot) :
    Manned ⟨crew, s.table.succeed name slot⟩ reported where
  up := h.up
  distinct := distinct_put h.distinct
  owned := h.owned.succeed name slot
  posted stage := by
    obtain ⟨slot', hslot', hworker, hunreported⟩ := h.posted stage
    show ∃ slot'', (s.table.succeed name slot).find? stage.name = some slot'' ∧ _
    rw [find?_succeed]
    by_cases hname : stage.name = name
    · rw [hname, hslot] at hslot'
      obtain rfl := Option.some.inj hslot'
      refine ⟨_, if_pos hname, hworker, fun hreported => ?_⟩
      exact Nat.lt_irrefl _ (lt_of_hasEnded (h.prompt _ hreported))
    · exact ⟨slot', (if_neg hname).trans hslot', hworker, hunreported⟩
  workers := h.workers.succeed hslot
  prompt task htask := by
    have hended := h.prompt task htask
    unfold hasEnded state? at hended ⊢
    rwa [getElem?_succeed_of_lt (lt_of_hasEnded (h.prompt task htask))]

/-- A stage that is restarted is manned again. -/
theorem Manned.restart (h : s.Manned reported) (name : String) (generation : Nat) :
    (s.restart name generation).Manned reported := by
  by_cases hslot : ∃ slot, s.table.find? name = some slot ∧ slot.generation = generation
  · obtain ⟨slot, hslot, rfl⟩ := hslot
    rw [restart_of_find? h.up hslot]
    exact h.succeed hslot
  · rw [restart_of_ne fun slot hfind heq => hslot ⟨slot, hfind, heq⟩]
    exact h

/-- The watcher of a task reports: if the task was that of a slot, the stage has another one now. -/
theorem Manned.taskExited (h : s.Manned reported) (found : s.table.tasks[task]? = some k) :
    (s.taskExited task).Manned (task :: reported) := by
  rw [taskExited_of_getElem? found]
  set s₀ : Supervisor := { s with table := s.table.setState task .ended }
  have h₀ : s₀.Manned reported := h.outlast outlast_setState
  have found₀ : s₀.table.tasks[task]? = some { k with state := .ended } := by
    show (s.table.tasks.modify task _)[task]? = _
    simp [found]
  have manned := h₀.restart k.stage k.generation
  have found' : (s₀.restart k.stage k.generation).table.tasks[task]? = some { k with state := .ended } := by
    rw [getElem?_restart_of_lt (List.getElem?_eq_some_iff.mp found₀).1, found₀]
  refine ⟨manned.up, manned.distinct, manned.owned, fun stage => ?_, manned.workers,
    fun other hother => ?_⟩
  · obtain ⟨slot, hslot, hworker, hunreported⟩ := manned.posted stage
    refine ⟨slot, hslot, hworker, fun hmem => ?_⟩
    obtain heq | hbefore := List.mem_cons.mp hmem
    · -- the task of a slot is of its generation, and that of the task that reported is over
      obtain ⟨k', hk', hstage, hgeneration⟩ := manned.owned _ _ hslot
      rw [heq, found'] at hk'
      obtain rfl := Option.some.inj hk'
      exact generation_ne_of_restart h₀.up (hstage ▸ hslot) hgeneration.symm
    · exact hunreported hbefore
  · obtain rfl | hbefore := List.mem_cons.mp hother
    · exact hasEnded_iff.mpr ⟨_, found', rfl⟩
    · exact manned.prompt other hbefore

/-- What the first start makes of the table. -/
theorem table_of_start (fresh : s.table = .empty) (names : s.crew.names = Stage.names)
    (h : s.start = (.ok (), s')) :
    s'.table = { SlotTable.empty.spawnEach Stage.names 0 with sweeping := true } := by
  rw [(start_eq_ok h).2, fresh, names]
  rfl

/-- The first start puts every stage at its post. -/
theorem manned_of_start (fresh : s.table = .empty) (names : s.crew.names = Stage.names)
    (h : s.start = (.ok (), s')) : s'.Manned [] := by
  have hcreated : s = create s.crew := by rw [create, ← fresh]
  have hfresh : s'.table.Fresh := fresh_of_start (hcreated ▸ h)
  have htable := table_of_start fresh names h
  refine ⟨?_, hfresh.distinct, owned_of_start (hcreated ▸ h), fun stage => ?_, fun name slot hslot => ?_,
    fun _ h => nomatch h⟩
  · rw [htable]
    rfl
  · rw [htable]
    cases stage <;> exact ⟨_, rfl, rfl, List.not_mem_nil⟩
  · have hplaces : ∀ e ∈ (SlotTable.empty.spawnEach Stage.names 0).slots,
        Stage.names[e.2.worker]? = some e.1 := by decide
    rw [htable] at hslot
    exact hplaces _ (mem_of_lookup hslot)

/-- After the first start every stage is alive. -/
theorem alive_of_start (fresh : s.table = .empty) (names : s.crew.names = Stage.names)
    (h : s.start = (.ok (), s')) (stage : Stage) : s'.table.Alive stage.name := by
  rw [table_of_start fresh names h]
  cases stage <;> exact ⟨_, _, rfl, rfl, by decide⟩

/-! ## A stop -/

/-- What a stop leaves: the workers were closed in order, nothing goes on that can be ended, and nobody is
connected. -/
structure Ended (s s' : Supervisor) (r : Registry) : Prop where
  down : s'.table.shuttingDown = true
  closed : s'.crew.journal = s.crew.journal ++ Stage.all.map fun stage => .closed stage.place
  tasks : ∀ k ∈ s'.table.tasks, k.state = .ended ∨ k.state = .stuck
  empty : ∀ id, r.find? id = none

/-- The first stop ends the tasks and the units, and closes all workers. -/
theorem stop_of_up (up : s.table.shuttingDown = false) (r : Registry) (now : Nat) :
    s.stop r now
      = (⟨({ s with table := s.table.shutDown }.finishUnits now).crew.closeAll,
          s.table.shutDown.endTasks⟩, r.clear) := by
  unfold stop
  rw [if_neg (Bool.eq_false_iff.mp up)]
  rfl

/-- The first stop ends everything. -/
theorem ended_stop (up : s.table.shuttingDown = false) (names : s.crew.names = Stage.names) (r : Registry)
    (now : Nat) : s.Ended (s.stop r now).1 (s.stop r now).2 := by
  rw [stop_of_up up]
  refine ⟨rfl, ?_, fun k hk => ?_, r.find?_clear⟩
  · exact (Crew.journal_closeAll (names_finishUnits.trans names)).trans
      (congrArg (· ++ _) journal_finishUnits)
  · obtain ⟨k, -, rfl⟩ := List.mem_map.mp hk
    split
    · rename_i hstuck
      exact .inr hstuck
    · exact .inl rfl

/-! ## After a stop -/

/-- A supervisor that does not heal: everything ends, and no stage is alive. -/
structure Over (s : Supervisor) : Prop where
  down : s.table.shuttingDown = true
  dead : ∀ stage : Stage, s.table.Dead stage.name

/-- A start that follows a stop starts tasks that end at once. -/
theorem over_of_start (down : s.table.shuttingDown = true) (names : s.crew.names = Stage.names)
    (h : s.start = (.ok (), s')) : s'.Over := by
  have hdead (stage : Stage) : (s.table.spawnEach s.crew.names 0).Dead stage.name :=
    dead_spawnEach down _ _ (.inl (names ▸ stage.mem_names))
  have htable := (start_eq_ok h).2
  refine ⟨?_, fun stage => ?_⟩
  · rw [htable]
    exact (shuttingDown_spawnEach _ _).trans down
  · rw [htable]
    exact hdead stage

theorem Over.outlast {tasks : List StageTask} (h : s.Over) (htasks : Outlast s.table.tasks tasks) :
    Over ⟨crew, { s.table with tasks }⟩ :=
  ⟨h.down, fun stage => (h.dead stage).outlast htasks⟩

/-- A restart that looked for a stop too early starts a task that ends at once. -/
theorem Over.replace (h : s.Over) (name : String) (generation : Nat) :
    (s.replace name generation).Over := by
  obtain heq | ⟨slot, -, -, heq⟩ := s.replace_cases name generation
  · rw [heq]
    exact h
  · rw [heq]
    exact ⟨h.down, fun stage => (h.dead stage).spawn h.down⟩

/-- When all is over, nothing is restarted. -/
theorem Over.restart (h : s.Over) (name : String) (generation : Nat) : s.restart name generation = s := by
  rw [restart_eq, h.down, if_pos rfl]

/-- When all is over, a task that exits has no successor. -/
theorem Over.taskExited (h : s.Over) (found : s.table.tasks[task]? = some k) :
    (s.taskExited task).Over := by
  have hended : Over { s with table := s.table.setState task .ended } := h.outlast outlast_setState
  rw [taskExited_of_getElem? found, hended.restart]
  exact hended

end Supervisor

/-! ## Whatever happens next -/

namespace Vigil

/-- No task was ever started, and there is nothing to heal. -/
structure Untried (v : Vigil) : Prop where
  table : v.supervisor.table = .empty
  seen : v.seen = []
  reported : v.reported = []

variable {v v' : Vigil} {m : Move}

/-- What was not started stays so until it is. -/
theorem Step.untried (step : Step v m v') (hm : m ≠ .stop) (h : v.Untried) : v'.Untried := by
  obtain ⟨table, seen, reported⟩ := h
  cases step with
  | work _ outlast =>
    rw [table] at outlast
    obtain rfl := List.forall₂_nil_left_iff.mp outlast
    exact ⟨by rw [table]; rfl, seen, reported⟩
  | exit found _ =>
    rw [table] at found
    cases found
  | look =>
    refine ⟨table, ?_, reported⟩
    show v.seen ++ v.supervisor.table.slots.map _ = []
    rw [seen, table]
    rfl
  | heal hseen =>
    rw [seen] at hseen
    cases hseen
  | stop => exact absurd rfl hm
  | enter _ => exact ⟨table, seen, reported⟩
  | late =>
    have hnone : ∀ stage generation, v.supervisor.replace stage generation = v.supervisor := by
      intro stage generation
      unfold Supervisor.replace SlotTable.replace?
      rw [table]
      rfl
    exact ⟨by rw [hnone, table], seen, reported⟩

/-- Every move but a stop leaves the stages manned, as it is reported. -/
theorem Step.manned (step : Step v m v') (hm : m ≠ .stop) (h : v.supervisor.Manned v.reported) :
    v'.supervisor.Manned v'.reported := by
  cases step with
  | work _ outlast => exact h.outlast outlast
  | exit found _ => exact h.taskExited found
  | look => exact h
  | heal _ => exact h.restart _ _
  | stop => exact absurd rfl hm
  | enter _ => exact h
  | @late stage generation =>
    have hrestart : v.supervisor.restart stage generation = v.supervisor.replace stage generation := by
      rw [Supervisor.restart_eq, h.up, if_neg Bool.false_ne_true]
    exact hrestart ▸ h.restart stage generation

/-- What is over stays over. -/
theorem Step.over (step : Step v m v') (h : v.supervisor.Over) : v'.supervisor.Over := by
  cases step with
  | work _ outlast => exact h.outlast outlast
  | exit found _ => exact h.taskExited found
  | look => exact h
  | heal _ => exact (h.restart _ _).symm ▸ h
  | stop => exact ⟨rfl, h.dead⟩
  | enter _ => exact h
  | late => exact h.replace _ _

end Vigil

end FlightRelay

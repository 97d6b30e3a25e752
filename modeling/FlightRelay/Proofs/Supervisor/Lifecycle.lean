import FlightRelay.Deflate.Library
import FlightRelay.Proofs.Supervisor.Posts
import FlightRelay.Proofs.Supervisor.Traffic

/-!
# From start to stop

A server is started and stopped, any number of times and in any order, while clients, the clock and
operators make use of it, tasks fail, and watchers and sweeps heal.  From the first start that answers with
success to the next stop it serves (`Service.Serving`): it runs, every stage has a task that goes on or
whose end is yet to be reported, and whoever answers for a dead stage brings it back.  The stop closes all
workers.

That is all a server ever does.  Whoever starts it again is told that this went well, but the supervisor
still tells all tasks to end: no stage is alive, none comes back, and the next stop closes nothing
(`Service.Lifeless`).
-/

namespace FlightRelay

/-! ## Starts and stops of a server -/

namespace Server

variable {s : Server} {now : Nat}

/-- A server that runs refuses a start. -/
theorem start_of_running (h : s.running = true) : s.start = (.error .alreadyStarted, s) := by
  unfold start
  rw [h]
  rfl

/-- A server that does not run starts if its supervisor does. -/
theorem start_of_not_running (h : s.running = false) :
    s.start = (s.supervisor.start.1, { s.withSupervisor s.supervisor.start.2 with
      running := s.supervisor.start.1.toOption.isSome }) := by
  unfold start
  rw [h]
  rfl

/-- To stop a server that does not run does nothing. -/
theorem stop_of_not_running (h : s.running = false) (now : Nat) : s.stop now = s := by
  unfold stop
  rw [h]
  rfl

/-- The server does not run any more, and what lies between its stages is closed. -/
def drained (s : Server) (now : Nat) : Server := { s with running := false }.closeQueues now

/-- To drain the queues is no work of a stage. -/
theorem crew_drained : (s.drained now).supervisor.crew = s.supervisor.crew := Chain.crew_drainLogic

/-- The stop of a server that runs drains its queues, and then stops the supervisor. -/
theorem stop_of_running (running : s.running = true) (up : s.table.shuttingDown = false) :
    s.stop now
      = let q := s.drained now
        let (v, r) := q.supervisor.stop q.registry (q.context now).nanos
        { q.withSupervisor v with chain := (q.withSupervisor v).chain.withRegistry r } := by
  unfold stop
  rw [running, Bool.not_true, if_neg Bool.false_ne_true]
  exact if_neg (Bool.eq_false_iff.mp up)

/-- A stop of a server that runs closes what lies between the stages, and then the stages. -/
theorem ended_stop (running : s.running = true) (up : s.table.shuttingDown = false)
    (names : s.chain.crew.names = Stage.names) (now : Nat) :
    (s.stop now).running = false ∧ s.supervisor.Ended (s.stop now).supervisor (s.stop now).registry := by
  have hnames : (s.drained now).supervisor.crew.names = Stage.names := by rw [crew_drained, ← names]; rfl
  have ended := Supervisor.ended_stop (s := (s.drained now).supervisor) up hnames (s.drained now).registry
    ((s.drained now).context now).nanos
  rw [stop_of_running running up]
  exact ⟨rfl, ended.down, crew_drained (s := s) ▸ ended.closed, ended.tasks, ended.empty⟩

/-- A stop of a server that was stopped before only notes that the server does not run. -/
theorem stop_of_down (down : s.table.shuttingDown = true) :
    s.stop now = { s with running := false } := by
  cases running : s.running with
  | false =>
    rw [stop_of_not_running running, ← running]
  | true =>
    unfold stop
    rw [running, Bool.not_true, if_neg Bool.false_ne_true]
    exact if_pos down

theorem names_start : s.start.2.chain.crew.names = s.chain.crew.names := by
  cases running : s.running with
  | false =>
    rw [start_of_not_running running]
    exact Supervisor.names_start
  | true => rw [start_of_running running]

theorem names_stop : (s.stop now).chain.crew.names = s.chain.crew.names := by
  cases running : s.running with
  | false => rw [stop_of_not_running running]
  | true =>
    cases hdown : s.table.shuttingDown with
    | true => rw [stop_of_down hdown]
    | false =>
      rw [stop_of_running running hdown]
      exact Supervisor.names_stop.trans (congrArg Crew.names crew_drained)

end Server

/-! ## A server in use -/

/-- A server in use, with the journal of those who heal it. -/
structure Service where
  server : Server
  /-- All that sweeps have seen. -/
  seen : List Observation
  /-- The tasks whose watchers have reported. -/
  reported : List Nat
  /-- The restarts of stages, oldest first. -/
  restarted : List (String × Nat)

namespace Service

/-- Nothing was done yet. -/
def begun (server : Server) : Service := ⟨server, [], [], []⟩

/-- The supervisor of the server. -/
def vigil (s : Service) : Vigil := ⟨s.server.supervisor, s.seen, s.reported, s.restarted⟩

/-- Replaces the supervisor of the server. -/
def withVigil (s : Service) (v : Vigil) : Service :=
  ⟨s.server.withSupervisor v.supervisor, v.seen, v.reported, v.restarted⟩

/-- What can happen next. -/
inductive Move where
  /-- The server is started, and answers. -/
  | start (answer : Except StartError Unit)
  | stop (now : Nat)
  | call (call : Server.Call) (now : Nat)
  /-- Units and tasks go on or come to their end, watchers report, and sweeps look and heal. -/
  | heal (move : Vigil.Move)

/-- One move.  Only a stop of the server stops its supervisor. -/
inductive Step : Service → Move → Service → Prop
  | start {s : Service} {answer : Except StartError Unit} {server : Server}
      (answered : s.server.start = (answer, server)) : Step s (.start answer) { s with server }
  | stop {s : Service} {now : Nat} : Step s (.stop now) { s with server := s.server.stop now }
  | call {s : Service} {call : Server.Call} {now : Nat} :
      Step s (.call call now) { s with server := call.run now s.server }
  | heal {s : Service} {m : Vigil.Move} {v : Vigil} (move : Vigil.Step s.vigil m v) (unforced : m ≠ .stop) :
      Step s (.heal m) (s.withVigil v)

/-- One move after the other. -/
inductive Course : Service → List Move → Service → Prop
  | done {s : Service} : Course s [] s
  | move {s s' s'' : Service} {m : Move} {ms : List Move} (step : Step s m s') (rest : Course s' ms s'') :
      Course s (m :: ms) s''

variable {s s' : Service} {server : Server} {m : Move} {ms ns : List Move}

/-- Whatever happens, the workers are those that were there. -/
theorem Step.names (step : Step s m s') : s'.server.chain.crew.names = s.server.chain.crew.names := by
  cases step with
  | start answered => exact (congrArg (fun a => a.2.chain.crew.names) answered).symm.trans Server.names_start
  | stop => exact Server.names_stop
  | @call call now =>
    have hspares : s.server.Spares (call.run now s.server) := call.spares
    exact hspares.workers
  | heal move _ => exact move.names

/-- All the way, the crew has the names that it had. -/
theorem Course.names (course : Course s ms s') :
    s'.server.chain.crew.names = s.server.chain.crew.names := by
  induction course with
  | done => rfl
  | move step _ ih => exact ih.trans step.names

/-- What every move of some kind keeps is kept by all of them. -/
theorem Course.keeps {P : Service → Prop} {Q : Move → Prop}
    (keeps : ∀ {s m s'}, Step s m s' → Q m → P s → P s') (course : Course s ms s') (hms : ∀ m ∈ ms, Q m)
    (h : P s) : P s' := by
  induction course with
  | done => exact h
  | move step _ ih =>
    refine ih (fun m hm => hms m (List.mem_cons_of_mem _ hm)) ?_
    exact keeps step (hms _ List.mem_cons_self) h

/-! ## Before the first start -/

/-- The server was not started yet. -/
structure Idle (s : Service) : Prop where
  running : s.server.running = false
  untried : s.vigil.Untried

/-- A server that was never started stays so until it is. -/
theorem Step.idle (step : Step s m s') (hm : m ≠ .start (.ok ())) (h : s.Idle) : s'.Idle := by
  obtain ⟨running, table, seen, reported⟩ := h
  cases step with
  | start answered =>
    rw [Server.start_of_not_running running] at answered
    obtain ⟨rfl, rfl⟩ := Prod.mk.inj answered
    cases hanswer : s.server.supervisor.start.1 with
    | ok => exact absurd (congrArg Move.start hanswer) hm
    | error e =>
      exact ⟨rfl, (Supervisor.start_eq_error (Prod.ext hanswer rfl)).2.trans table, seen, reported⟩
  | stop =>
    rw [Server.stop_of_not_running running]
    exact ⟨running, table, seen, reported⟩
  | @call call now =>
    have hspares : s.server.Spares (call.run now s.server) := call.spares
    exact ⟨hspares.running.trans running, hspares.table.trans table, seen, reported⟩
  | heal move unforced => exact ⟨running, move.untried unforced ⟨table, seen, reported⟩⟩

/-- A server that was never started stays so all the way to the start. -/
theorem Course.idle (course : Course s ms s') (first : .start (.ok ()) ∉ ms) (h : s.Idle) : s'.Idle :=
  course.keeps Step.idle (fun _ hm heq => first (heq ▸ hm)) h

/-! ## A started server serves -/

/-- The server runs, and its stages are at their posts. -/
structure Busy (s : Service) : Prop where
  running : s.server.running = true
  manned : s.server.supervisor.Manned s.reported

/-- The first start that goes well puts every stage at its post. -/
theorem Idle.busy (h : s.Idle) (names : s.server.chain.crew.names = Stage.names)
    (answered : s.server.start = (.ok (), server)) : Busy { s with server } := by
  rw [Server.start_of_not_running h.running] at answered
  obtain ⟨hanswer, rfl⟩ := Prod.mk.inj answered
  have manned := Supervisor.manned_of_start h.untried.table names (Prod.ext hanswer rfl)
  have hreported : s.reported = [] := h.untried.reported
  refine ⟨by rw [hanswer]; rfl, ?_⟩
  show s.server.supervisor.start.2.Manned s.reported
  exact hreported ▸ manned

/-- So every stage is alive, to begin with. -/
theorem Idle.alive (h : s.Idle) (names : s.server.chain.crew.names = Stage.names)
    (answered : s.server.start = (.ok (), server)) (stage : Stage) : server.table.Alive stage.name := by
  rw [Server.start_of_not_running h.running] at answered
  obtain ⟨hanswer, rfl⟩ := Prod.mk.inj answered
  exact Supervisor.alive_of_start h.untried.table names (Prod.ext hanswer rfl) stage

/-- A server that runs does so until it is stopped. -/
theorem Step.busy (step : Step s m s') (hm : ∀ now, m ≠ .stop now) (h : s.Busy) : s'.Busy := by
  cases step with
  | start answered =>
    rw [Server.start_of_running h.running] at answered
    obtain ⟨-, rfl⟩ := Prod.mk.inj answered
    exact h
  | stop => exact absurd rfl (hm _)
  | @call call now =>
    have hspares : s.server.Spares (call.run now s.server) := call.spares
    refine ⟨hspares.running.trans h.running, ?_⟩
    show Supervisor.Manned ⟨_, (call.run now s.server).table⟩ _
    rw [hspares.table]
    exact h.manned.outlast SlotTable.outlast_refl
  | heal move unforced => exact ⟨h.running, move.manned unforced h.manned⟩

/-- A server that runs does so all the way to the stop. -/
theorem Course.busy (course : Course s ms s') (unstopped : ∀ now, .stop now ∉ ms) (h : s.Busy) :
    s'.Busy :=
  course.keeps Step.busy (fun _ hm now heq => unstopped now (heq ▸ hm)) h

/-! ## Operators and sweeps -/

/-- Whoever heals the supervisor of a server heals the server. -/
theorem Course.heal {v v' : Vigil} {ms : List Vigil.Move} (course : Vigil.Course v ms v')
    (hv : s.vigil = v) (unforced : .stop ∉ ms) : Course s (ms.map .heal) (s.withVigil v') := by
  induction course generalizing s with
  | done =>
    subst hv
    exact .done
  | move step _ ih =>
    subst hv
    refine .move (.heal step (List.ne_of_not_mem_cons unforced).symm) ?_
    exact ih rfl (List.not_mem_of_not_mem_cons unforced)

/-- What the supervisor attains, the server attains. -/
theorem Busy.attains {v : Supervisor} (h : s.Busy) (hv : s.vigil.Attains v)
    (up : v.table.shuttingDown = false) :
    ∃ ms s', Course s ms s' ∧ s'.server = s.server.withSupervisor v ∧ s'.Busy := by
  obtain ⟨ms, v', course, -, rfl, -, -⟩ := hv
  have healed : Course s (ms.map .heal) (s.withVigil v') := Course.heal course rfl (course.unstopped up)
  exact ⟨ms.map .heal, _, healed, rfl, healed.busy (by simp) h⟩

/-- An operator who ends the task of a stage leaves the server at work. -/
theorem Busy.abortStage (h : s.Busy) (stage : String) (now : Nat) :
    ∃ ms s', Course s ms s' ∧ s'.server = (s.server.abortStage stage now).2 ∧ s'.Busy :=
  h.attains (Vigil.attains_abort (v := s.vigil) h.manned.prompt stage _)
    (Supervisor.shuttingDown_abort.trans h.manned.up)

/-- So does a sweep. -/
theorem Busy.sweep (h : s.Busy) (threshold now : Nat) :
    ∃ ms s', Course s ms s' ∧
      s'.server = s.server.withSupervisor (s.server.supervisor.sweep threshold now) ∧ s'.Busy :=
  h.attains (Vigil.attains_sweep (v := s.vigil) h.manned.prompt threshold now)
    (Supervisor.shuttingDown_sweep.trans h.manned.up)

/-! ## Between a start and a stop -/

/-- What holds of a server between its first start and the next stop. -/
structure Serving (s : Service) : Prop where
  running : s.server.running = true
  up : s.server.table.shuttingDown = false
  /-- It is not started twice. -/
  refuses : s.server.start = (.error .alreadyStarted, s.server)
  /-- Every stage has a task of its own worker, which goes on unless its end is yet to be reported. -/
  manned : ∀ stage : Stage, ∃ slot k, s.server.table.find? stage.name = some slot ∧
    slot.worker = stage.place ∧ s.server.table.tasks[slot.task]? = some k ∧
    (k.state = .ended → slot.task ∉ s.reported)
  /-- Whose task is reported gets another one of the same worker, and nobody else is touched. -/
  healed : ∀ stage slot, s.server.table.find? stage = some slot →
    (s.server.supervisor.taskExited slot.task).table.find? stage
        = some ⟨slot.worker, slot.generation + 1, slot.restarts + 1, s.server.table.tasks.length⟩ ∧
      s.server.supervisor.Tended (s.server.supervisor.taskExited slot.task) stage
  /-- A sweep leaves no stage dead. -/
  swept : ∀ (stage : Stage) (threshold now : Nat),
    (s.server.supervisor.sweep threshold now).table.Alive stage.name
  /-- The next stop closes all workers, and the server does not run any more. -/
  stops : ∀ now, (s.server.stop now).running = false ∧
    s.server.supervisor.Ended (s.server.stop now).supervisor (s.server.stop now).registry

/-- A server that runs serves: all stages are alive. -/
theorem Busy.serving (h : s.Busy) (names : s.server.chain.crew.names = Stage.names) : s.Serving := by
  have manned := h.manned
  refine ⟨h.running, manned.up, Server.start_of_running h.running, fun stage => ?_, fun stage slot hslot => ?_,
    fun stage threshold now => ?_, Server.ended_stop h.running manned.up names⟩
  · obtain ⟨slot, hslot, hworker, hunreported⟩ := manned.posted stage
    obtain ⟨k, found, -⟩ := manned.owned _ _ hslot
    exact ⟨slot, k, hslot, hworker, found, fun _ => hunreported⟩
  · exact ⟨Supervisor.find?_taskExited manned.up manned.owned hslot,
      Supervisor.tended_taskExited manned.up manned.owned hslot⟩
  · obtain ⟨slot, hslot, -⟩ := manned.posted stage
    exact Supervisor.alive_sweep manned.up manned.owned manned.distinct hslot

variable {settings : RelaySettings} {authenticate : Authenticator} {deflater : Deflater}
  {processors created : Nat}

/-- Once the first start has answered with success every stage is alive, and from then on to the next stop
the server serves, whatever comes in and whichever tasks fail. -/
theorem serves_until_stopped
    (before : Course (begun (.create settings authenticate deflater processors created)) ns s)
    (first : .start (.ok ()) ∉ ns) (answered : s.server.start = (.ok (), server)) :
    (∀ stage : Stage, server.table.Alive stage.name) ∧
      ∀ ms s', Course { s with server } ms s' → (∀ now, .stop now ∉ ms) → s'.Serving := by
  have names : s.server.chain.crew.names = Stage.names := before.names
  have idle : s.Idle := before.idle first ⟨rfl, rfl, rfl, rfl⟩
  have busy : Busy { s with server } := idle.busy names answered
  refine ⟨idle.alive names answered, fun ms s' course unstopped => ?_⟩
  have hnames : server.chain.crew.names = s.server.chain.crew.names := (Step.start answered).names
  exact (course.busy unstopped busy).serving (course.names.trans (hnames.trans names))

/-- A stop comes too early; then the server is started, the task of the logic stage fails and is replaced,
and the clock ticks. -/
theorem serves_until_stopped_healed :
    ∃ s server s', Course (begun (.create .standard .trusting Deflate.library 1 0)) [.stop 0] s ∧
      .start (.ok ()) ∉ [Move.stop 0] ∧ s.server.start = (.ok (), server) ∧
      Course { s with server } [.heal (.exit 3), .call .tick 5] s' ∧
      (∀ now, .stop now ∉ [.heal (.exit 3), Move.call .tick 5]) ∧
      (∀ stage : Stage, server.table.Alive stage.name) ∧ s'.restarted = [("logic", 0)] ∧ s'.Serving := by
  have first : .start (.ok ()) ∉ [Move.stop 0] := by simp
  have unstopped : ∀ now, .stop now ∉ [.heal (.exit 3), Move.call .tick 5] := by simp
  obtain ⟨s, server, s', before, answered, course, hs⟩ : ∃ s server s',
      Course (begun (.create .standard .trusting Deflate.library 1 0)) [.stop 0] s ∧
        s.server.start = (.ok (), server) ∧
        Course { s with server } [.heal (.exit 3), .call .tick 5] s' ∧ s'.restarted = [("logic", 0)] :=
    ⟨_, _, _, .move .stop .done, rfl,
      .move (.heal (.exit rfl (by decide)) (by simp)) <| .move .call .done, rfl⟩
  obtain ⟨alive, serving⟩ := serves_until_stopped before first answered
  exact ⟨s, server, s', before, first, answered, course, unstopped, alive, hs,
    serving _ _ course unstopped⟩

/-! ## A server that was stopped does not serve again -/

/-- The server passes for one that runs, but everything is over. -/
structure Spent (s : Service) : Prop where
  running : s.server.running = true
  ended : s.server.supervisor.Over

/-- A start that follows a stop is answered with success and brings nothing back. -/
theorem spent_of_start (down : s.server.table.shuttingDown = true)
    (names : s.server.chain.crew.names = Stage.names) (answered : s.server.start = (.ok (), server)) :
    Spent { s with server } := by
  cases running : s.server.running with
  | true =>
    rw [Server.start_of_running running] at answered
    cases (Prod.mk.inj answered).1
  | false =>
    rw [Server.start_of_not_running running] at answered
    obtain ⟨hanswer, rfl⟩ := Prod.mk.inj answered
    exact ⟨by rw [hanswer]; rfl, Supervisor.over_of_start down names (Prod.ext hanswer rfl)⟩

/-- A start after a stop does not bring anything back, whatever else is tried. -/
theorem Step.spent (step : Step s m s') (hm : ∀ now, m ≠ .stop now) (h : s.Spent) : s'.Spent := by
  cases step with
  | start answered =>
    rw [Server.start_of_running h.running] at answered
    obtain ⟨-, rfl⟩ := Prod.mk.inj answered
    exact h
  | stop => exact absurd rfl (hm _)
  | @call call now =>
    have hspares : s.server.Spares (call.run now s.server) := call.spares
    refine ⟨hspares.running.trans h.running, ?_⟩
    show Supervisor.Over ⟨_, (call.run now s.server).table⟩
    rw [hspares.table]
    exact ⟨h.ended.down, h.ended.dead⟩
  | heal move _ => exact ⟨h.running, move.over h.ended⟩

/-- When all is over, it stays so all the way. -/
theorem Course.spent (course : Course s ms s') (unstopped : ∀ now, .stop now ∉ ms) (h : s.Spent) :
    s'.Spent :=
  course.keeps Step.spent (fun _ hm now heq => unstopped now (heq ▸ hm)) h

/-- What holds of a server that was stopped and is started again, until the next stop. -/
structure Lifeless (s : Service) : Prop where
  /-- It passes for a server that runs. -/
  running : s.server.running = true
  down : s.server.table.shuttingDown = true
  /-- Nothing is taken in. -/
  deaf : s.server.serves = false
  dead : ∀ stage : Stage, s.server.table.Dead stage.name
  /-- No stage comes back. -/
  lost : ∀ stage generation, s.server.supervisor.restart stage generation = s.server.supervisor
  /-- The next stop closes no worker. -/
  unclosed : ∀ now, s.server.stop now = { s.server with running := false }

/-- When all is over, no stage is alive and nothing is served. -/
theorem Spent.lifeless (h : s.Spent) : s.Lifeless where
  running := h.running
  down := h.ended.down
  deaf := by
    have down : s.server.table.shuttingDown = true := h.ended.down
    rw [Server.serves, down, Bool.not_true, Bool.and_false]
  dead := h.ended.dead
  lost := h.ended.restart
  unclosed _ := Server.stop_of_down h.ended.down

/-- Whoever starts a server after a stop, and is told that this went well, has a server that is dead. -/
theorem lifeless_once_stopped
    (before : Course (begun (.create settings authenticate deflater processors created)) ns s)
    (down : s.server.table.shuttingDown = true) (answered : s.server.start = (.ok (), server))
    (course : Course { s with server } ms s') (unstopped : ∀ now, .stop now ∉ ms) : s'.Lifeless :=
  (course.spent unstopped (spent_of_start down before.names answered)).lifeless

/-- A server is started, stopped and started again: it passes for one that runs, and does not serve. -/
theorem restart_unserved :
    ∃ s server, Course (begun (.create .standard .trusting Deflate.library 1 0)) [.start (.ok ()), .stop 0] s ∧
      s.server.start = (.ok (), server) ∧
      Lifeless { s with server } ∧ ¬ Serving { s with server } := by
  obtain ⟨s, server, before, down, answered⟩ : ∃ s server,
      Course (begun (.create .standard .trusting Deflate.library 1 0)) [.start (.ok ()), .stop 0] s ∧
        s.server.table.shuttingDown = true ∧ s.server.start = (.ok (), server) :=
    ⟨_, _, .move (.start rfl) <| .move .stop .done, rfl, rfl⟩
  have lifeless : Lifeless { s with server } := lifeless_once_stopped before down answered .done (by simp)
  refine ⟨s, server, before, answered, lifeless, fun serving => ?_⟩
  exact Bool.noConfusion (serving.up.symm.trans lifeless.down)

end Service

end FlightRelay

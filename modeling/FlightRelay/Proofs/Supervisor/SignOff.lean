import FlightRelay.Proofs.Supervisor.Lifecycle
import FlightRelay.Proofs.Supervisor.Tenure

/-!
# What is reported after a stop

A stage whose task is gone is reported as down, unless its record says that it was shut down in order.  A
stop closes every worker, and every worker but the one that accepts connections then shuts its record down.
Only a restart opens such a record again, and once a stop has begun only those restarts have success that the
stop has overtaken.  So after a stop of the server, and for as long as nobody starts it again, that one stage
is reported as down, and so is every stage that was restarted too late, and no other is.
-/

namespace FlightRelay

open SlotTable

/-! ## Workers and their records -/

namespace WorkerStatus

variable {w : WorkerStatus} {activity : String} {now : Nat}

/-- Who is shut down begins nothing. -/
theorem state_begin : (w.begin activity now).state = .shutdown ↔ w.state = .shutdown := by
  unfold begin
  split
  · rfl
  · rename_i hstate
    exact ⟨nofun, fun h => absurd h hstate⟩

/-- Nobody is shut down, or opened again, by the end of a unit. -/
theorem state_finish : (w.finish now).state = .shutdown ↔ w.state = .shutdown := by
  have hstate : (w.finish now).state = if w.state = .running then .idle else w.state := by
    unfold finish
    cases w.started <;> rfl
  rw [hstate]
  cases w.state <;> decide

end WorkerStatus

namespace Crew

/-- What the workers are called, and who of them signs off. -/
def roles (crew : Crew) : List (String × Bool) := crew.workers.map fun w => (w.status.name, w.signsOff)

/-- The workers are those of the relay, and nobody is shut down who does not sign off. -/
structure Staffed (crew : Crew) : Prop where
  roles : crew.roles = Crew.relay.roles
  unsigned : ∀ w ∈ crew.workers, w.signsOff = false → w.status.state ≠ .shutdown

/-- Everybody who signs off is shut down, but for some. -/
def SignedOff (crew : Crew) (revived : List String) : Prop :=
  ∀ w ∈ crew.workers, w.signsOff = true → (w.status.state = .shutdown ↔ w.status.name ∉ revived)

variable {crew crew' : Crew} {i : Nat} {f : WorkerStatus → WorkerStatus} {w : StageWorker}
  {revived : List String}

theorem getElem?_modify (crew : Crew) (i j : Nat) (f : WorkerStatus → WorkerStatus) :
    (crew.modify i f).workers[j]?
      = crew.workers[j]?.map fun w => if i = j then { w with status := f w.status } else w := by
  show (crew.workers.modify i _)[j]? = _
  rw [List.getElem?_modify]
  split
  · rfl
  · rfl

/-- Of the workers after a change, all were there but the one that is changed. -/
theorem mem_modify (h : w ∈ (crew.modify i f).workers) :
    w ∈ crew.workers ∨ ∃ v, crew.workers[i]? = some v ∧ w = { v with status := f v.status } := by
  obtain ⟨j, hj⟩ := List.getElem?_of_mem h
  rw [getElem?_modify] at hj
  obtain ⟨v, hv, rfl⟩ := Option.map_eq_some_iff.mp hj
  split
  · rename_i heq
    exact .inr ⟨v, heq ▸ hv, rfl⟩
  · exact .inl (List.mem_of_getElem? hv)

/-! ### Who is not shut down -/

/-- The crew of the relay is staffed. -/
theorem staffed_relay : relay.Staffed := ⟨rfl, by decide⟩

/-- A change that keeps names, and shuts nobody down but who signs off. -/
theorem Staffed.modify (h : crew.Staffed) (name : ∀ w, (f w).name = w.name)
    (state : ∀ w, crew.workers[i]? = some w → w.signsOff = false → w.status.state ≠ .shutdown →
      (f w.status).state ≠ .shutdown) : (crew.modify i f).Staffed where
  roles := (map_modify fun w => Prod.ext (name w.status) rfl).trans h.roles
  unsigned w hw hsigns := by
    obtain hbefore | ⟨v, hv, rfl⟩ := mem_modify hw
    · exact h.unsigned w hbefore hsigns
    · exact state v hv hsigns (h.unsigned v (List.mem_of_getElem? hv) hsigns)

theorem Staffed.close (h : crew.Staffed) (i : Nat) : (crew.close i).Staffed := by
  have hnoted : (crew.note (.closed i)).Staffed := ⟨h.roles, h.unsigned⟩
  unfold Crew.close
  dsimp only
  split
  · rename_i hsigns
    refine hnoted.modify (fun _ => rfl) fun w hw hunsigned _ => ?_
    rw [hw] at hsigns
    exact absurd (hsigns.symm.trans hunsigned) nofun
  · exact hnoted

theorem Staffed.closeEach (h : crew.Staffed) (places : List Nat) : (crew.closeEach places).Staffed := by
  induction places generalizing crew with
  | nil => exact h
  | cons i is ih => exact ih (h.close i)

theorem Staffed.openAll (h : crew.Staffed) : crew.openAll.2.Staffed := by
  have hworkers : (crew.openFrom 0 [] crew.workers).2.workers = crew.workers := workers_openFrom ..
  unfold Crew.openAll
  generalize crew.openFrom 0 [] crew.workers = opening at hworkers
  obtain ⟨⟨failure, opened⟩, crew'⟩ := opening
  have hopened : crew'.Staffed :=
    ⟨(congrArg (List.map _) hworkers).trans h.roles, fun w hw => h.unsigned w (hworkers ▸ hw)⟩
  cases failure with
  | none => exact hopened
  | some failure => exact hopened.closeEach opened

theorem Staffed.reopenAll (h : crew.Staffed) : (crew.modifyAll WorkerStatus.reopen).Staffed where
  roles := by
    rw [← h.roles]
    exact List.map_map
  unsigned w hw _ := by
    obtain ⟨v, -, rfl⟩ := List.mem_map.mp hw
    exact nofun

theorem Staffed.works (h : crew.Staffed) (works : crew.Works crew') : crew'.Staffed := by
  induction works with
  | refl => exact h
  | begins _ worker activity now ih =>
    exact ih.modify (fun _ => WorkerStatus.name_begin) fun _ _ _ hstate => mt WorkerStatus.state_begin.mp hstate
  | finishes _ worker now ih =>
    exact ih.modify (fun _ => WorkerStatus.name_finish) fun _ _ _ hstate => mt WorkerStatus.state_finish.mp hstate

/-! ### Who is shut down -/

/-- A change that keeps names, and shuts nobody down or opens anybody again. -/
theorem SignedOff.modify (h : crew.SignedOff revived) (name : ∀ w, (f w).name = w.name)
    (state : ∀ w, (f w).state = .shutdown ↔ w.state = .shutdown) : (crew.modify i f).SignedOff revived := by
  intro w hw hsigns
  obtain hbefore | ⟨v, hv, rfl⟩ := mem_modify hw
  · exact h w hbefore hsigns
  · have hv := h v (List.mem_of_getElem? hv) hsigns
    rw [name]
    exact (state v.status).trans hv

/-- Work of the stages signs nobody on again. -/
theorem SignedOff.works (h : crew.SignedOff revived) (works : crew.Works crew') :
    crew'.SignedOff revived := by
  induction works with
  | refl => exact h
  | begins _ worker activity now ih =>
    exact ih.modify (fun _ => WorkerStatus.name_begin) fun _ => WorkerStatus.state_begin
  | finishes _ worker now ih =>
    exact ih.modify (fun _ => WorkerStatus.name_finish) fun _ => WorkerStatus.state_finish

/-- Whoever is opened again is not shut down any more, and nobody else has that name. -/
theorem SignedOff.reopen {name : String} (h : crew.SignedOff revived) (distinct : crew.names.Nodup)
    (hname : crew.names[i]? = some name) :
    (crew.modify i WorkerStatus.reopen).SignedOff (revived ++ [name]) := by
  intro w hw hsigns
  obtain ⟨j, hj⟩ := List.getElem?_of_mem hw
  rw [getElem?_modify] at hj
  obtain ⟨v, hv, rfl⟩ := Option.map_eq_some_iff.mp hj
  have hvname : crew.names[j]? = some v.status.name := by rw [names, List.getElem?_map, hv]; rfl
  by_cases hij : i = j
  · obtain rfl := hij
    rw [hname] at hvname
    rw [if_pos rfl]
    have hmem : v.status.name ∈ revived ++ [name] :=
      List.mem_append_right _ (List.mem_singleton.mpr (Option.some.inj hvname).symm)
    refine iff_of_false (fun hshut => ?_) (not_not_intro hmem)
    cases hshut
  · rw [if_neg hij] at hsigns ⊢
    have hne : v.status.name ≠ name := by
      intro heq
      rw [heq, ← hname] at hvname
      have hlt := (List.getElem?_eq_some_iff.mp hname).1
      exact hij ((List.getElem?_inj hlt distinct).mp hvname.symm)
    rw [h v (List.mem_of_getElem? hv) hsigns, List.mem_append, List.mem_singleton, not_or]
    exact ⟨fun hout => ⟨hout, hne⟩, And.left⟩

/-- Whoever is closed is shut down if he signs off, and stays so when others are closed. -/
theorem shutDown_close {j : Nat}
    (h : i = j ∨ ∀ w, crew.workers[i]? = some w → w.signsOff = true → w.status.state = .shutdown)
    (hw : (crew.close j).workers[i]? = some w) (hsigns : w.signsOff = true) :
    w.status.state = .shutdown := by
  have hnoted : (crew.note (.closed j)).workers = crew.workers := rfl
  unfold Crew.close at hw
  dsimp only at hw
  rw [hnoted] at hw
  split at hw
  · rw [getElem?_modify, hnoted] at hw
    obtain ⟨v, hv, rfl⟩ := Option.map_eq_some_iff.mp hw
    split at hsigns
    · rename_i heq
      rw [if_pos heq]
      rfl
    · rename_i hne
      rw [if_neg hne]
      exact h.resolve_left (Ne.symm hne) v hv hsigns
  · rename_i hunsigned
    refine h.resolve_left ?_ w hw hsigns
    rintro rfl
    rw [← hnoted, hw] at hunsigned
    exact hunsigned hsigns

/-- Whoever signs off and is closed is shut down, and stays so while others are closed. -/
theorem shutDown_closeEach (places : List Nat)
    (h : i ∈ places ∨ ∀ w, crew.workers[i]? = some w → w.signsOff = true → w.status.state = .shutdown)
    (hw : (crew.closeEach places).workers[i]? = some w) (hsigns : w.signsOff = true) :
    w.status.state = .shutdown := by
  induction places generalizing crew with
  | nil => exact h.resolve_left List.not_mem_nil w hw hsigns
  | cons j js ih =>
    have hclosed : i ∈ js ∨ ∀ w, (crew.close j).workers[i]? = some w → w.signsOff = true →
        w.status.state = .shutdown := by
      obtain hmem | hshut := h
      · obtain rfl | htail := List.mem_cons.mp hmem
        · exact .inr fun w hw hsigns => shutDown_close (.inl rfl) hw hsigns
        · exact .inl htail
      · exact .inr fun w hw hsigns => shutDown_close (.inr hshut) hw hsigns
    exact ih hclosed hw

/-- After all are closed, whoever signs off has signed off. -/
theorem signedOff_closeAll (crew : Crew) : crew.closeAll.SignedOff [] := by
  intro w hw hsigns
  obtain ⟨i, hi⟩ := List.getElem?_of_mem hw
  refine iff_of_true (shutDown_closeEach _ (.inl (List.mem_range.mpr ?_)) hi hsigns) List.not_mem_nil
  have hlt := (List.getElem?_eq_some_iff.mp hi).1
  rwa [← length_names, closeAll, names_closeEach, length_names] at hlt

/-- The names of a staffed crew are those of the stages. -/
theorem Staffed.names (h : crew.Staffed) : crew.names = Stage.names := by
  have hnames : crew.names = crew.roles.map Prod.fst := by
    rw [Crew.roles, List.map_map]
    rfl
  rw [hnames, h.roles]
  rfl

/-- All but the one that accepts connections sign off. -/
theorem shutDown_iff (staffed : crew.Staffed) (signedOff : crew.SignedOff revived)
    (hw : w ∈ crew.workers) :
    w.status.state = .shutdown ↔ w.status.name ≠ Stage.accept.name ∧ w.status.name ∉ revived := by
  have hrole : (w.status.name, w.signsOff) ∈ Crew.relay.roles := by
    rw [← staffed.roles]
    exact List.mem_map_of_mem hw
  have hroles : ∀ role ∈ Crew.relay.roles, role.2 = true ↔ role.1 ≠ Stage.accept.name := by decide
  rw [← hroles _ hrole]
  cases hsigns : w.signsOff with
  | true => simp [signedOff w hw hsigns]
  | false => simp [staffed.unsigned w hw hsigns]

end Crew

/-! ## The supervisor -/

namespace Supervisor

variable {s : Supervisor} {stage : String} {generation task now : Nat}

/-- To finish the units of a crew is work. -/
theorem works_finishUnits (s : Supervisor) (now : Nat) : s.crew.Works (s.finishUnits now).crew := by
  unfold finishUnits
  dsimp only
  generalize s.table.tasks = ks, s.crew = crew
  induction ks generalizing crew with
  | nil => exact .refl
  | cons k ks ih =>
    refine .trans ?_ (ih _)
    dsimp only
    split
    · exact Crew.Works.refl.finishes k.worker now
    · exact .refl

theorem staffed_replace (h : s.crew.Staffed) : (s.replace stage generation).crew.Staffed := by
  obtain heq | ⟨slot, -, -, heq⟩ := s.replace_cases stage generation
  · rwa [heq]
  · rw [heq]
    exact h.modify (fun _ => rfl) fun _ _ _ _ => nofun

theorem staffed_restart (h : s.crew.Staffed) : (s.restart stage generation).crew.Staffed := by
  rw [restart_eq]
  split
  · exact h
  · exact staffed_replace h

theorem staffed_start (h : s.crew.Staffed) : s.start.2.crew.Staffed := by
  have hopened := h.openAll
  unfold start
  generalize s.crew.openAll = opening at hopened
  obtain ⟨⟨failure, opened⟩, crew⟩ := opening
  cases failure with
  | none => exact hopened.reopenAll
  | some failure => exact hopened

end Supervisor

/-- Whatever the supervisor does, the crew stays staffed. -/
theorem Vigil.Step.staffed {v v' : Vigil} {m : Vigil.Move} (step : Step v m v')
    (orderly : ∀ crew tasks, m = .work crew tasks → v.supervisor.crew.Works crew)
    (h : v.supervisor.crew.Staffed) : v'.supervisor.crew.Staffed := by
  cases step with
  | work _ _ => exact h.works (orderly _ _ rfl)
  | exit found _ =>
    rw [Supervisor.taskExited_of_getElem? found]
    exact Supervisor.staffed_restart h
  | look => exact h
  | heal _ => exact Supervisor.staffed_restart h
  | stop => exact h
  | enter _ => exact h
  | late => exact Supervisor.staffed_replace h

/-- Every slot keeps a task of its own. -/
theorem Vigil.Step.owned {v v' : Vigil} {m : Vigil.Move} (step : Step v m v')
    (h : v.supervisor.table.Owned) : v'.supervisor.table.Owned := by
  have stands : Supervisor.Stands v.supervisor v.supervisor := ⟨rfl, rfl, rfl, h⟩
  cases step with
  | work _ outlast => exact h.outlast outlast
  | exit found _ => exact (stands.taskExited found).owned
  | look => exact h
  | heal _ => exact (stands.restart _ _).owned
  | stop => exact h
  | enter _ => exact h
  | late => exact (stands.replace _ _).owned

/-- Once a stop has begun the workers do nothing but their work, unless the stop has overtaken a restart. -/
theorem Vigil.Step.works_of_down {v v' : Vigil} {m : Vigil.Move} (step : Step v m v')
    (orderly : ∀ crew tasks, m = .work crew tasks → v.supervisor.crew.Works crew)
    (punctual : m.isLate = false) (down : v.supervisor.table.shuttingDown = true) :
    v.supervisor.crew.Works v'.supervisor.crew := by
  have hnone : ∀ stage generation, v.supervisor.table.restart? stage generation = none :=
    fun stage generation => by rw [restart?_eq, if_pos down]
  cases step with
  | work _ _ => exact orderly _ _ rfl
  | exit found _ => exact .of_eq (by rw [Supervisor.taskExited_of_none found (hnone _ _)])
  | look => exact .refl
  | heal _ => exact .of_eq (by rw [Supervisor.restart_of_none (hnone _ _)])
  | stop => exact .refl
  | enter _ => exact .refl
  | late => cases punctual

/-- What is kept once a stop has begun and the workers are closed: each slot has the worker of its stage,
and whoever signs off is shut down but for those that were restarted too late. -/
structure Supervisor.Closed (s : Supervisor) (revived : List String) : Prop where
  staffed : s.crew.Staffed
  posted : s.table.Posted
  signedOff : s.crew.SignedOff revived

/-- A restart that a stop has overtaken opens the record of its worker again, and no other. -/
theorem Supervisor.Closed.replace {s : Supervisor} {revived : List String} (h : s.Closed revived)
    (stage : String) (generation : Nat) :
    (s.replace stage generation).Closed
      (revived ++ (noted (s.table.replace? stage generation) stage generation).map Prod.fst) := by
  have staffed : (s.replace stage generation).crew.Staffed := staffed_replace h.staffed
  by_cases hslot : ∃ slot, s.table.find? stage = some slot ∧ slot.generation = generation
  · obtain ⟨slot, hslot, rfl⟩ := hslot
    have hnoted : noted (s.table.replace? stage slot.generation) stage slot.generation
        = [(stage, slot.generation)] := if_pos (replace?_isSome_iff.mpr ⟨slot, hslot, rfl⟩)
    rw [hnoted]
    rw [replace_of_some hslot] at staffed ⊢
    have hnames : s.crew.names = Stage.names := h.staffed.names
    exact ⟨staffed, h.posted.succeed hslot,
      h.signedOff.reopen (hnames ▸ by decide) (hnames ▸ h.posted stage slot hslot)⟩
  · have hnone : s.table.replace? stage generation = none :=
      Option.not_isSome_iff_eq_none.mp (mt replace?_isSome_iff.mp hslot)
    have hsame : s.replace stage generation = s := by rw [Supervisor.replace, hnone]
    rw [hsame, hnone]
    exact ⟨h.staffed, h.posted, (List.append_nil revived).symm ▸ h.signedOff⟩

/-- What is restarted by a move once a stop has begun is opened again, and nobody else. -/
theorem Vigil.Step.closed {v v' : Vigil} {m : Vigil.Move} {revived : List String} (step : Step v m v')
    (orderly : ∀ crew tasks, m = .work crew tasks → v.supervisor.crew.Works crew)
    (down : v.supervisor.table.shuttingDown = true) (h : v.supervisor.Closed revived) :
    ∃ late, Still v late v' ∧ (∀ e ∈ late, m = .late e.1 e.2) ∧
      v'.supervisor.Closed (revived ++ late.map Prod.fst) := by
  cases hm : m.isLate with
  | false =>
    obtain ⟨late, still, hlate⟩ := step.still down
    obtain rfl : late = [] := by
      refine List.eq_nil_iff_forall_not_mem.mpr fun e he => ?_
      rw [hlate e he] at hm
      cases hm
    refine ⟨[], still, hlate, step.staffed orderly h.staffed, fun name slot hslot => ?_, ?_⟩
    · exact h.posted name slot ((still.others name List.not_mem_nil) ▸ hslot)
    · exact (List.append_nil revived).symm ▸ h.signedOff.works (step.works_of_down orderly hm down)
  | true =>
    cases step with
    | @late stage generation =>
      refine ⟨_, still_late down stage generation, fun e he => ?_, h.replace stage generation⟩
      unfold noted at he
      split at he
      · rw [List.mem_singleton.mp he]
      · cases he
    | _ => cases hm

/-! ## The server -/

namespace Server

variable {s : Server} {now : Nat}

/-- A stop lets the workers finish what they are at, closes them and ends all tasks. -/
theorem supervisor_stop (running : s.running = true) (up : s.table.shuttingDown = false) (now : Nat) :
    ∃ crew, s.chain.crew.Works crew ∧
      (s.stop now).supervisor = ⟨crew.closeAll, s.table.shutDown.endTasks⟩ := by
  have hdrained : s.chain.crew.Works (s.drained now).supervisor.crew := .of_eq crew_drained
  have hfinished := Supervisor.works_finishUnits
    { (s.drained now).supervisor with table := (s.drained now).supervisor.table.shutDown }
    ((s.drained now).context now).nanos
  refine ⟨_, hdrained.trans hfinished, ?_⟩
  have hstop := Supervisor.stop_of_up (s := (s.drained now).supervisor) up (s.drained now).registry
    ((s.drained now).context now).nanos
  rw [stop_of_running running up]
  dsimp only
  rw [hstop]
  rfl

theorem staffed_stop (h : s.chain.crew.Staffed) : (s.stop now).chain.crew.Staffed := by
  cases running : s.running with
  | false => rwa [stop_of_not_running running]
  | true =>
    cases hdown : s.table.shuttingDown with
    | true => rwa [stop_of_down hdown]
    | false =>
      obtain ⟨crew, hworks, hstopped⟩ := supervisor_stop running hdown now
      have hcrew : (s.stop now).chain.crew = crew.closeAll := congrArg Supervisor.crew hstopped
      rw [hcrew]
      exact (h.works hworks).closeEach _

theorem staffed_start (h : s.chain.crew.Staffed) : s.start.2.chain.crew.Staffed := by
  cases running : s.running with
  | false =>
    rw [start_of_not_running running]
    exact Supervisor.staffed_start (s := s.supervisor) h
  | true => rwa [start_of_running running]

end Server

/-! ## A server in use -/

namespace Service

/-- If the workers go on, they do nothing but their work. -/
def Move.Orderly (crew : Crew) : Move → Prop
  | .heal (.work crew' _) => crew.Works crew'
  | _ => True

/-- A course on which the workers do nothing but their work. -/
inductive Tour : Service → List Move → Service → Prop
  | done {s : Service} : Tour s [] s
  | move {s s' s'' : Service} {m : Move} {ms : List Move} (step : Step s m s')
      (orderly : m.Orderly s.server.chain.crew) (rest : Tour s' ms s'') : Tour s (m :: ms) s''

variable {s s' last : Service} {server : Server} {m : Move} {ms ns ks : List Move}

/-- A tour is a course. -/
theorem Tour.course (tour : Tour s ms s') : Course s ms s' := by
  induction tour with
  | done => exact .done
  | move step _ _ ih => exact .move step ih

/-- The workers stay those of the relay, and nobody is shut down who does not sign off. -/
theorem Step.staffed (step : Step s m s') (orderly : m.Orderly s.server.chain.crew)
    (h : s.server.chain.crew.Staffed) : s'.server.chain.crew.Staffed := by
  cases step with
  | @start answer server answered =>
    obtain rfl : s.server.start.2 = server := congrArg Prod.snd answered
    exact Server.staffed_start h
  | stop => exact Server.staffed_stop h
  | @call call now =>
    have hspares : s.server.Spares (call.run now s.server) := call.spares
    exact h.works hspares.works
  | heal move _ =>
    refine move.staffed (fun crew tasks heq => ?_) h
    subst heq
    exact orderly

/-- All the way, the crew stays staffed. -/
theorem Tour.staffed (tour : Tour s ms s') (h : s.server.chain.crew.Staffed) :
    s'.server.chain.crew.Staffed := by
  induction tour with
  | done => exact h
  | move step orderly _ ih => exact ih (step.staffed orderly h)

/-! ## After a stop -/

/-- The stages that were restarted since. -/
def revived (last s : Service) : List String :=
  (s.restarted.drop last.restarted.length).map Prod.fst

/-- The server was stopped, and nobody has started it since. -/
structure Quit (last s : Service) : Prop where
  down : s.server.table.shuttingDown = true
  owned : s.server.table.Owned
  silenced : Silenced last.server.table s.server.table
  journal : last.restarted <+: s.restarted
  closed : s.server.supervisor.Closed (revived last s)

/-- A stop of a server that runs signs off whoever signs off. -/
theorem Busy.quit (h : s.Busy) (staffed : s.server.chain.crew.Staffed) (now : Nat) :
    Quit s { s with server := s.server.stop now } := by
  have up : s.server.table.shuttingDown = false := h.manned.up
  obtain ⟨crew, -, hstopped⟩ := Server.supervisor_stop h.running up now
  have hcrew : (s.server.stop now).chain.crew = crew.closeAll := congrArg Supervisor.crew hstopped
  have htable : (s.server.stop now).table = s.server.table.shutDown.endTasks :=
    congrArg Supervisor.table hstopped
  have hrevived : revived s { s with server := s.server.stop now } = [] :=
    congrArg (List.map Prod.fst) List.drop_length
  refine ⟨?_, ?_, ?_, List.prefix_rfl, Server.staffed_stop staffed, ?_, ?_⟩
  · rw [htable]
    rfl
  · rw [htable]
    exact h.manned.owned.outlast outlast_endTasks
  · rw [htable]
    exact silenced_endTasks
  · show (s.server.stop now).table.Posted
    rw [htable]
    exact h.manned.workers
  · show (s.server.stop now).chain.crew.SignedOff _
    rw [hrevived, hcrew]
    exact crew.signedOff_closeAll

/-- What is done to a server that was stopped, but to start it again: a stage comes back only by a restart
that the stop has overtaken. -/
theorem Step.quit (step : Step s m s') (orderly : m.Orderly s.server.chain.crew)
    (retired : ∀ answer, m ≠ .start answer) (h : Quit last s) :
    Quit last s' ∧ ∃ late, s'.restarted = s.restarted ++ late ∧ ∀ e ∈ late, m = .heal (.late e.1 e.2) := by
  cases step with
  | start => exact absurd rfl (retired _)
  | @stop now =>
    rw [Server.stop_of_down h.down]
    exact ⟨⟨h.down, h.owned, h.silenced, h.journal, h.closed⟩, [], (List.append_nil _).symm, nofun⟩
  | @call call now =>
    -- calls of clients go past the supervisor, and the stages that work sign nobody on
    have hspares : s.server.Spares (call.run now s.server) := call.spares
    have htable : (call.run now s.server).table = s.server.table := hspares.table
    have staffed : (call.run now s.server).chain.crew.Staffed := h.closed.staffed.works hspares.works
    refine ⟨⟨?_, ?_, ?_, h.journal, staffed, ?_, h.closed.signedOff.works hspares.works⟩, [],
      (List.append_nil _).symm, nofun⟩
    · rw [htable]
      exact h.down
    · rw [htable]
      exact h.owned
    · rw [htable]
      exact h.silenced
    · show (call.run now s.server).table.Posted
      rw [htable]
      exact h.closed.posted
  | @heal m v move _ =>
    -- the supervisor restarts nothing any more but what had been begun before the stop
    have horderly : ∀ crew tasks, m = .work crew tasks → s.vigil.supervisor.crew.Works crew := by
      intro crew tasks heq
      subst heq
      exact orderly
    obtain ⟨late, still, hlate, closed⟩ := move.closed horderly h.down h.closed
    have hrestarted : v.restarted = s.restarted ++ late := still.restarted
    have hrevived : revived last (s.withVigil v) = revived last s ++ late.map Prod.fst := by
      show (v.restarted.drop _).map Prod.fst = _
      rw [hrestarted, List.drop_append_of_le_length h.journal.length_le, List.map_append]
      rfl
    refine ⟨⟨still.shuttingDown, move.owned h.owned, move.silenced h.down h.silenced, ?_, ?_⟩, late,
      hrestarted, fun e he => congrArg Move.heal (hlate e he)⟩
    · show last.restarted <+: v.restarted
      rw [hrestarted]
      exact h.journal.trans (List.prefix_append _ _)
    · exact hrevived ▸ closed

/-- After a stop, only restarts that it has overtaken open a stage again, for as long as there is no start.
-/
theorem Tour.quit (tour : Tour s ms s') (retired : ∀ answer, .start answer ∉ ms) (h : Quit last s) :
    Quit last s' ∧
      ∃ late, s'.restarted = s.restarted ++ late ∧ ∀ e ∈ late, .heal (.late e.1 e.2) ∈ ms := by
  induction tour with
  | done => exact ⟨h, [], (List.append_nil _).symm, nofun⟩
  | move step orderly _ ih =>
    obtain ⟨hhead, late, hrestarted, hlate⟩ :=
      step.quit orderly (fun answer => (List.ne_of_not_mem_cons (retired answer)).symm) h
    obtain ⟨hrest, later, hrestarted', hlater⟩ :=
      ih (fun answer => List.not_mem_of_not_mem_cons (retired answer)) hhead
    refine ⟨hrest, late ++ later, ?_, fun e he => ?_⟩
    · rw [hrestarted', hrestarted, List.append_assoc]
    · obtain hfirst | hbehind := List.mem_append.mp he
      · exact hlate e hfirst ▸ List.mem_cons_self
      · exact List.mem_cons_of_mem _ (hlater e hbehind)

/-! ## What is reported -/

/-- What is reported once a server was stopped, and some moves later. -/
structure Reported (last : Service) (ks : List Move) (s : Service) (now : Nat) : Prop where
  /-- A stage is restarted after the stop only if the stop has overtaken the restart. -/
  late : ∃ late, s.restarted = last.restarted ++ late ∧ revived last s = late.map Prod.fst ∧
    ∀ e ∈ late, .heal (.late e.1 e.2) ∈ ks
  /-- Every stage is reported, each of them once. -/
  stages : ((s.server.metrics now).stages.map StageReport.name).Perm Stage.names
  /-- All stages but one are shut down, and but those that were restarted. -/
  state : ∀ report ∈ (s.server.metrics now).stages,
    report.status.state = .shutdown ↔ report.name ≠ Stage.accept.name ∧ report.name ∉ revived last s
  /-- A stage that passes for alive is at a task that could not be ended. -/
  alive : ∀ report ∈ (s.server.metrics now).stages, report.alive = true →
    ∃ slot, s.server.table.find? report.name = some slot ∧
      last.server.table.state? slot.task = some .stuck
  /-- These are the only stages that may be called down, -/
  blamed : ∀ error ∈ (s.server.health now).errors, ∃ name ∈ Stage.names,
    (name = Stage.accept.name ∨ name ∈ revived last s) ∧ error = s!"Stage '{name}' is down"
  /-- and they are, each of them once, if all tasks could be ended; then no stage is alive. -/
  dead : (∀ k ∈ last.server.table.tasks, k.state ≠ .stuck) →
    (s.server.health now).stagesAlive = 0 ∧
      (s.server.health now).errors.Perm
        ((Stage.names.filter fun name => name = Stage.accept.name ∨ name ∈ revived last s).map
          fun name => s!"Stage '{name}' is down")

/-- A stage is down if it is not alive, unless it is shut down. -/
theorem isDown_of_dead {report : StageReport} (h : report.alive = false) :
    Metrics.isDown report = decide (report.status.state ≠ .shutdown) := by
  rw [Metrics.isDown, h]
  rfl

/-- After a stop, the stages that do not sign off are reported down, and besides them only those which a
late restart has opened. -/
theorem Quit.reported (h : Quit last s) (now : Nat)
    (hlate : ∃ late, s.restarted = last.restarted ++ late ∧ ∀ e ∈ late, .heal (.late e.1 e.2) ∈ ks) :
    Reported last ks s now := by
  have hnames : ((s.server.metrics now).stages.map StageReport.name).Perm Stage.names := by
    refine ((List.mergeSort_perm ..).map _).trans (.of_eq ?_)
    rw [List.map_map]
    exact h.closed.staffed.names
  have hstate : ∀ report ∈ (s.server.metrics now).stages, report.status.state = .shutdown ↔
      report.name ≠ Stage.accept.name ∧ report.name ∉ revived last s := by
    intro report hreport
    obtain ⟨w, hw, rfl⟩ := List.mem_map.mp (List.mem_mergeSort.mp hreport)
    exact Crew.shutDown_iff h.closed.staffed h.closed.signedOff hw
  -- the state alone tells who is reported down once nobody is alive
  have hup : ∀ report ∈ (s.server.metrics now).stages, report.status.state ≠ .shutdown ↔
      report.name = Stage.accept.name ∨ report.name ∈ revived last s := by
    intro report hreport
    rw [Ne, hstate report hreport, not_and_or, not_not, not_not]
  have halive : ∀ report ∈ (s.server.metrics now).stages, report.alive = true →
      ∃ slot, s.server.table.find? report.name = some slot ∧
        last.server.table.state? slot.task = some .stuck :=
    fun report hreport => h.silenced.stuck_of_mem_reports (s := s.server.supervisor) h.owned hreport
  refine ⟨?_, hnames, hstate, halive, fun error herror => ?_, fun obeys => ?_⟩
  · obtain ⟨late, hrestarted, hlate⟩ := hlate
    refine ⟨late, hrestarted, ?_, hlate⟩
    rw [revived, hrestarted, List.drop_left]
  · obtain ⟨report, hdown, rfl⟩ := List.mem_map.mp herror
    obtain ⟨hreport, hdown⟩ := List.mem_filter.mp hdown
    have hnot : report.status.state ≠ .shutdown := of_decide_eq_true (Bool.and_eq_true_iff.mp hdown).2
    exact ⟨report.name, hnames.mem_iff.mp (List.mem_map_of_mem hreport), (hup report hreport).mp hnot, rfl⟩
  -- where every task could be ended nobody is alive, and there is one line for each who has not signed
  -- off
  · have hdead : ∀ report ∈ (s.server.metrics now).stages, report.alive = false := by
      intro report hreport
      refine Bool.eq_false_iff.mpr fun alive => ?_
      obtain ⟨slot, -, hstuck⟩ := halive report hreport alive
      obtain ⟨k, hk, hstate⟩ := Option.map_eq_some_iff.mp hstuck
      exact obeys k (List.mem_of_getElem? hk) hstate
    have hdown : ∀ report ∈ (s.server.metrics now).stages, Metrics.isDown report
        = decide (report.name = Stage.accept.name ∨ report.name ∈ revived last s) := by
      intro report hreport
      rw [isDown_of_dead (hdead report hreport), decide_eq_decide]
      exact hup report hreport
    refine ⟨List.countP_eq_zero.mpr fun report hreport => by simp [hdead report hreport], ?_⟩
    have herrors : (s.server.health now).errors
        = (((s.server.metrics now).stages.map StageReport.name).filter
            fun name => name = Stage.accept.name ∨ name ∈ revived last s).map
              fun name => s!"Stage '{name}' is down" := by
      rw [List.filter_map, List.map_map]
      exact congrArg (List.map _) (List.filter_congr hdown)
    rw [herrors]
    exact (hnames.filter _).map _

/-- If the stop has overtaken no restart, just one stage is called down. -/
theorem Reported.punctual {now : Nat} (h : Reported last ks s now)
    (obeys : ∀ k ∈ last.server.table.tasks, k.state ≠ .stuck) (none : revived last s = []) :
    (s.server.health now).errors = ["Stage 'accept' is down"] := by
  have herrors := (h.dead obeys).2
  rw [none] at herrors
  exact List.perm_singleton.mp herrors

variable {settings : RelaySettings} {authenticate : Authenticator} {deflater : Deflater}
  {processors created now : Nat}

/-- A server that was started and is stopped. -/
theorem quit_of_stop
    (first : Tour (begun (.create settings authenticate deflater processors created)) ns s)
    (unstarted : .start (.ok ()) ∉ ns) (answered : s.server.start = (.ok (), server))
    (during : Tour { s with server } ms last) (unstopped : ∀ now, .stop now ∉ ms) (now : Nat) :
    Quit last { last with server := last.server.stop now } := by
  have names : s.server.chain.crew.names = Stage.names := first.course.names
  have idle : s.Idle := first.course.idle unstarted ⟨rfl, rfl, rfl, rfl⟩
  have busy : last.Busy := during.course.busy unstopped (idle.busy names answered)
  have staffed : server.chain.crew.Staffed :=
    Step.staffed (.start answered) trivial (first.staffed Crew.staffed_relay)
  exact busy.quit (during.staffed staffed) now

/-- Whatever goes on before a stop of a started server, and whatever comes after it but another start:
all stages but one are shut down, but for those that were restarted because the stop had overtaken the
restart; none is alive that could be ended, and just these are called down. -/
theorem reported_once_stopped
    (first : Tour (begun (.create settings authenticate deflater processors created)) ns s)
    (unstarted : .start (.ok ()) ∉ ns) (answered : s.server.start = (.ok (), server))
    (during : Tour { s with server } ms last) (unstopped : ∀ now, .stop now ∉ ms)
    (later : Tour { last with server := last.server.stop now } ks s')
    (retired : ∀ answer, .start answer ∉ ks) (instant : Nat) : Reported last ks s' instant := by
  obtain ⟨quit, hlate⟩ := later.quit retired (quit_of_stop first unstarted answered during unstopped now)
  exact quit.reported instant hlate

/-- The logic stage is aborted and comes back, and the clock ticks.  The task of the reading stage fails, and
the server is stopped before the stage is restarted; then the clock ticks again, and the watcher of the
accepting stage reports that its task has ended. -/
theorem reported_once_stopped_aborted :
    let ms : List Move := [.heal (.exit 3), .call .tick 5, .heal (.enter "read" 0)]
    let ks : List Move := [.call .tick 8, .heal (.late "read" 0), .heal (.exit 0)]
    ∃ server last s', (Server.create .standard .trusting Deflate.library 1 0).start = (.ok (), server) ∧
      Tour (begun server) ms last ∧ last.server = ((server.abortStage "logic" 0).2.tick 5) ∧
      Tour { last with server := last.server.stop 7 } ks s' ∧ Reported last ks s' 9 ∧
      (∀ k ∈ last.server.table.tasks, k.state ≠ .stuck) ∧ revived last s' = ["read"] ∧
      (s'.server.health 9).errors.Perm ["Stage 'accept' is down", "Stage 'read' is down"] := by
  intro ms ks
  obtain ⟨server, last, s', answered, during, haborted, later, obeys, hrevived⟩ : ∃ server last s',
      (Server.create .standard .trusting Deflate.library 1 0).start = (.ok (), server) ∧
        Tour (begun server) ms last ∧ last.server = ((server.abortStage "logic" 0).2.tick 5) ∧
        Tour { last with server := last.server.stop 7 } ks s' ∧
        (∀ k ∈ last.server.table.tasks, k.state ≠ .stuck) ∧ revived last s' = ["read"] :=
    ⟨_, _, _, rfl,
      .move (.heal (.exit rfl (by decide)) (by simp)) trivial <| .move .call trivial <|
        .move (.heal (.enter rfl) (by simp)) trivial .done, rfl,
      .move .call trivial <| .move (.heal .late (by simp)) trivial <|
        .move (.heal (.exit rfl (by decide)) (by simp)) trivial .done, by decide, rfl⟩
  have reported := reported_once_stopped
    (s := begun (.create .standard .trusting Deflate.library 1 0)) .done (by simp) answered during
    (by simp [ms]) later (by simp [ks]) 9
  have herrors := (reported.dead obeys).2
  rw [hrevived] at herrors
  exact ⟨server, last, s', answered, during, haborted, later, reported, obeys, hrevived, herrors⟩

/-- A server is started and stopped: the stage that accepts connections is not shut down, and passes for an
outage. -/
theorem accept_called_down :
    ∃ server, (Server.create .standard .trusting Deflate.library 1 0).start = (.ok (), server) ∧
      ¬ (∀ report ∈ ((server.stop 0).metrics 0).stages, report.status.state = .shutdown) ∧
      ((server.stop 0).health 0).errors = ["Stage 'accept' is down"] := by
  obtain ⟨server, answered, obeys⟩ : ∃ server,
      (Server.create .standard .trusting Deflate.library 1 0).start = (.ok (), server) ∧
        ∀ k ∈ server.table.tasks, k.state ≠ .stuck := ⟨_, rfl, by decide⟩
  have quit := quit_of_stop (s := begun (.create .standard .trusting Deflate.library 1 0)) .done (by simp)
    answered .done (by simp) 0
  have reported : Reported _ [] _ 0 := quit.reported 0 ⟨[], (List.append_nil _).symm, nofun⟩
  refine ⟨server, answered, fun hshut => ?_, reported.punctual obeys rfl⟩
  obtain ⟨report, hreport, hname⟩ := List.mem_map.mp (reported.stages.mem_iff.mpr Stage.accept.mem_names)
  exact ((reported.state report hreport).mp (hshut report hreport)).1 hname

end Service

end FlightRelay

import FlightRelay.Proofs.Supervisor.Healing
import FlightRelay.Server

/-!
# Traffic leaves the workers at their posts

Whatever passes the stages, it is recorded by the workers that were there, and run by the tasks that were
there: a connection, a frame, a silence or a ban neither opens nor closes a worker, starts no task and
ends none, and the server runs as it did.  All that workers do is to begin units of work and to finish them
(`Crew.Works`).  `Server.Spares` says so of two servers, one after the other.
-/

namespace FlightRelay

/-- A crew after its workers began units of work and finished them, any number of times. -/
inductive Crew.Works (crew : Crew) : Crew → Prop
  | refl : Works crew crew
  | begins {crew' : Crew} (h : Works crew crew') (worker : Nat) (activity : String) (now : Nat) :
      Works crew (crew'.modify worker fun w => w.begin activity now)
  | finishes {crew' : Crew} (h : Works crew crew') (worker : Nat) (now : Nat) :
      Works crew (crew'.modify worker fun w => w.finish now)

variable {crew crew' crew'' : Crew} {stage : Stage} {activity : String} {now : Nat}

theorem WorkerStatus.name_begin {w : WorkerStatus} : (w.begin activity now).name = w.name := by
  unfold begin
  split <;> rfl

namespace Crew

/-- Work after work is work. -/
theorem Works.trans (h : crew.Works crew') (h' : crew'.Works crew'') : crew.Works crew'' := by
  induction h' with
  | refl => exact h
  | begins _ worker activity now ih => exact ih.begins worker activity now
  | finishes _ worker now ih => exact ih.finishes worker now

theorem Works.of_eq (h : crew' = crew) : crew.Works crew' := h ▸ .refl

/-- Those who work are those who were there. -/
theorem Works.names (h : crew.Works crew') : crew'.names = crew.names := by
  induction h with
  | refl => rfl
  | begins _ worker activity now ih => exact (names_modify fun _ => WorkerStatus.name_begin).trans ih
  | finishes _ worker now ih => exact names_finish.trans ih

theorem modify_modify (crew : Crew) (i : Nat) (f g : WorkerStatus → WorkerStatus) :
    (crew.modify i f).modify i g = crew.modify i (g ∘ f) := by
  show Crew.mk ((crew.workers.modify i _).modify i _) _ = Crew.mk (crew.workers.modify i _) _
  rw [List.modify_modify_eq]
  rfl

theorem works_unit : crew.Works (crew.unit stage activity now) := by
  have hunit : (crew.modify stage.place fun w => w.begin activity now).modify stage.place
      (fun w => w.finish now) = crew.unit stage activity now := modify_modify ..
  exact hunit ▸ (Works.refl.begins stage.place activity now).finishes stage.place now

end Crew

/-! ## The chain -/

namespace Chain

variable {c : Chain} {ctx : ChainContext}

theorem works_unit : c.crew.Works (c.unit ctx stage activity).crew := Crew.works_unit

theorem works_decode {event : ReadEvent} : c.crew.Works (c.decode ctx event).2.crew :=
  Crew.works_unit

theorem crew_schedule {id : ConnectionId} : (c.schedule now id).2.crew = c.crew := by
  unfold schedule
  cases c.pool.submit s!"lane {id}" id now with
  | ok pool => rfl
  | error e => rfl

theorem works_route {item : Inbound} : c.crew.Works (c.route ctx item).2.crew := by
  unfold route
  dsimp only
  split
  · exact .refl
  · split
    · rw [crew_schedule]
      exact works_unit
    · exact works_unit

theorem crew_runLane {id : ConnectionId} : (c.runLane ctx id).crew = c.crew := by
  have hafter : ∀ c' : Chain, c'.crew = c.crew →
      (if (c'.lanes.settle id).1 then
        (schedule ctx.nanos { c' with lanes := (c'.lanes.settle id).2 } id).2
      else { c' with lanes := (c'.lanes.settle id).2 }).crew = c.crew := by
    intro c' hc'
    split
    · exact crew_schedule.trans hc'
    · exact hc'
  unfold runLane
  refine hafter _ ?_
  dsimp only
  split <;> rfl

theorem crew_move {t : Pool.Thread ConnectionId} : (c.move ctx t).crew = c.crew := by
  unfold move
  cases t.phase with
  | running task => exact crew_runLane
  | _ => rfl

/-- The pool runs lanes and leaves the workers alone. -/
theorem crew_workFor (fuel : Nat) : (workFor ctx fuel c).crew = c.crew := by
  induction fuel generalizing c with
  | zero => rfl
  | succ fuel ih =>
    unfold workFor
    split
    · rfl
    · rw [ih]
      exact crew_move

/-- What the pool does is no work of a stage. -/
theorem crew_work : (c.work ctx).crew = c.crew := crew_workFor _

theorem crew_drainLogic : (c.drainLogic ctx).crew = c.crew := crew_work

theorem works_send {leaving : Option ConnectionId} {o : Outbound} :
    c.crew.Works (send ctx leaving c o).2.crew := by
  have hfitted : c.crew.Works (c.unit ctx .enrich s!"enriching for {o.target}").crew := works_unit
  unfold send
  dsimp only
  split
  · exact hfitted
  · split
    · refine .trans ?_ works_unit
      split <;> exact hfitted
    · refine .trans (.trans ?_ works_unit) works_unit
      split <;> exact hfitted

theorem works_sendEach {leaving : Option ConnectionId} (os : List Outbound) (done : List Sending) :
    c.crew.Works (os.foldl (fun (done, c) o =>
      let (sending, c) := send ctx leaving c o
      (sending :: done, c)) (done, c)).2.crew := by
  induction os generalizing c done with
  | nil => exact .refl
  | cons o os ih => exact works_send.trans (ih _)

/-- To flush the outbox is work of the stages that write. -/
theorem works_flush {leaving : Option ConnectionId} : c.crew.Works (c.flush ctx leaving).2.2.crew :=
  have hsent : Crew.Works ({ c with
      hub := { c.hub with relay := c.hub.relay.drain.2 }, dropping := [] } : Chain).crew
      (c.flush ctx leaving).2.2.crew := works_sendEach _ []
  hsent

end Chain

/-! ## The server -/

namespace Server

/-- A server after something happened to it: its workers did nothing but their work, its tasks are as they
were, and it runs if it did. -/
structure Spares (s s' : Server) : Prop where
  running : s'.running = s.running
  table : s'.table = s.table
  works : s.chain.crew.Works s'.chain.crew

variable {s s' s'' : Server} {id : ConnectionId}

/-- Whatever spares the supervisor leaves the crew in its place. -/
theorem Spares.workers (h : Spares s s') : s'.chain.crew.names = s.chain.crew.names := h.works.names

theorem Spares.refl : Spares s s := ⟨rfl, rfl, .refl⟩

theorem Spares.trans (h : Spares s s') (h' : Spares s' s'') : Spares s s'' :=
  ⟨h'.running.trans h.running, h'.table.trans h.table, h.works.trans h'.works⟩

/-- One thing after the other. -/
theorem spares_foldl {α : Type} (f : Server → α → Server) (hf : ∀ s a, Spares s (f s a)) (as : List α) :
    Spares s (as.foldl f s) := by
  induction as generalizing s with
  | nil => exact .refl
  | cons a as ih => exact (hf s a).trans ih

/-- A unit is booked on the status of a stage, and on nothing that the supervisor holds. -/
theorem spares_unit : Spares s (s.unit now stage activity) := ⟨rfl, rfl, Chain.works_unit⟩

theorem Spares.unit (h : Spares s s') : Spares s (s'.unit now stage activity) := h.trans spares_unit

theorem spares_write (sending : Sending) : Spares s (write now s sending) := by
  unfold write
  cases sending with
  | sent frame compression =>
    have hwritten : Spares s { s with
        writers := s.writers.step (.frame frame.target frame.body.toList frame.immediate) } :=
      ⟨rfl, rfl, .refl⟩
    dsimp only
    split
    · exact hwritten.unit
    · exact hwritten
  | _ => exact .refl

theorem spares_drop : Spares s (drop now s id) := by
  have hclosed : Spares s { s with writers := s.writers.step (.close id) } := ⟨rfl, rfl, .refl⟩
  unfold drop
  split
  · exact hclosed.unit
  · exact .refl

theorem spares_settle : Spares s (s.settle now) := by
  have hflushed : s.chain.crew.Works ((s.chain.work (s.context now)).flush (s.context now) none).2.2.crew :=
    (Crew.Works.of_eq Chain.crew_work).trans Chain.works_flush
  have hsent : Spares s { s with chain := ((s.chain.work (s.context now)).flush (s.context now) none).2.2 } :=
    ⟨rfl, rfl, hflushed⟩
  exact (hsent.trans (spares_foldl _ (fun _ => spares_write) _)).trans
    (spares_foldl _ (fun _ _ => spares_drop) _)

theorem spares_route (item : Inbound) : Spares s (s.route item now) :=
  have hrouted : Spares s { s with chain := (s.chain.route (s.context now) item).2 } :=
    ⟨rfl, rfl, Chain.works_route⟩
  hrouted.trans spares_settle

theorem spares_accept (remote : Net.Socket) : Spares s (s.accept remote now).2 := by
  unfold accept
  split
  · exact .refl
  · dsimp only
    split
    · exact ⟨rfl, rfl, Chain.works_unit⟩
    · exact ⟨rfl, rfl, Chain.works_unit.trans Chain.works_unit⟩

theorem spares_receive (event : ReadEvent) : Spares s (s.receive event now) := by
  unfold receive
  split
  · exact .refl
  · have hdecoded : Spares s { s.unit now .read "forwarding frame" with
        chain := ((s.unit now .read "forwarding frame").chain.decode (s.context now) event).2 } :=
      ⟨rfl, rfl, Chain.works_unit.trans Chain.works_decode⟩
    dsimp only
    split
    · exact hdecoded
    · exact hdecoded.trans (spares_route _)

theorem spares_kick : Spares s (s.kick id now).2 := by
  unfold kick
  split
  · exact spares_route _
  · exact .refl

theorem spares_sweepIdle : Spares s (s.sweepIdle now) := by
  unfold sweepIdle
  split
  · exact .refl
  · have hswept (sweep : IdleSweep) :
        Spares s { s.unit now .idleSweep "sweeping idle connections" with sweep } :=
      ⟨rfl, rfl, Chain.works_unit⟩
    exact (hswept _).trans (spares_foldl _ (fun _ => spares_route) _)

theorem spares_tick : Spares s (s.tick now) := by
  have hflushed : Spares s { s with writers := s.writers.step .tick } := ⟨rfl, rfl, .refl⟩
  unfold tick
  split
  · exact .refl
  · exact hflushed.unit

/-- What clients, the clock and operators ask of a server, apart from starts and stops. -/
inductive Call where
  | accept (remote : Net.Socket)
  | receive (event : ReadEvent)
  | receiveAll (connection : ConnectionId) (wire : List UInt8)
  | kick (connection : ConnectionId)
  | sweepIdle
  | tick
  | ban (address : Net.Address)
  | unban (address : Net.Address)

/-- The server after a call. -/
def Call.run (now : Nat) (s : Server) : Call → Server
  | .accept remote => (s.accept remote now).2
  | .receive event => s.receive event now
  | .receiveAll connection wire => s.receiveAll connection wire now
  | .kick connection => (s.kick connection now).2
  | .sweepIdle => s.sweepIdle now
  | .tick => s.tick now
  | .ban address => (s.ban address).2
  | .unban address => (s.unban address).2

/-- No call of a client, and nothing that the clock brings about, touches what the supervisor holds. -/
theorem Call.spares (call : Call) : Spares s (call.run now s) := by
  cases call with
  | accept remote => exact spares_accept remote
  | receive event => exact spares_receive event
  | receiveAll connection wire => exact spares_foldl _ (fun _ => spares_receive) _
  | kick connection => exact spares_kick
  | sweepIdle => exact spares_sweepIdle
  | tick => exact spares_tick
  | ban address => exact ⟨rfl, rfl, .refl⟩
  | unban address => exact ⟨rfl, rfl, .refl⟩

end Server

end FlightRelay

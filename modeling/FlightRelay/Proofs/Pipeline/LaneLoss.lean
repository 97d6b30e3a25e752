import FlightRelay.Proofs.Pipeline.LaneOrder

/-!
# Lanes that lose their task

Handling an item can panic.  The pool keeps the thread, but the rest of the task is not run: nobody settles
the lane, which stays marked as running.  From then on items of the connection are put on the lane and
none of them is handled; connections without a panic are served as ever.
-/

namespace FlightRelay

/-! ## Panics -/

/-- What can happen next where handling an item may panic. -/
inductive LaneIncident where
  | event (e : LaneEvent)
  /-- Handling the item of the task at a place of the list panics. -/
  | panic (place : Nat)

/-- The lanes with their tasks, and the items at which handling panicked, in order. -/
structure LaneHistory where
  work : LaneWork
  panicked : List Inbound

namespace LaneHistory

/-- No lane has work. -/
def start : LaneHistory := ⟨.start, []⟩

/-- A task that handles an item is gone; its lane is left as it is. -/
def panic (h : LaneHistory) (place : Nat) : LaneHistory :=
  match h.work.tasks[place]? with
  | some ⟨_, .handling item⟩ =>
    ⟨{ h.work with tasks := h.work.tasks.eraseIdx place }, h.panicked ++ [item]⟩
  | _ => h

/-- What there is after an incident. -/
def step (h : LaneHistory) : LaneIncident → LaneHistory
  | .event e => ⟨h.work.step e, h.panicked⟩
  | .panic place => h.panic place

/-- What there is after a sequence of incidents. -/
def run (h : LaneHistory) (is : List LaneIncident) : LaneHistory := is.foldl step h

theorem run_append (h : LaneHistory) (before after : List LaneIncident) :
    h.run (before ++ after) = (h.run before).run after := List.foldl_append

end LaneHistory

/-! ## One connection -/

/-- The lane of a connection waits for a task that is gone: handling an item has panicked, and nothing that
came behind it is handled. -/
structure LaneView.Stranded (v : LaneView) (item : Inbound) (queue : List Inbound) : Prop where
  lane : v.lane = some ⟨queue, true⟩
  stages : v.stages = []
  arrived : v.arrived = v.handled ++ item :: queue
  begun : v.begun = v.handled ++ [item]

namespace LaneWork

open LaneView

variable {w : LaneWork} {id : ConnectionId} {item : Inbound} {queue : List Inbound}
  {place : Nat}

/-- What comes later waits behind the rest. -/
theorem stranded_arrive (late : Inbound) (h : (w.view id).Stranded item queue) :
    ∃ more, ((w.arrive late).view id).Stranded item (queue ++ more) ∧
      ((w.arrive late).view id).handled = (w.view id).handled := by
  rw [view_arrive]
  split
  · refine ⟨[late], ⟨?_, ?_, ?_, h.begun⟩, rfl⟩
    · simp [h.lane]
    · simp [h.lane, h.stages]
    · simp [h.arrived]
  · exact ⟨[], by simpa using h, rfl⟩

/-- An attended connection whose task handles an item. -/
theorem attended_handling (h : (w.view id).Attended)
    (ht : w.tasks[place]? = some ⟨id, .handling item⟩) :
    ∃ queue, (w.view id).lane = some ⟨queue, true⟩ ∧ (w.view id).stages = [.handling item] ∧
      (w.view id).arrived = (w.view id).handled ++ item :: queue ∧
      (w.view id).begun = (w.view id).handled ++ [item] := by
  cases h with
  | idle _ stages => exact absurd stages (stages_ne_nil ht)
  | due _ stages => cases stage_eq stages ht
  | submitted _ stages => cases stage_eq stages ht
  | handling lane stages arrived begun =>
    obtain ⟨⟩ := stage_eq stages ht
    exact ⟨_, lane, stages, arrived, begun⟩
  | settling _ stages => cases stage_eq stages ht

/-- A panic strands its connection, and concerns no other. -/
theorem view_erase (other : ConnectionId) (h : (w.view id).Attended)
    (ht : w.tasks[place]? = some ⟨id, .handling item⟩) :
    ({ w with tasks := w.tasks.eraseIdx place } : LaneWork).view other
      = if other = id then { w.view id with stages := [] } else w.view other := by
  obtain ⟨before, after, htasks, herase, -⟩ := exists_split ht
  obtain ⟨queue, -, only, -⟩ := attended_handling h ht
  have hstages : stagesOf other (w.tasks.eraseIdx place)
      = if other = id then [] else stagesOf other w.tasks := by
    rw [herase, htasks]
    exact stagesOf_remove (t := ⟨id, .handling item⟩) (by rw [← htasks]; exact only)
  simp only [view, hstages]
  split
  · rename_i he
    rw [he]
  · rfl

end LaneWork

namespace LaneHistory

open LaneWork

variable {r : LaneHistory} {id : ConnectionId} {item : Inbound} {place : Nat}

/-- The items of a connection at which handling panicked. -/
def panickedOf (r : LaneHistory) (id : ConnectionId) : List Inbound := itemsOf id r.panicked

/-- A connection is attended to as long as no item of it has panicked, and stranded from then on. -/
inductive Holds (r : LaneHistory) (id : ConnectionId) : Prop
  | attended (none : r.panickedOf id = []) (view : (r.work.view id).Attended)
  | stranded {item : Inbound} {queue : List Inbound} (one : r.panickedOf id = [item])
      (view : (r.work.view id).Stranded item queue)

/-- A task at a place of the list belongs to a connection that is attended to. -/
theorem attended_of_task {t : LaneTask} (h : r.Holds t.lane) (ht : r.work.tasks[place]? = some t) :
    r.panickedOf t.lane = [] ∧ (r.work.view t.lane).Attended := by
  cases h with
  | attended none view => exact ⟨none, view⟩
  | stranded one view => exact absurd view.stages (stages_ne_nil ht)

/-- A connection without a task is not concerned by a turn, nor by a panic. -/
theorem view_turn (h : ∀ i, r.Holds i) (hnone : (r.work.view id).stages = []) :
    (r.work.advance place).view id = r.work.view id := by
  cases ht : r.work.tasks[place]? with
  | none => simp [advance, ht]
  | some t =>
    have hne : id ≠ t.lane := by
      rintro rfl
      exact stages_ne_nil ht hnone
    obtain ⟨v, hmoves, -⟩ := moves_advance (attended_of_task (h t.lane) ht).2 ht
    rw [hmoves id, if_neg hne]

/-- A panic does not concern a lane that no task is at. -/
theorem view_panic (h : ∀ i, r.Holds i) (hnone : (r.work.view id).stages = []) :
    (r.panic place).work.view id = r.work.view id := by
  unfold panic
  split
  · rename_i lane item ht
    have hne : id ≠ lane := by
      rintro rfl
      exact stages_ne_nil ht hnone
    exact (view_erase id (attended_of_task (h lane) ht).2 ht).trans (if_neg hne)
  · rfl

/-- An arrival leaves the histories in order. -/
theorem holds_arrive (h : r.Holds id) : (r.step (.event (.arrival item))).Holds id := by
  cases h with
  | attended none view => exact .attended none (attended_arrive view)
  | stranded one view =>
    obtain ⟨more, hstranded, -⟩ := stranded_arrive item view
    exact .stranded one hstranded

/-- A turn leaves the histories in order. -/
theorem holds_turn (h : ∀ i, r.Holds i) : (r.step (.event (.turn place))).Holds id := by
  cases h id with
  | attended none view =>
    exact .attended none (attended_advance (fun t ht => (attended_of_task (h t.lane) ht).2) view)
  | stranded one view =>
    have hview : (r.step (.event (.turn place))).work.view id = _ := view_turn h view.stages
    exact .stranded one (hview ▸ view)

/-- A panic strands the connection of its task, and concerns no other. -/
theorem holds_panic (h : ∀ i, r.Holds i) : (r.panic place).Holds id := by
  unfold panic
  split
  · rename_i lane item ht
    obtain ⟨hnone, hattended⟩ := attended_of_task (h lane) ht
    obtain ⟨queue, hlane, -, harrived, hbegun⟩ := attended_handling hattended ht
    have hview := view_erase id hattended ht
    have hitem : item.connection = lane := by
      apply connection_of_arrived
      rw [harrived]
      exact List.mem_append_right _ List.mem_cons_self
    have hpanicked := itemsOf_append r.panicked [item] id lane fun i hi => by
      rw [List.mem_singleton.mp hi, hitem]
    by_cases he : id = lane
    · subst he
      rw [if_pos rfl] at hview hpanicked
      refine @Holds.stranded _ _ item queue ?_ ?_
      · rw [panickedOf, hpanicked, show itemsOf id r.panicked = [] from hnone, List.nil_append]
      · rw [hview]
        exact ⟨hlane, rfl, harrived, hbegun⟩
    · rw [if_neg he] at hview hpanicked
      cases h id with
      | attended none view => exact .attended (hpanicked.trans none) (hview ▸ view)
      | stranded one view => exact .stranded (hpanicked.trans one) (hview ▸ view)
  · exact h id

/-- Whatever happens, panics included, leaves the histories in order. -/
theorem holds_step (h : ∀ i, r.Holds i) (e : LaneIncident) (i : ConnectionId) : (r.step e).Holds i :=
  match e with
  | .event (.arrival _) => holds_arrive (h i)
  | .event (.turn _) => holds_turn h
  | .panic _ => holds_panic h

/-- All along, the histories are in order. -/
theorem holds_run (h : ∀ i, r.Holds i) (is : List LaneIncident) : ∀ i, (r.run is).Holds i := by
  induction is generalizing r with
  | nil => exact h
  | cons e is ih => exact ih (holds_step h e)

/-- Nothing more is handled of a connection that is stranded. -/
theorem handled_run {queue : List Inbound} (h : ∀ i, r.Holds i)
    (hstranded : (r.work.view id).Stranded item queue) (is : List LaneIncident) :
    ((r.run is).work.view id).handled = (r.work.view id).handled := by
  induction is generalizing r queue with
  | nil => rfl
  | cons e is ih =>
    have hnext : ∀ i, (r.step e).Holds i := holds_step h e
    match e with
    | .event (.arrival late) =>
      obtain ⟨more, hstranded', hhandled⟩ := stranded_arrive late hstranded
      exact (ih hnext hstranded').trans hhandled
    | .event (.turn place) =>
      have hview : (r.step (.event (.turn place))).work.view id = _ := view_turn h hstranded.stages
      exact (ih hnext (hview ▸ hstranded)).trans (congrArg LaneView.handled hview)
    | .panic place =>
      have hview : (r.step (.panic place)).work.view id = _ := view_panic h hstranded.stages
      exact (ih hnext (hview ▸ hstranded)).trans (congrArg LaneView.handled hview)

/-- However arrivals, the turns of tasks and panics follow each other: the items of a connection are handled
in order as long as none of them has panicked.  If one has, it is the only one, the lane waits for a task
that is gone, and nothing more of the connection is ever handled. -/
theorem handled_until_panic (is : List LaneIncident) (id : ConnectionId) :
    ((start.run is).panickedOf id = [] ∧ ((start.run is).work.view id).InOrder) ∨
      ∃ item queue, (start.run is).panickedOf id = [item] ∧
        ((start.run is).work.view id).Stranded item queue ∧
        ∀ more, ((start.run (is ++ more)).work.view id).handled
          = ((start.run is).work.view id).handled := by
  have hstart : ∀ i, start.Holds i := fun i => .attended rfl (.idle rfl rfl rfl rfl rfl)
  have hrun := holds_run hstart is
  cases hrun id with
  | attended none view => exact .inl ⟨none, view.inOrder⟩
  | stranded one view =>
    refine .inr ⟨_, _, one, view, fun more => ?_⟩
    rw [run_append]
    exact handled_run hrun view more

/-- A request is put on its lane and then the end of its connection; handling the request panics. -/
def fatal : List LaneIncident :=
  [.event (.arrival (.message ⟨.loadRoutes, 1, none⟩)), .event (.arrival (.closed 1 .peerClosed)),
    .event (.turn 0), .event (.turn 0), .panic 0]

/-- The end of the connection waits on a lane that is marked as running, and there is no task. -/
theorem end_unhandled : (start.run fatal).work.lanes.lane? 1 = some ⟨[.closed 1 .peerClosed], true⟩ ∧
    (start.run fatal).work.tasks = [] :=
  ⟨rfl, rfl⟩

end LaneHistory

/-! ## Lanes of the chain -/

namespace Chain

/-- What a thread leaves when handling the item of a lane panics: the lane is without the item, the hub is as
far as the handling has come, and the pool counts a task that has panicked. -/
def breakOff (now : Nat) (c : Chain) (t : Pool.Thread ConnectionId) (id : ConnectionId) (hub : Hub) :
    Chain :=
  { c with lanes := (c.lanes.take id).2, hub, pool := c.pool.finish t.id true now }

/-- A panic leaves the lanes of the chain as it leaves those of the histories. -/
theorem lanes_breakOff {now place : Nat} {c : Chain} {t : Pool.Thread ConnectionId} {id : ConnectionId}
    {hub : Hub} {r : LaneHistory} {item : Inbound} {rest : List Inbound}
    (hlanes : r.work.lanes = c.lanes) (hlane : c.lanes.lane? id = some ⟨item :: rest, true⟩)
    (ht : r.work.tasks[place]? = some ⟨id, .submitted⟩) :
    (c.breakOff now t id hub).lanes
      = (r.run [.event (.turn place), .panic place]).work.lanes := by
  have hlt : place < r.work.tasks.length := (List.getElem?_eq_some_iff.mp ht).1
  have htake : c.lanes.take id = (some item, c.lanes.put id ⟨rest, true⟩) := Lanes.take_of_lane? hlane
  have hfirst : r.work.advance place
      = { r.work with
          lanes := c.lanes.put id ⟨rest, true⟩
          tasks := r.work.tasks.set place ⟨id, .handling item⟩
          begun := r.work.begun ++ [item]
          turned := r.work.turned ++ [id] } := by
    simp only [LaneWork.advance, ht, hlanes, htake]
  show (c.lanes.take id).2 = (LaneHistory.panic ⟨r.work.advance place, r.panicked⟩ place).work.lanes
  rw [hfirst, htake]
  simp [LaneHistory.panic, hlt]

end Chain

end FlightRelay

import FlightRelay.Pipeline.Chain
import FlightRelay.Proofs.Entries

/-!
# Lanes at work

Items are enqueued from many places at once, and the tasks of the lanes run side by side on any number of
threads.  What is done under one lock is one step here, and steps of different tasks and arrivals follow
each other in any order.  Whatever the order, each lane has one task from its first item to its last, and
so the items of a connection are handled one after another, as they came.  Every item takes four steps of a
task (`LaneView.Advances`), so what has arrived is handled once its tasks had so many steps.
-/

namespace FlightRelay

/-! ## Looking up lanes -/

namespace Lanes

variable {l : Lanes} {id other : ConnectionId} {lane : Lane} {item : Inbound}

theorem lane?_put : (l.put id lane).lane? other = if other = id then some lane else l.lane? other := by
  unfold put
  split
  · rename_i hlive
    refine (lookup_replace l.lanes).trans ?_
    split
    · rename_i he
      subst he
      obtain ⟨old, hold⟩ := Option.isSome_iff_exists.mp hlive
      rw [show l.lanes.lookup other = some old from hold, Option.map_some]
    · rfl
  · rename_i hnone
    show (l.lanes ++ [(id, lane)]).lookup other = _
    rw [List.lookup_append]
    split
    · rename_i he
      subst he
      rw [show l.lanes.lookup other = none from Option.not_isSome_iff_eq_none.mp hnone,
        List.lookup_cons_self, Option.none_or]
    · rename_i hne
      rw [lookup_cons_of_ne hne, List.lookup_nil, Option.or_none, lane?]

theorem lane?_drop : (l.drop id).lane? other = if other = id then none else l.lane? other :=
  lookup_remove l.lanes

/-- An arrival makes its lane longer, and marks it as running. -/
theorem lane?_enqueue (l : Lanes) (item : Inbound) (other : ConnectionId) :
    (l.enqueue item).2.lane? other
      = if other = item.connection
        then some ⟨((l.lane? item.connection).getD .idle).queue ++ [item], true⟩
        else l.lane? other := lane?_put

theorem take_of_lane? {rest : List Inbound} {running : Bool}
    (h : l.lane? id = some ⟨item :: rest, running⟩) :
    l.take id = (some item, l.put id ⟨rest, running⟩) := by
  rw [take, h]

/-- A lane with items left goes on. -/
theorem settle_of_lane? {rest : List Inbound} {running : Bool}
    (h : l.lane? id = some ⟨item :: rest, running⟩) : l.settle id = (true, l) := by
  rw [settle, h]

/-- An empty lane is given up. -/
theorem settle_of_empty {running : Bool} (h : l.lane? id = some ⟨[], running⟩) :
    l.settle id = (false, l.drop id) := by
  rw [settle, h]

end Lanes

/-! ## Tasks and arrivals -/

/-- How far the task of a lane has come. -/
inductive LaneStage where
  /-- Whoever put the first item on the lane, or has just found more, is submitting the task. -/
  | due
  /-- The pool has the task, and no thread has begun with it. -/
  | submitted
  /-- A thread handles the item that it has taken. -/
  | handling (item : Inbound)
  /-- The item is done, and the lane is yet to be settled. -/
  | settling

namespace LaneStage

/-- The item that is being handled. -/
def item? : LaneStage → Option Inbound
  | .handling item => some item
  | _ => none

end LaneStage

/-- A task of a lane. -/
structure LaneTask where
  lane : ConnectionId
  stage : LaneStage

/-- The lanes with their tasks, and what became of the items so far. -/
structure LaneWork where
  lanes : Lanes
  tasks : List LaneTask
  /-- Items in the order in which they were enqueued. -/
  arrived : List Inbound
  /-- Items in the order in which handling them began. -/
  begun : List Inbound
  /-- Items in the order in which handling them ended. -/
  handled : List Inbound
  /-- The lanes whose tasks went on, oldest first. -/
  turned : List ConnectionId

/-- What can happen next. -/
inductive LaneEvent where
  /-- An item is put on its lane. -/
  | arrival (item : Inbound)
  /-- The task at a place of the list goes on. -/
  | turn (place : Nat)

namespace LaneWork

/-- No lane has work. -/
def start : LaneWork := ⟨.empty, [], [], [], [], []⟩

/-- An item is put on its lane, for which a task is due if there was none. -/
def arrive (w : LaneWork) (item : Inbound) : LaneWork :=
  { w with
    lanes := (w.lanes.enqueue item).2
    tasks :=
      if (w.lanes.enqueue item).1 then w.tasks ++ [⟨item.connection, .due⟩] else w.tasks
    arrived := w.arrived ++ [item] }

/-- A task goes on to its next stage.  One that finds more when it settles its lane is due again. -/
def advance (w : LaneWork) (place : Nat) : LaneWork :=
  match w.tasks[place]? with
  | none => w
  | some ⟨lane, stage⟩ =>
    let w := { w with turned := w.turned ++ [lane] }
    match stage with
    | .due => { w with tasks := w.tasks.set place ⟨lane, .submitted⟩ }
    | .submitted =>
      match w.lanes.take lane with
      | (some item, lanes) =>
        { w with
          lanes
          tasks := w.tasks.set place ⟨lane, .handling item⟩
          begun := w.begun ++ [item] }
      | (none, lanes) => { w with lanes, tasks := w.tasks.set place ⟨lane, .settling⟩ }
    | .handling item =>
      { w with
        tasks := w.tasks.set place ⟨lane, .settling⟩
        handled := w.handled ++ [item] }
    | .settling =>
      match w.lanes.settle lane with
      | (true, lanes) => { w with lanes, tasks := w.tasks.set place ⟨lane, .due⟩ }
      | (false, lanes) => { w with lanes, tasks := w.tasks.eraseIdx place }

/-- The work after an event. -/
def step (w : LaneWork) : LaneEvent → LaneWork
  | .arrival item => w.arrive item
  | .turn place => w.advance place

/-- The work after a sequence of events. -/
def run (w : LaneWork) (es : List LaneEvent) : LaneWork := es.foldl step w

end LaneWork

/-! ## One connection -/

/-- The items of one connection. -/
def itemsOf (id : ConnectionId) (items : List Inbound) : List Inbound :=
  items.filter fun item => item.connection = id

/-- The stages of the tasks of one lane. -/
def stagesOf (id : ConnectionId) (tasks : List LaneTask) : List LaneStage :=
  (tasks.filter fun t => t.lane = id).map LaneTask.stage

/-- How often the tasks of one lane went on. -/
def turnsOf (id : ConnectionId) (turned : List ConnectionId) : Nat := turned.count id

/-- What the work comes to for one connection. -/
structure LaneView where
  lane : Option Lane
  stages : List LaneStage
  arrived : List Inbound
  begun : List Inbound
  handled : List Inbound
  /-- How often tasks of the connection went on. -/
  turns : Nat

namespace LaneView

/-- The items that are being handled. -/
def inHand (v : LaneView) : List Inbound := v.stages.filterMap LaneStage.item?

/-- The items that wait. -/
def waiting (v : LaneView) : List Inbound := (v.lane.map Lane.queue).getD []

/-- The situations that a connection can be in: each has either no lane and no task, or a lane and one
task.  Each item takes four turns. -/
inductive Attended (v : LaneView) : Prop
  /-- There is nothing to do. -/
  | idle (lane : v.lane = none) (stages : v.stages = []) (arrived : v.arrived = v.handled)
      (begun : v.begun = v.handled) (turns : v.turns = 4 * v.handled.length)
  /-- The task is being submitted, and there is an item for it. -/
  | due {item : Inbound} {rest : List Inbound} (lane : v.lane = some ⟨item :: rest, true⟩)
      (stages : v.stages = [.due]) (arrived : v.arrived = v.handled ++ item :: rest)
      (begun : v.begun = v.handled) (turns : v.turns = 4 * v.handled.length)
  /-- The task finds an item when it begins. -/
  | submitted {item : Inbound} {rest : List Inbound} (lane : v.lane = some ⟨item :: rest, true⟩)
      (stages : v.stages = [.submitted]) (arrived : v.arrived = v.handled ++ item :: rest)
      (begun : v.begun = v.handled) (turns : v.turns = 4 * v.handled.length + 1)
  | handling {item : Inbound} {queue : List Inbound} (lane : v.lane = some ⟨queue, true⟩)
      (stages : v.stages = [.handling item]) (arrived : v.arrived = v.handled ++ item :: queue)
      (begun : v.begun = v.handled ++ [item]) (turns : v.turns = 4 * v.handled.length + 2)
  | settling {queue : List Inbound} (lane : v.lane = some ⟨queue, true⟩)
      (stages : v.stages = [.settling]) (arrived : v.arrived = v.handled ++ queue)
      (begun : v.begun = v.handled) (turns : v.turns + 1 = 4 * v.handled.length)

/-- What becomes of a connection when its task goes on: the task takes the first item that waits, handles
it, and then removes the lane or is submitted again. -/
inductive Advances (v : LaneView) : LaneStage → LaneView → Prop
  | submit : Advances v .due { v with stages := [.submitted], turns := v.turns + 1 }
  | take {item : Inbound} {rest : List Inbound} (lane : v.lane = some ⟨item :: rest, true⟩) :
      Advances v .submitted
        { v with
          lane := some ⟨rest, true⟩
          stages := [.handling item]
          begun := v.begun ++ [item]
          turns := v.turns + 1 }
  | handle {item : Inbound} : Advances v (.handling item)
      { v with stages := [.settling], handled := v.handled ++ [item], turns := v.turns + 1 }
  | leave (lane : v.lane = some ⟨[], true⟩) :
      Advances v .settling { v with lane := none, stages := [], turns := v.turns + 1 }
  | again {item : Inbound} {rest : List Inbound} (lane : v.lane = some ⟨item :: rest, true⟩) :
      Advances v .settling { v with stages := [.due], turns := v.turns + 1 }

/-- The items of a connection are handled one after another, in the order in which they arrived, and
there is a task for them as long as there are any. -/
structure InOrder (v : LaneView) : Prop where
  /-- What has arrived is what is handled, what is in hand, and what waits, in this order. -/
  arrived : v.arrived = v.handled ++ v.inHand ++ v.waiting
  /-- Handling began in the same order. -/
  begun : v.begun = v.handled ++ v.inHand
  /-- Never two items are in hand. -/
  one : v.inHand.length ≤ 1
  /-- There is never a second task, -/
  alone : v.stages.length ≤ 1
  /-- and there is a lane exactly while there is a task: it is being submitted, it is submitted, or it
  runs. -/
  attended : v.lane.isSome = true ↔ v.stages.length = 1
  /-- When there is no task any more, all that has arrived is handled. -/
  finished : v.stages = [] → v.arrived = v.handled
  /-- One item is handled in every four turns of the tasks, -/
  progress : v.handled.length = (v.turns + 1) / 4
  /-- so that so many turns are enough for all that has arrived. -/
  done : 4 * v.arrived.length ≤ v.turns → v.handled = v.arrived

/-- What is handled is all that has arrived, once there are as many of both. -/
theorem handled_eq_of_length {v : LaneView} (arrived : v.arrived = v.handled ++ v.inHand ++ v.waiting)
    (progress : v.handled.length = (v.turns + 1) / 4) (h : 4 * v.arrived.length ≤ v.turns) :
    v.handled = v.arrived := by
  have hprefix : v.handled <+: v.arrived := by
    rw [arrived, List.append_assoc]
    exact List.prefix_append _ _
  exact hprefix.eq_of_length_le (by omega)

/-- A lane with one task is served in order if the item of the task comes between those that are handled
and those that wait. -/
theorem InOrder.of_one {v : LaneView} {lane : Lane} {stage : LaneStage} (hlane : v.lane = some lane)
    (hstages : v.stages = [stage])
    (harrived : v.arrived = v.handled ++ stage.item?.toList ++ lane.queue)
    (hbegun : v.begun = v.handled ++ stage.item?.toList)
    (progress : v.handled.length = (v.turns + 1) / 4) : v.InOrder := by
  have hhand : v.inHand = stage.item?.toList := by
    rw [inHand, hstages, List.filterMap_cons, List.filterMap_nil]
    cases stage.item? <;> rfl
  have hwaiting : v.waiting = lane.queue := by
    rw [waiting, hlane]
    rfl
  have arrived : v.arrived = v.handled ++ v.inHand ++ v.waiting := by rw [hhand, hwaiting, harrived]
  refine ⟨arrived, ?_, ?_, ?_, ?_, fun hnone => ?_, progress, handled_eq_of_length arrived progress⟩
  · rw [hhand, hbegun]
  · rw [hhand]
    cases stage.item? <;> simp
  · rw [hstages]
    exact Nat.le_refl 1
  · rw [hlane, hstages]
    exact iff_of_true rfl rfl
  · rw [hstages] at hnone
    cases hnone

/-- Whoever is attended to is served in order. -/
theorem Attended.inOrder {v : LaneView} (h : v.Attended) : v.InOrder := by
  cases h with
  | idle lane stages arrived begun turns =>
    have hall : v.arrived = v.handled ++ v.inHand ++ v.waiting := by
      simp [inHand, waiting, lane, stages, arrived]
    have progress : v.handled.length = (v.turns + 1) / 4 := by omega
    refine ⟨hall, ?_, ?_, ?_, ?_, fun _ => arrived, progress, handled_eq_of_length hall progress⟩ <;>
      simp [inHand, lane, stages, begun]
  | due lane stages arrived begun turns =>
    exact .of_one lane stages (by simp [LaneStage.item?, arrived]) (by simp [LaneStage.item?, begun])
      (by omega)
  | submitted lane stages arrived begun turns =>
    exact .of_one lane stages (by simp [LaneStage.item?, arrived]) (by simp [LaneStage.item?, begun])
      (by omega)
  | handling lane stages arrived begun turns =>
    exact .of_one lane stages (by simp [LaneStage.item?, arrived]) begun (by omega)
  | settling lane stages arrived begun turns =>
    exact .of_one lane stages (by simp [LaneStage.item?, arrived]) (by simp [LaneStage.item?, begun])
      (by omega)

/-- After its turn a connection is attended to again. -/
theorem Attended.advances {v v' : LaneView} {stage : LaneStage} (h : v.Attended) (only : v.stages = [stage])
    (advances : v.Advances stage v') : v'.Attended := by
  -- the stage and the lane together leave one way on, but for settling, where the queue decides
  cases h with
  | idle _ stages _ _ _ =>
    rw [stages] at only
    cases only
  | @due item rest lane stages arrived begun turns =>
    obtain rfl := (List.singleton_inj.mp (stages.symm.trans only))
    cases advances
    exact .submitted lane rfl arrived begun (congrArg (· + 1) turns)
  | @submitted item rest lane stages arrived begun turns =>
    obtain rfl := (List.singleton_inj.mp (stages.symm.trans only))
    cases advances with
    | take lane' =>
      rw [lane] at lane'
      obtain ⟨rfl, rfl⟩ : item = _ ∧ rest = _ := by simpa using lane'
      exact .handling rfl rfl arrived (congrArg (· ++ _) begun) (congrArg (· + 1) turns)
  | @handling item queue lane stages arrived begun turns =>
    obtain rfl := (List.singleton_inj.mp (stages.symm.trans only))
    cases advances
    refine .settling lane rfl ?_ begun ?_
    · simp [arrived]
    · simp [turns]
      omega
  | @settling queue lane stages arrived begun turns =>
    obtain rfl := (List.singleton_inj.mp (stages.symm.trans only))
    cases advances with
    | leave lane' =>
      rw [lane] at lane'
      obtain rfl : queue = [] := by simpa using lane'
      exact .idle rfl rfl (by simpa using arrived) begun turns
    | again lane' =>
      rw [lane] at lane'
      obtain rfl : queue = _ := by simpa using lane'
      exact .due lane rfl arrived begun turns

end LaneView

namespace LaneWork

/-- What the work comes to for one connection. -/
def view (w : LaneWork) (id : ConnectionId) : LaneView where
  lane := w.lanes.lane? id
  stages := stagesOf id w.tasks
  arrived := itemsOf id w.arrived
  begun := itemsOf id w.begun
  handled := itemsOf id w.handled
  turns := turnsOf id w.turned

end LaneWork

/-! ## One task among all -/

section Tasks

variable {tasks before after : List LaneTask} {t x : LaneTask} {place : Nat} {id : ConnectionId}
  {items : List Inbound} {item : Inbound}

/-- More items of one connection count for it, and for nobody else. -/
theorem itemsOf_append (items more : List Inbound) (id other : ConnectionId)
    (h : ∀ item ∈ more, item.connection = other) :
    itemsOf id (items ++ more) = if id = other then itemsOf id items ++ more else itemsOf id items := by
  rw [itemsOf, List.filter_append]
  split
  · rename_i he
    have hall : more.filter (fun item => item.connection = id) = more := by
      apply List.filter_eq_self.mpr
      intro item hitem
      exact decide_eq_true ((h item hitem).trans he.symm)
    rw [hall, itemsOf]
  · rename_i hne
    have hnone : more.filter (fun item => item.connection = id) = [] := by
      apply List.filter_eq_nil_iff.mpr
      intro item hitem he
      exact hne ((of_decide_eq_true he).symm.trans (h item hitem))
    rw [hnone, List.append_nil, itemsOf]

theorem stagesOf_append :
    stagesOf id (before ++ after) = stagesOf id before ++ stagesOf id after := by
  rw [stagesOf, List.filter_append, List.map_append, stagesOf, stagesOf]

theorem stagesOf_cons :
    stagesOf id (t :: after)
      = if t.lane = id then t.stage :: stagesOf id after else stagesOf id after := by
  rw [stagesOf, List.filter_cons]
  by_cases h : t.lane = id <;> simp [h, stagesOf]

/-- A task at a place stands between those before it and those after it. -/
theorem exists_split (h : tasks[place]? = some t) :
    ∃ before after, tasks = before ++ t :: after ∧ tasks.eraseIdx place = before ++ after ∧
      ∀ x, tasks.set place x = before ++ x :: after := by
  obtain ⟨hlt, rfl⟩ := List.getElem?_eq_some_iff.mp h
  refine ⟨tasks.take place, tasks.drop (place + 1), ?_, List.eraseIdx_eq_take_drop_succ _ _,
    fun x => ?_⟩
  · rw [← List.drop_eq_getElem_cons hlt, List.take_append_drop]
  · rw [List.set_eq_take_append_cons_drop, if_pos hlt]

/-- The only task of a lane stands alone among those of other lanes. -/
theorem stagesOf_around {stage : LaneStage}
    (only : stagesOf t.lane (before ++ t :: after) = [stage]) :
    stage = t.stage ∧ stagesOf t.lane before = [] ∧ stagesOf t.lane after = [] := by
  rw [stagesOf_append, stagesOf_cons, if_pos rfl] at only
  cases hbefore : stagesOf t.lane before with
  | nil =>
    rw [hbefore, List.nil_append] at only
    obtain ⟨hstage, hafter⟩ := List.cons.inj only
    exact ⟨hstage.symm, rfl, hafter⟩
  | cons s rest =>
    rw [hbefore] at only
    simp at only

/-- After the only task of a lane was replaced, the lane has the new one, and other lanes are left
alone. -/
theorem stagesOf_replace {stage : LaneStage} (hx : x.lane = t.lane)
    (only : stagesOf t.lane (before ++ t :: after) = [stage]) :
    stagesOf id (before ++ x :: after)
      = if id = t.lane then [x.stage] else stagesOf id (before ++ t :: after) := by
  by_cases he : id = t.lane
  · subst he
    obtain ⟨-, hbefore, hafter⟩ := stagesOf_around only
    rw [stagesOf_append, stagesOf_cons, if_pos hx, if_pos rfl, hbefore, hafter, List.nil_append]
  · have hne : ¬ t.lane = id := fun h => he h.symm
    have hne' : ¬ x.lane = id := fun h => hne (hx.symm.trans h)
    rw [if_neg he, stagesOf_append, stagesOf_cons, if_neg hne', stagesOf_append, stagesOf_cons,
      if_neg hne]

/-- After the only task of a lane was removed, the lane has none, and other lanes are left alone. -/
theorem stagesOf_remove {stage : LaneStage}
    (only : stagesOf t.lane (before ++ t :: after) = [stage]) :
    stagesOf id (before ++ after)
      = if id = t.lane then [] else stagesOf id (before ++ t :: after) := by
  by_cases he : id = t.lane
  · subst he
    obtain ⟨-, hbefore, hafter⟩ := stagesOf_around only
    rw [if_pos rfl, stagesOf_append, hbefore, hafter, List.nil_append]
  · have hne : ¬ t.lane = id := fun h => he h.symm
    rw [if_neg he, stagesOf_append, stagesOf_append, stagesOf_cons, if_neg hne]

end Tasks

/-! ## One event -/

namespace LaneWork

open LaneView

variable {w : LaneWork} {t : LaneTask} {id : ConnectionId} {item : Inbound} {place : Nat}
  {lanes : Lanes} {lane : Option Lane} {tasks : List LaneTask} {stages : List LaneStage}
  {begun handled : List Inbound}

/-- An arrival makes the lane of its connection longer, gives it a task if it had none, and concerns
nobody else. -/
theorem view_arrive : (w.arrive item).view id
    = if id = item.connection
      then
        { w.view id with
          lane := some ⟨((w.view id).lane.getD .idle).queue ++ [item], true⟩
          stages :=
            if ((w.view id).lane.getD .idle).running then (w.view id).stages
            else (w.view id).stages ++ [.due]
          arrived := (w.view id).arrived ++ [item] }
      else w.view id := by
  have hlane := Lanes.lane?_enqueue w.lanes item id
  have harrived := itemsOf_append w.arrived [item] id item.connection
    fun i hi => by rw [List.mem_singleton.mp hi]
  have hstart : (w.lanes.enqueue item).1 = !((w.lanes.lane? item.connection).getD .idle).running := rfl
  by_cases he : id = item.connection
  · subst he
    have hdue : stagesOf item.connection [⟨item.connection, .due⟩] = [.due] := by
      rw [stagesOf_cons, if_pos rfl]
      rfl
    rw [if_pos rfl] at hlane harrived ⊢
    -- a lane that runs takes the item along; one that does not gets a task
    cases hrunning : ((w.lanes.lane? item.connection).getD .idle).running with
    | true =>
      rw [hrunning] at hstart
      simp [view, arrive, hlane, harrived, hstart, hrunning]
    | false =>
      rw [hrunning] at hstart
      simp [view, arrive, hlane, harrived, hstart, hrunning, stagesOf_append, hdue]
  · have hdue : stagesOf id [⟨item.connection, .due⟩] = [] := by
      rw [stagesOf_cons, if_neg fun h => he h.symm]
      rfl
    rw [if_neg he] at hlane harrived ⊢
    have hstages : stagesOf id (w.arrive item).tasks = stagesOf id w.tasks := by
      unfold arrive
      dsimp only
      split
      · rw [stagesOf_append, hdue, List.append_nil]
      · rfl
    simp only [view, hstages]
    simp only [arrive, hlane, harrived]

/-- From `w` to `w'`, the task of the connection `id` has gone on, and the connection is then as given.  No
other connection is concerned. -/
def Moves (w : LaneWork) (id : ConnectionId) (v : LaneView) (w' : LaneWork) : Prop :=
  ∀ i, w'.view i = if i = id then v else w.view i

/-- Whoever changes the lane and the task of a connection, and begins and handles items of it, moves the
connection and no other. -/
theorem moves (lanes : Lanes) (begun handled : List Inbound)
    (hlane : ∀ i, lanes.lane? i = if i = id then lane else w.lanes.lane? i)
    (hstages : ∀ i, stagesOf i tasks = if i = id then stages else stagesOf i w.tasks)
    (hbegun : ∀ item ∈ begun, item.connection = id)
    (hhandled : ∀ item ∈ handled, item.connection = id) :
    w.Moves id
      ⟨lane, stages, (w.view id).arrived, (w.view id).begun ++ begun, (w.view id).handled ++ handled,
        (w.view id).turns + 1⟩
      ⟨lanes, tasks, w.arrived, w.begun ++ begun, w.handled ++ handled, w.turned ++ [id]⟩ := by
  intro i
  simp only [view, hlane, hstages, itemsOf_append _ _ _ id hbegun, itemsOf_append _ _ _ id hhandled,
    turnsOf, List.count_append]
  by_cases he : i = id
  · subst he
    simp
  · simp [he, Ne.symm he]

/-- After an arrival, a connection is attended to if it was before. -/
theorem attended_arrive (h : (w.view id).Attended) : ((w.arrive item).view id).Attended := by
  rw [view_arrive]
  split
  · cases h with
    | idle lane stages arrived begun turns =>
      refine @Attended.due _ item [] (by simp [lane, Lane.idle]) ?_ ?_ begun turns
      · simp [lane, Lane.idle, stages]
      · simp [arrived]
    | @due first rest lane stages arrived begun turns =>
      refine @Attended.due _ first (rest ++ [item]) (by simp [lane]) ?_ ?_ begun turns
      · simp [lane, stages]
      · simp [arrived]
    | @submitted first rest lane stages arrived begun turns =>
      refine @Attended.submitted _ first (rest ++ [item]) (by simp [lane]) ?_ ?_ begun turns
      · simp [lane, stages]
      · simp [arrived]
    | @handling first queue lane stages arrived begun turns =>
      refine @Attended.handling _ first (queue ++ [item]) (by simp [lane]) ?_ ?_ begun turns
      · simp [lane, stages]
      · simp [arrived]
    | @settling queue lane stages arrived begun turns =>
      refine @Attended.settling _ (queue ++ [item]) (by simp [lane]) ?_ ?_ begun turns
      · simp [lane, stages]
      · simp [arrived]
  · exact h

/-- The stage of a task is among those of its lane. -/
theorem stages_ne_nil {t : LaneTask} (ht : w.tasks[place]? = some t) :
    (w.view t.lane).stages ≠ [] := by
  obtain ⟨before, after, htasks, -, -⟩ := exists_split ht
  simp [view, htasks, stagesOf_append, stagesOf_cons]

/-- If a lane has one task only, that is the one at hand. -/
theorem stage_eq {stage stage' : LaneStage} (hstages : (w.view id).stages = [stage'])
    (ht : w.tasks[place]? = some ⟨id, stage⟩) : stage' = stage := by
  obtain ⟨before, after, htasks, -, -⟩ := exists_split ht
  have hone : stagesOf id (before ++ ⟨id, stage⟩ :: after) = [stage'] := by
    rw [← htasks]
    exact hstages
  exact (stagesOf_around (t := ⟨id, stage⟩) hone).1

/-- Whatever has arrived on a lane has come from its connection. -/
theorem connection_of_arrived {item : Inbound} (h : item ∈ (w.view id).arrived) :
    item.connection = id := of_decide_eq_true (List.mem_filter.mp h).2

/-- The task of an attended connection goes on: so does the connection, and no other is concerned. -/
theorem moves_advance {stage : LaneStage} (h : (w.view id).Attended)
    (ht : w.tasks[place]? = some ⟨id, stage⟩) :
    ∃ v, w.Moves id v (w.advance place) ∧ (w.view id).Advances stage v := by
  obtain ⟨before, after, htasks, herase, hset⟩ := exists_split ht
  -- only the lane of the task has other tasks afterwards
  have replaced : ∀ {stage'} stage'', (w.view id).stages = [stage'] → ∀ i,
      stagesOf i (w.tasks.set place ⟨id, stage''⟩)
        = if i = id then [stage''] else stagesOf i w.tasks := by
    intro stage' stage'' hstages i
    rw [hset, htasks]
    exact stagesOf_replace (t := ⟨id, stage⟩) rfl (by rw [← htasks]; exact hstages)
  have removed : ∀ {stage'}, (w.view id).stages = [stage'] → ∀ i,
      stagesOf i (w.tasks.eraseIdx place) = if i = id then [] else stagesOf i w.tasks := by
    intro stage' hstages i
    rw [herase, htasks]
    exact stagesOf_remove (t := ⟨id, stage⟩) (by rw [← htasks]; exact hstages)
  have kept : ∀ i, w.lanes.lane? i = if i = id then (w.view id).lane else w.lanes.lane? i := by
    intro i
    split
    · rename_i he
      rw [he]
      rfl
    · rfl
  -- whatever is in hand or waits has come from the connection
  have own : ∀ {item rest}, (w.view id).arrived = (w.view id).handled ++ item :: rest →
      ∀ i ∈ [item], i.connection = id := by
    intro item rest harrived i hi
    obtain rfl := List.mem_singleton.mp hi
    apply connection_of_arrived
    rw [harrived]
    exact List.mem_append_right _ List.mem_cons_self
  cases h with
  | idle _ stages _ _ _ => exact absurd stages (stages_ne_nil ht)
  | due _ stages _ _ _ =>
    obtain rfl := stage_eq stages ht
    refine ⟨_, ?_, .submit⟩
    have hmoves := moves (w := w) w.lanes [] [] kept (replaced .submitted stages) (by simp) (by simp)
    simp only [List.append_nil] at hmoves
    simp only [advance, ht]
    exact hmoves
  | @submitted item rest lane stages arrived _ _ =>
    obtain rfl := stage_eq stages ht
    have htake := Lanes.take_of_lane? lane
    refine ⟨_, ?_, .take lane⟩
    have hmoves := moves (w := w) (w.lanes.put id ⟨rest, true⟩) [item] []
      (fun i => Lanes.lane?_put) (replaced (.handling item) stages) (own arrived) (by simp)
    simp only [List.append_nil] at hmoves
    simp only [advance, ht, htake]
    exact hmoves
  | @handling item queue _ stages arrived _ _ =>
    obtain rfl := stage_eq stages ht
    refine ⟨_, ?_, .handle⟩
    have hmoves := moves (w := w) w.lanes [] [item] kept (replaced .settling stages) (by simp)
      (own arrived)
    simp only [List.append_nil] at hmoves
    simp only [advance, ht]
    exact hmoves
  | @settling queue lane stages _ _ _ =>
    obtain rfl := stage_eq stages ht
    cases queue with
    | nil =>
      have hsettle := Lanes.settle_of_empty lane
      refine ⟨_, ?_, .leave lane⟩
      have hmoves := moves (w := w) (w.lanes.drop id) [] [] (fun i => Lanes.lane?_drop)
        (removed stages) (by simp) (by simp)
      simp only [List.append_nil] at hmoves
      simp only [advance, ht, hsettle]
      exact hmoves
    | cons item rest =>
      have hsettle := Lanes.settle_of_lane? lane
      refine ⟨_, ?_, .again lane⟩
      have hmoves := moves (w := w) w.lanes [] [] kept (replaced .due stages) (by simp) (by simp)
      simp only [List.append_nil] at hmoves
      simp only [advance, ht, hsettle]
      exact hmoves

/-- A task that a lane has is its only one. -/
theorem stages_eq {t : LaneTask} (h : (w.view t.lane).Attended) (ht : w.tasks[place]? = some t) :
    (w.view t.lane).stages = [t.stage] := by
  obtain ⟨stage, hstage⟩ : ∃ stage, (w.view t.lane).stages = [stage] := by
    have hlength := h.inOrder.alone
    cases hstages : (w.view t.lane).stages with
    | nil => exact absurd hstages (stages_ne_nil ht)
    | cons stage rest =>
      rw [hstages] at hlength
      obtain rfl := List.length_eq_zero_iff.mp (Nat.le_zero.mp (Nat.le_of_succ_le_succ hlength))
      exact ⟨stage, rfl⟩
  rw [hstage, stage_eq hstage ht]

/-- After the turn of a task, a connection is attended to if it was before, and so was that of the task. -/
theorem attended_advance (htask : ∀ t, w.tasks[place]? = some t → (w.view t.lane).Attended)
    (h : (w.view id).Attended) : ((w.advance place).view id).Attended := by
  cases ht : w.tasks[place]? with
  | none =>
    rw [advance, ht]
    exact h
  | some t =>
    obtain ⟨v, hmoves, hadvances⟩ := moves_advance (htask t ht) ht
    rw [hmoves id]
    split
    · exact (htask t ht).advances (stages_eq (htask t ht) ht) hadvances
    · exact h

/-! ## Many events -/

end LaneWork

/-! ## Lanes of the chain

The stages go through the same steps, and nothing comes in between there. -/

namespace Chain

variable {ctx : ChainContext} {c : Chain} {w : LaneWork} {id : ConnectionId} {item : Inbound}
  {now place : Nat}

/-- A pool that takes tasks takes those of lanes. -/
theorem lanes_schedule (hopen : c.pool.isShutDown = false) : (c.schedule now id).2.lanes = c.lanes := by
  simp [schedule, Pool.submit, Pool.draw, Pool.enter, hopen]

/-- The logic stage puts an item on its lane. -/
theorem lanes_route (hwork : c.takesWork = true) (hopen : c.pool.isShutDown = false)
    (hlanes : w.lanes = c.lanes) : (c.route ctx item).2.lanes = (w.arrive item).lanes := by
  have harrive : (w.arrive item).lanes = (c.lanes.enqueue item).2 := by rw [LaneWork.arrive, hlanes]
  unfold route
  simp only [hwork]
  rw [if_neg (by decide), harrive]
  split
  · exact lanes_schedule hopen
  · rfl

/-- A task on the pool takes the first item of its lane, handles it, and settles the lane. -/
theorem lanes_runLane {rest : List Inbound} (hopen : c.pool.isShutDown = false)
    (hlanes : w.lanes = c.lanes) (hlane : c.lanes.lane? id = some ⟨item :: rest, true⟩)
    (ht : w.tasks[place]? = some ⟨id, .submitted⟩) :
    (c.runLane ctx id).lanes = (((w.advance place).advance place).advance place).lanes := by
  have hlt : place < w.tasks.length := (List.getElem?_eq_some_iff.mp ht).1
  have htake : c.lanes.take id = (some item, c.lanes.put id ⟨rest, true⟩) := Lanes.take_of_lane? hlane
  have hleft : (c.lanes.put id ⟨rest, true⟩).lane? id = some ⟨rest, true⟩ := by
    rw [Lanes.lane?_put, if_pos rfl]
  -- both sides come to settling the lane without the item
  have hsettled : (((w.advance place).advance place).advance place).lanes
      = ((c.lanes.put id ⟨rest, true⟩).settle id).2 := by
    have hfirst : w.advance place
        = { w with
            lanes := c.lanes.put id ⟨rest, true⟩
            tasks := w.tasks.set place ⟨id, .handling item⟩
            begun := w.begun ++ [item]
            turned := w.turned ++ [id] } := by
      simp only [LaneWork.advance, ht, hlanes, htake]
    rw [hfirst]
    cases rest with
    | nil => simp [LaneWork.advance, hlt, Lanes.settle_of_empty hleft]
    | cons next rest => simp [LaneWork.advance, hlt, Lanes.settle_of_lane? hleft]
  rw [hsettled]
  unfold runLane
  simp only [htake]
  split
  · exact lanes_schedule hopen
  · rfl

end Chain

end FlightRelay

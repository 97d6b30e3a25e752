import FlightRelay.Proofs.Pool.Turns

/-!
# Runs of a pool

A journal is a pool with all that happened to tasks since it was started.  The numbers in use are those
of the threads at any time, and so every action comes down to turns: what every turn keeps holds at the
end of every run.
-/

namespace FlightRelay.Pool

variable {α : Type}

/-! ## Numbers -/

/-- The numbers stay those of the threads. -/
theorem Outline.Numbered.turn {a : Action α} {o o' : Outline α} {l : Log α} (h : o.Numbered)
    (ht : Turn a o o' l) : o'.Numbered := by
  cases ht with
  | idle => exact h
  | drawn => exact ⟨h.ordered, h.threads⟩
  | started =>
    have hgrown := (Ids.acquire_perm h.ordered).trans (h.threads.cons _)
    refine ⟨Ids.ordered_acquire h.ordered, ?_⟩
    rw [List.map_append]
    exact hgrown.trans (List.perm_append_singleton _ _).symm
  | queued =>
    refine ⟨h.ordered, ?_⟩
    rw [wakeFirst_ids]
    exact h.threads
  | parked => exact ⟨h.ordered, h.threads⟩
  | ended among =>
    refine ⟨h.ordered, ?_⟩
    simpa [among.eq] using h.threads
  | drained among =>
    refine ⟨h.ordered, ?_⟩
    rw [wakeFirst_ids]
    simpa [among.eq] using h.threads
  | took own among =>
    refine ⟨h.ordered, ?_⟩
    simpa [among.eq] using h.threads
  | slept own among =>
    -- the thread lies down behind the others, so only their order is another
    have hmoved := (among.perm.trans (List.perm_append_singleton _ _).symm).map Thread.id
    refine ⟨h.ordered, (h.threads.trans hmoved).trans ?_⟩
    simp
  | @retired _ _ id _ _ _ own among =>
    have hids := (h.threads.trans (among.perm.map Thread.id)).erase id
    refine ⟨Ids.ordered_release h.ordered, ?_⟩
    rwa [List.map_cons, List.erase_cons_head] at hids
  | shut =>
    refine ⟨h.ordered, ?_⟩
    rw [wakeFirst_ids]
    exact h.threads

/-- Only a shutdown shuts the pool down. -/
theorem Turn.isShutDown_eq {a : Action α} {o o' : Outline α} {l : Log α} (ht : Turn a o o' l)
    (ha : a ≠ .shutDown) : o'.isShutDown = o.isShutDown := by
  cases ht with
  | shut => exact absurd rfl ha
  | _ => rfl

/-! ## Journals -/

/-- A pool with all that happened to tasks. -/
structure Journal (α : Type) where
  pool : Pool α
  log : Log α

namespace Journal

/-- A pool that was just started. -/
def start (limits : Limits) : Journal α := ⟨.start limits, {}⟩

/-- An action is carried out, and noted. -/
def step (j : Journal α) (a : Action α) : Journal α := ⟨j.pool.act a, j.log ++ j.pool.log a⟩

/-- Actions are carried out one after another. -/
def run (j : Journal α) (actions : List (Action α)) : Journal α := actions.foldl step j

theorem run_append (j : Journal α) (before after : List (Action α)) :
    j.run (before ++ after) = (j.run before).run after := List.foldl_append

section Runs

variable {j : Journal α} {I : Outline α → Log α → Prop}

/-- An action is a turn, or, as a submission, a turn under the number that was drawn for it. -/
theorem step_turns (hj : j.pool.outline.Numbered) (a : Action α) : ∃ m, (j.step a).log = j.log ++ m ∧
    (Turn a j.pool.outline (j.step a).pool.outline m ∨
      ∃ label work now, Turn (.enter j.pool.nextSeq label work now)
        { j.pool.outline with nextSeq := j.pool.nextSeq + 1 } (j.step a).pool.outline m) := by
  refine ⟨_, rfl, ?_⟩
  by_cases ha : ∃ label work now, a = .submit label work now
  · obtain ⟨label, work, now, rfl⟩ := ha
    have hdraw : j.pool.draw.2.outline.Numbered := hj.turn .drawn
    exact .inr ⟨label, work, now, turn_enter hdraw j.pool.nextSeq label work now⟩
  · exact .inl (turn_act hj fun label work now he => ha ⟨label, work, now, he⟩)

/-- The numbers are those of the threads after every action. -/
theorem numbered_step (hj : j.pool.outline.Numbered) (a : Action α) :
    (j.step a).pool.outline.Numbered := by
  obtain ⟨m, -, hturn | ⟨label, work, now, hturn⟩⟩ := step_turns hj a
  · exact hj.turn hturn
  · exact (hj.turn .drawn).turn hturn

/-- What every turn keeps is kept by every run. -/
theorem run_keeps (hkeep : ∀ {a o o' l m}, o.Numbered → I o l → Turn a o o' m → I o' (l ++ m))
    (hj : j.pool.outline.Numbered) (h : I j.pool.outline j.log) (actions : List (Action α)) :
    (j.run actions).pool.outline.Numbered ∧ I (j.run actions).pool.outline (j.run actions).log := by
  induction actions generalizing j with
  | nil => exact ⟨hj, h⟩
  | cons a actions ih =>
    refine ih (numbered_step hj a) ?_
    obtain ⟨m, hlog, hturn | ⟨label, work, now, hturn⟩⟩ := step_turns hj a
    · rw [hlog]
      exact hkeep hj h hturn
    · have hdraw := hkeep hj h .drawn
      rw [Log.append_empty] at hdraw
      rw [hlog]
      exact hkeep (hj.turn .drawn) hdraw hturn

/-- What every turn and every submission keeps is kept by a run in which no submission is taken apart. -/
theorem run_keeps_atomic
    (hkeep : ∀ {a o o' l m}, a.isAtomic = true → o.Numbered → I o l → Turn a o o' m → I o' (l ++ m))
    (hsubmit : ∀ {o o' l m label work now}, o.Numbered → I o l →
      Turn (.enter o.nextSeq label work now) { o with nextSeq := o.nextSeq + 1 } o' m → I o' (l ++ m))
    (hj : j.pool.outline.Numbered) (h : I j.pool.outline j.log) {actions : List (Action α)}
    (hatomic : ∀ a ∈ actions, a.isAtomic = true) :
    I (j.run actions).pool.outline (j.run actions).log := by
  induction actions generalizing j with
  | nil => exact h
  | cons a actions ih =>
    have hothers : ∀ b ∈ actions, b.isAtomic = true := by
      intro b hb
      exact hatomic b (List.mem_cons_of_mem a hb)
    refine ih (numbered_step hj a) ?_ hothers
    obtain ⟨m, hlog, hturn | ⟨label, work, now, hturn⟩⟩ := step_turns hj a
    · rw [hlog]
      exact hkeep (hatomic a List.mem_cons_self) hj h hturn
    · rw [hlog]
      exact hsubmit hj h hturn

/-- A new pool has neither threads nor numbers in use. -/
theorem numbered_start (limits : Limits) : (start limits : Journal α).pool.outline.Numbered :=
  ⟨Ids.ordered_empty, .nil⟩

/-! ## Shutting down -/

/-- A pool is shut down exactly from the shutdown on. -/
theorem isShutDown_step (hj : j.pool.outline.Numbered) (a : Action α) :
    (j.step a).pool.isShutDown = true ↔ j.pool.isShutDown = true ∨ .shutDown = a := by
  by_cases ha : Action.shutDown = a
  · subst ha
    refine iff_of_true ?_ (.inr rfl)
    show j.pool.shutDown.isShutDown = true
    unfold shutDown
    split
    · assumption
    · rfl
  · have hsame : (j.step a).pool.outline.isShutDown = j.pool.outline.isShutDown := by
      obtain ⟨m, -, hturn | ⟨label, work, now, hturn⟩⟩ := step_turns hj a
      · exact hturn.isShutDown_eq fun he => ha he.symm
      · exact hturn.isShutDown_eq nofun
    rw [show (j.step a).pool.isShutDown = j.pool.isShutDown from hsame]
    exact (or_iff_left ha).symm

/-- A pool takes no more tasks once it was shut down. -/
theorem isShutDown_run (hj : j.pool.outline.Numbered) (actions : List (Action α)) :
    (j.run actions).pool.isShutDown = true ↔ j.pool.isShutDown = true ∨ .shutDown ∈ actions := by
  induction actions generalizing j with
  | nil => simp [run]
  | cons a actions ih =>
    have hstep := ih (numbered_step hj a)
    rw [isShutDown_step hj a, or_assoc, ← List.mem_cons] at hstep
    exact hstep

end Runs

end Journal

end FlightRelay.Pool

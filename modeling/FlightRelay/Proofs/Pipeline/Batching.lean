import FlightRelay.Pipeline.WriteBuffers
import FlightRelay.Proofs.Entries
import FlightRelay.Proofs.Pipeline.Framing
import Mathlib.Data.List.Induction

/-!
# Batches do not show

A client reads the bytes that were written to its socket, and cannot tell when they were written.
Whatever happens to the writers, what was written to the socket of a connection and what waits in its
buffer are, one behind the other, the frames that were addressed to the connection since its writer was
attached; and an immediate frame, a tick and a close leave nothing waiting.
-/

namespace FlightRelay

namespace WriteEvent

/-- The connection has the same writer after the event, or none as before. -/
def Keeps (id : ConnectionId) (e : WriteEvent) : Prop := e ≠ .attach id true ∧ e ≠ .close id

/-- The event leaves nothing waiting for the connection. -/
def Flushes (id : ConnectionId) (e : WriteEvent) : Prop := e = .tick ∨ ∃ body, e = .frame id body true

/-- The body that the event addresses to the connection. -/
def bodyFor? (id : ConnectionId) : WriteEvent → Option (List UInt8)
  | .frame target body _ => if target = id then some body else none
  | .attach _ _ | .tick | .close _ => none

/-- The events `since` are those since the writer of the connection was attached. -/
def Since (id : ConnectionId) (es since : List WriteEvent) : Prop :=
  ∃ before, es = before ++ .attach id true :: since ∧ ∀ e ∈ since, e.Keeps id

/-- The frames that are addressed to the connection, one behind the other. -/
def framesFor (id : ConnectionId) (es : List WriteEvent) : List UInt8 :=
  (es.filterMap (bodyFor? id)).foldl Frame.append []

variable {id : ConnectionId} {e : WriteEvent} {es since : List WriteEvent}

/-- One more event adds its frame, if it has one for the connection. -/
theorem framesFor_concat : framesFor id (es ++ [e])
    = (e.bodyFor? id).elim (framesFor id es) (Frame.append (framesFor id es)) := by
  rw [framesFor, List.filterMap_append, List.foldl_append, ← framesFor, List.filterMap_cons]
  cases e.bodyFor? id <;> rfl

/-! ## Since a writer was attached -/

/-- Nothing has happened since a connection was attached just now. -/
theorem since_attach : Since id (es ++ [.attach id true]) [] :=
  ⟨es, rfl, fun _ h => absurd h List.not_mem_nil⟩

/-- An event that keeps the connection belongs to what happened since. -/
theorem Since.concat (h : Since id es since) (hkeeps : e.Keeps id) :
    Since id (es ++ [e]) (since ++ [e]) := by
  obtain ⟨before, rfl, hsince⟩ := h
  refine ⟨before, by rw [List.append_assoc, List.cons_append], ?_⟩
  intro d hd
  rcases List.mem_append.mp hd with hd | hd
  · exact hsince d hd
  · exact List.mem_singleton.mp hd ▸ hkeeps

/-- The last event attached the writer, or it was attached before that. -/
theorem Since.of_concat (h : Since id (es ++ [e]) since) :
    e = .attach id true ∨ e.Keeps id ∧ ∃ earlier, Since id es earlier := by
  obtain ⟨before, hsplit, hsince⟩ := h
  rcases List.eq_nil_or_concat since with rfl | ⟨earlier, d, rfl⟩
  · exact .inl (List.cons.inj (List.append_inj_right' hsplit rfl)).1
  · rw [List.concat_eq_append] at hsplit hsince
    rw [← List.cons_append, ← List.append_assoc] at hsplit
    obtain ⟨rfl, hlast⟩ := List.append_inj' hsplit rfl
    obtain rfl := (List.cons.inj hlast).1
    exact .inr ⟨hsince e (by simp), earlier, before, rfl,
      fun d hd => hsince d (List.mem_append_left _ hd)⟩

/-- There is one last time at which the writer was attached. -/
theorem Since.unique {later : List WriteEvent} (h : Since id es since) (h' : Since id es later) :
    since = later := by
  obtain ⟨before, rfl, hsince⟩ := h
  obtain ⟨before', hsplit, hlater⟩ := h'
  rcases List.append_eq_append_iff.mp hsplit with ⟨between, -, h⟩ | ⟨between, -, h⟩
  all_goals
    rcases List.cons_eq_append_iff.mp h with ⟨-, h⟩ | ⟨inner, -, rfl⟩
  · exact (List.cons.inj h).2.symm
  · exact absurd rfl (hsince _ (by simp)).1
  · exact (List.cons.inj h).2
  · exact absurd rfl (hlater _ (by simp)).1

/-! ## One connection alone -/

/-- What becomes of the writer of the connection. -/
def onWriter (id : ConnectionId) : WriteEvent → Option Writer → Option Writer
  | .attach target live, w => if target = id ∧ live = true then some ⟨id, [], []⟩ else w
  | .frame target body immediate, w =>
    if target = id then w.map fun w => if immediate then (w.append body).flush else w.append body
    else w
  | .tick, w => w.map Writer.flush
  | .close target, w => if target = id then none else w

/-- An event that keeps the writer puts the body that it addresses to the connection behind what is on
the way, and takes nothing back that was written. -/
theorem onWriter_of_keeps (h : e.Keeps id) (w : Writer) :
    ∃ w', e.onWriter id (some w) = some w' ∧
      w'.written ++ w'.buffer = (e.bodyFor? id).elim (w.written ++ w.buffer)
        (Frame.append (w.written ++ w.buffer)) ∧
      w.written <+: w'.written ∧ (e.Flushes id → w'.buffer = []) := by
  obtain ⟨hattach, hclose⟩ := h
  cases e with
  | attach target live =>
    have hother : ¬ (target = id ∧ live = true) := by
      rintro ⟨rfl, rfl⟩
      exact hattach rfl
    refine ⟨w, if_neg hother, rfl, List.prefix_rfl, ?_⟩
    rintro (h | ⟨_, h⟩) <;> cases h
  | frame target body immediate =>
    -- the frame is appended to its own writer, and an immediate one is flushed at once
    by_cases hid : target = id
    · have hbody : (WriteEvent.frame target body immediate).bodyFor? id = some body := if_pos hid
      have hon : (WriteEvent.frame target body immediate).onWriter id (some w)
          = some (if immediate then (w.append body).flush else w.append body) := if_pos hid
      rw [hbody, hon]
      refine ⟨_, rfl, ?_, ?_, ?_⟩
      · cases immediate <;> simp [Writer.append, Writer.flush, Frame.append]
      · cases immediate
        · exact List.prefix_rfl
        · exact List.prefix_append _ _
      · rintro (h | ⟨_, h⟩)
        · cases h
        · obtain ⟨-, -, rfl⟩ := WriteEvent.frame.inj h
          rfl
    · have hbody : (WriteEvent.frame target body immediate).bodyFor? id = none := if_neg hid
      have hon : (WriteEvent.frame target body immediate).onWriter id (some w) = some w := if_neg hid
      rw [hbody, hon]
      refine ⟨w, rfl, rfl, List.prefix_rfl, ?_⟩
      rintro (h | ⟨_, h⟩)
      · cases h
      · exact absurd (WriteEvent.frame.inj h).1 hid
  | tick => exact ⟨w.flush, rfl, List.append_nil _, List.prefix_append _ _, fun _ => rfl⟩
  | close target =>
    have hother : target ≠ id := by
      rintro rfl
      exact hclose rfl
    refine ⟨w, if_neg hother, rfl, List.prefix_rfl, ?_⟩
    rintro (h | ⟨_, h⟩) <;> cases h

/-- An event that keeps the writer gives none to a connection without one. -/
theorem onWriter_none (h : e.Keeps id) : e.onWriter id none = none := by
  cases e with
  | attach target live =>
    refine if_neg ?_
    rintro ⟨rfl, rfl⟩
    exact h.1 rfl
  | frame target body immediate => exact ite_self _
  | tick => rfl
  | close target => exact ite_self _

/-- An event keeps a connection, or attaches it anew, or closes it. -/
theorem keeps_cases (id : ConnectionId) (e : WriteEvent) :
    e.Keeps id ∨ e = .attach id true ∨ e = .close id := by
  unfold Keeps
  by_cases hattach : e = .attach id true
  · exact .inr (.inl hattach)
  · by_cases hclose : e = .close id
    · exact .inr (.inr hclose)
    · exact .inl ⟨hattach, hclose⟩

/-- To flush a connection keeps it. -/
theorem Flushes.keeps (h : e.Flushes id) : e.Keeps id := by
  rcases h with rfl | ⟨body, rfl⟩ <;> exact ⟨by simp, by simp⟩

end WriteEvent

namespace WriteBuffers

open WriteEvent

variable {b : WriteBuffers} {id : ConnectionId} {w : Writer} {es since : List WriteEvent}

/-- What there is after a sequence of events. -/
def run (b : WriteBuffers) (es : List WriteEvent) : WriteBuffers := es.foldl step b

theorem run_concat (b : WriteBuffers) (es : List WriteEvent) (e : WriteEvent) :
    b.run (es ++ [e]) = (b.run es).step e := List.foldl_concat _ _ _ _

/-- To close a connection flushes it, and takes it out. -/
theorem step_close (b : WriteBuffers) (id : ConnectionId) : b.step (.close id) =
    match b.find? id with
    | some w => { b.without id with closed := w.flush :: b.closed }
    | none => b := rfl

/-! ## Looking up after an event -/

theorem connection_of_find? (h : b.find? id = some w) : w.connection = id := by
  simpa using List.find?_some h

/-- A change of one writer leaves the others as they are. -/
theorem find?_modify {k : Writer → Writer} (keeps : ∀ w, (k w).connection = w.connection)
    (target : ConnectionId) :
    (b.modify target k).find? id = if target = id then (b.find? id).map k else b.find? id := by
  refine (find?_map_of_keeps fun w => ?_).trans ?_
  · split
    · exact keeps w
    · rfl
  · rw [← find?]
    cases h : b.find? id with
    | none => split <;> rfl
    | some w =>
      obtain rfl := connection_of_find? h
      simp only [Option.map_some, eq_comm]
      split <;> rfl

theorem find?_without (target : ConnectionId) :
    (b.without target).find? id = if id = target then none else b.find? id := find?_filter_ne

theorem modify_of_find?_none {k : Writer → Writer} (h : b.find? id = none) : b.modify id k = b := by
  have hsame : b.writers.map (fun w => if w.connection = id then k w else w) = b.writers := by
    refine (List.map_congr_left fun w hw => ?_).trans (List.map_id _)
    have hne := List.find?_eq_none.mp h w hw
    exact if_neg (by simpa using hne)
  rw [modify, hsame]

/-- What an event does to the writer of a connection it does to that alone, whatever the others are. -/
theorem find?_step (b : WriteBuffers) (e : WriteEvent) (id : ConnectionId) :
    (b.step e).find? id = e.onWriter id (b.find? id) := by
  cases e with
  | attach target live =>
    cases live with
    | false => simp [step, onWriter]
    | true =>
      have hwithout : (b.without target).find? id = if id = target then none else b.find? id :=
        find?_without target
      have happend : (b.step (.attach target true)).find? id
          = ((b.without target).find? id).or ([⟨target, [], []⟩].find? fun w => w.connection = id) :=
        List.find?_append
      rw [happend, hwithout, List.find?_singleton]
      by_cases he : target = id
      · subst he
        simp [onWriter]
      · simp [onWriter, he, Ne.symm he]
  | frame target body immediate =>
    refine find?_modify (fun w => ?_) target
    cases immediate <;> rfl
  | tick => exact find?_map_of_keeps fun _ => rfl
  | close target =>
    rw [step_close]
    cases h : b.find? target with
    | none =>
      by_cases he : target = id
      · exact (he ▸ h).trans (if_pos he).symm
      · exact (if_neg he).symm
    | some w =>
      refine (find?_without target).trans ?_
      simp only [onWriter, eq_comm]

/-! ## Every writer is found -/

/-- No connection ever has two writers. -/
theorem nodup_step (h : (b.writers.map Writer.connection).Nodup) (e : WriteEvent) :
    ((b.step e).writers.map Writer.connection).Nodup := by
  have hmap : ∀ k : Writer → Writer, (∀ w, (k w).connection = w.connection) →
      ((b.writers.map k).map Writer.connection).Nodup := by
    intro k keeps
    rwa [List.map_map, show Writer.connection ∘ k = Writer.connection from funext keeps]
  have hwithout : ∀ target, ((b.without target).writers.map Writer.connection).Nodup :=
    fun target => h.sublist (List.filter_sublist.map _)
  cases e with
  | attach target live =>
    cases live with
    | false => exact h
    | true =>
      show (((b.without target).writers ++ [(⟨target, [], []⟩ : Writer)]).map Writer.connection).Nodup
      rw [List.map_append]
      refine List.nodup_append.mpr ⟨hwithout target, by simp, ?_⟩
      rintro _ hw _ htarget rfl
      obtain ⟨w, hmem, rfl⟩ := List.mem_map.mp hw
      have hne : w.connection ≠ target := of_decide_eq_true (List.mem_filter.mp hmem).2
      exact hne (List.mem_singleton.mp htarget)
  | frame target body immediate =>
    refine hmap _ fun w => ?_
    split
    · cases immediate <;> rfl
    · rfl
  | tick => exact hmap _ fun _ => rfl
  | close target =>
    rw [step_close]
    cases b.find? target with
    | none => exact h
    | some w => exact hwithout target

/-- No connection has two writers. -/
theorem nodup_run (es : List WriteEvent) :
    ((empty.run es).writers.map Writer.connection).Nodup := by
  induction es using List.reverseRecOn with
  | nil => exact List.nodup_nil
  | append_singleton es e ih =>
    rw [run_concat]
    exact nodup_step ih e

/-! ## What a client gets -/

/-- A connection without a writer, or one with a writer that has passed on everything since it was
attached. -/
inductive Standing (id : ConnectionId) (es : List WriteEvent) : Option Writer → Prop
  | detached (h : ∀ since, ¬ Since id es since) : Standing id es none
  | attached {w : Writer} {since : List WriteEvent} (h : Since id es since)
      (content : w.written ++ w.buffer = framesFor id since) : Standing id es (some w)

/-- Of every connection, what was written and what waits is what was meant for it since it was attached. -/
theorem standing_run (es : List WriteEvent) (id : ConnectionId) :
    Standing id es ((empty.run es).find? id) := by
  induction es using List.reverseRecOn with
  | nil =>
    refine .detached ?_
    rintro since ⟨before, hsplit, -⟩
    exact absurd hsplit (by simp)
  | append_singleton es e ih =>
    rw [run_concat, find?_step]
    generalize (empty.run es).find? id = found at ih
    -- the last event keeps what there was, begins anew, or ends it
    rcases keeps_cases id e with hkeeps | rfl | rfl
    · cases ih with
      | detached h =>
        rw [onWriter_none hkeeps]
        refine .detached fun since hsince => ?_
        rcases hsince.of_concat with rfl | ⟨-, earlier, hearlier⟩
        · exact hkeeps.1 rfl
        · exact h earlier hearlier
      | attached hsince content =>
        obtain ⟨w', hon, hcontent, -, -⟩ := onWriter_of_keeps hkeeps _
        rw [hon]
        refine .attached (hsince.concat hkeeps) ?_
        rw [hcontent, content, framesFor_concat]
    · have hon : (WriteEvent.attach id true).onWriter id found = some ⟨id, [], []⟩ :=
        if_pos ⟨rfl, rfl⟩
      rw [hon]
      exact .attached since_attach rfl
    · have hon : (WriteEvent.close id).onWriter id found = none := if_pos rfl
      rw [hon]
      refine .detached fun since hsince => ?_
      rcases hsince.of_concat with h | ⟨hkeeps, -⟩
      · cases h
      · exact hkeeps.2 rfl

/-- A connection whose writer was attached has it still, and all that was addressed to it since is written
or waits. -/
theorem find?_of_since (h : Since id es since) :
    ∃ w, (empty.run es).find? id = some w ∧ w.written ++ w.buffer = framesFor id since := by
  have hstanding := standing_run es id
  generalize (empty.run es).find? id = found at hstanding
  cases hstanding with
  | detached hnone => exact absurd h (hnone since)
  | attached h' content =>
    obtain rfl := h.unique h'
    exact ⟨_, rfl, content⟩

/-- A connection has a writer only if one was attached. -/
theorem since_of_find? (h : (empty.run es).find? id = some w) :
    ∃ since, Since id es since ∧ w.written ++ w.buffer = framesFor id since := by
  have hstanding := standing_run es id
  rw [h] at hstanding
  cases hstanding with
  | attached hsince content => exact ⟨_, hsince, content⟩

/-- After a flush, all that was meant for the connection is written. -/
theorem flushed_of_since (h : Since id es since) (hfind : (empty.run es).find? id = some w) :
    w.flush = ⟨id, framesFor id since, []⟩ := by
  obtain ⟨w', hfind', content⟩ := find?_of_since h
  obtain rfl := Option.some.inj (hfind.symm.trans hfind')
  rw [← content, ← connection_of_find? hfind]
  rfl

/-! ## Sockets that were closed -/

/-- The socket was closed when all frames had been written to it that were addressed to its connection. -/
def Complete (es : List WriteEvent) (w : Writer) : Prop :=
  ∃ before since, before <+: es ∧ Since w.connection before since ∧
    w = ⟨w.connection, framesFor w.connection since, []⟩

/-- What is complete stays so, whatever happens after. -/
theorem Complete.mono {more : List WriteEvent} (h : Complete es w) (hes : es <+: more) :
    Complete more w := by
  obtain ⟨before, since, hbefore, hw⟩ := h
  exact ⟨before, since, hbefore.trans hes, hw⟩

/-- A writer that is flushed is complete. -/
theorem complete_flush (h : (empty.run es).find? id = some w) : Complete es w.flush := by
  obtain ⟨since, hsince, -⟩ := since_of_find? h
  obtain rfl := connection_of_find? h
  exact ⟨es, since, List.prefix_rfl, hsince, flushed_of_since hsince h⟩

/-- Every writer that was closed is complete. -/
theorem complete_of_closed (h : w ∈ (empty.run es).closed) : Complete es w := by
  induction es using List.reverseRecOn with
  | nil => cases h
  | append_singleton es e ih =>
    have earlier : w ∈ (empty.run es).closed → Complete (es ++ [e]) w :=
      fun h => (ih h).mono (List.prefix_append _ _)
    rw [run_concat] at h
    cases e with
    | attach target live => cases live <;> exact earlier h
    | frame target body immediate => exact earlier h
    | tick => exact earlier h
    | close target =>
      rw [step_close] at h
      cases hfind : (empty.run es).find? target with
      | none =>
        rw [hfind] at h
        exact earlier h
      | some v =>
        rw [hfind] at h
        rcases List.mem_cons.mp h with rfl | h
        · exact (complete_flush hfind).mono (List.prefix_append _ _)
        · exact earlier h

/-- When all writers are closed, all that waited is written. -/
theorem complete_of_closeAll (h : w ∈ (empty.run es).closeAll.closed) : Complete es w := by
  rcases List.mem_append.mp h with h | h
  · obtain ⟨v, hv, rfl⟩ := List.mem_map.mp h
    exact complete_flush (find?_of_nodup (nodup_run es) hv)
  · exact complete_of_closed h

/-! ## Batches -/

/-- What the clients have got and are yet to get after some events. -/
structure Unseen (es : List WriteEvent) : Prop where
  /-- Since its writer was attached, all frames for a connection were put on the way in order. -/
  attached : ∀ {id since}, Since id es since →
    ∃ w, (empty.run es).find? id = some w ∧ w.written ++ w.buffer = framesFor id since
  /-- There are no sockets but those, and nothing else on the way to any of them. -/
  own : ∀ w ∈ (empty.run es).writers, (empty.run es).find? w.connection = some w ∧
    ∃ since, Since w.connection es since ∧ w.written ++ w.buffer = framesFor w.connection since
  /-- What was written is not taken back while the connection keeps its writer. -/
  kept : ∀ {id w e}, (empty.run es).find? id = some w → e.Keeps id →
    ∃ w', (empty.run (es ++ [e])).find? id = some w' ∧ w.written <+: w'.written
  /-- After an immediate frame and after a tick nothing waits. -/
  flushed : ∀ {id w e}, e.Flushes id → (empty.run (es ++ [e])).find? id = some w → w.buffer = []
  /-- A socket is closed when everything was written to it, also when all are closed at once. -/
  closing : ∀ {id since}, Since id es since →
    ⟨id, framesFor id since, []⟩ ∈ (empty.run (es ++ [.close id])).closed ∧
      (empty.run (es ++ [.close id])).find? id = none ∧
      ⟨id, framesFor id since, []⟩ ∈ (empty.run es).closeAll.closed
  closed : ∀ w ∈ (empty.run es).closeAll.closed, Complete es w
  /-- A frame for a connection without a writer changes nothing. -/
  dropped : ∀ {id body immediate}, (∀ since, ¬ Since id es since) →
    empty.run (es ++ [.frame id body immediate]) = empty.run es

/-- Whatever happens, in whatever order, the frames for each connection reach its socket whole, in order
and alone, and only when they are written depends on batches. -/
theorem batching_unseen (es : List WriteEvent) : Unseen es where
  attached := find?_of_since
  own w hw := by
    have hfind := find?_of_nodup (nodup_run es) hw
    exact ⟨hfind, since_of_find? hfind⟩
  kept {id w e} hfind hkeeps := by
    obtain ⟨w', hon, -, hwritten, -⟩ := onWriter_of_keeps hkeeps w
    refine ⟨w', ?_, hwritten⟩
    rw [run_concat, find?_step, hfind, hon]
  flushed {id w e} hflushes hfind := by
    rw [run_concat, find?_step] at hfind
    cases hbefore : (empty.run es).find? id with
    | none =>
      rw [hbefore, onWriter_none hflushes.keeps] at hfind
      cases hfind
    | some v =>
      obtain ⟨w', hon, -, -, hempty⟩ := onWriter_of_keeps hflushes.keeps v
      rw [hbefore, hon] at hfind
      obtain rfl := Option.some.inj hfind
      exact hempty hflushes
  closing {id since} hsince := by
    obtain ⟨w, hfind, -⟩ := find?_of_since hsince
    have hflush := flushed_of_since hsince hfind
    refine ⟨?_, ?_, ?_⟩
    · rw [run_concat, step_close, hfind, ← hflush]
      exact List.mem_cons_self
    · rw [run_concat, find?_step]
      exact if_pos rfl
    · rw [← hflush]
      exact List.mem_append_left _ (List.mem_map_of_mem (List.mem_of_find?_eq_some hfind))
  closed _ := complete_of_closeAll
  dropped {id body immediate} hnone := by
    have hfind : (empty.run es).find? id = none := by
      -- a writer would stand for an attachment, and there is none
      cases hfind : (empty.run es).find? id with
      | none => rfl
      | some w =>
        obtain ⟨since, hsince, -⟩ := since_of_find? hfind
        exact absurd hsince (hnone since)
    rw [run_concat]
    exact modify_of_find?_none hfind

/-- Two connections, a batch, an immediate frame, and a frame for nobody. -/
example : empty.run [.attach 1 true, .attach 2 true, .frame 1 [7] false, .frame 2 [8] false,
      .frame 3 [9] true, .frame 1 [] true, .frame 1 [6] false]
    = ⟨[⟨1, [0, 0, 0, 1, 7, 0, 0, 0, 0], [0, 0, 0, 1, 6]⟩, ⟨2, [], [0, 0, 0, 1, 8]⟩], []⟩ := by
  decide

end WriteBuffers

end FlightRelay

import FlightRelay.Proofs.Router.Mail

/-!
# Running a handler

A handler runs on a relay and gives an answer and the relay that it leaves.  Each step of a handler has
a rule that reads its run off: what the rest of the handler starts from, or that it stops here.
-/

namespace FlightRelay

namespace Handler

variable {α β : Type} {s : Relay} {me c : Connection} {id : ConnectionId} {role : Role}
  {f : Session → Session} {g : Relay → α × Relay} {h : Handler α} {k : α → Handler β}
  {P : Except RouteError β × Relay → Prop}

/-- What a handler answers on a relay, and what it leaves. -/
def exec (h : Handler α) (s : Relay) : Except RouteError α × Relay := h.run.run s

/-- The second of two actions is executed where the first one ends, unless that refuses. -/
theorem exec_bind : (h >>= k).exec s = match h.exec s with
    | (.ok a, t) => (k a).exec t
    | (.error e, t) => (.error e, t) := by
  show (match (h.exec s) with
    | (a, t) => StateT.run (ExceptT.bindCont k a) t) = _
  rcases h.exec s with ⟨_ | _, t⟩ <;> rfl

/-- The rest of a handler runs from where its first step has left the relay. -/
theorem exec_bind_of_ok {t : Relay} {a : α} (hrun : h.exec s = (.ok a, t)) :
    (h >>= k).exec s = (k a).exec t := by
  rw [exec_bind, hrun]

/-- Nothing follows a refusal. -/
theorem exec_bind_of_error {t : Relay} {e : RouteError} (hrun : h.exec s = (.error e, t)) :
    (h >>= k).exec s = (.error e, t) := by
  rw [exec_bind, hrun]

/-! ## Steps that cannot refuse -/

@[simp] theorem exec_pure_bind {a : α} : (pure a >>= k).exec s = (k a).exec s := rfl

@[simp] theorem exec_step_bind : (step g >>= k).exec s = (k (g s).1).exec (g s).2 := rfl

@[simp] theorem exec_perform_bind {k : Unit → Handler β} :
    (perform g >>= k).exec s = (k ()).exec (g s).2 := rfl

@[simp] theorem exec_get_bind {k : Relay → Handler β} : (get >>= k).exec s = (k s).exec s := rfl

@[simp] theorem exec_modify_bind {u : Relay → Relay} {k : Unit → Handler β} :
    ((modify u : Handler Unit) >>= k).exec s = (k ()).exec (u s) := rfl

@[simp] theorem exec_registry_bind {k : Registry → Handler β} :
    (registry >>= k).exec s = (k s.registry).exec s := rfl

@[simp] theorem exec_setRegistry {r : Registry} :
    (setRegistry r).exec s = (.ok (), { s with registry := r }) := rfl

@[simp] theorem exec_setRegistry_bind {r : Registry} {k : Unit → Handler β} :
    (setRegistry r >>= k).exec s = (k ()).exec { s with registry := r } := rfl

@[simp] theorem exec_tally {u : RouterCounters → RouterCounters} :
    (tally u).exec s = (.ok (), { s with counters := u s.counters }) := rfl

@[simp] theorem exec_tally_bind {u : RouterCounters → RouterCounters} {k : Unit → Handler β} :
    (tally u >>= k).exec s = (k ()).exec { s with counters := u s.counters } := rfl

/-- A live session is changed. -/
theorem exec_update (hc : s.registry.find? id = some c) :
    (update id f).exec s = (.ok (), { s with registry := s.registry.modify id f }) := by
  unfold update
  rw [exec_registry_bind, Registry.update_eq_ok hc]
  rfl

/-- Without a session to change, the change is refused. -/
theorem exec_update_of_none (hc : s.registry.find? id = none) :
    (update id f).exec s = (.error (.registry (.notFound id)), s) := by
  have hgone : ¬ s.registry.contains id = true := by
    rw [Registry.find?_eq_none_iff.mp hc]
    exact Bool.false_ne_true
  unfold update
  rw [exec_registry_bind, Registry.update, if_neg hgone]
  rfl

/-- To update a session that exists does not refuse. -/
theorem exec_update_bind {k : Unit → Handler β} (hc : s.registry.find? id = some c) :
    (update id f >>= k).exec s = (k ()).exec { s with registry := s.registry.modify id f } :=
  exec_bind_of_ok (exec_update hc)

/-- A first step that goes through hands the relay on to the rest of the handler. -/
theorem bind_then {t : Relay} {a : α} (hrun : h.exec s = (.ok a, t)) (go : P ((k a).exec t)) :
    P ((h >>= k).exec s) := by
  rw [exec_bind_of_ok hrun]
  exact go

/-! ## Steps that may refuse -/

/-- A live session is changed: the handler goes on with the changed registry. -/
theorem update_then {k : Unit → Handler β} (hc : s.registry.find? id = some c)
    (go : P ((k ()).exec { s with registry := s.registry.modify id f })) :
    P ((update id f >>= k).exec s) := by
  rw [exec_update_bind hc]
  exact go

/-- A condition is required: the handler goes on if it holds, and else stops before it has done
anything more. -/
theorem require_then {condition : Bool} {e : RouteError} {k : Unit → Handler β}
    (stop : condition = false → P (.error e, s)) (go : condition = true → P ((k ()).exec s)) :
    P ((require condition e >>= k).exec s) := by
  cases condition with
  | false => exact stop rfl
  | true => exact go rfl

/-- After a check of the role, there is the refusal to consider and the rest of the handler. -/
theorem requireRole_then {k : Unit → Handler β}
    (stop : me.role ≠ role → P (.error (.wrongRole me.role), s))
    (go : me.role = role → P ((k ()).exec s)) :
    P ((requireRole me role >>= k).exec s) := by
  refine require_then (fun h => stop ?_) fun h => go ?_
  · exact of_decide_eq_false h
  · exact of_decide_eq_true h

/-- A live connection in the role is found. -/
theorem exec_counterpart_bind {k : Connection → Handler β} (hc : s.registry.find? id = some c)
    (hrole : c.role = role) : (counterpart id role >>= k).exec s = (k c).exec s := by
  unfold counterpart
  simp only [bind_assoc, exec_registry_bind, hc, hrole, if_true]
  rfl

/-- A counterpart is required: the handler goes on with a live connection in that role. -/
theorem counterpart_then {k : Connection → Handler β}
    (stop : P (.error (.unavailable id), s))
    (go : ∀ c, s.registry.find? id = some c → c.role = role → P ((k c).exec s)) :
    P ((counterpart id role >>= k).exec s) := by
  cases hc : s.registry.find? id with
  | none =>
    have hrun : (counterpart id role).exec s = (.error (.unavailable id), s) := by
      unfold counterpart
      rw [exec_registry_bind, hc]
      rfl
    rw [exec_bind_of_error hrun]
    exact stop
  | some c =>
    by_cases hrole : c.role = role
    · have hrun : (counterpart id role).exec s = (.ok c, s) := by
        unfold counterpart
        rw [exec_registry_bind, hc]
        simp only [if_pos hrole]
        rfl
      rw [exec_bind_of_ok hrun]
      exact go c hc hrole
    · have hrun : (counterpart id role).exec s = (.error (.unavailable id), s) := by
        unfold counterpart
        rw [exec_registry_bind, hc]
        simp only [if_neg hrole]
        rfl
      rw [exec_bind_of_error hrun]
      exact stop

end Handler

end FlightRelay

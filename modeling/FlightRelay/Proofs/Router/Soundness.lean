import FlightRelay.Proofs.Registry.Integrity
import FlightRelay.Proofs.Router.Run

/-!
# Soundness along runs

Every event keeps the registry sound, so it is sound after every run that starts without connections.
-/

namespace FlightRelay

open Registry Session

variable {ctx : RelayContext} {s t : Relay} {me : Connection} {m : ClientMessage} {o : Outcome}
  {e : Event} {es : List Event}

/-- A message that is carried out keeps the registry sound. -/
theorem Carried.sound (h : Carried ctx s me m o) (hs : s.registry.Sound)
    (hme : s.registry.find? me.id = some me) : o.registry.Sound := by
  have hcoh := hs.coherent hme
  cases h with
  | @login form profile k hrole hfixed hknown hpermitted hsession =>
    refine hs.modify_own hme ?_ ?_ rfl rfl rfl rfl rfl
    · -- whoever has a role has logged in before, and then the role is fixed
      intro hidentified
      refine (hfixed ?_).symm
      have huser : me.session.user ≠ none := fun hnone => hidentified (hcoh.unidentified.mpr hnone)
      exact Option.isSome_iff_ne_none.mpr huser
    · constructor
      · intro h
        exact absurd h hrole
      · intro h
        cases h
  | ping => exact hs
  | position hauth hvalid hsession =>
    exact hs.modify_own hme (fun _ => rfl) hcoh.unidentified rfl rfl rfl rfl rfl
  | flightInfo hrole hsession =>
    subst hsession
    exact hs.modify_own hme (fun _ => rfl) hcoh.unidentified rfl rfl rfl rfl rfl
  | dispatcherStatus hrole =>
    exact hs.modify_own hme (fun _ => rfl) hcoh.unidentified rfl rfl rfl rfl rfl
  | requested hrole hplace hunserved => exact hs.request hme fun _ => ⟨hrole, hunserved⟩
  | serviceBound hrole havailable hlive hpilot hunserved hpending => exact hs.serve hlive hme hpilot hrole
  | serviceKept => exact hs
  | pilotLeft hrole hserved hwritten =>
    show (s.registry.modify me.id (released ∘ requesting false)).Sound
    rw [← modify_modify]
    refine Sound.release (hs.request hme ?_) (find?_modify_self hme)
    intro h
    cases h
  | pilotWithdrew hrole hunserved => exact hs.request hme fun h => by cases h
  | dispatcherLeft hrole hlive hserved hbound hwritten => exact hs.release hlive
  | completed hrole hserved hcommitted => exact hs.release hme
  | viewerAsked => exact hs
  | viewerKnown => exact hs
  | viewerBound hrole hlive hviewer hunviewed hidle =>
    exact hs.pair hme hlive hrole hviewer (.inl hunviewed) hidle (.inl ⟨rfl, rfl⟩)
  | @viewerKept viewer v hrole hlive hviewer hviewed hidle =>
    -- the viewer follows this pilot already, since the pilot says that it has this viewer
    have hbound : me.session.viewer ≠ noConnection := hviewed ▸ (hs.numbered hlive).1
    obtain ⟨-, w, hw, -, hback⟩ := hs.viewed hme hbound
    rw [hviewed] at hw
    obtain rfl := Option.some.inj (hw.symm.trans hlive)
    show (s.registry.modify viewer (following me.id)).Sound
    rw [modify_eq_self hlive]
    · exact hs
    · rw [following, ← hback]
  | viewerDropped hrole hcleared => exact hs.clearViewer hcleared
  | viewerDeclined => exact hs
  | viewerLeft hrole hcleared => exact hs.clearViewer hcleared
  | viewingEnded hrole hcleared => exact hs.clearViewer hcleared
  | nothingEnded => exact hs
  | routeSaved => exact hs
  | routesLoaded => exact hs

/-- A message neither hands out a number nor closes one. -/
theorem Carried.numbers (h : Carried ctx s me m o) :
    o.registry.nextId = s.registry.nextId ∧ o.registry.closed = s.registry.closed := by
  have cleared : ∀ {pilot viewer : ConnectionId} {expected : Option ConnectionId} {r : Registry},
      s.registry.clearViewer pilot expected = some (viewer, r) →
      r.nextId = s.registry.nextId ∧ r.closed = s.registry.closed := by
    intro pilot viewer expected r h
    obtain ⟨p, -, -, -, -, rfl⟩ := clearViewer_eq_some h
    exact ⟨rfl, rfl⟩
  cases h with
  | viewerDropped hrole hcleared => exact cleared hcleared
  | viewerLeft hrole hcleared => exact cleared hcleared
  | viewingEnded hrole hcleared => exact cleared hcleared
  | _ => exact ⟨rfl, rfl⟩

/-- A message neither registers a connection nor removes one. -/
theorem Carried.contains (h : Carried ctx s me m o) (i : ConnectionId) :
    o.registry.contains i = s.registry.contains i := by
  cases h with
  | login => exact contains_modify
  | position => exact contains_modify
  | flightInfo => exact contains_modify
  | dispatcherStatus => exact contains_modify
  | requested => exact contains_modify
  | serviceBound => exact contains_modify
  | pilotLeft => exact contains_modify
  | pilotWithdrew => exact contains_modify
  | dispatcherLeft => exact contains_modify
  | completed => exact contains_modify
  | viewerBound => exact contains_modify.trans contains_modify
  | viewerKept => exact contains_modify
  | viewerDropped hrole hcleared => exact (contains_of_clearViewer hcleared).2 i
  | viewerLeft hrole hcleared => exact (contains_of_clearViewer hcleared).2 i
  | viewingEnded hrole hcleared => exact (contains_of_clearViewer hcleared).2 i
  | _ => rfl

/-- Whoever is live after an event and was not before has just been accepted, under the next number. -/
theorem Happened.enrolled {i : ConnectionId} {c : Connection} (h : Happened s e o)
    (hgone : s.registry.find? i = none) (hc : o.registry.find? i = some c) :
    i = s.registry.nextId ∧ ∃ remote d now, c = .accepted i remote (.fresh d now) := by
  cases h with
  | @accepted remote d now r hadded =>
    obtain ⟨-, -, -, hfound⟩ := accept_eq_ok hadded
    rw [hfound] at hc
    split at hc
    · rename_i he
      obtain rfl := Option.some.inj hc
      refine ⟨he, remote, d, now, ?_⟩
      rw [he]
    · cases hgone.symm.trans hc
  | carried hlive how =>
    have hcontains := how.contains i
    rw [contains_of_find? hc] at hcontains
    rw [find?_eq_none_iff] at hgone
    cases hcontains.trans hgone
  | departed hremoved =>
    obtain ⟨-, -, -, -, hfound⟩ := remove_eq_some hremoved
    rw [hfound, hgone] at hc
    split at hc
    · cases hc
    · cases hc
  | _ => cases hgone.symm.trans hc

/-- Whoever is live after an event and was not before has just been accepted. -/
theorem Happened.fresh {i : ConnectionId} {c : Connection} (h : Happened s e o)
    (hgone : s.registry.find? i = none) (hc : o.registry.find? i = some c) :
    ∃ remote d now, c = .accepted i remote (.fresh d now) := (h.enrolled hgone hc).2

/-! ## What holds along a run -/

namespace Relay

/-- The registry is sound, somebody takes the messages, and the next number tells how many connections
were accepted. -/
structure Steady (s : Relay) (accepts : Nat) : Prop where
  sound : s.registry.Sound
  isOpen : s.outbox.isOpen = true
  next : s.registry.nextId.toNat = accepts + 1

/-- The relay without connections is steady. -/
theorem steady_empty (store : Store) : (empty store).Steady 0 := ⟨sound_empty, rfl, rfl⟩

/-- While numbers are left, a fresh connection can be registered. -/
theorem Steady.accept {n : Nat} (h : s.Steady n) (remote : Option Net.Socket) (d : SessionDefaults)
    (now : Nat) (few : n + 1 < 2 ^ 64 - 1) :
    ∃ r, s.registry.allocate.2.add (.accepted s.registry.nextId remote (.fresh d now)) = .ok r ∧
      r.Sound ∧ r.nextId.toNat = n + 1 + 1 := by
  have hnext := h.next
  have hpos : s.registry.nextId ≠ noConnection := by
    intro hzero
    rw [hzero] at hnext
    have hnone : noConnection.toNat = 0 := rfl
    omega
  obtain ⟨r, hadd, hsound, hlast⟩ := h.sound.accept remote d now hpos (by omega)
  refine ⟨r, hadd, hsound, ?_⟩
  have hone : (1 : UInt64).toNat = 1 := rfl
  rw [hlast, UInt64.toNat_add, hnext, hone, Nat.mod_eq_of_lt (by omega)]

/-- While numbers are left, a steady relay stays steady. -/
theorem Steady.step {n : Nat} (h : s.Steady n) (few : n + [e].countP Event.isAccept < 2 ^ 64 - 1) :
    (s.step e).Steady (n + [e].countP Event.isAccept) := by
  obtain ⟨o, happened, hbecomes⟩ := happened_step (e := e) h.isOpen
  -- all but an accept leave the next number alone
  have keep : o.registry.Sound → o.registry.nextId = s.registry.nextId → e.isAccept = false →
      (s.step e).Steady (n + [e].countP Event.isAccept) := by
    intro hsound hnext hquiet
    rw [List.countP_singleton, hquiet]
    refine ⟨?_, hbecomes.isOpen, ?_⟩
    · rw [hbecomes.registry]
      exact hsound
    · rw [hbecomes.registry, hnext]
      exact h.next
  cases happened with
  | @accepted remote d now r hadded =>
    obtain ⟨r', hadd, hsound, hnext⟩ := h.accept remote d now few
    obtain rfl : r' = r := Except.ok.inj (hadd.symm.trans hadded)
    refine ⟨?_, hbecomes.isOpen, ?_⟩
    · rw [hbecomes.registry]
      exact hsound
    · rw [hbecomes.registry]
      exact hnext
  | @duplicate remote d now err htaken =>
    -- the next number is free, so this does not happen
    obtain ⟨r, hadd, -⟩ := h.accept remote d now few
    cases hadd.symm.trans htaken
  | stale => exact keep h.sound rfl rfl
  | refused => exact keep h.sound rfl rfl
  | @carried ctx envelope me o hlive how =>
    have hme : s.counted.registry.find? me.id = some me := by
      rw [id_of_find? hlive]
      exact hlive
    exact keep (how.sound h.sound hme) how.numbers.1 rfl
  | absent => exact keep h.sound rfl rfl
  | departed hremoved => exact keep (h.sound.remove hremoved) (remove_eq_some hremoved).2.1 rfl
  | backend => exact keep h.sound rfl rfl

/-- The first event of a run uses up at most one number. -/
theorem accepts_cons {n : Nat} : n + (e :: es).countP Event.isAccept
    = n + [e].countP Event.isAccept + es.countP Event.isAccept := by
  rw [List.countP_cons, List.countP_singleton]
  omega

/-- A steady relay stays steady along a run. -/
theorem Steady.run {n : Nat} (h : s.Steady n) (es : List Event)
    (few : n + es.countP Event.isAccept < 2 ^ 64 - 1) :
    (s.run es).Steady (n + es.countP Event.isAccept) := by
  -- enough numbers are left for the rest after the first event
  induction es generalizing s n with
  | nil => exact h
  | cons e es ih =>
    rw [accepts_cons] at few ⊢
    exact ih (h.step (by omega)) few

/-- Every relay that a run leads to is steady. -/
theorem Reachable.steady (h : s.Reachable) : ∃ n, n < 2 ^ 64 - 1 ∧ s.Steady n := by
  obtain ⟨store, es, few, rfl⟩ := h
  have hsteady := steady_empty store
  have hrun := hsteady.run es (by omega)
  rw [Nat.zero_add] at hrun
  exact ⟨_, few, hrun⟩

/-- A number that was closed stays closed. -/
theorem closed_step {id : ConnectionId} (hopen : s.outbox.isOpen = true)
    (h : id ∈ s.registry.closed) : id ∈ (s.step e).registry.closed := by
  obtain ⟨o, happened, hbecomes⟩ := happened_step (e := e) hopen
  rw [hbecomes.registry]
  cases happened with
  | accepted hadded =>
    rw [(accept_eq_ok hadded).2.2.1]
    exact h
  | carried hlive how =>
    rw [how.numbers.2]
    exact h
  | departed hremoved =>
    rw [(remove_eq_some hremoved).2.2.1]
    exact List.mem_cons_of_mem _ h
  | _ => exact h

/-- A number that was given up stays given up. -/
theorem closed_run {id : ConnectionId} (hopen : s.outbox.isOpen = true)
    (h : id ∈ s.registry.closed) : id ∈ (s.run es).registry.closed := by
  induction es generalizing s with
  | nil => exact h
  | cons e es ih => exact ih (isOpen_step hopen) (closed_step hopen h)

/-- A connection that is disconnected is closed. -/
theorem closed_disconnect {id : ConnectionId} (hopen : s.outbox.isOpen = true)
    (h : s.registry.contains id = true) : id ∈ (s.step (.disconnect id)).registry.closed := by
  obtain ⟨o, happened, hbecomes⟩ := happened_step (e := .disconnect id) hopen
  rw [hbecomes.registry]
  cases happened with
  | absent hgone =>
    rw [find?_eq_none_iff, h] at hgone
    cases hgone
  | departed hremoved =>
    rw [(remove_eq_some hremoved).2.2.1]
    exact List.mem_cons_self

/-! ## Bindings -/

/-- After every run, every number is in order and every binding has both its ends; and a connection that
was disconnected on the way is not live. -/
theorem binding_integrity (store : Store) (es : List Event)
    (few : es.countP Event.isAccept < 2 ^ 64 - 1) :
    ((empty store).run es).registry.Sound ∧
      ∀ (fs gs : List Event) (id : ConnectionId), es = fs ++ .disconnect id :: gs →
        ((empty store).run fs).registry.contains id = true →
        ((empty store).run es).registry.contains id = false := by
  have hsteady := (steady_empty store).run es (by omega)
  refine ⟨hsteady.sound, ?_⟩
  rintro fs gs id rfl hlive
  have hopen : ((empty store).run fs).outbox.isOpen = true := isOpen_run rfl
  have hclosed : id ∈ ((empty store).run (fs ++ .disconnect id :: gs)).registry.closed := by
    rw [run_append, run_cons]
    exact closed_run (isOpen_step hopen) (closed_disconnect hopen hlive)
  exact find?_eq_none_iff.mp (hsteady.sound.retired hclosed).1

/-- The pilot who let a spectator follow is gone for good, and nobody follows it any more. -/
theorem binding_integrity_boarding :
    ((empty .empty).run (Event.boarding ++ [.disconnect 1, .accept none .standard 0])).registry.Sound ∧
      ((empty .empty).run Event.boarding).registry.contains 1 = true ∧
      ((empty .empty).run
        (Event.boarding ++ [.disconnect 1, .accept none .standard 0])).registry.contains 1 = false := by
  have h := binding_integrity .empty (Event.boarding ++ [.disconnect 1, .accept none .standard 0])
    (by decide)
  have hlive : ((empty .empty).run Event.boarding).registry.contains 1 = true := by decide
  exact ⟨h.1, hlive, h.2 Event.boarding [.accept none .standard 0] 1 rfl hlive⟩

end Relay

end FlightRelay

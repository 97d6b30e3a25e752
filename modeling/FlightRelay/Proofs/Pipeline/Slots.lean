import FlightRelay.Pipeline.Hub
import FlightRelay.Proofs.Admission
import FlightRelay.Proofs.Router.Run

/-!
# Slots of connections

A slot of an address is taken when a connection is admitted, and given back in two places: where the
attempt to connect fails later on, and where the connection is closed.  Whatever happens, and however often
a connection is reported closed, as many slots are taken from an address as connections from it are
registered, and no bound is passed.
-/

namespace FlightRelay

open Registry

/-! ## Who is registered from where -/

namespace Registry

variable {r r' : Registry} {id : ConnectionId} {f : Session → Session}

/-- The numbers of the live connections with their remote addresses. -/
def seats (r : Registry) : List (ConnectionId × Option Net.Socket) :=
  r.connections.map fun c => (c.id, c.remote)

/-- How many connections from an address are registered. -/
def heldFrom (r : Registry) (address : Net.Address) : Nat :=
  r.connections.countP fun c => c.remote.map Net.Socket.address = some address

theorem heldFrom_eq (address : Net.Address) : r.heldFrom address
    = r.seats.countP fun s => s.2.map Net.Socket.address = some address := by
  rw [seats, List.countP_map]
  rfl

theorem size_eq : r.size = r.seats.length := (List.length_map _).symm

/-- A change that keeps the addresses keeps the seats. -/
theorem seats_mapConnections {k : Connection → Connection} {keeps : ∀ c, (k c).id = c.id}
    (h : ∀ c, (k c).remote = c.remote) : (r.mapConnections k keeps).seats = r.seats := by
  show (r.connections.map k).map _ = _
  rw [List.map_map, seats]
  apply List.map_congr_left
  intro c _
  exact Prod.ext (keeps c) (h c)

/-- Changing a session leaves every connection in its place. -/
@[simp] theorem seats_modify : (r.modify id f).seats = r.seats := by
  apply seats_mapConnections
  intro c
  split <;> rfl

@[simp] theorem seats_count {g : IoCounters → IoCounters} : (r.count id g).seats = r.seats := by
  apply seats_mapConnections
  intro c
  split <;> rfl

@[simp] theorem seats_touch {now : Nat} : (r.touch id now).seats = r.seats := seats_modify

/-- The end of a viewing leaves everybody in place. -/
theorem seats_clearViewer {pilot viewer : ConnectionId} {expected : Option ConnectionId}
    (h : r.clearViewer pilot expected = some (viewer, r')) : r'.seats = r.seats := by
  obtain ⟨p, -, -, -, -, rfl⟩ := clearViewer_eq_some h
  rw [releaseViewer, seats_modify, seats_modify]

/-- A registration adds one connection. -/
theorem seats_add {c : Connection} (h : r.add c = .ok r') : r'.seats = r.seats ++ [(c.id, c.remote)] := by
  unfold add at h
  split at h
  · cases h
  · obtain rfl := Except.ok.inj h
    exact List.map_append

/-- A removal takes one connection away. -/
theorem seats_remove {removal : Removal} (h : r.remove id = some (removal, r')) :
    r.seats.Perm ((id, removal.snapshot.remote) :: r'.seats) := by
  rw [remove, Option.map_eq_some_iff] at h
  obtain ⟨gone, hgone, h⟩ := h
  obtain ⟨rfl, rfl⟩ := Prod.mk.inj h
  have hsplit := List.filter_append_perm (fun c : Connection => c.id = id) r.connections
  rw [filter_connections hgone] at hsplit
  have hrest : ((r.without id).mapConnections (Connection.withSession (forget id)) fun _ => rfl).seats
      = (r.without id).seats := seats_mapConnections fun _ => rfl
  have hseats := hsplit.symm.map fun c : Connection => (c.id, c.remote)
  rw [hrest, ← id_of_find? hgone]
  simpa [seats, without, id_of_find? hgone] using hseats

/-- With one seat less, one connection less is registered from its address. -/
theorem heldFrom_of_perm {remote : Option Net.Socket} (h : r.seats.Perm ((id, remote) :: r'.seats))
    (address : Net.Address) : r.heldFrom address
      = r'.heldFrom address + if remote.map Net.Socket.address = some address then 1 else 0 := by
  rw [heldFrom_eq, heldFrom_eq, h.countP_eq, List.countP_cons]
  simp only [decide_eq_true_eq]

theorem size_of_perm {remote : Option Net.Socket} (h : r.seats.Perm ((id, remote) :: r'.seats)) :
    r.size = r'.size + 1 := by
  rw [size_eq, size_eq, h.length_eq, List.length_cons]

/-- The same seats, in whatever order, are from the same addresses. -/
theorem heldFrom_of_seats (h : r'.seats.Perm r.seats) (address : Net.Address) :
    r'.heldFrom address = r.heldFrom address := by
  rw [heldFrom_eq, heldFrom_eq, h.countP_eq]

theorem size_of_seats (h : r'.seats.Perm r.seats) : r'.size = r.size := by
  rw [size_eq, size_eq, h.length_eq]

end Registry

/-! ## The relay -/

/-- Nobody comes or goes while a message is carried out. -/
theorem Carried.seats_eq {ctx : RelayContext} {s : Relay} {me : Connection} {m : ClientMessage}
    {o : Outcome} (h : Carried ctx s me m o) : o.registry.seats = s.registry.seats := by
  cases h with
  | viewerBound => rw [seats_modify, seats_modify]
  | viewerDropped _ cleared | viewerLeft _ cleared | viewingEnded _ cleared =>
    exact seats_clearViewer cleared
  | _ => first | rfl | exact seats_modify

namespace Relay

variable {s t : Relay} {id : ConnectionId} {removal : Registry.Removal}

/-- A message leaves the registry alone, or is carried out and leaves it as it says. -/
theorem registry_handle (ctx : RelayContext) (s : Relay) (envelope : Envelope) :
    (s.handle ctx envelope).registry = s.registry ∨
      ∃ me m o, Carried ctx s.counted me m o ∧ (s.handle ctx envelope).registry = o.registry := by
  cases hme : s.registry.find? envelope.sender with
  | none =>
    unfold handle
    rw [hme]
    exact .inl rfl
  | some me =>
    have hid : me.id = envelope.sender := id_of_find? hme
    have hanswer : Answered ctx s.counted me envelope.message
        ((Handler.handleMessage ctx me envelope.message).exec s.counted) :=
      Handler.answered_handleMessage (by rw [hid]; exact hme)
    rw [handle_of_find? ctx hme]
    generalize (Handler.handleMessage ctx me envelope.message).exec s.counted = answer at hanswer
    cases hanswer with
    | @refused e warnings t _ turn =>
      have hreject : (t.reject e envelope.message.kind envelope.sender).registry = t.registry :=
        posts_send.registry
      exact .inl (hreject.trans turn.registry)
    | carried how turn => exact .inr ⟨_, _, _, how, turn.registry⟩

/-- Nobody comes or goes while a message is handled. -/
theorem seats_handle (ctx : RelayContext) (s : Relay) (envelope : Envelope) :
    (s.handle ctx envelope).registry.seats = s.registry.seats := by
  obtain hsame | ⟨me, m, o, how, hregistry⟩ := s.registry_handle ctx envelope
  · rw [hsame]
  · rw [hregistry, how.seats_eq]
    rfl

/-- A departure takes one connection away. -/
theorem seats_depart (h : s.depart id = some (removal, t)) :
    s.registry.seats.Perm ((id, removal.snapshot.remote) :: t.registry.seats) := by
  obtain ⟨r, hremove, hposts⟩ := depart_eq_some h
  rw [show t.registry = r from hposts.registry]
  exact seats_remove hremove

end Relay

/-- Nobody comes or goes while something is read. -/
theorem Intake.kept_decode (lib : Deflater) (limit : UInt64) (now : Nat) (s : Intake)
    (event : ReadEvent) :
    (s.decode lib limit now event).2.registry.seats = s.registry.seats ∧
      (s.decode lib limit now event).2.registry.nextId = s.registry.nextId := by
  cases event with
  | closed id reason => exact ⟨rfl, rfl⟩
  | frame id body =>
    unfold Intake.decode
    dsimp only
    split
    · exact ⟨rfl, rfl⟩
    · split
      · exact ⟨by rw [seats_touch, seats_count], rfl⟩
      · exact ⟨by rw [seats_touch, seats_count], rfl⟩

/-! ## The hub -/

/-- What can happen to connections and slots. -/
inductive HubEvent where
  /-- An attempt to connect, in one go; the stages that read and write may not take the connection. -/
  | accept (remote : Net.Socket) (session : Session) (handedOn : Bool)
  /-- Something is read from a connection. -/
  | read (lib : Deflater) (limit : UInt64) (now : Nat) (event : ReadEvent)
  /-- A message is handled, or a connection that was reported closed is closed. -/
  | item (ctx : RelayContext) (item : Inbound)
  | ban (address : Net.Address)
  | unban (address : Net.Address)
  /-- The store falls into trouble or recovers. -/
  | backend (refusesCommits : Bool) (outages : Store.Outages)

namespace Hub

/-- A hub without connections. -/
def start (banned : List Net.Address) (limit : Nat) (store : Store) : Hub :=
  ⟨.empty store, .start banned limit⟩

/-- The hub after an event. -/
def step (maxConnections : Nat) (h : Hub) : HubEvent → Hub
  | .accept remote session handedOn => (h.accept maxConnections remote session handedOn).2
  | .read lib limit now event =>
    let intake := (Intake.decode lib limit now ⟨h.relay.registry, .zero⟩ event).2
    { h with relay := { h.relay with registry := intake.registry } }
  | .item ctx item => (h.process ctx item).2
  | .ban address => { h with admission := (h.admission.ban address).2 }
  | .unban address => { h with admission := (h.admission.unban address).2 }
  | .backend refusesCommits outages =>
    { h with relay := { h.relay with store := { h.relay.store with refusesCommits, outages } } }

/-- The hub after a sequence of events. -/
def run (maxConnections : Nat) (h : Hub) (es : List HubEvent) : Hub := es.foldl (step maxConnections) h

/-- As many slots are taken from each address as connections from it are registered, and no bound is
passed; a bound of zero is none. -/
structure Exact (maxConnections limit : Nat) (h : Hub) : Prop where
  limit_eq : h.admission.limit = limit
  counted : ∀ address, h.admission.count address = h.relay.registry.heldFrom address
  perAddress : 0 < limit → ∀ address, h.admission.count address ≤ limit
  total : 0 < maxConnections → h.relay.registry.size ≤ maxConnections

variable {h h' : Hub} {maxConnections limit : Nat} {id : ConnectionId} {remote : Net.Socket}
  {session : Session}

/-- Events that leave connections and slots where they are. -/
theorem Exact.of_same (hh : h.Exact maxConnections limit)
    (seats : h'.relay.registry.seats.Perm h.relay.registry.seats)
    (limit_eq : h'.admission.limit = h.admission.limit)
    (count : ∀ address, h'.admission.count address = h.admission.count address) :
    h'.Exact maxConnections limit where
  limit_eq := limit_eq.trans hh.limit_eq
  counted address := by rw [count, hh.counted, heldFrom_of_seats seats]
  perAddress hpos address := by
    rw [count]
    exact hh.perAddress hpos address
  total hpos := by
    rw [size_of_seats seats]
    exact hh.total hpos

/-- An attempt is turned away at the door, by the admission, or let in with a slot. -/
theorem enter_cases (h : Hub) (maxConnections : Nat) (address : Net.Address) :
    (∃ e, h.enter maxConnections address = (.error e, h)) ∨
      (∃ e, h.enter maxConnections address = (.error e, { h with admission := h.admission.refuse })) ∨
      h.enter maxConnections address
          = (.ok (), { h with
              admission := h.admission.setCount address (h.admission.count address + 1) }) ∧
        (0 < maxConnections → h.relay.registry.size < maxConnections) ∧
        (0 < h.admission.limit → h.admission.count address < h.admission.limit) := by
  unfold enter
  split
  · exact .inl ⟨_, rfl⟩
  · rename_i hroom
    have hsize : 0 < maxConnections → h.relay.registry.size < maxConnections := by
      intro hpos
      simpa [hpos] using hroom
    obtain ⟨e, he⟩ | ⟨he, hlimit⟩ := h.admission.enter_cases address
    · exact .inr (.inl ⟨e, by rw [he]⟩)
    · exact .inr (.inr ⟨by rw [he], hsize, hlimit⟩)

/-- A connection is registered, and a slot of its address is taken. -/
theorem Exact.take (hh : h.Exact maxConnections limit)
    (hsize : 0 < maxConnections → h.relay.registry.size < maxConnections)
    (hlimit : 0 < h.admission.limit → h.admission.count remote.address < h.admission.limit)
    (seats : h'.relay.registry.seats.Perm ((id, some remote) :: h.relay.registry.seats))
    (admission : h'.admission
      = h.admission.setCount remote.address (h.admission.count remote.address + 1)) :
    h'.Exact maxConnections limit where
  limit_eq := by
    rw [admission]
    exact hh.limit_eq
  counted address := by
    rw [admission, Admission.count_setCount, heldFrom_of_perm seats, ← hh.counted, Option.map_some]
    by_cases he : address = remote.address
    · simp [he]
    · have hne : ¬ remote.address = address := fun h => he h.symm
      simp [he, hne]
  perAddress hpos address := by
    rw [hh.limit_eq] at hlimit
    rw [admission, Admission.count_setCount]
    split
    · exact hlimit hpos
    · exact hh.perAddress hpos address
  total hpos := by
    rw [size_of_perm seats]
    exact hsize hpos

/-- A connection is gone, and its slot is given back. -/
theorem Exact.leave (remote : Option Net.Socket) (hh : h.Exact maxConnections limit)
    (seats : h.relay.registry.seats.Perm ((id, remote) :: h'.relay.registry.seats))
    (admission : h'.admission = match remote with
      | some remote => h.admission.release remote.address
      | none => h.admission) :
    h'.Exact maxConnections limit := by
  have hheld := heldFrom_of_perm seats
  have hsize := size_of_perm seats
  -- the slot is given back at the address of the connection that left, if it had one
  have hcount : ∀ address, h'.admission.count address = h'.relay.registry.heldFrom address := by
    intro address
    have hbefore := hh.counted address
    rw [hheld] at hbefore
    cases remote with
    | none =>
      rw [admission]
      simpa using hbefore
    | some remote =>
      rw [Option.map_some] at hbefore
      rw [admission, Admission.count_release]
      by_cases he : address = remote.address
      · rw [if_pos (congrArg some he.symm)] at hbefore
        rw [if_pos he, hbefore, Nat.add_sub_cancel]
      · rw [if_neg fun h => he (Option.some.inj h).symm] at hbefore
        rw [if_neg he, hbefore, Nat.add_zero]
  refine ⟨?_, hcount, fun hpos address => ?_, fun hpos => ?_⟩
  · rw [admission]
    cases remote <;> exact hh.limit_eq
  · have hbound := hh.perAddress hpos address
    rw [hh.counted, hheld] at hbound
    rw [hcount]
    exact Nat.le_of_add_right_le hbound
  · have hbound := hh.total hpos
    omega

/-- A connection that is closed gives its slot back, once. -/
theorem Exact.close (hh : h.Exact maxConnections limit) (id : ConnectionId) :
    (h.close id).Exact maxConnections limit := by
  unfold Hub.close
  split
  · exact hh
  · rename_i removal relay hdepart
    have hseats := Relay.seats_depart hdepart
    dsimp only
    cases hremote : removal.snapshot.remote with
    | some remote =>
      rw [hremote] at hseats
      exact hh.leave (some remote) hseats rfl
    | none =>
      rw [hremote] at hseats
      exact hh.leave none hseats rfl

/-- What has no number any more is not closed again. -/
theorem close_of_gone (hgone : h.relay.registry.contains id = false) : h.close id = h := by
  have hnone : h.relay.registry.remove id = none :=
    remove_eq_none_iff.mpr (find?_eq_none_iff.mpr hgone)
  simp [close, Relay.depart, Relay.evict, hnone]

/-- A connection that was registered is the last one, and is found. -/
theorem register_cases (h : Hub) (remote : Option Net.Socket) (session : Session) :
    (∃ e r, h.register remote session = (.error e, { h with relay := { h.relay with registry := r } }) ∧
        r.seats = h.relay.registry.seats) ∨
      ∃ id r, h.register remote session = (.ok id, { h with relay := { h.relay with registry := r } }) ∧
        r.seats = h.relay.registry.seats ++ [(id, remote)] ∧
        r.find? id = some (.accepted id remote session) := by
  unfold register Relay.enroll
  dsimp only
  cases hadd : h.relay.registry.allocate.2.add (.accepted h.relay.registry.allocate.1 remote session) with
  | error e => exact .inl ⟨e, _, rfl, rfl⟩
  | ok r =>
    refine .inr ⟨_, r, rfl, seats_add hadd, ?_⟩
    exact ((add_eq_ok hadd).2.2.2 _).trans (if_pos rfl)

/-- An attempt to connect that fails leaves nothing behind. -/
theorem Exact.accept (hh : h.Exact maxConnections limit) (remote : Net.Socket) (session : Session)
    (handedOn : Bool) : (h.accept maxConnections remote session handedOn).2.Exact maxConnections limit := by
  unfold Hub.accept
  obtain ⟨e, he⟩ | ⟨e, he⟩ | ⟨he, hsize, hlimit⟩ := h.enter_cases maxConnections remote.address
  · rw [he]
    exact hh
  · rw [he]
    exact hh.of_same (.refl _) rfl fun _ => rfl
  · rw [he]
    dsimp only
    obtain ⟨e, r, hregister, hseats⟩ | ⟨id, r, hregister, hseats, hfound⟩ :=
      register_cases { h with
        admission := h.admission.setCount remote.address (h.admission.count remote.address + 1) }
        (some remote) session
    · rw [hregister]
      exact hh.of_same (.of_eq hseats) rfl fun _ => Admission.count_undone
    · have htaken : r.seats.Perm ((id, some remote) :: h.relay.registry.seats) := by
        rw [hseats]
        exact List.perm_append_singleton _ _
      rw [hregister]
      dsimp only
      split
      · exact hh.take hsize hlimit htaken rfl
      · cases hremove : r.remove id with
        | none => cases hfound.symm.trans (remove_eq_none_iff.mp hremove)
        | some gone =>
          -- what is removed is what was registered just now
          obtain ⟨removal, r'⟩ := gone
          have hgone := seats_remove hremove
          have hsnapshot := Option.some.inj ((remove_eq_some hremove).1.symm.trans hfound)
          rw [hsnapshot] at hgone
          have hback : r'.seats.Perm h.relay.registry.seats :=
            (List.perm_cons (id, some remote)).mp (hgone.symm.trans htaken)
          have hevict : ({ h.relay with registry := r } : Relay).evict id
              = some (removal, { h.relay with registry := r' }) := by
            rw [Relay.evict, hremove]
            rfl
          rw [hevict]
          exact hh.of_same hback rfl fun _ => Admission.count_undone

/-! ## Many events -/

/-- Every event leaves the slots exact. -/
theorem Exact.step (hh : h.Exact maxConnections limit) (e : HubEvent) :
    (h.step maxConnections e).Exact maxConnections limit := by
  cases e with
  | accept remote session handedOn => exact hh.accept remote session handedOn
  | read lib frameLimit now event =>
    exact hh.of_same (.of_eq (Intake.kept_decode lib frameLimit now _ event).1) rfl fun _ => rfl
  | item ctx item =>
    cases item with
    | message envelope => exact hh.of_same (.of_eq (Relay.seats_handle ctx _ envelope)) rfl fun _ => rfl
    | closed id reason => exact hh.close id
  | ban address =>
    refine hh.of_same (.refl _) ?_ fun _ => ?_
    · show (h.admission.ban address).2.limit = _
      unfold Admission.ban
      split <;> rfl
    · show (h.admission.ban address).2.count _ = _
      unfold Admission.ban
      split <;> rfl
  | unban address => exact hh.of_same (.refl _) rfl fun _ => rfl
  | backend refusesCommits outages => exact hh.of_same (.refl _) rfl fun _ => rfl

/-- The slots are exact all along. -/
theorem Exact.run (hh : h.Exact maxConnections limit) (es : List HubEvent) :
    (h.run maxConnections es).Exact maxConnections limit := by
  induction es generalizing h with
  | nil => exact hh
  | cons e es ih => exact ih (hh.step e)

/-- At the start nobody has a slot. -/
theorem exact_start (maxConnections : Nat) (banned : List Net.Address) (limit : Nat) (store : Store) :
    (start banned limit store).Exact maxConnections limit where
  limit_eq := rfl
  counted _ := rfl
  perAddress _ _ := Nat.zero_le _
  total _ := Nat.zero_le _

/-- Whatever happens in whatever order: as many slots are taken from each address as connections from it are
registered, no bound is passed, and closing a connection that is gone changes nothing. -/
theorem slots_exact (maxConnections : Nat) (banned : List Net.Address) (limit : Nat) (store : Store)
    (es : List HubEvent) :
    ((start banned limit store).run maxConnections es).Exact maxConnections limit ∧
      ∀ ctx id reason,
        ((start banned limit store).run maxConnections es).relay.registry.contains id = false →
          (((start banned limit store).run maxConnections es).process ctx (.closed id reason)).2
            = (start banned limit store).run maxConnections es :=
  ⟨(exact_start maxConnections banned limit store).run es, fun _ _ _ hgone => close_of_gone hgone⟩

/-- Two connections from one address are attempted where one is allowed, and the first is reported closed
twice; then a connection is not handed on. -/
def comings : List HubEvent :=
  [.accept ⟨.v4 1, 80, 0⟩ (.fresh .standard 0) true, .accept ⟨.v4 1, 81, 0⟩ (.fresh .standard 0) true,
    .item ⟨.trusting, .standard, 0⟩ (.closed 1 .peerClosed),
    .item ⟨.trusting, .standard, 0⟩ (.closed 1 .idleTimeout),
    .accept ⟨.v4 1, 82, 0⟩ (.fresh .standard 0) false]

/-- The first connection is reported closed a third time, when it is long gone. -/
theorem slots_exact_comings :
    ((start [] 1 .empty).run 0 comings).admission.count (.v4 1)
        = ((start [] 1 .empty).run 0 comings).relay.registry.heldFrom (.v4 1) ∧
      ((start [] 1 .empty).run 0 comings).relay.registry.contains 1 = false ∧
      (((start [] 1 .empty).run 0 comings).process ⟨.trusting, .standard, 0⟩ (.closed 1 .peerClosed)).2
        = (start [] 1 .empty).run 0 comings :=
  ⟨(slots_exact 0 [] 1 .empty comings).1.counted (.v4 1), by decide,
    (slots_exact 0 [] 1 .empty comings).2 ⟨.trusting, .standard, 0⟩ 1 .peerClosed (by decide)⟩

example : (List.range 6).map (fun n =>
    ((start [] 1 .empty).run 0 (comings.take n)).admission.count (.v4 1)) = [0, 1, 1, 0, 0, 0] := by
  rfl

end Hub

end FlightRelay

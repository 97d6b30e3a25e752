import FlightRelay.Proofs.Pipeline.Slots
import FlightRelay.Proofs.Router.Soundness

/-!
# Accounts of attempts to connect

Every attempt to connect is answered: a connection is registered, or somebody is turned away.  Who is turned
away because of the address that he comes from is counted as refused, each time once.  Who is turned away
because the relay is full is not, so attempts are more than registrations and refusals by just as many.
-/

namespace FlightRelay

/-! ## Answers -/

/-- The answer to an attempt to connect. -/
abbrev Reception := Except AcceptError ConnectionId

namespace Reception

/-- A connection was registered, though the stages that read and write may not have taken it. -/
def registered : Reception → Bool
  | .ok _ | .error .notHandedOn => true
  | .error (.refused _) | .error (.registry _) => false

/-- Turned away because of the address: it is banned, or holds as many connections as it may. -/
def unwelcome : Reception → Bool
  | .error (.refused (.banned _)) | .error (.refused (.tooMany _)) => true
  | _ => false

/-- Turned away because the relay holds as many connections as it may. -/
def crowdedOut : Reception → Bool
  | .error (.refused (.full _)) => true
  | _ => false

end Reception

/-- An attempt to connect. -/
def HubEvent.isAttempt : HubEvent → Bool
  | .accept _ _ _ => true
  | _ => false

namespace Hub

open Registry

/-- What is answered to an event, if it is an attempt to connect. -/
def reception? (maxConnections : Nat) (h : Hub) : HubEvent → Option Reception
  | .accept remote session handedOn => some (h.accept maxConnections remote session handedOn).1
  | _ => none

/-- What the attempts to connect are answered, one after another. -/
def receptions (maxConnections : Nat) (h : Hub) : List HubEvent → List Reception
  | [] => []
  | e :: es => (h.reception? maxConnections e).toList ++ (h.step maxConnections e).receptions maxConnections es

/-- What becomes of an attempt to connect: its answer, and the hub after it. -/
inductive Attempted (maxConnections : Nat) (h : Hub) (remote : Net.Socket) : Reception → Hub → Prop
  /-- Nothing is noted of somebody who finds the relay full. -/
  | full (bounded : 0 < maxConnections) (full : maxConnections ≤ h.relay.registry.size) :
      Attempted maxConnections h remote (.error (.refused (.full maxConnections))) h
  | refused {e : AdmissionError} (why : e = .banned remote.address ∨ e = .tooMany remote.address) :
      Attempted maxConnections h remote (.error (.refused e))
        { h with admission := h.admission.refuse }
  /-- The number that was next is in use. -/
  | taken {e : RegistryError} {h' : Hub}
      (taken : h.relay.registry.contains h.relay.registry.nextId = true) :
      Attempted maxConnections h remote (.error (.registry e)) h'
  /-- The stages that read and write take the connection, or it is removed again. -/
  | registered {answer : Reception} {h' : Hub}
      (answered : answer = .ok h.relay.registry.nextId ∨ answer = .error .notHandedOn)
      (nextId : h'.relay.registry.nextId = h.relay.registry.nextId + 1)
      (seats : h'.relay.registry.seats ⊆ (h.relay.registry.nextId, some remote) :: h.relay.registry.seats)
      (refused : h'.admission.refused = h.admission.refused) :
      Attempted maxConnections h remote answer h'

/-- Every connection has a number that was handed out. -/
def Numbered (h : Hub) : Prop :=
  ∀ seat ∈ h.relay.registry.seats, seat.1.toNat < h.relay.registry.nextId.toNat

/-- What the answers say is what was noted between two hubs: a number is handed out for every registration,
and every refusal for the sake of the address is counted. -/
structure Noted (answers : List Reception) (h h' : Hub) : Prop where
  registered : h'.relay.registry.nextId.toNat
    = h.relay.registry.nextId.toNat + answers.countP Reception.registered
  refused : h'.admission.refused = h.admission.refused + answers.countP Reception.unwelcome
  /-- There is no fourth answer, and no answer is two of them. -/
  sorted : answers.length = answers.countP Reception.registered + answers.countP Reception.unwelcome
    + answers.countP Reception.crowdedOut

variable {h h' h'' : Hub} {maxConnections : Nat} {remote : Net.Socket} {session : Session}
  {handedOn : Bool} {answer : Reception} {answers answers' : List Reception} {e : HubEvent}

/-! ## Numbers -/

/-- Who is thrown out leaves a number that stays handed out. -/
theorem nextId_evict (s : Relay) (id : ConnectionId) :
    (((s.evict id).map Prod.snd).getD s).registry.nextId = s.registry.nextId ∧
      (((s.evict id).map Prod.snd).getD s).registry.seats ⊆ s.registry.seats := by
  unfold Relay.evict
  cases hremove : s.registry.remove id with
  | none => exact ⟨rfl, List.Subset.refl _⟩
  | some gone =>
    refine ⟨(remove_eq_some hremove).2.1, fun seat hseat => ?_⟩
    exact (seats_remove hremove).mem_iff.mpr (List.mem_cons_of_mem _ hseat)

/-! ## One attempt -/

/-- Who is turned away and why, and what is noted. -/
theorem enter_eq (h : Hub) (maxConnections : Nat) (address : Net.Address) :
    ((0 < maxConnections ∧ maxConnections ≤ h.relay.registry.size) ∧
      h.enter maxConnections address = (.error (.full maxConnections), h)) ∨
    (∃ e, (e = .banned address ∨ e = .tooMany address) ∧
      h.enter maxConnections address = (.error e, { h with admission := h.admission.refuse })) ∨
    h.enter maxConnections address = (.ok (), { h with
      admission := h.admission.setCount address (h.admission.count address + 1) }) := by
  unfold enter
  split
  · rename_i hfull
    exact .inl ⟨by simpa using hfull, rfl⟩
  · rcases h.admission.enter_eq address with ⟨-, he⟩ | ⟨-, he⟩ | ⟨-, he⟩
    · exact .inr (.inl ⟨_, .inl rfl, by rw [he]⟩)
    · exact .inr (.inl ⟨_, .inr rfl, by rw [he]⟩)
    · exact .inr (.inr (by rw [he]))

/-- A connection is registered under the next number, unless that is in use. -/
theorem register_eq (h : Hub) (remote : Option Net.Socket) (session : Session) :
    (h.relay.registry.contains h.relay.registry.nextId = true ∧
        ∃ e h', h.register remote session = (.error e, h')) ∨
      ∃ r, h.register remote session
          = (.ok h.relay.registry.nextId, { h with relay := { h.relay with registry := r } }) ∧
        r.nextId = h.relay.registry.nextId + 1 ∧
        r.seats = h.relay.registry.seats ++ [(h.relay.registry.nextId, remote)] := by
  unfold register Relay.enroll
  dsimp only
  cases hadd : h.relay.registry.allocate.2.add (.accepted h.relay.registry.allocate.1 remote session) with
  | error e =>
    refine .inl ⟨?_, e, _, rfl⟩
    by_contra hfree
    obtain ⟨r, hr⟩ := exists_add (r := h.relay.registry.allocate.2)
      (c := .accepted h.relay.registry.nextId remote session) (Bool.eq_false_iff.mpr hfree)
    cases hadd.symm.trans hr
  | ok r => exact .inr ⟨r, rfl, (accept_eq_ok hadd).2.1, seats_add hadd⟩

/-- Whatever becomes of an attempt, it is one of these. -/
theorem attempted_accept (h : Hub) (maxConnections : Nat) (remote : Net.Socket) (session : Session)
    (handedOn : Bool) : h.Attempted maxConnections remote
      (h.accept maxConnections remote session handedOn).1
      (h.accept maxConnections remote session handedOn).2 := by
  unfold Hub.accept
  obtain ⟨⟨hbounded, hfull⟩, he⟩ | ⟨e, hwhy, he⟩ | he := h.enter_eq maxConnections remote.address
  · rw [he]
    exact .full hbounded hfull
  · rw [he]
    exact .refused hwhy
  · rw [he]
    dsimp only
    obtain ⟨htaken, e, h', hregister⟩ | ⟨r, hregister, hnext, hseats⟩ := register_eq { h with
        admission := h.admission.setCount remote.address (h.admission.count remote.address + 1) }
        (some remote) session
    · rw [hregister]
      exact .taken htaken
    · have hsub : r.seats ⊆ (h.relay.registry.nextId, some remote) :: h.relay.registry.seats := by
        rw [hseats]
        exact (List.perm_append_singleton _ _).subset
      rw [hregister]
      dsimp only
      split
      · exact .registered (.inl rfl) hnext hsub rfl
      · -- the connection is removed again, and its number stays handed out
        obtain ⟨hkept, hfewer⟩ := nextId_evict { h.relay with registry := r } h.relay.registry.nextId
        exact .registered (.inr rfl) (hkept.trans hnext) (List.Subset.trans hfewer hsub) rfl

/-! ## One event -/

theorem Noted.refl (h : Hub) : Noted [] h h := ⟨rfl, rfl, rfl⟩

/-- What is noted of two parts is noted of the whole. -/
theorem Noted.trans (first : Noted answers h h') (then_ : Noted answers' h' h'') :
    Noted (answers ++ answers') h h'' where
  registered := by rw [then_.registered, first.registered, List.countP_append, Nat.add_assoc]
  refused := by rw [then_.refused, first.refused, List.countP_append, Nat.add_assoc]
  sorted := by
    have hfirst := first.sorted
    have hthen := then_.sorted
    simp only [List.length_append, List.countP_append]
    omega

/-- A number that is handed out keeps the numbers in their order, as long as there are enough. -/
theorem Attempted.noted (ha : h.Attempted maxConnections remote answer h') (hh : h.Numbered)
    (few : h.relay.registry.nextId.toNat + 1 < 2 ^ 64) : Noted [answer] h h' ∧ h'.Numbered := by
  cases ha with
  | full bounded full => exact ⟨⟨rfl, rfl, rfl⟩, hh⟩
  | refused why =>
    obtain rfl | rfl := why
    · exact ⟨⟨rfl, rfl, rfl⟩, hh⟩
    · exact ⟨⟨rfl, rfl, rfl⟩, hh⟩
  | taken taken =>
    -- the next number is greater than every one that is in use
    obtain ⟨c, hc⟩ := contains_iff.mp taken
    have hseat : (c.id, c.remote) ∈ h.relay.registry.seats :=
      List.mem_map_of_mem (List.mem_of_find?_eq_some hc)
    have hlt := hh _ hseat
    rw [id_of_find? hc] at hlt
    exact absurd hlt (Nat.lt_irrefl _)
  | registered answered nextId seats refused =>
    have hnext : h'.relay.registry.nextId.toNat = h.relay.registry.nextId.toNat + 1 := by
      rw [nextId, UInt64.toNat_add]
      exact Nat.mod_eq_of_lt few
    refine ⟨?_, fun seat hseat => ?_⟩
    · obtain rfl | rfl := answered
      · exact ⟨hnext, refused, rfl⟩
      · exact ⟨hnext, refused, rfl⟩
    · rw [hnext]
      obtain rfl | hbefore := List.mem_cons.mp (seats hseat)
      · exact Nat.lt_succ_self _
      · exact Nat.lt_succ_of_lt (hh seat hbefore)

/-- Events that note nothing. -/
theorem noted_of_same (nextId : h'.relay.registry.nextId = h.relay.registry.nextId)
    (seats : h'.relay.registry.seats ⊆ h.relay.registry.seats)
    (refused : h'.admission.refused = h.admission.refused) (hh : h.Numbered) :
    Noted [] h h' ∧ h'.Numbered := by
  refine ⟨⟨congrArg UInt64.toNat nextId, refused, rfl⟩, fun seat hseat => ?_⟩
  rw [nextId]
  exact hh seat (seats hseat)

/-- To close a connection is no attempt. -/
theorem noted_close (id : ConnectionId) (hh : h.Numbered) :
    Noted [] h (h.close id) ∧ (h.close id).Numbered := by
  unfold Hub.close
  split
  · exact noted_of_same rfl (List.Subset.refl _) rfl hh
  · rename_i removal relay hdepart
    obtain ⟨r, hremove, hposts⟩ := Relay.depart_eq_some hdepart
    have hnext : relay.registry.nextId = h.relay.registry.nextId := by
      rw [show relay.registry = r from hposts.registry]
      exact (remove_eq_some hremove).2.1
    have hfewer : relay.registry.seats ⊆ h.relay.registry.seats := fun seat hseat =>
      (Relay.seats_depart hdepart).mem_iff.mpr (List.mem_cons_of_mem _ hseat)
    dsimp only
    split
    · exact noted_of_same hnext hfewer rfl hh
    · exact noted_of_same hnext hfewer rfl hh

/-- Every event notes the attempt that it is, or none. -/
theorem noted_step (maxConnections : Nat) (e : HubEvent) (hh : h.Numbered)
    (few : h.relay.registry.nextId.toNat + [e].countP HubEvent.isAttempt < 2 ^ 64) :
    Noted (h.reception? maxConnections e).toList h (h.step maxConnections e) ∧
      (h.step maxConnections e).Numbered := by
  cases e with
  | accept remote session handedOn =>
    exact (h.attempted_accept maxConnections remote session handedOn).noted hh few
  | read lib limit now event =>
    obtain ⟨hseats, hnext⟩ := Intake.kept_decode lib limit now ⟨h.relay.registry, .zero⟩ event
    exact noted_of_same hnext (hseats ▸ List.Subset.refl _) rfl hh
  | item ctx item =>
    cases item with
    | message envelope =>
      have hseats := Relay.seats_handle ctx h.relay envelope
      refine noted_of_same ?_ (hseats ▸ List.Subset.refl _) rfl hh
      obtain hsame | ⟨me, m, o, how, hregistry⟩ := h.relay.registry_handle ctx envelope
      · exact congrArg nextId hsame
      · exact (congrArg nextId hregistry).trans how.numbers.1
    | closed id reason => exact noted_close id hh
  | ban address =>
    refine noted_of_same rfl (List.Subset.refl _) ?_ hh
    show (h.admission.ban address).2.refused = _
    unfold Admission.ban
    split <;> rfl
  | unban address => exact noted_of_same rfl (List.Subset.refl _) rfl hh
  | backend refusesCommits outages => exact noted_of_same rfl (List.Subset.refl _) rfl hh

/-! ## Many events -/

/-- There is an answer for every attempt, and for nothing else. -/
theorem length_reception? (maxConnections : Nat) (h : Hub) (e : HubEvent) :
    (h.reception? maxConnections e).toList.length = [e].countP HubEvent.isAttempt := by
  cases e <;> rfl

/-- Every attempt is answered. -/
theorem length_receptions (maxConnections : Nat) (h : Hub) (es : List HubEvent) :
    (h.receptions maxConnections es).length = es.countP HubEvent.isAttempt := by
  induction es generalizing h with
  | nil => rfl
  | cons e es ih =>
    rw [receptions, List.length_append, ih, length_reception?, ← List.countP_append]
    rfl

/-- As long as there are numbers left, a run notes just what it answers. -/
theorem noted_run (maxConnections : Nat) (hh : h.Numbered) (es : List HubEvent)
    (few : h.relay.registry.nextId.toNat + es.countP HubEvent.isAttempt < 2 ^ 64) :
    Noted (h.receptions maxConnections es) h (h.run maxConnections es) := by
  induction es generalizing h with
  | nil => exact .refl h
  | cons e es ih =>
    have hcount : (e :: es).countP HubEvent.isAttempt
        = [e].countP HubEvent.isAttempt + es.countP HubEvent.isAttempt := by
      rw [← List.countP_append]
      rfl
    rw [hcount] at few
    obtain ⟨hnoted, hnumbered⟩ := noted_step maxConnections e hh (by omega)
    -- an attempt hands out one number at most
    have hnext := hnoted.registered
    have hanswers := hnoted.sorted
    rw [length_reception?] at hanswers
    exact hnoted.trans (ih hnumbered (by omega))

theorem numbered_start (banned : List Net.Address) (limit : Nat) (store : Store) :
    (start banned limit store).Numbered := nofun

/-- Somebody is told that the relay is full exactly if it is. -/
theorem crowdedOut_iff :
    Reception.crowdedOut (h.accept maxConnections remote session handedOn).1 = true ↔
      0 < maxConnections ∧ maxConnections ≤ h.relay.registry.size := by
  constructor
  · intro hcrowded
    have hattempted := h.attempted_accept maxConnections remote session handedOn
    generalize h.accept maxConnections remote session handedOn = outcome at hcrowded hattempted
    obtain ⟨answer, h'⟩ := outcome
    cases hattempted with
    | full bounded full => exact ⟨bounded, full⟩
    | refused why => obtain rfl | rfl := why <;> cases hcrowded
    | taken taken => cases hcrowded
    | registered answered nextId seats refused => obtain rfl | rfl := answered <;> cases hcrowded
  · rintro ⟨hbounded, hfull⟩
    unfold accept enter
    simp [hbounded, hfull, Reception.crowdedOut]

/-- The accounts of the attempts to connect among events. -/
structure Balanced (es : List HubEvent) (answers : List Reception) (h : Hub) : Prop where
  attempts : answers.length = es.countP HubEvent.isAttempt
  /-- Numbers from one on are handed out to those who are registered. -/
  registered : h.relay.registry.nextId.toNat = answers.countP Reception.registered + 1
  refused : h.admission.stats.refused = answers.countP Reception.unwelcome
  balance : es.countP HubEvent.isAttempt = answers.countP Reception.registered
    + h.admission.stats.refused + answers.countP Reception.crowdedOut

/-- Whatever happens in whatever order: attempts are registrations, refusals that are counted and attempts
that found the relay full, and whoever comes next is told that it is full exactly if it is. -/
theorem attempts_accounted (maxConnections : Nat) (banned : List Net.Address) (limit : Nat)
    (store : Store) (es : List HubEvent) (few : es.countP HubEvent.isAttempt < 2 ^ 64 - 1) :
    Balanced es ((start banned limit store).receptions maxConnections es)
        ((start banned limit store).run maxConnections es) ∧
      ∀ remote session handedOn,
        let h := (start banned limit store).run maxConnections es
        Reception.crowdedOut (h.accept maxConnections remote session handedOn).1 = true ↔
          0 < maxConnections ∧ h.relay.registry.size = maxConnections := by
  constructor
  · have hnoted := noted_run maxConnections (numbered_start banned limit store) es
      (by show 1 + _ < _; omega)
    have hlength := length_receptions maxConnections (start banned limit store) es
    have hrefused := hnoted.refused.trans (Nat.zero_add _)
    refine ⟨hlength, hnoted.registered.trans (Nat.add_comm _ _), hrefused, ?_⟩
    rw [← hlength, hnoted.sorted]
    exact congrArg (_ + · + _) hrefused.symm
  · intro remote session handedOn h
    have hbound := ((exact_start maxConnections banned limit store).run es).total
    rw [crowdedOut_iff]
    constructor
    · rintro ⟨hpos, hfull⟩
      exact ⟨hpos, Nat.le_antisymm (hbound hpos) hfull⟩
    · rintro ⟨hpos, hfull⟩
      exact ⟨hpos, hfull.ge⟩

/-- An attempt to connect from an address. -/
def knock (address : BitVec 32) (handedOn : Bool) : HubEvent :=
  .accept ⟨.v4 address, 80, 0⟩ (.fresh .standard 0) handedOn

/-- Somebody is banned, somebody comes twice, somebody is not handed on at first, and then it is full. -/
def rush : List HubEvent :=
  [knock 9 true, knock 1 true, knock 1 true, knock 2 false, knock 2 true, knock 3 true]

theorem attempts_accounted_rush :
    rush.countP HubEvent.isAttempt < 2 ^ 64 - 1 ∧
      Balanced rush ((start [.v4 9] 1 .empty).receptions 2 rush) ((start [.v4 9] 1 .empty).run 2 rush) ∧
      ((start [.v4 9] 1 .empty).run 2 rush).admission.stats.refused = 2 ∧
      ((start [.v4 9] 1 .empty).run 2 rush).relay.registry.nextId = 4 := by
  have hfew : rush.countP HubEvent.isAttempt < 2 ^ 64 - 1 := by decide
  exact ⟨hfew, (attempts_accounted 2 [.v4 9] 1 .empty rush hfew).1, by decide, by decide⟩

/-- Where one connection is allowed, the second attempt is turned away, and nothing is counted. -/
theorem crowd_uncounted :
    ((start [] 0 .empty).receptions 1 [knock 1 true, knock 2 true])
        = [.ok 1, .error (.refused (.full 1))] ∧
      ((start [] 0 .empty).run 1 [knock 1 true, knock 2 true]).admission.stats.refused = 0 ∧
      [knock 1 true, knock 2 true].countP HubEvent.isAttempt
        ≠ ((start [] 0 .empty).receptions 1 [knock 1 true, knock 2 true]).countP Reception.registered
          + ((start [] 0 .empty).run 1 [knock 1 true, knock 2 true]).admission.stats.refused := by
  refine ⟨rfl, by decide, by decide⟩

end Hub

end FlightRelay

import FlightRelay.Proofs.Registry.Proximity
import FlightRelay.Proofs.Router.Requests
import FlightRelay.Proofs.Store

/-!
# Completed services

A pilot who reports its service as done is freed, and the end is recorded.  It is told to the newest
dispatcher connection of the user who took the request, and of that user the pilot remembers the number
only: a dispatcher who has logged in as somebody else since then is not found.
-/

namespace FlightRelay

open Outbound Session

namespace Registry

variable {r : Registry} {id : ConnectionId} {c : Connection} {user : UserId}

/-- The end of a service is told to the newest dispatcher connection of the user behind it. -/
theorem completion_of_find? (message : ServerMessage) (hc : r.find? id = some c)
    (hrole : c.role = .dispatcher) (huser : c.session.userId = some user) :
    ∃ t, r.completion message (some user) = [batched message t.id] ∧ r.find? t.id = some t ∧
      t.role = .dispatcher ∧ t.session.userId = some user ∧
      ∀ {i d}, r.find? i = some d → d.role = .dispatcher → d.session.userId = some user → i ≤ t.id := by
  obtain ⟨t, hnewest, ht, htrole, htuser, hmax⟩ := byUser?_of_find? hc hrole huser
  refine ⟨t, ?_, ht, htrole, htuser, hmax⟩
  rw [completion, Option.bind_some, hnewest]
  exact toDispatcher_of_find? ht htrole

end Registry

/-! ## Reporting a service as done -/

/-- The message tells that the service of a pilot is done. -/
def ServerMessage.isCompletionOf (p : ConnectionId) : ServerMessage → Bool
  | .serviceCompleted pilot _ => pilot = p
  | _ => false

namespace Relay

/-- The pilot `c` reports its service as done, and is heard. -/
structure Completes (s : Relay) (ctx : RelayContext) (c : Connection) (remarks : String)
    (owner : Option UserId) : Prop where
  /-- The dispatcher is live until then. -/
  live : ∃ d, s.registry.find? c.session.dispatcher = some d ∧ d.role = .dispatcher
  accepted : s.Accepts ctx ⟨.serviceComplete remarks, c.id, owner⟩
  freed : (handle ctx s ⟨.serviceComplete remarks, c.id, owner⟩).registry.aspect
    Session.dispatcher c.id = some noConnection
  recorded : (handle ctx s ⟨.serviceComplete remarks, c.id, owner⟩).store.data.records
    = s.store.data.records
      ++ [⟨c.session.userId, c.session.dispatcherUser, .completed, remarks, ctx.now⟩]
  /-- If the user who took the request still has a dispatcher connection, as it does while the dispatcher
  itself is logged in as that user, then the newest of them is told, and nobody else. -/
  told : ∀ {i w}, s.registry.find? i = some w → w.role = .dispatcher →
    w.session.userId = c.session.dispatcherUser →
    ∃ t, s.registry.find? t.id = some t ∧ t.role = .dispatcher ∧
      t.session.userId = c.session.dispatcherUser ∧
      (∀ {j v}, s.registry.find? j = some v → v.role = .dispatcher →
        v.session.userId = c.session.dispatcherUser → j ≤ t.id) ∧
      (s.emitted (.message ctx ⟨.serviceComplete remarks, c.id, owner⟩)).filter
          (fun o => o.message.isCompletionOf c.id)
        = [batched (.serviceCompleted c.id remarks) t.id]

end Relay

variable {ctx : RelayContext} {s : Relay} {me w : Connection} {u : Outcome} {remarks : String}
  {i p : ConnectionId}

/-- Freeing a pilot changes no dispatcher. -/
theorem find?_released_iff {d : Connection} (hme : s.registry.find? me.id = some me)
    (hpilot : me.role = .pilot) (hrole : d.role = .dispatcher) :
    (s.registry.modify me.id released).find? i = some d ↔ s.registry.find? i = some d := by
  by_cases hi : i = me.id
  · -- the pilot is no dispatcher, before or after
    subst hi
    rw [Registry.find?_modify_self hme, hme]
    constructor
    · intro h
      obtain rfl := Option.some.inj h
      exact absurd (hpilot.symm.trans hrole) (by decide)
    · intro h
      obtain rfl := Option.some.inj h
      exact absurd (hpilot.symm.trans hrole) (by decide)
  · rw [Registry.find?_modify_of_ne hi]

/-- A completion that is carried out frees the pilot and is recorded. -/
theorem Carried.completion_recorded (h : Carried ctx s me (.serviceComplete remarks) u)
    (hme : s.registry.find? me.id = some me) :
    u.registry.aspect Session.dispatcher me.id = some noConnection ∧
      u.store.data.records = s.store.data.records
        ++ [⟨me.session.userId, me.session.dispatcherUser, .completed, remarks, ctx.now⟩] := by
  cases h with
  | completed hpilot hserved hcommitted =>
    refine ⟨Registry.aspect_modify_self hme, ?_⟩
    rw [(Store.storeRecord_eq_ok.mp hcommitted).2]
    rfl

/-- A completion that is carried out is told to the newest dispatcher connection of the user whom the
pilot remembers. -/
theorem Carried.completion_told (h : Carried ctx s me (.serviceComplete remarks) u)
    (hs : s.registry.Sound) (hme : s.registry.find? me.id = some me)
    (hw : s.registry.find? i = some w) (hrole : w.role = .dispatcher)
    (huser : w.session.userId = me.session.dispatcherUser) :
    ∃ t, s.registry.find? t.id = some t ∧ t.role = .dispatcher ∧
      t.session.userId = me.session.dispatcherUser ∧
      (∀ {j v}, s.registry.find? j = some v → v.role = .dispatcher →
        v.session.userId = me.session.dispatcherUser → j ≤ t.id) ∧
      (s.registry.mail true u.posts).filter (fun o => o.message.isCompletionOf me.id)
        = [batched (.serviceCompleted me.id remarks) t.id] := by
  cases h with
  | completed hpilot hserved hcommitted =>
    obtain ⟨user, hsome⟩ := Option.isSome_iff_exists.mp (hs.user_isSome hw (by rw [hrole]; decide))
    rw [hsome] at huser
    obtain ⟨t, hposts, ht, htrole, htuser, hmax⟩ := Registry.completion_of_find?
      (.serviceCompleted me.id remarks) ((find?_released_iff hme hpilot hrole).mpr hw) hrole hsome
    rw [find?_released_iff hme hpilot htrole] at ht
    rw [← huser]
    refine ⟨t, ht, htrole, htuser, fun hv hvrole hvuser => ?_, ?_⟩
    · exact hmax ((find?_released_iff hme hpilot hvrole).mpr hv) hvrole hvuser
    · rw [hposts]
      exact Registry.filter_mail_singleton (filter_one .nil (.singleton rfl) (decide_eq_true rfl))
        (Registry.contains_of_find? ht)

namespace Relay

variable {t : Relay} {c : Connection} {n : ℕ}

/-- In every run from a steady relay, such as one without connections, a served pilot who reports its
service as done is heard, if the store takes the record. -/
theorem completion_reported (start : t.Steady n) (es : List Event)
    (few : n + es.countP Event.isAccept < 2 ^ 64 - 1)
    (hc : (t.run es).registry.find? p = some c) (hserved : c.session.dispatcher ≠ noConnection)
    (htakes : (t.run es).store.TakesRecords) (ctx : RelayContext) (remarks : String)
    (owner : Option UserId) : (t.run es).Completes ctx c remarks owner := by
  obtain rfl := Registry.id_of_find? hc
  have hsteady := start.run es few
  have hs := hsteady.sound
  obtain ⟨hpilot, -⟩ := (hs.coherent hc).served hserved
  have hauth := hs.isAuthenticated hc fun he => absurd (he.symm.trans hpilot) (by decide)
  obtain ⟨u, how, hbecomes⟩ := carried_message ctx ⟨.serviceComplete remarks, c.id, owner⟩
    hsteady.isOpen hc (Handler.carriedOut_complete_message hc hpilot hauth hserved
      (Store.storeRecord_eq_ok.mpr ⟨htakes, rfl⟩))
  obtain ⟨hfreed, hrecorded⟩ := how.completion_recorded hc
  refine ⟨hs.served hc hserved, accepts_of_carried hc how hbecomes, ?_, ?_, ?_⟩
  · exact (congrArg (fun r : Registry => r.aspect Session.dispatcher c.id) hbecomes.registry).trans hfreed
  · exact (congrArg (fun s : Store => s.data.records) hbecomes.store).trans hrecorded
  · intro i w hw hrole huser
    rw [hbecomes.emitted]
    exact how.completion_told hs hc hw hrole huser

/-! ## Two runs -/

/-- The relay when the dispatcher has taken the request of the pilot. -/
def served : Relay := asked.run [.sent 2 (.serviceAccept 1)]

/-- The relay is sound once the request is accepted. -/
theorem steady_served : served.Steady 3 := steady_asked.run [.sent 2 (.serviceAccept 1)] (by decide)

/-- A login as a dispatcher. -/
def dispatcherLogin (id : ConnectionId) (user : UserId) : Event :=
  .sent id (.login ⟨user, "CD34", "token", .dispatcher, 1, .none, none, none⟩)

/-- The user behind the dispatcher connects again. -/
def reconnection : List Event := [.accept none .standard 0, dispatcherLogin 4 2]

/-- A user who has connected again hears of the completion on the new connection. -/
theorem completion_reported_served :
    ((served.run reconnection).emitted (.sent 1 (.serviceComplete "thanks"))).filter
        (fun o => o.message.isCompletionOf 1) = [batched (.serviceCompleted 1 "thanks") 4] := by
  have hsteady := steady_served.run reconnection (by decide)
  obtain ⟨c, hc⟩ := Registry.contains_iff.mp
    (show (served.run reconnection).registry.contains 1 = true by decide +kernel)
  obtain ⟨w, hw⟩ := Registry.contains_iff.mp
    (show (served.run reconnection).registry.contains 4 = true by decide +kernel)
  have hpilot : (served.run reconnection).registry.aspect (fun s => (s.dispatcher, s.dispatcherUser)) 1
      = some (2, some 2) := by decide +kernel
  have hagain : (served.run reconnection).registry.aspect (fun s => (s.role, s.userId)) 4
      = some (.dispatcher, some 2) := by decide +kernel
  have hnext : (served.run reconnection).registry.nextId.toNat = 5 := by decide +kernel
  rw [Registry.aspect_of_find? hc] at hpilot
  rw [Registry.aspect_of_find? hw] at hagain
  obtain ⟨hdispatcher, huser⟩ := Prod.mk.inj (Option.some.inj hpilot)
  obtain ⟨hrole, hwuser⟩ := Prod.mk.inj (Option.some.inj hagain)
  have hcompletes := completion_reported steady_served reconnection (by decide) hc
    (by rw [hdispatcher]; decide) (by constructor <;> decide +kernel)
    ⟨.trusting, .standard, 0⟩ "thanks" none
  obtain ⟨t, ht, -, -, hmax, htold⟩ := hcompletes.told hw hrole (hwuser.trans huser.symm)
  -- nobody has a greater number than the connection that was accepted last
  have hlast : t.id = 4 := by
    have hlow := UInt64.le_iff_toNat_le.mp (hmax hw hrole (hwuser.trans huser.symm))
    have hhigh := UInt64.lt_iff_toNat_lt.mp (hsteady.sound.numbered ht).2
    rw [hnext] at hhigh
    have hfour : (4 : ConnectionId).toNat = 4 := rfl
    apply UInt64.toNat_inj.mp
    omega
  rw [hlast, Registry.id_of_find? hc] at htold
  exact htold

/-- The dispatcher logs in as somebody else, and does not hear of the completion, live as it is. -/
theorem completion_unheard :
    (served.run [dispatcherLogin 2 5]).Steady 3 ∧
      (served.run [dispatcherLogin 2 5]).registry.aspect Session.dispatcher 1 = some 2 ∧
      (served.run [dispatcherLogin 2 5]).registry.aspect Session.role 2 = some .dispatcher ∧
      (served.run [dispatcherLogin 2 5]).store.TakesRecords ∧
      ((served.run [dispatcherLogin 2 5]).emitted (.sent 1 (.serviceComplete "thanks"))).filter
        (fun o => o.message.isCompletionOf 1) = [] :=
  ⟨steady_served.run [dispatcherLogin 2 5] (by decide), by decide +kernel,
    by decide +kernel, (by constructor <;> decide +kernel),
    List.isEmpty_iff.mp (by decide +kernel)⟩

end Relay

end FlightRelay

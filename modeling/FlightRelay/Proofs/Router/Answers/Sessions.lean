import FlightRelay.Proofs.Router.Execution
import FlightRelay.Proofs.Router.Outcome

/-!
# What login and telemetry answer

Every handler answers a message of a live connection in one of the ways of `Answered`: it refuses it, or
it carries it out.  Here are a login, a sign of life, and the reports of pilots and dispatchers.
-/

namespace FlightRelay

namespace Handler

open Outbound Session Relay

variable {ctx : RelayContext} {s u : Relay} {me : Connection} {r : Registry} {store : Store}
  {counters : RouterCounters} {posts : List Outbound}

/-- A wish for a range is refused or passed over. -/
theorem requireRange_then {P : Except RouteError Unit × Relay → Prop} {range : Option Float}
    {k : Unit → Handler Unit} (stop : ∀ e, P (.error e, s)) (go : P ((k ()).exec s)) :
    P ((requireRange range >>= k).exec s) := by
  cases range with
  | none => exact go
  | some r => exact require_then (fun _ => stop _) fun _ => go

/-- A first picture is sent to a connection with a position, and then no picture is owed any more. -/
theorem exec_sendPicture {c : Connection} {location : Geo.Point}
    (h : u.Reaches ⟨r, store, counters, posts⟩ s) (hc : r.find? me.id = some c)
    (hl : c.session.location = some location) :
    ∃ t, (sendPicture me.id).exec s = (.ok (), t) ∧
      u.Reaches ⟨r.modify me.id fun s => { s with snapshotPending := false }, store, counters,
        posts ++ r.firstPicture c⟩ t := by
  have hid : c.id = me.id := Registry.id_of_find? hc
  have hposts := posts_sendEach (s := s)
    (((pictureOf r c location).filterMap trafficOf).map fun m => (m, me.id))
  have hpicture : (((pictureOf r c location).filterMap trafficOf).map
      fun m => (m, me.id)).map (fun m => batched m.1 m.2) = r.firstPicture c := by
    simp only [Registry.firstPicture, hl, Registry.picture, List.map_map, hid]
    rfl
  rw [hpicture] at hposts
  have hreach := h.post hposts
  refine ⟨_, ?_, hreach.withRegistry fun i => Registry.contains_modify.trans (h.live i)⟩
  unfold sendPicture
  simp only [exec_registry_bind, h.registry, hc, hl, exec_modify_bind, exec_setRegistry,
    hreach.registry]

/-- What a login leaves owed: the picture is sent at once if there is a position. -/
theorem modify_loggedIn {form : LoginForm} {callsign : String} {user : UserId}
    (hme : r.find? me.id = some me)
    (h : (me.session.position.isSome && form.role.rendersTraffic) = false) :
    r.modify me.id (loggedIn form callsign user ctx.defaults)
      = r.modify me.id (welcomed form callsign user ctx.defaults) := by
  apply Registry.modify_congr hme
  rw [welcomed, loggedIn]
  congr 1
  cases hp : me.session.position <;> simp_all

/-- Who has a position is shown the picture at the login, and none is owed any more. -/
theorem modify_loggedIn_shown {form : LoginForm} {callsign : String} {user : UserId}
    (hme : r.find? me.id = some me) (hp : me.session.position.isSome = true) :
    (r.modify me.id (loggedIn form callsign user ctx.defaults)).modify me.id
        (fun s => { s with snapshotPending := false })
      = r.modify me.id (welcomed form callsign user ctx.defaults) := by
  rw [Registry.modify_modify]
  apply Registry.modify_congr hme
  obtain ⟨p, hp⟩ := Option.isSome_iff_exists.mp hp
  simp only [Function.comp, welcomed, loggedIn, hp, Option.isNone_some, Bool.and_false]

/-- A login is refused, or acknowledged and followed by the first picture where one is owed. -/
theorem answered_login {form : LoginForm} (hme : s.registry.find? me.id = some me) :
    Answered ctx s me (.login form) ((login ctx me form).exec s) := by
  unfold login
  refine require_then (fun _ => .plain) fun hrole => ?_
  refine require_then (fun _ => .plain) fun _ => ?_
  refine requireRange_then (fun _ => .plain) ?_
  refine require_then (fun _ => .plain) fun hfixed => ?_
  cases hknown : ctx.authenticate form.userId form.token with
  | error e => exact .plain
  | ok profile =>
    simp only [exec_pure_bind]
    refine require_then (fun _ => .plain) fun hpermitted => ?_
    have hrole' : form.role ≠ .unidentified := of_decide_eq_true hrole
    have hfixed' : me.session.isAuthenticated = true → me.role = form.role := by
      intro hauth
      rw [hauth, Bool.not_true, Bool.false_or] at hfixed
      exact of_decide_eq_true hfixed
    have hcarried : Carried ctx s me (.login form) _ := .login hrole' hfixed' hknown hpermitted rfl
    have hfound : (s.registry.modify me.id
        (loggedIn form (Text.trim form.callsign) profile.userId ctx.defaults)).find? me.id = _ :=
      Registry.find?_modify_self hme
    have hupdated : s.Reaches ⟨s.registry.modify me.id
        (loggedIn form (Text.trim form.callsign) profile.userId ctx.defaults), s.store, s.counters,
        []⟩ _ := Reaches.refl.withRegistry fun i => Registry.contains_modify
    have hsent := hupdated.post (posts_sendNow (.accepted "login") me.id)
    rw [exec_update_bind hme]
    simp only [exec_registry_bind, exec_perform_bind, hfound, Option.any_some]
    split
    · rename_i hshown
      rw [Bool.and_eq_true] at hshown
      have hposition : me.session.position.isSome = true := hshown.1
      obtain ⟨p, hp⟩ := Option.isSome_iff_exists.mp hposition
      obtain ⟨t, hrun, hreach⟩ := exec_sendPicture hsent hfound
        (congrArg (Option.map Position.location) hp)
      rw [hrun]
      rw [modify_loggedIn_shown hme hposition] at hreach
      rw [if_pos hshown.2] at hcarried
      exact .carried hcarried hreach
    · rename_i hshown
      rw [Bool.not_eq_true] at hshown
      -- without a position the picture of a display is empty, and nobody else has one
      have hnone : (if form.role.rendersTraffic = true then
          (s.registry.modify me.id
            (loggedIn form (Text.trim form.callsign) profile.userId ctx.defaults)).firstPicture
            (me.withSession (loggedIn form (Text.trim form.callsign) profile.userId ctx.defaults))
          else []) = [] := by
        split
        · rename_i hrenders
          rw [hrenders, Bool.and_true] at hshown
          have hlocation : (me.withSession
              (loggedIn form (Text.trim form.callsign) profile.userId ctx.defaults)).session.location
              = none :=
            congrArg (Option.map Position.location) (Option.isNone_iff_eq_none.mp
              (Option.isSome_eq_false_iff.mp hshown))
          simp only [Registry.firstPicture, hlocation]
        · rfl
      rw [hnone] at hcarried
      rw [← modify_loggedIn hme hshown] at hcarried
      exact .carried hcarried hsent

/-- A ping is always answered. -/
theorem answered_ping {nonce : UInt64} :
    Answered ctx s me (.ping nonce) ((ping ctx me.id nonce).exec s) :=
  .carried .ping (Reaches.refl.post (posts_sendNow _ _))

/-- A position reported when no picture is owed changes the position alone. -/
theorem modify_reported {p : Position} (hme : r.find? me.id = some me)
    (h : me.session.snapshotPending = false) :
    r.modify me.id (fun s => { s with position := some p }) = r.modify me.id (reported p) := by
  apply Registry.modify_congr hme
  rw [reported, ← h]

/-- A position is passed on to the viewer alone, or else to the dispatcher and to the displays. -/
theorem exec_positionReport (me : Connection) (p : Position)
    (h : u.Reaches ⟨r, store, counters, posts⟩ s) :
    ∃ t, (do
        if me.role = .pilot then
          if me.session.viewer ≠ noConnection then
            perform fun w => w.send (trafficAt me p) me.session.viewer
          else
            if me.session.dispatcher ≠ noConnection then
              perform fun w => w.sendToDispatcher (trafficAt me p) me.session.dispatcher
            let displays := (← registry).within p.location me.session.range fun c =>
              c.id ≠ me.id && c.role.rendersTraffic
            modify fun w => w.sendEach (displays.map fun (c, _) => (trafficAt me p, c.id)) :
        Handler Unit).exec s = (.ok (), t) ∧
      u.Reaches ⟨r, store, counters,
        posts ++ if me.role = .pilot then r.positionReports me p else []⟩ t := by
  -- the displays come last, whatever was posted until then
  have hdisplays : ∀ {w : Relay} {more : List Outbound}, u.Reaches ⟨r, store, counters, more⟩ w →
      u.Reaches ⟨r, store, counters, more
        ++ (r.within p.location me.session.range fun c => c.id ≠ me.id && c.role.rendersTraffic).map
          fun d => batched (trafficAt me p) d.1.id⟩
        (w.sendEach ((w.registry.within p.location me.session.range fun c =>
          c.id ≠ me.id && c.role.rendersTraffic).map fun d => (trafficAt me p, d.1.id))) := by
    intro w more hw
    have hposts := posts_sendEach (s := w) ((w.registry.within p.location me.session.range fun c =>
      c.id ≠ me.id && c.role.rendersTraffic).map fun d => (trafficAt me p, d.1.id))
    rw [List.map_map] at hposts
    have hregistry : w.registry = r := hw.registry
    rw [hregistry] at hposts ⊢
    exact hw.post hposts
  unfold Registry.positionReports
  by_cases hrole : me.role = .pilot
  · simp only [if_pos hrole]
    by_cases hviewer : me.session.viewer ≠ noConnection
    · simp only [if_pos hviewer]
      exact ⟨_, rfl, h.send⟩
    · simp only [if_neg hviewer]
      by_cases hdispatcher : me.session.dispatcher ≠ noConnection
      · simp only [if_pos hdispatcher, ← List.append_assoc]
        exact ⟨_, rfl, hdisplays h.sendToDispatcher⟩
      · simp only [if_neg hdispatcher, List.nil_append]
        exact ⟨_, rfl, hdisplays h⟩
  · simp only [if_neg hrole, List.append_nil]
    exact ⟨s, rfl, h⟩

/-- A valid position is carried out. -/
theorem carriedOut_position {p : Position} (hme : s.registry.find? me.id = some me)
    (hauth : me.session.isAuthenticated = true) (hvalid : p.location.isValid = true) :
    CarriedOut ctx s me (.position p) ((position me p).exec s) := by
  unfold position
  refine require_then (fun hinvalid => ?_) fun _ => ?_
  · cases hvalid.symm.trans hinvalid
  have hcarried : Carried ctx s me (.position p) _ := .position hauth hvalid rfl
  have hfound : (s.registry.modify me.id fun s => { s with position := some p }).find? me.id = _ :=
    Registry.find?_modify_self hme
  have hupdated : s.Reaches ⟨s.registry.modify me.id fun s => { s with position := some p }, s.store,
      s.counters, []⟩ _ := Reaches.refl.withRegistry fun i => Registry.contains_modify
  rw [exec_update_bind hme]
  simp only [exec_registry_bind, hfound, Option.getD_some]
  cases hpending : me.session.snapshotPending with
  | true =>
    -- the picture that is owed is sent before the report
    obtain ⟨t, hrun, hreach⟩ := exec_sendPicture hupdated hfound rfl
    rw [Registry.modify_modify] at hreach
    obtain ⟨t', hreport, hreach'⟩ := exec_positionReport me p hreach
    rw [hpending, if_pos rfl] at hcarried
    simp only [Connection.withSession, hpending, if_true]
    rw [exec_bind_of_ok hrun]
    have hanswer := CarriedOut.carried hcarried hreach'
    rw [← hreport] at hanswer
    exact hanswer
  | false =>
    rw [modify_reported hme hpending] at hupdated
    obtain ⟨t', hreport, hreach'⟩ := exec_positionReport me p hupdated
    simp only [hpending, Bool.false_eq_true, if_false] at hcarried
    simp only [Connection.withSession, hpending, Bool.false_eq_true, if_false]
    have hanswer := CarriedOut.carried hcarried hreach'
    rw [← hreport, ← modify_reported hme hpending] at hanswer
    exact hanswer

/-- A position is refused as out of bounds, or recorded and fanned out. -/
theorem answered_position {p : Position} (hme : s.registry.find? me.id = some me)
    (hauth : me.session.isAuthenticated = true) :
    Answered ctx s me (.position p) ((position me p).exec s) := by
  cases hvalid : p.location.isValid with
  | true => exact (carriedOut_position hme hauth hvalid).answered
  | false =>
    unfold position
    rw [hvalid]
    exact .plain

/-- A plan is refused, or recorded and passed on to whoever follows the pilot. -/
theorem answered_flightInfo {plan : FlightPlan} (hme : s.registry.find? me.id = some me) :
    Answered ctx s me (.flightInfo plan) ((flightInfo me plan).exec s) := by
  unfold flightInfo
  refine requireRole_then (fun _ => .plain) fun hrole => ?_
  have hcarried : Carried ctx s me (.flightInfo plan) _ := .flightInfo hrole rfl
  have hfound : (s.registry.modify me.id fun s => { s with flightPlan := some plan }).find? me.id = _ :=
    Registry.find?_modify_self hme
  have hupdated : s.Reaches ⟨s.registry.modify me.id fun s => { s with flightPlan := some plan },
      s.store, s.counters, []⟩ _ := Reaches.refl.withRegistry fun i => Registry.contains_modify
  rw [exec_update_bind hme]
  simp only [exec_registry_bind, hfound, Option.getD_some, Connection.withSession]
  unfold Registry.planReports at hcarried
  by_cases hdispatcher : me.session.dispatcher ≠ noConnection
  · by_cases hviewer : me.session.viewer ≠ noConnection
    · simp only [if_pos hdispatcher, if_pos hviewer] at hcarried ⊢
      exact .carried hcarried hupdated.sendToDispatcher.send
    · simp only [if_pos hdispatcher, if_neg hviewer, List.append_nil] at hcarried ⊢
      exact .carried hcarried hupdated.sendToDispatcher
  · by_cases hviewer : me.session.viewer ≠ noConnection
    · simp only [if_neg hdispatcher, if_pos hviewer] at hcarried ⊢
      exact .carried hcarried hupdated.send
    · simp only [if_neg hdispatcher, if_neg hviewer, List.append_nil] at hcarried ⊢
      exact .carried hcarried hupdated

/-- A report for duty is refused, or recorded and acknowledged. -/
theorem answered_dispatcherStatus {form : DutyForm} (hme : s.registry.find? me.id = some me) :
    Answered ctx s me (.dispatcherStatus form) ((dispatcherStatus me form).exec s) := by
  unfold dispatcherStatus
  refine requireRole_then (fun _ => .plain) fun hrole => ?_
  refine requireRange_then (fun _ => .plain) ?_
  refine require_then (fun _ => .plain) fun _ => ?_
  rw [exec_update_bind hme]
  have hupdated : s.Reaches ⟨s.registry.modify me.id (dutyChanged form), s.store, s.counters, []⟩ _ :=
    Reaches.refl.withRegistry fun i => Registry.contains_modify
  exact .carried (.dispatcherStatus hrole) hupdated.send

end Handler

end FlightRelay

import FlightRelay.Proofs.Registry.Proximity
import FlightRelay.Proofs.Router.Endings
import FlightRelay.Proofs.Router.Positions
import FlightRelay.Proofs.Router.Privacy

/-!
# Who hears where a pilot is

A pilot whom nobody follows is seen by its dispatcher and by the displays around it.  When it leaves, the
displays around it are told: the same ones that would hear of it if it reported its last position again.
-/

namespace FlightRelay

open Outbound Handler Session

/-- The message takes a connection off the displays. -/
def ServerMessage.isRemoval : ServerMessage → Bool
  | .trafficRemoved _ => true
  | _ => false

/-- A display near a place: a live pilot or spectator, other than `p`, whose position is no farther from
the place than the radius. -/
def Registry.DisplayNear (r : Registry) (place : Geo.Point) (radius : Float) (p id : ConnectionId) :
    Prop :=
  id ≠ p ∧ ∃ c here, r.find? id = some c ∧ (c.role = .pilot ∨ c.role = .viewer) ∧
    c.session.location = some here ∧ here.distance place ≤ radius

namespace Relay

/-- What is told of a pilot when it reports a position. -/
def told (s : Relay) (ctx : RelayContext) (p : ConnectionId) (owner : Option UserId) (q : Position) :
    List Outbound :=
  (s.emitted (.message ctx ⟨.position q, p, owner⟩)).filter fun o => o.message.isTrafficOf p

/-- A pilot whom nobody follows is shown to those whom it concerns. -/
structure FansOut (s : Relay) (p : ConnectionId) (me : Connection) : Prop where
  /-- An accepted position is told to the dispatcher of the pilot and to the displays near the new place,
  and to nobody else. -/
  reports : ∀ {ctx owner q}, s.Accepts ctx ⟨.position q, p, owner⟩ → ∀ o, o ∈ s.told ctx p owner q ↔
    ∃ id, (me.session.dispatcher ≠ noConnection ∧ id = me.session.dispatcher ∨
        s.registry.DisplayNear q.location me.session.range p id) ∧
      o = batched (.traffic p me.session.callsign q none 0) id
  /-- Nobody is told twice, and the pilot is not told of itself. -/
  once : ∀ {ctx owner q}, s.Accepts ctx ⟨.position q, p, owner⟩ →
    ((s.told ctx p owner q).map Outbound.target).Nodup ∧ ∀ o ∈ s.told ctx p owner q, o.target ≠ p
  /-- The pilot could report its last position again. -/
  repeats : ∀ {ctx owner q}, me.session.position = some q → s.Accepts ctx ⟨.position q, p, owner⟩
  /-- When the pilot leaves, it is taken off the displays that would be told of it if it reported its last
  position again. -/
  removed : ∀ {ctx owner q}, me.session.position = some q → ∀ o,
    (o ∈ s.emitted (.disconnect p) ∧ o.message.isRemoval = true) ↔
      ∃ id c, s.registry.find? id = some c ∧ (c.role = .pilot ∨ c.role = .viewer) ∧
        id ∈ (s.told ctx p owner q).map Outbound.target ∧ o = batched (.trafficRemoved p) id
  /-- No display is told twice that the pilot is gone. -/
  removedOnce : (((s.emitted (.disconnect p)).filter fun o => o.message.isRemoval).map
    Outbound.target).Nodup

end Relay

variable {ctx : RelayContext} {s : Relay} {me c : Connection} {u : Outcome} {o : Outbound}
  {r r' : Registry} {removal : Registry.Removal} {p id : ConnectionId} {place : Geo.Point}
  {radius : Float} {keep : Connection → Bool} {message : ServerMessage}

/-! ## Displays -/

/-- What a display says of itself: its role and where it is. -/
def Session.whereabouts (s : Session) : Role × Option Geo.Point := (s.role, s.location)

namespace Registry

/-- A message to the displays near a place. -/
theorem mem_displays (hkeep : ∀ c, keep c = true ↔ c.id ≠ p ∧ c.role.rendersTraffic = true) :
    o ∈ (r.within place radius keep).map (fun d => batched message d.1.id) ↔
      ∃ id, r.DisplayNear place radius p id ∧ o = batched message id := by
  rw [List.mem_map]
  constructor
  · rintro ⟨d, hd, rfl⟩
    obtain ⟨hlive, hkept, hdistance, hnear⟩ := mem_within_iff.mp hd
    obtain ⟨hother, hdisplay⟩ := (hkeep d.1).mp hkept
    obtain ⟨here, hhere, hmeasured⟩ := Option.map_eq_some_iff.mp hdistance
    refine ⟨d.1.id, ⟨hother, d.1, here, hlive, Role.rendersTraffic_iff.mp hdisplay, hhere, ?_⟩, rfl⟩
    rw [hmeasured]
    exact hnear
  · rintro ⟨id, ⟨hother, c, here, hlive, hdisplay, hhere, hnear⟩, rfl⟩
    obtain rfl := id_of_find? hlive
    refine ⟨(c, here.distance place), mem_within_iff.mpr ⟨hlive, ?_, ?_, hnear⟩, rfl⟩
    · exact (hkeep c).mpr ⟨hother, Role.rendersTraffic_iff.mpr hdisplay⟩
    · exact congrArg (Option.map fun here => here.distance place) hhere

/-- No display is told twice. -/
theorem nodup_displays : (((r.within place radius keep).map
    fun d => batched message d.1.id).map Outbound.target).Nodup := by
  rw [List.map_map]
  exact nodup_within

/-- A display near a place is live. -/
theorem DisplayNear.contains (h : r.DisplayNear place radius p id) : r.contains id = true := by
  obtain ⟨-, c, -, hlive, -⟩ := h
  exact contains_of_find? hlive

/-- Registries in which all but one connection are in the same roles at the same places have the same
displays near a place. -/
theorem displayNear_congr
    (h : ∀ id, id ≠ p → r'.aspect whereabouts id = r.aspect whereabouts id) :
    r'.DisplayNear place radius p id ↔ r.DisplayNear place radius p id := by
  have transfer : ∀ {r r' : Registry}, r'.aspect whereabouts id = r.aspect whereabouts id →
      r.DisplayNear place radius p id → r'.DisplayNear place radius p id := by
    rintro r r' hsame ⟨hother, c, here, hlive, hdisplay, hhere, hnear⟩
    rw [aspect_of_find? hlive] at hsame
    obtain ⟨c', hlive', hwhere⟩ := aspect_eq_some_iff.mp hsame
    obtain ⟨hrole, hlocation⟩ := Prod.mk.inj hwhere
    have hrole' : c'.role = c.role := hrole
    exact ⟨hother, c', here, hlive', hrole' ▸ hdisplay, hlocation.trans hhere, hnear⟩
  refine ⟨fun hnear => ?_, fun hnear => ?_⟩
  · exact transfer (h id hnear.1).symm hnear
  · exact transfer (h id hnear.1) hnear

end Registry

/-! ## Reports -/

namespace Registry

/-- The dispatcher of a connection, if it has one, is live. -/
def ServedBy (r : Registry) (me : Connection) : Prop :=
  me.session.dispatcher ≠ noConnection →
    ∃ d, r.find? me.session.dispatcher = some d ∧ d.role = .dispatcher

/-- A pilot whom nobody views is reported to its dispatcher and to the displays near it. -/
theorem positionReports_of_unviewed {q : Position} (hviewer : me.session.viewer = noConnection)
    (hserved : r.ServedBy me) : r.positionReports me q
      = (if me.session.dispatcher ≠ noConnection
          then [batched (trafficAt me q) me.session.dispatcher] else [])
        ++ (r.within q.location me.session.range fun c => c.id ≠ me.id && c.role.rendersTraffic).map
          fun d => batched (trafficAt me q) d.1.id := by
  rw [positionReports, if_neg (fun h => h hviewer)]
  congr 1
  split
  · obtain ⟨d, hd, hrole⟩ := hserved ‹_›
    exact toDispatcher_of_find? hd hrole
  · rfl

/-- A pilot whom nobody follows tells its dispatcher and the displays near it of a position. -/
theorem mem_positionReports_iff {q : Position} (hviewer : me.session.viewer = noConnection)
    (hserved : r.ServedBy me) : o ∈ r.positionReports me q ↔
      ∃ id, (me.session.dispatcher ≠ noConnection ∧ id = me.session.dispatcher ∨
          r.DisplayNear q.location me.session.range me.id id) ∧
        o = batched (trafficAt me q) id := by
  have hkeep : ∀ c : Connection, (c.id ≠ me.id && c.role.rendersTraffic : Bool) = true
      ↔ c.id ≠ me.id ∧ c.role.rendersTraffic = true := by
    intro c
    rw [Bool.and_eq_true, decide_eq_true_eq]
  rw [positionReports_of_unviewed hviewer hserved, List.mem_append, mem_displays hkeep]
  constructor
  · rintro (hmem | ⟨id, hnear, rfl⟩)
    · split at hmem
      · rw [List.mem_singleton.mp hmem]
        exact ⟨_, .inl ⟨‹_›, rfl⟩, rfl⟩
      · cases hmem
    · exact ⟨id, .inr hnear, rfl⟩
  · rintro ⟨id, ⟨hbound, rfl⟩ | hnear, rfl⟩
    · rw [if_pos hbound]
      exact .inl List.mem_cons_self
    · exact .inr ⟨id, hnear, rfl⟩

/-- No two of them are the same, since a dispatcher is no display. -/
theorem nodup_positionReports {q : Position} (hviewer : me.session.viewer = noConnection)
    (hserved : r.ServedBy me) : ((r.positionReports me q).map Outbound.target).Nodup := by
  rw [positionReports_of_unviewed hviewer hserved, List.map_append, List.nodup_append]
  refine ⟨?_, nodup_displays, ?_⟩
  · split <;> simp
  · intro i hi j hj he
    split at hi
    · obtain ⟨d, hd, hrole⟩ := hserved ‹_›
      obtain rfl := List.mem_singleton.mp hi
      rw [List.map_map] at hj
      obtain ⟨n, hn, rfl⟩ := List.mem_map.mp hj
      obtain ⟨hlive, hkeep⟩ := mem_within hn
      have hdisplay : n.1.role.rendersTraffic = true := (Bool.and_eq_true_iff.mp hkeep).2
      have hsame : r.find? n.1.id = some d := by
        rw [← hd]
        exact congrArg r.find? he.symm
      obtain rfl := Option.some.inj (hlive.symm.trans hsame)
      rw [hrole] at hdisplay
      cases hdisplay
    · cases hi

end Registry

namespace Relay

/-- What is told of a pilot whom nobody follows is what its accepted position calls for. -/
theorem told_eq {n : Nat} {ctx : RelayContext} {owner : Option UserId} {q : Position}
    (hs : s.Steady n) (hme : s.registry.find? me.id = some me) (hrole : me.role = .pilot)
    (hviewer : me.session.viewer = noConnection) (h : s.Accepts ctx ⟨.position q, me.id, owner⟩) :
    (s.registry.modify me.id (reported q)).ServedBy me ∧
      s.told ctx me.id owner q = (s.registry.modify me.id (reported q)).positionReports me q := by
  have hserved : (s.registry.modify me.id (reported q)).ServedBy me := by
    intro hbound
    obtain ⟨d, hd, hdispatcher⟩ := hs.sound.served hme hbound
    have hne := Registry.ne_of_role hd hme hdispatcher hrole (by decide)
    exact ⟨d, (Registry.find?_modify_of_ne hne).trans hd, hdispatcher⟩
  refine ⟨hserved, ?_⟩
  obtain ⟨u, how, hbecomes⟩ := h.carried hs.isOpen hme
  have hown := how.own_traffic hme
  rw [if_pos hrole] at hown
  have hemitted : s.emitted (.message ctx ⟨.position q, me.id, owner⟩) = s.registry.mail true u.posts :=
    hbecomes.emitted
  rw [told, hemitted]
  refine Eq.trans hown (Registry.mail_eq_self fun o ho => ?_)
  show s.registry.contains o.target = true
  rw [← Registry.contains_modify (f := reported q)]
  obtain ⟨id, ⟨hbound, rfl⟩ | hnear, rfl⟩ := (Registry.mem_positionReports_iff hviewer hserved).mp ho
  · obtain ⟨d, hd, -⟩ := hserved hbound
    exact Registry.contains_of_find? hd
  · exact hnear.contains

end Relay

/-! ## Removals -/

namespace Registry

/-- The displays that are told when a pilot whom nobody followed is gone. -/
theorem mem_trafficFarewell_iff {gone : Connection} (hviewer : gone.session.viewer = noConnection) :
    o ∈ r.trafficFarewell gone ↔ ∃ place id, gone.session.location = some place ∧
      r.DisplayNear place gone.session.range gone.id id ∧ o = batched (.trafficRemoved gone.id) id := by
  have hkeep : ∀ c : Connection, (c.role.rendersTraffic && c.id ≠ gone.id : Bool) = true
      ↔ c.id ≠ gone.id ∧ c.role.rendersTraffic = true := by
    intro c
    rw [Bool.and_eq_true, decide_eq_true_eq, and_comm]
  rw [trafficFarewell, if_neg (fun h => h hviewer)]
  cases gone.session.location with
  | none =>
    constructor
    · intro h
      cases h
    · rintro ⟨place, id, hplace, -⟩
      cases hplace
  | some place =>
    rw [mem_displays hkeep]
    constructor
    · rintro ⟨id, hnear, rfl⟩
      exact ⟨place, id, rfl, hnear, rfl⟩
    · rintro ⟨place', id, hplace, hnear, rfl⟩
      obtain rfl := Option.some.inj hplace
      exact ⟨id, hnear, rfl⟩

/-- No display hears twice that a pilot is gone. -/
theorem nodup_trafficFarewell {gone : Connection} (hviewer : gone.session.viewer = noConnection) :
    ((r.trafficFarewell gone).map Outbound.target).Nodup := by
  rw [trafficFarewell, if_neg (fun h => h hviewer)]
  cases gone.session.location with
  | none => exact List.nodup_nil
  | some place => exact nodup_displays

/-- Of all that is told when a pilot whom nobody followed is gone, this takes it off displays. -/
theorem filter_farewells (h : r.remove id = some (removal, r'))
    (hrole : removal.snapshot.role = .pilot) (hviewer : removal.snapshot.session.viewer = noConnection) :
    (r'.mail true (r'.farewells removal)).filter (fun o => o.message.isRemoval)
      = r'.trafficFarewell removal.snapshot := by
  have hbindings : Without ServerMessage.isRemoval (bindingFarewell removal) :=
    without_bindingFarewell h fun i _ => ⟨rfl, rfl⟩
  have hservice : Without ServerMessage.isRemoval (r'.serviceFarewell removal.snapshot) :=
    .of_message (fun o ho => mem_serviceFarewell ho) rfl
  have hremovals : ∀ o ∈ r'.trafficFarewell removal.snapshot, o.message.isRemoval = true := by
    intro o ho
    obtain ⟨place, id, -, -, rfl⟩ := (mem_trafficFarewell_iff hviewer).mp ho
    rfl
  have haround := filter_around (hbindings.append hservice) .nil hremovals
  rw [List.append_nil] at haround
  rw [farewells_of_pilot hrole, ← List.append_assoc]
  refine filter_mail haround fun o ho => ?_
  obtain ⟨place, id, -, hnear, rfl⟩ := (mem_trafficFarewell_iff hviewer).mp ho
  exact hnear.contains

end Registry

namespace Relay

/-- A pilot whom nobody follows is taken off the displays that are around it when it has left; everybody
who stays is where it was. -/
theorem removals_eq (hopen : s.outbox.isOpen = true) (hme : s.registry.find? me.id = some me)
    (hrole : me.role = .pilot) (hviewer : me.session.viewer = noConnection) :
    ∃ r : Registry, (s.emitted (.disconnect me.id)).filter (fun o => o.message.isRemoval)
        = r.trafficFarewell me ∧
      ∀ id, id ≠ me.id → r.aspect whereabouts id = s.registry.aspect whereabouts id := by
  obtain ⟨u, happened, hbecomes⟩ := happened_step (e := .disconnect me.id) hopen
  rw [hbecomes.emitted]
  cases happened with
  | absent hgone => cases hgone.symm.trans hme
  | @departed _ removal r hremoved =>
    obtain ⟨hsnapshot, -, -, -, hfound⟩ := Registry.remove_eq_some hremoved
    have hgone := Option.some.inj (hsnapshot.symm.trans hme)
    have hfilter := Registry.filter_farewells hremoved (hgone ▸ hrole) (hgone ▸ hviewer)
    rw [hgone] at hfilter
    refine ⟨r, hfilter, fun id hne => ?_⟩
    rw [Registry.aspect, hfound, if_neg hne, Option.map_map]
    rfl

/-- A pilot whom nobody follows is shown, wherever it reports to be, to its dispatcher and to the displays
around it; and when it leaves, to the displays that it would be shown to if it stayed where it is. -/
theorem fan_out_exact (h : s.Reachable) (hme : s.registry.find? p = some me) (hrole : me.role = .pilot)
    (hviewer : me.session.viewer = noConnection) : s.FansOut p me := by
  obtain ⟨n, -, hsteady⟩ := h.steady
  obtain rfl := Registry.id_of_find? hme
  have hidentified : me.role ≠ .unidentified := by
    rw [hrole]
    decide
  have hauth := hsteady.sound.isAuthenticated hme hidentified
  have hreports : ∀ {ctx owner q}, s.Accepts ctx ⟨.position q, me.id, owner⟩ → ∀ o,
      o ∈ s.told ctx me.id owner q ↔
        ∃ id, (me.session.dispatcher ≠ noConnection ∧ id = me.session.dispatcher ∨
            s.registry.DisplayNear q.location me.session.range me.id id) ∧
          o = batched (trafficAt me q) id := by
    intro ctx owner q haccepts o
    obtain ⟨hserved, htold⟩ := told_eq hsteady hme hrole hviewer haccepts
    have hsame : ∀ id, id ≠ me.id → (s.registry.modify me.id (reported q)).aspect whereabouts id
        = s.registry.aspect whereabouts id := fun id hne => Registry.aspect_modify_of_ne hne
    rw [htold, Registry.mem_positionReports_iff hviewer hserved]
    simp only [Registry.displayNear_congr hsame]
  -- a pilot may always repeat the position that it has
  have hrepeats : ∀ {ctx owner q}, me.session.position = some q →
      s.Accepts ctx ⟨.position q, me.id, owner⟩ := fun hq =>
    accepts_position hsteady.isOpen hme hauth ((h.placed _ _ hme).valid _ hq)
  obtain ⟨r, hremovals, hstay⟩ := removals_eq hsteady.isOpen hme hrole hviewer
  refine ⟨hreports, fun {ctx owner q} haccepts => ⟨?_, ?_⟩, hrepeats, ?_, ?_⟩
  · obtain ⟨hserved, htold⟩ := told_eq hsteady hme hrole hviewer haccepts
    rw [htold]
    exact Registry.nodup_positionReports hviewer hserved
  · intro o ho
    obtain ⟨id, ⟨hbound, rfl⟩ | hnear, rfl⟩ := (hreports haccepts o).mp ho
    · obtain ⟨d, hd, hdispatcher⟩ := hsteady.sound.served hme hbound
      exact Registry.ne_of_role hd hme hdispatcher hrole (by decide)
    · exact hnear.1
  -- a removal is for the displays among those who would be told of the same position again
  · intro ctx owner q hq o
    have hplace : me.session.location = some q.location := by rw [Session.location, hq, Option.map_some]
    rw [← List.mem_filter (p := fun o : Outbound => o.message.isRemoval), hremovals,
      Registry.mem_trafficFarewell_iff hviewer]
    simp only [Registry.displayNear_congr hstay]
    constructor
    · rintro ⟨place, id, hplace', hnear, rfl⟩
      obtain rfl := Option.some.inj (hplace'.symm.trans hplace)
      obtain ⟨c, here, hlive, hdisplay, -⟩ := hnear.2
      refine ⟨id, c, hlive, hdisplay, List.mem_map.mpr ⟨batched (trafficAt me q) id, ?_, rfl⟩, rfl⟩
      exact (hreports (hrepeats hq) _).mpr ⟨id, .inr hnear, rfl⟩
    · rintro ⟨id, c, hlive, hdisplay, hmem, rfl⟩
      obtain ⟨o', ho', rfl⟩ := List.mem_map.mp hmem
      obtain ⟨id, ⟨hbound, rfl⟩ | hnear, rfl⟩ := (hreports (hrepeats hq) o').mp ho'
      · -- the dispatcher is told too, but it is no display
        obtain ⟨d, hd, hdispatcher⟩ := hsteady.sound.served hme hbound
        obtain rfl := Option.some.inj (hd.symm.trans hlive)
        rcases hdisplay with hdisplay | hdisplay <;> cases hdispatcher.symm.trans hdisplay
      · exact ⟨q.location, id, hplace, hnear, rfl⟩
  · rw [hremovals]
    exact Registry.nodup_trafficFarewell hviewer

/-- The first pilot reports its position, and the second one hears of it if it is in range. -/
theorem fan_out_exact_meeting :
    ∃ me here, ((empty .empty).run Event.meeting).registry.find? 1 = some me ∧
      ((empty .empty).run Event.meeting).registry.aspect location 2 = some (some here) ∧
      (2 ∈ (((empty .empty).run Event.meeting).told ⟨.trusting, .standard, 0⟩ 1 none
          ⟨⟨51, 9, 3000⟩, 90, 120, false⟩).map Outbound.target
        ↔ here.distance ⟨51, 9, 3000⟩ ≤ me.session.range) := by
  obtain ⟨me, hme, hsession⟩ := Registry.aspect_eq_some_iff.mp
    (show ((empty .empty).run Event.meeting).registry.aspect
        (fun s => (s.role, s.isAuthenticated, s.dispatcher, s.viewer)) 1
      = some (.pilot, true, noConnection, noConnection) by decide +kernel)
  obtain ⟨c, hc, hother⟩ := Registry.aspect_eq_some_iff.mp
    (show ((empty .empty).run Event.meeting).registry.aspect (fun s => (s.role, s.location.isSome)) 2
      = some (.pilot, true) by decide +kernel)
  simp only [Prod.mk.injEq] at hsession hother
  obtain ⟨hrole, hauth, hunserved, hunviewed⟩ := hsession
  obtain ⟨here, hhere⟩ := Option.isSome_iff_exists.mp hother.2
  have haccepts : ((empty .empty).run Event.meeting).Accepts ⟨.trusting, .standard, 0⟩
      ⟨.position ⟨⟨51, 9, 3000⟩, 90, 120, false⟩, 1, none⟩ :=
    accepts_position (isOpen_run rfl) hme hauth (by decide +kernel)
  have hreports := (fan_out_exact reachable_meeting hme hrole hunviewed).reports haccepts
  refine ⟨me, here, hme, Registry.aspect_eq_some_iff.mpr ⟨c, hc, hhere⟩, ?_⟩
  rw [List.mem_map]
  constructor
  · rintro ⟨o, ho, htarget⟩
    obtain ⟨id, ⟨hbound, -⟩ | ⟨-, c', here', hc', -, hhere', hnear⟩, rfl⟩ := (hreports o).mp ho
    · exact absurd hunserved hbound
    · obtain rfl : id = 2 := htarget
      obtain rfl := Option.some.inj (hc.symm.trans hc')
      obtain rfl := Option.some.inj (hhere.symm.trans hhere')
      exact hnear
  · intro hnear
    exact ⟨_, (hreports _).mpr ⟨2, .inr ⟨by decide, c, here, hc, .inl hother.1, hhere, hnear⟩, rfl⟩, rfl⟩

end Relay

end FlightRelay

import FlightRelay.Proofs.Registry.Binding

/-!
# Integrity of the registry

A sound registry is one in which every binding has both its ends.  What a session says of itself alone is
`Session.Coherent`; what sessions say of each other is in `Registry.Sound`.  Each way in which the relay
changes a registry keeps it sound.
-/

namespace FlightRelay

/-- What a session says about itself hangs together. -/
structure Session.Coherent (s : Session) : Prop where
  /-- Without a dispatcher there is no user behind one. -/
  unserved : s.dispatcher = noConnection → s.dispatcherUser = none
  /-- Only a pilot has a dispatcher, and the user behind it is known. -/
  served : s.dispatcher ≠ noConnection → s.role = .pilot ∧ s.dispatcherUser.isSome
  /-- Only a pilot without a dispatcher has an open request. -/
  pending : s.servicePending = true → s.role = .pilot ∧ s.dispatcher = noConnection
  /-- Exactly those who are not logged in have no role. -/
  unidentified : s.role = .unidentified ↔ s.user = none

namespace Registry

/-- Every number is in order and every binding has both its ends. -/
structure Sound (r : Registry) : Prop where
  /-- Live connections have numbers that were handed out. -/
  numbered : ∀ {id c}, r.find? id = some c → id ≠ noConnection ∧ id < r.nextId
  /-- A connection that was closed is not live. -/
  retired : ∀ {id}, id ∈ r.closed → r.find? id = none ∧ id < r.nextId
  coherent : ∀ {id c}, r.find? id = some c → c.session.Coherent
  /-- The viewer of a pilot is live and follows this pilot. -/
  viewed : ∀ {p c}, r.find? p = some c → c.session.viewer ≠ noConnection →
    c.role = .pilot ∧
      ∃ v, r.find? c.session.viewer = some v ∧ v.role = .viewer ∧ v.session.viewing = p
  /-- The pilot whom a spectator follows is live and has this spectator as its viewer. -/
  viewing : ∀ {v c}, r.find? v = some c → c.session.viewing ≠ noConnection →
    c.role = .viewer ∧
      ∃ p, r.find? c.session.viewing = some p ∧ p.role = .pilot ∧ p.session.viewer = v
  /-- The dispatcher of a pilot is live. -/
  served : ∀ {p c}, r.find? p = some c → c.session.dispatcher ≠ noConnection →
    ∃ d, r.find? c.session.dispatcher = some d ∧ d.role = .dispatcher

open Session

variable {r r' : Registry} {id : ConnectionId} {c : Connection} {f : Session → Session}

/-- A registry without connections is sound. -/
theorem sound_empty : empty.Sound where
  numbered h := by cases h
  retired h := by cases h
  coherent h := by cases h
  viewed h := by cases h
  viewing h := by cases h
  served h := by cases h

/-! ## Changes of one session -/

/-- A change of one session that leaves both ends of every viewing alone keeps the registry sound, if the
session stays coherent, whoever is logged in keeps its role, and a new dispatcher is a live one. -/
theorem Sound.modify (hs : r.Sound) (hc : r.find? id = some c)
    (coherent : (f c.session).Coherent)
    (role : c.role ≠ .unidentified → (f c.session).role = c.role)
    (viewer : (f c.session).viewer = c.session.viewer)
    (viewing : (f c.session).viewing = c.session.viewing)
    (dispatcher : (f c.session).dispatcher ≠ noConnection →
      ∃ d, r.find? (f c.session).dispatcher = some d ∧ d.role = .dispatcher) :
    (r.modify id f).Sound := by
  -- whatever connection is found after the change was found before it, with the same viewing
  have before : ∀ {i d'}, (r.modify id f).find? i = some d' →
      ∃ d, r.find? i = some d ∧ d'.session.viewer = d.session.viewer ∧
        d'.session.viewing = d.session.viewing ∧ (d.role ≠ .unidentified → d'.role = d.role) := by
    intro i d' h
    obtain ⟨d, hd, rfl⟩ := find?_modify_eq_some h
    split
    · rename_i he
      subst he
      obtain rfl : c = d := Option.some.inj (hc.symm.trans hd)
      exact ⟨c, hd, viewer, viewing, role⟩
    · exact ⟨d, hd, rfl, rfl, fun _ => rfl⟩
  -- and whoever has a role, as both ends of a binding do, is found with it after the change
  have after : ∀ {i d}, r.find? i = some d → d.role ≠ .unidentified →
      ∃ d', (r.modify id f).find? i = some d' ∧ d'.session.viewer = d.session.viewer ∧
        d'.session.viewing = d.session.viewing ∧ d'.role = d.role := by
    intro i d hd hrole
    by_cases he : i = id
    · subst he
      obtain rfl : c = d := Option.some.inj (hc.symm.trans hd)
      exact ⟨_, find?_modify_self hc, viewer, viewing, role hrole⟩
    · exact ⟨d, (find?_modify_of_ne he).trans hd, rfl, rfl, rfl⟩
  refine ⟨fun {i d'} h => ?_, fun {i} h => ?_, fun {i d'} h => ?_, fun {i d'} h hne => ?_,
    fun {i d'} h hne => ?_, fun {i d'} h hne => ?_⟩
  · obtain ⟨d, hd, -⟩ := before h
    exact hs.numbered hd
  · obtain ⟨hnone, hlt⟩ := hs.retired h
    refine ⟨?_, hlt⟩
    rw [find?_eq_none_iff, contains_modify, ← find?_eq_none_iff, hnone]
  · obtain ⟨d, hd, rfl⟩ := find?_modify_eq_some h
    split
    · rename_i he
      subst he
      obtain rfl : c = d := Option.some.inj (hc.symm.trans hd)
      exact coherent
    · exact hs.coherent hd
  · obtain ⟨d, hd, hviewer, -, hrole⟩ := before h
    rw [hviewer] at hne ⊢
    obtain ⟨hpilot, v, hv, hvrole, hviewing⟩ := hs.viewed hd hne
    obtain ⟨v', hv', -, hviewing', hvrole'⟩ := after hv (by rw [hvrole]; decide)
    exact ⟨(hrole (by rw [hpilot]; decide)).trans hpilot, v', hv', hvrole'.trans hvrole,
      hviewing'.trans hviewing⟩
  · obtain ⟨d, hd, -, hviewing, hrole⟩ := before h
    rw [hviewing] at hne ⊢
    obtain ⟨hviewer, p, hp, hprole, hback⟩ := hs.viewing hd hne
    obtain ⟨p', hp', hback', -, hprole'⟩ := after hp (by rw [hprole]; decide)
    exact ⟨(hrole (by rw [hviewer]; decide)).trans hviewer, p', hp', hprole'.trans hprole,
      hback'.trans hback⟩
  · obtain ⟨d, hd, rfl⟩ := find?_modify_eq_some h
    have hlive : ∃ e, r.find? (if i = id then d.withSession f else d).session.dispatcher = some e ∧
        e.role = .dispatcher := by
      by_cases he : i = id
      · subst he
        obtain rfl : c = d := Option.some.inj (hc.symm.trans hd)
        rw [if_pos rfl] at hne ⊢
        exact dispatcher hne
      · rw [if_neg he] at hne ⊢
        exact hs.served hd hne
    obtain ⟨e, he, herole⟩ := hlive
    obtain ⟨e', he', -, -, herole'⟩ := after he (by rw [herole]; decide)
    exact ⟨e', he', herole'.trans herole⟩

/-- A change of one session that leaves every binding alone keeps the registry sound. -/
theorem Sound.modify_own (hs : r.Sound) (hc : r.find? id = some c)
    (role : c.role ≠ .unidentified → (f c.session).role = c.role)
    (unidentified : (f c.session).role = .unidentified ↔ (f c.session).user = none)
    (viewer : (f c.session).viewer = c.session.viewer)
    (viewing : (f c.session).viewing = c.session.viewing)
    (dispatcher : (f c.session).dispatcher = c.session.dispatcher)
    (dispatcherUser : (f c.session).dispatcherUser = c.session.dispatcherUser)
    (pending : (f c.session).servicePending = c.session.servicePending) :
    (r.modify id f).Sound := by
  have hcoh := hs.coherent hc
  refine hs.modify hc ⟨?_, ?_, ?_, unidentified⟩ role viewer viewing ?_
  · rw [dispatcher, dispatcherUser]
    exact hcoh.unserved
  · intro hne
    rw [dispatcher] at hne
    obtain ⟨hrole, huser⟩ := hcoh.served hne
    have hid : c.role ≠ .unidentified := by
      intro h
      exact absurd (hrole.symm.trans h) (by decide)
    rw [dispatcherUser, role hid]
    exact ⟨hrole, huser⟩
  · intro hpend
    rw [pending] at hpend
    obtain ⟨hrole, hnone⟩ := hcoh.pending hpend
    have hid : c.role ≠ .unidentified := by
      intro h
      exact absurd (hrole.symm.trans h) (by decide)
    rw [dispatcher, role hid]
    exact ⟨hrole, hnone⟩
  · rw [dispatcher]
    exact hs.served hc

/-! ## Dispatchers -/

/-- A session with a role is that of somebody who is logged in. -/
theorem Sound.user_isSome (hs : r.Sound) (hc : r.find? id = some c) (h : c.role ≠ .unidentified) :
    c.session.userId.isSome := by
  have huser : c.session.user ≠ none := fun hnone => h ((hs.coherent hc).unidentified.mpr hnone)
  rw [Session.userId, Option.isSome_map]
  exact Option.isSome_iff_ne_none.mpr huser

/-- Whoever has a role is logged in. -/
theorem Sound.isAuthenticated (hs : r.Sound) (hc : r.find? id = some c) (h : c.role ≠ .unidentified) :
    c.session.isAuthenticated = true := by
  have huser := hs.user_isSome hc h
  rw [Session.userId, Option.isSome_map] at huser
  exact huser

/-- A pilot's request is taken by a live dispatcher. -/
theorem Sound.serve {pilot dispatcher : ConnectionId} {p d : Connection} (hs : r.Sound)
    (hp : r.find? pilot = some p) (hd : r.find? dispatcher = some d) (hrole : p.role = .pilot)
    (hdispatcher : d.role = .dispatcher) :
    (r.modify pilot (servedBy dispatcher d.session.userId)).Sound := by
  have hne : dispatcher ≠ noConnection := (hs.numbered hd).1
  have huser := hs.user_isSome hd (by rw [hdispatcher]; decide)
  refine hs.modify hp ⟨fun h => absurd h hne, fun _ => ⟨hrole, huser⟩, ?_, ?_⟩ (fun _ => rfl) rfl rfl
    fun _ => ⟨d, hd, hdispatcher⟩
  · intro h
    cases h
  · exact (hs.coherent hp).unidentified

/-- A pilot loses its dispatcher. -/
theorem Sound.release (hs : r.Sound) (hc : r.find? id = some c) : (r.modify id released).Sound := by
  have hcoh := hs.coherent hc
  refine hs.modify hc ⟨fun _ => rfl, fun h => absurd rfl h, ?_, hcoh.unidentified⟩ (fun _ => rfl) rfl
    rfl fun h => absurd rfl h
  intro h
  exact ⟨(hcoh.pending h).1, rfl⟩

/-- An open request of a pilot without a dispatcher is noted, or an open request is dropped. -/
theorem Sound.request {b : Bool} (hs : r.Sound) (hc : r.find? id = some c)
    (h : b = true → c.role = .pilot ∧ c.session.dispatcher = noConnection) :
    (r.modify id fun s => { s with servicePending := b }).Sound := by
  have hcoh := hs.coherent hc
  exact hs.modify hc ⟨hcoh.unserved, hcoh.served, h, hcoh.unidentified⟩ (fun _ => rfl) rfl rfl
    (hs.served hc)

/-! ## Viewers -/

/-- A change that touches nothing but viewings keeps the registry sound if every viewing still has both
its ends. -/
theorem Sound.rewire {k : ConnectionId → Session → Session} (hs : r.Sound)
    (nextId : r'.nextId = r.nextId) (closed : r'.closed = r.closed)
    (found : ∀ i, r'.find? i = (r.find? i).map (Connection.withSession (k i)))
    (same : ∀ i s, (k i s).role = s.role ∧ (k i s).user = s.user ∧
      (k i s).dispatcher = s.dispatcher ∧ (k i s).dispatcherUser = s.dispatcherUser ∧
      (k i s).servicePending = s.servicePending)
    (viewed : ∀ {p c}, r'.find? p = some c → c.session.viewer ≠ noConnection →
      c.role = .pilot ∧
        ∃ v, r'.find? c.session.viewer = some v ∧ v.role = .viewer ∧ v.session.viewing = p)
    (viewing : ∀ {v c}, r'.find? v = some c → c.session.viewing ≠ noConnection →
      c.role = .viewer ∧
        ∃ p, r'.find? c.session.viewing = some p ∧ p.role = .pilot ∧ p.session.viewer = v) :
    r'.Sound := by
  refine ⟨fun {i d} h => ?_, fun {i} h => ?_, fun {i d} h => ?_, viewed, viewing,
    fun {i d} h hne => ?_⟩
  · obtain ⟨c, hc, -⟩ := Option.map_eq_some_iff.mp ((found i).symm.trans h)
    rw [nextId]
    exact hs.numbered hc
  · obtain ⟨hnone, hlt⟩ := hs.retired (closed ▸ h)
    rw [found, hnone, nextId]
    exact ⟨rfl, hlt⟩
  -- no session has changed in what coherence speaks of
  · obtain ⟨c, hc, rfl⟩ := Option.map_eq_some_iff.mp ((found i).symm.trans h)
    obtain ⟨hrole, huser, hdispatcher, hdispatcherUser, hpending⟩ := same i c.session
    have hcoh := hs.coherent hc
    refine ⟨?_, ?_, ?_, ?_⟩
    · rw [Connection.withSession, hdispatcher, hdispatcherUser]
      exact hcoh.unserved
    · rw [Connection.withSession, hdispatcher, hdispatcherUser, hrole]
      exact hcoh.served
    · rw [Connection.withSession, hdispatcher, hpending, hrole]
      exact hcoh.pending
    · rw [Connection.withSession, hrole, huser]
      exact hcoh.unidentified
  · obtain ⟨c, hc, rfl⟩ := Option.map_eq_some_iff.mp ((found i).symm.trans h)
    have hsame := (same i c.session).2.2.1
    simp only [Connection.withSession, hsame] at hne ⊢
    obtain ⟨e, he, herole⟩ := hs.served hc hne
    refine ⟨e.withSession (k _), by rw [found, he, Option.map_some], ?_⟩
    exact (same _ e.session).1.trans herole

/-- A pilot and a spectator, neither of whom is tied to a third connection, are tied to each other or
parted. -/
theorem Sound.pair {pilot viewer x y : ConnectionId} {p v : Connection} (hs : r.Sound)
    (hp : r.find? pilot = some p) (hv : r.find? viewer = some v) (hpilot : p.role = .pilot)
    (hviewer : v.role = .viewer)
    (hfree : p.session.viewer = noConnection ∨ p.session.viewer = viewer)
    (hidle : v.session.viewing = noConnection ∨ v.session.viewing = pilot)
    (hxy : (x = viewer ∧ y = pilot) ∨ (x = noConnection ∧ y = noConnection)) :
    ((r.modify viewer (following y)).modify pilot (followedBy x)).Sound := by
  have hne : pilot ≠ viewer := by
    rintro rfl
    obtain rfl := Option.some.inj (hp.symm.trans hv)
    exact absurd (hpilot.symm.trans hviewer) (by decide)
  have atPilot : ((r.modify viewer (following y)).modify pilot (followedBy x)).find? pilot
      = some (p.withSession (followedBy x)) :=
    find?_modify_self ((find?_modify_of_ne hne).trans hp)
  have atViewer : ((r.modify viewer (following y)).modify pilot (followedBy x)).find? viewer
      = some (v.withSession (following y)) :=
    (find?_modify_of_ne hne.symm).trans (find?_modify_self hv)
  -- everybody else is found as before, so only the two can break a viewing
  have elsewhere : ∀ {i}, i ≠ pilot → i ≠ viewer →
      ((r.modify viewer (following y)).modify pilot (followedBy x)).find? i = r.find? i :=
    fun hip hiv => (find?_modify_of_ne hip).trans (find?_modify_of_ne hiv)
  refine hs.rewire rfl rfl
    (k := fun i s => if i = pilot then followedBy x s else if i = viewer then following y s else s)
    (fun i => ?_) (fun i s => ?_) (fun {i c} h hview => ?_) (fun {i c} h hview => ?_)
  · by_cases hip : i = pilot
    · subst hip
      simp only [atPilot, hp, if_true, Option.map_some]
    · by_cases hiv : i = viewer
      · subst hiv
        simp only [atViewer, hv, hip, if_true, if_false, Option.map_some]
      · simp only [elsewhere hip hiv, hip, hiv, if_false]
        exact Option.map_id'.symm
  · split
    · exact ⟨rfl, rfl, rfl, rfl, rfl⟩
    · split <;> exact ⟨rfl, rfl, rfl, rfl, rfl⟩
  · by_cases hip : i = pilot
    · subst hip
      obtain rfl := Option.some.inj (atPilot.symm.trans h)
      rcases hxy with ⟨rfl, rfl⟩ | ⟨rfl, -⟩
      · exact ⟨hpilot, _, atViewer, hviewer, rfl⟩
      · exact absurd rfl hview
    · by_cases hiv : i = viewer
      · subst hiv
        obtain rfl := Option.some.inj (atViewer.symm.trans h)
        exact absurd ((hs.viewed hv hview).1.symm.trans hviewer) (by decide)
      · rw [elsewhere hip hiv] at h
        obtain ⟨hrole, w, hw, hwrole, hwback⟩ := hs.viewed h hview
        refine ⟨hrole, w, ?_, hwrole, hwback⟩
        -- the viewer of a third connection follows that one, and is neither of the two
        rw [elsewhere, hw]
        · intro he
          obtain rfl := Option.some.inj ((he ▸ hw).symm.trans hp)
          exact absurd (hpilot.symm.trans hwrole) (by decide)
        · intro he
          obtain rfl := Option.some.inj ((he ▸ hw).symm.trans hv)
          rcases hidle with hidle | hidle
          · exact (hs.numbered h).1 (hwback.symm.trans hidle)
          · exact hip (hwback.symm.trans hidle)
  · by_cases hiv : i = viewer
    · subst hiv
      obtain rfl := Option.some.inj (atViewer.symm.trans h)
      rcases hxy with ⟨rfl, rfl⟩ | ⟨-, rfl⟩
      · exact ⟨hviewer, _, atPilot, hpilot, rfl⟩
      · exact absurd rfl hview
    · by_cases hip : i = pilot
      · subst hip
        obtain rfl := Option.some.inj (atPilot.symm.trans h)
        exact absurd ((hs.viewing hp hview).1.symm.trans hpilot) (by decide)
      · rw [elsewhere hip hiv] at h
        obtain ⟨hrole, w, hw, hwrole, hwback⟩ := hs.viewing h hview
        refine ⟨hrole, w, ?_, hwrole, hwback⟩
        -- whom a third connection follows has that one as its viewer, and is neither of the two
        rw [elsewhere, hw]
        · intro he
          obtain rfl := Option.some.inj ((he ▸ hw).symm.trans hp)
          rcases hfree with hfree | hfree
          · exact (hs.numbered h).1 (hwback.symm.trans hfree)
          · exact hiv (hwback.symm.trans hfree)
        · intro he
          obtain rfl := Option.some.inj ((he ▸ hw).symm.trans hv)
          exact absurd (hviewer.symm.trans hwrole) (by decide)

/-- A pilot and its viewer are parted. -/
theorem Sound.clearViewer {pilot viewer : ConnectionId} {expected : Option ConnectionId}
    (hs : r.Sound) (h : r.clearViewer pilot expected = some (viewer, r')) : r'.Sound := by
  obtain ⟨p, hp, rfl, hbound, -, rfl⟩ := clearViewer_eq_some h
  obtain ⟨hpilot, v, hv, hviewer, hback⟩ := hs.viewed hp hbound
  have hne : pilot ≠ p.session.viewer := by
    intro he
    obtain rfl := Option.some.inj (hp.symm.trans (he ▸ hv))
    exact absurd (hpilot.symm.trans hviewer) (by decide)
  -- the pilot is changed first here, but the two changes are of different sessions
  have hv' : (r.modify pilot (followedBy noConnection)).find? p.session.viewer = some v :=
    (find?_modify_of_ne hne.symm).trans hv
  rw [releaseViewer_of_find? hv' hback, modify_comm hne.symm]
  exact hs.pair hp hv hpilot hviewer (.inr rfl) (.inr hback) (.inr ⟨rfl, rfl⟩)

/-! ## Coming and going -/

/-- Numbers that were handed out lie below the next one, as long as that does not wrap around. -/
theorem lt_add_one_of_lt {n i : ConnectionId} (hn : n.toNat < 2 ^ 64 - 1) (hi : i < n) : i < n + 1 := by
  rw [UInt64.lt_iff_toNat_lt] at hi ⊢
  rw [UInt64.toNat_add]
  have hone : (1 : UInt64).toNat = 1 := rfl
  rw [hone, Nat.mod_eq_of_lt (by omega)]
  omega

/-- A fresh connection is registered under the next number. -/
theorem Sound.accept (hs : r.Sound) (remote : Option Net.Socket) (d : SessionDefaults) (now : Nat)
    (hpos : r.nextId ≠ noConnection) (few : r.nextId.toNat < 2 ^ 64 - 1) :
    ∃ r', r.allocate.2.add (.accepted r.nextId remote (.fresh d now)) = .ok r' ∧ r'.Sound ∧
      r'.nextId = r.nextId + 1 := by
  have hlast : r.nextId < r.nextId + 1 := by
    rw [UInt64.lt_iff_toNat_lt, UInt64.toNat_add]
    have hone : (1 : UInt64).toNat = 1 := rfl
    rw [hone, Nat.mod_eq_of_lt (by omega)]
    omega
  -- no number from the next one on is live
  have hnone : ∀ {i}, r.nextId ≤ i → r.find? i = none := by
    intro i hle
    cases h : r.find? i with
    | none => rfl
    | some c => exact absurd (hs.numbered h).2 (UInt64.not_lt.mpr hle)
  have hfree : r.allocate.2.contains r.nextId = false :=
    find?_eq_none_iff.mp (hnone (UInt64.le_refl _))
  obtain ⟨r', hadd⟩ :=
    exists_add (r := r.allocate.2) (c := .accepted r.nextId remote (.fresh d now)) hfree
  obtain ⟨-, hnext, hclosed, hfound⟩ := accept_eq_ok hadd
  -- the fresh connection is bound to nobody, and nobody is bound to it
  have kept : ∀ {i c}, r.find? i = some c → r'.find? i = some c := by
    intro i c h
    rw [hfound, if_neg, h]
    rintro rfl
    exact absurd h (by rw [hnone (UInt64.le_refl _)]; exact fun h => by cases h)
  refine ⟨r', hadd, ⟨?_, ?_, ?_, ?_, ?_, ?_⟩, hnext⟩
  · intro i c h
    rw [hnext]
    rw [hfound] at h
    split at h
    · rename_i he
      rw [he]
      exact ⟨hpos, hlast⟩
    · exact ⟨(hs.numbered h).1, lt_add_one_of_lt few (hs.numbered h).2⟩
  · intro i h
    obtain ⟨hdead, hlt⟩ := hs.retired (hclosed ▸ h)
    rw [hfound, if_neg, hnext]
    · exact ⟨hdead, lt_add_one_of_lt few hlt⟩
    · rintro rfl
      exact absurd hlt (UInt64.lt_irrefl _)
  · intro i c h
    rw [hfound] at h
    split at h
    · obtain rfl := Option.some.inj h
      exact ⟨fun _ => rfl, fun h => absurd rfl h, fun h => (by cases h), ⟨fun _ => rfl, fun _ => rfl⟩⟩
    · exact hs.coherent h
  · intro i c h hne
    rw [hfound] at h
    split at h
    · obtain rfl := Option.some.inj h
      exact absurd rfl hne
    · obtain ⟨hrole, v, hv, hviewing⟩ := hs.viewed h hne
      exact ⟨hrole, v, kept hv, hviewing⟩
  · intro i c h hne
    rw [hfound] at h
    split at h
    · obtain rfl := Option.some.inj h
      exact absurd rfl hne
    · obtain ⟨hrole, p, hp, hback⟩ := hs.viewing h hne
      exact ⟨hrole, p, kept hp, hback⟩
  · intro i c h hne
    rw [hfound] at h
    split at h
    · obtain rfl := Option.some.inj h
      exact absurd rfl hne
    · obtain ⟨e, he, hrole⟩ := hs.served h hne
      exact ⟨e, kept he, hrole⟩

/-- A removal resets every binding to the removed connection, so those that are left have both ends. -/
theorem Sound.remove {removal : Removal} (hs : r.Sound) (h : r.remove id = some (removal, r')) :
    r'.Sound := by
  obtain ⟨hgone, hnext, hclosed, -, hfound⟩ := remove_eq_some h
  -- what is left was there before, and has forgotten the removed connection
  have before : ∀ {i c'}, r'.find? i = some c' →
      i ≠ id ∧ ∃ c, r.find? i = some c ∧ c' = c.withSession (forget id) := by
    intro i c' hc
    rw [hfound] at hc
    split at hc
    · cases hc
    · rename_i hne
      obtain ⟨d, hd, rfl⟩ := Option.map_eq_some_iff.mp hc
      exact ⟨hne, d, hd, rfl⟩
  have after : ∀ {i c}, i ≠ id → r.find? i = some c →
      r'.find? i = some (c.withSession (forget id)) := by
    intro i c hne hc
    rw [hfound, if_neg hne, hc, Option.map_some]
  -- a binding that is left was there before, and to somebody else
  have keep : ∀ {a : ConnectionId}, (if a = id then noConnection else a) ≠ noConnection →
      a ≠ id ∧ a ≠ noConnection := by
    intro a ha
    split at ha
    · exact absurd rfl ha
    · exact ⟨‹_›, ha⟩
  refine ⟨?_, ?_, ?_, ?_, ?_, ?_⟩
  · intro i c hc
    obtain ⟨-, d, hd, -⟩ := before hc
    rw [hnext]
    exact hs.numbered hd
  · intro i hi
    rw [hclosed, List.mem_cons] at hi
    rw [hfound, hnext]
    rcases hi with rfl | hi
    · exact ⟨if_pos rfl, (hs.numbered hgone).2⟩
    · obtain ⟨hnone, hlt⟩ := hs.retired hi
      rw [hnone]
      exact ⟨by split <;> rfl, hlt⟩
  · intro i c hc
    obtain ⟨-, d, hd, rfl⟩ := before hc
    have hcoh := hs.coherent hd
    refine ⟨?_, ?_, ?_, hcoh.unidentified⟩
    · intro hnone
      simp only [Connection.withSession, forget] at hnone ⊢
      split
      · rfl
      · rw [if_neg ‹_›] at hnone
        exact hcoh.unserved hnone
    · intro hne
      obtain ⟨hother, hbound⟩ := keep hne
      simp only [Connection.withSession, forget, if_neg hother]
      exact hcoh.served hbound
    · intro hpend
      obtain ⟨hrole, hnone⟩ := hcoh.pending hpend
      refine ⟨hrole, ?_⟩
      simp only [Connection.withSession, forget, hnone, ite_self]
  · intro i c hc hne
    obtain ⟨hi, d, hd, rfl⟩ := before hc
    obtain ⟨hother, hbound⟩ := keep hne
    obtain ⟨hrole, v, hv, hvrole, hback⟩ := hs.viewed hd hbound
    refine ⟨hrole, v.withSession (forget id), ?_, hvrole, ?_⟩
    · simp only [Connection.withSession, forget, if_neg hother]
      exact after hother hv
    · simp only [Connection.withSession, forget, hback, if_neg hi]
  · intro i c hc hne
    obtain ⟨hi, d, hd, rfl⟩ := before hc
    obtain ⟨hother, hbound⟩ := keep hne
    obtain ⟨hrole, p, hp, hprole, hback⟩ := hs.viewing hd hbound
    refine ⟨hrole, p.withSession (forget id), ?_, hprole, ?_⟩
    · simp only [Connection.withSession, forget, if_neg hother]
      exact after hother hp
    · simp only [Connection.withSession, forget, hback, if_neg hi]
  · intro i c hc hne
    obtain ⟨-, d, hd, rfl⟩ := before hc
    obtain ⟨hother, hbound⟩ := keep hne
    obtain ⟨e, he, herole⟩ := hs.served hd hbound
    refine ⟨e.withSession (forget id), ?_, herole⟩
    simp only [Connection.withSession, forget, if_neg hother]
    exact after hother he

end Registry

end FlightRelay

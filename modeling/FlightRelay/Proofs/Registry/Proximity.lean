import FlightRelay.Proofs.Registry.Lookup
import FlightRelay.Proofs.Registry.OrderKey

/-!
# Who is near, and who is newest

A search by distance finds the live connections that were asked for, have a position and are no farther
away than the radius, each once.  They come nearest first, and of two equally near the one with the
smaller number first.  A search by user finds the live connection of the user with the greatest number.
So neither depends on the order of the registry.
-/

namespace FlightRelay

namespace Registry

/-- One connection comes before another in a search: it is nearer, or as near with a smaller number. -/
def Precedes (a b : Connection × Float) : Prop :=
  Geo.orderKey a.2 < Geo.orderKey b.2 ∨ a.2 = b.2 ∧ a.1.id < b.1.id

variable {r r' : Registry} {place : Geo.Point} {radius distance : Float} {keep : Connection → Bool}
  {a b d : Connection × Float} {c : Connection} {cs cs' : List Connection} {id : ConnectionId}
  {user : UserId} {role : Role}

/-- Whoever comes before another is not farther away. -/
theorem Precedes.not_lt (h : Precedes a b) : ¬ b.2 < a.2 := by
  intro hlt
  have hkey := Geo.orderKey_lt_of_lt hlt
  rcases h with h | ⟨hsame, -⟩
  · omega
  · rw [hsame] at hkey
    omega

/-- Of two connections at most one comes before the other. -/
theorem Precedes.asymm (h : Precedes a b) : ¬ Precedes b a := by
  rintro (hlt | ⟨hsame, hlt⟩)
  · rcases h with h | ⟨hsame, -⟩
    · omega
    · rw [hsame] at hlt
      omega
  · rcases h with h | ⟨-, h⟩
    · rw [hsame] at h
      omega
    · exact UInt64.lt_irrefl _ (UInt64.lt_trans h hlt)

/-! ## The comparison -/

/-- Nearer comes first, and at the same distance the lesser number. -/
theorem nearerOrOlder_iff : nearerOrOlder a b = true ↔
    Geo.orderKey a.2 < Geo.orderKey b.2 ∨ Geo.orderKey a.2 = Geo.orderKey b.2 ∧ a.1.id ≤ b.1.id := by
  simp [nearerOrOlder]

/-- The order is transitive. -/
theorem nearerOrOlder_trans (h : nearerOrOlder a b = true) (h' : nearerOrOlder b d = true) :
    nearerOrOlder a d = true := by
  rw [nearerOrOlder_iff] at h h' ⊢
  rcases h with h | ⟨hsame, hid⟩
  · rcases h' with h' | ⟨hsame', -⟩
    · exact .inl (by omega)
    · exact .inl (by omega)
  · rcases h' with h' | ⟨hsame', hid'⟩
    · exact .inl (by omega)
    · exact .inr ⟨hsame.trans hsame', UInt64.le_trans hid hid'⟩

/-- The order is total. -/
theorem nearerOrOlder_total : (nearerOrOlder a b || nearerOrOlder b a) = true := by
  rw [Bool.or_eq_true, nearerOrOlder_iff, nearerOrOlder_iff]
  rcases lt_trichotomy (Geo.orderKey a.2) (Geo.orderKey b.2) with h | h | h
  · exact .inl (.inl h)
  · exact (UInt64.le_total a.1.id b.1.id).imp (fun hid => .inr ⟨h, hid⟩) fun hid => .inr ⟨h.symm, hid⟩
  · exact .inr (.inl h)

/-- Of two different connections, one strictly precedes the other. -/
theorem precedes_of_nearerOrOlder (h : nearerOrOlder a b = true) (hne : a.1.id ≠ b.1.id) :
    Precedes a b := by
  rcases nearerOrOlder_iff.mp h with h | ⟨hsame, hid⟩
  · exact .inl h
  · exact .inr ⟨Geo.orderKey_injective hsame, UInt64.lt_of_le_of_ne hid hne⟩

/-! ## The search -/

/-- What a search measures of one connection, if that is near enough. -/
def measure? (place : Geo.Point) (radius : Float) (c : Connection) : Option (Connection × Float) :=
  (c.session.distanceTo place).bind fun d => if d ≤ radius then some (c, d) else none

/-- Measured is whoever has a place within the radius. -/
theorem measure?_eq_some : measure? place radius c = some d ↔
    c.session.distanceTo place = some d.2 ∧ d.2 ≤ radius ∧ c = d.1 := by
  unfold measure?
  rw [Option.bind_eq_some_iff]
  constructor
  · rintro ⟨distance, hdistance, hinside⟩
    split at hinside
    · rename_i hle
      obtain rfl := Option.some.inj hinside
      exact ⟨hdistance, hle, rfl⟩
    · cases hinside
  · rintro ⟨hdistance, hle, rfl⟩
    exact ⟨d.2, hdistance, if_pos hle⟩

/-- Nobody is lost by sorting. -/
theorem within_perm : (r.within place radius keep).Perm
    ((r.select keep).filterMap (measure? place radius)) := List.mergeSort_perm _ _

/-- A search finds exactly those whom it is asked for and who are near enough, with their distances. -/
theorem mem_within_iff : d ∈ r.within place radius keep ↔
    r.find? d.1.id = some d.1 ∧ keep d.1 = true ∧ d.1.session.distanceTo place = some d.2 ∧
      d.2 ≤ radius := by
  rw [within_perm.mem_iff, List.mem_filterMap]
  constructor
  · rintro ⟨c, hselect, hmeasured⟩
    obtain ⟨hdistance, hle, rfl⟩ := measure?_eq_some.mp hmeasured
    obtain ⟨hmem, hkeep⟩ := List.mem_filter.mp hselect
    exact ⟨find?_of_mem hmem, hkeep, hdistance, hle⟩
  · rintro ⟨hlive, hkeep, hdistance, hle⟩
    refine ⟨d.1, List.mem_filter.mpr ⟨List.mem_of_find?_eq_some hlive, hkeep⟩, ?_⟩
    exact measure?_eq_some.mpr ⟨hdistance, hle, rfl⟩

/-- Those whom a search finds are live and were selected by what they are. -/
theorem mem_within (h : d ∈ r.within place radius keep) :
    r.find? d.1.id = some d.1 ∧ keep d.1 = true :=
  have hd := mem_within_iff.mp h
  ⟨hd.1, hd.2.1⟩

/-- A search finds nobody twice. -/
theorem nodup_within : ((r.within place radius keep).map fun d => d.1.id).Nodup := by
  rw [(within_perm.map _).nodup_iff]
  have hdistinct : r.connections.Pairwise fun c c' => c.id ≠ c'.id := List.pairwise_map.mp r.ids_nodup
  refine List.pairwise_map.mpr (List.pairwise_filterMap.mpr ?_)
  refine (hdistinct.filter keep).imp ?_
  intro c c' hne d hd d' hd'
  obtain ⟨-, -, rfl⟩ := measure?_eq_some.mp hd
  obtain ⟨-, -, rfl⟩ := measure?_eq_some.mp hd'
  exact hne

/-- A search finds the nearer ones first. -/
theorem sorted_within : (r.within place radius keep).Pairwise Precedes := by
  have hsorted : (r.within place radius keep).Pairwise fun a b => nearerOrOlder a b = true :=
    @List.pairwise_mergeSort _ nearerOrOlder (fun _ _ _ => nearerOrOlder_trans)
      (fun _ _ => nearerOrOlder_total) _
  have hdistinct : (r.within place radius keep).Pairwise fun a b => a.1.id ≠ b.1.id :=
    List.pairwise_map.mp nodup_within
  exact (hsorted.and hdistinct).imp fun h => precedes_of_nearerOrOlder h.1 h.2

/-! ## The newest connection of a user -/

theorem le_newer_left (a b : Connection) : a.id ≤ (newer a b).id := by
  unfold newer
  split
  · assumption
  · exact UInt64.le_refl _

theorem le_newer_right (a b : Connection) : b.id ≤ (newer a b).id := by
  unfold newer
  split
  · exact UInt64.le_refl _
  · rename_i h
    exact (UInt64.le_total _ _).resolve_left h

/-- Of a connection and those after it, the newest is one of them, and none is newer. -/
theorem foldl_newer (c : Connection) (cs : List Connection) :
    cs.foldl newer c ∈ c :: cs ∧ ∀ d ∈ c :: cs, d.id ≤ (cs.foldl newer c).id := by
  induction cs generalizing c with
  | nil =>
    refine ⟨List.mem_singleton_self c, fun d hd => ?_⟩
    rw [List.mem_singleton.mp hd]
    exact UInt64.le_refl _
  | cons d ds ih =>
    obtain ⟨hmem, hmax⟩ := ih (newer c d)
    have hfold := hmax _ List.mem_cons_self
    refine ⟨?_, fun e he => ?_⟩
    · rcases List.mem_cons.mp hmem with hnewer | hrest
      · rw [List.foldl_cons, hnewer]
        unfold newer
        split
        · exact List.mem_cons_of_mem _ List.mem_cons_self
        · exact List.mem_cons_self
      · exact List.mem_cons_of_mem _ (List.mem_cons_of_mem _ hrest)
    · rcases List.mem_cons.mp he with rfl | he
      · exact UInt64.le_trans (le_newer_left e d) hfold
      · rcases List.mem_cons.mp he with rfl | he
        · exact UInt64.le_trans (le_newer_right c e) hfold
        · exact hmax e (List.mem_cons_of_mem _ he)

/-- The newest connection is one of those looked at. -/
theorem mem_of_newest? {cs : List Connection} (h : newest? cs = some c) : c ∈ cs := by
  cases cs with
  | nil => cases h
  | cons d ds =>
    obtain rfl := Option.some.inj h
    exact (foldl_newer d ds).1

/-- The newest connection is the one with the greatest number. -/
theorem newest?_eq_some_iff (distinct : (cs.map Connection.id).Nodup) :
    newest? cs = some c ↔ c ∈ cs ∧ ∀ d ∈ cs, d.id ≤ c.id := by
  cases cs with
  | nil => simp [newest?]
  | cons d ds =>
    obtain ⟨hmem, hmax⟩ := foldl_newer d ds
    constructor
    · intro h
      obtain rfl := Option.some.inj h
      exact ⟨hmem, hmax⟩
    · rintro ⟨hc, hcmax⟩
      have hid : (ds.foldl newer d).id = c.id := UInt64.le_antisymm (hcmax _ hmem) (hmax _ hc)
      exact congrArg some (List.inj_on_of_nodup_map distinct hmem hc hid)

theorem newest?_eq_none_iff : newest? cs = none ↔ cs = [] := by cases cs <;> simp [newest?]

/-- The newest connection does not depend on the order of the list. -/
theorem newest?_of_perm (distinct : (cs.map Connection.id).Nodup) (h : cs'.Perm cs) :
    newest? cs' = newest? cs := by
  refine Option.ext fun c => ?_
  rw [newest?_eq_some_iff distinct, newest?_eq_some_iff ((h.map _).nodup_iff.mpr distinct), h.mem_iff]
  simp only [h.mem_iff]

/-- A live connection is one of the user, and in the role if one is asked for. -/
structure Belongs (r : Registry) (user : UserId) (role : Option Role) (c : Connection) : Prop where
  live : r.find? c.id = some c
  user : c.session.userId = some user
  role : ∀ asked ∈ role, c.role = asked

/-- Selected are the connections of the user in the role. -/
theorem mem_select_user {role : Option Role} :
    c ∈ r.select (fun c => c.session.userId = some user && role.all (c.role = ·)) ↔
      r.Belongs user role c := by
  rw [select, List.mem_filter, Bool.and_eq_true, decide_eq_true_eq, Option.all_eq_true]
  constructor
  · rintro ⟨hmem, huser, hrole⟩
    exact ⟨find?_of_mem hmem, huser, fun asked h => of_decide_eq_true (hrole asked h)⟩
  · rintro ⟨hlive, huser, hrole⟩
    exact ⟨List.mem_of_find?_eq_some hlive, huser, fun asked h => decide_eq_true (hrole asked h)⟩

/-- Nobody is selected twice. -/
theorem nodup_select {p : Connection → Bool} : ((r.select p).map Connection.id).Nodup :=
  r.ids_nodup.sublist (List.filter_sublist.map _)

/-- A search by user finds the newest of the user's connections, -/
theorem byUser?_eq_some_iff {role : Option Role} : r.byUser? user role = some c ↔
    r.Belongs user role c ∧ ∀ d, r.Belongs user role d → d.id ≤ c.id := by
  rw [byUser?, newest?_eq_some_iff nodup_select, mem_select_user]
  simp only [mem_select_user]

/-- and nobody if there is none. -/
theorem byUser?_eq_none_iff {role : Option Role} : r.byUser? user role = none ↔
    ∀ c, ¬ r.Belongs user role c := by
  rw [byUser?, newest?_eq_none_iff, List.eq_nil_iff_forall_not_mem]
  simp only [mem_select_user]

/-- A user with a live connection in a role has a newest one. -/
theorem byUser?_of_find? (hc : r.find? id = some c) (hrole : c.role = role)
    (huser : c.session.userId = some user) :
    ∃ t, r.byUser? user (some role) = some t ∧ r.find? t.id = some t ∧ t.role = role ∧
      t.session.userId = some user ∧
      ∀ {i d}, r.find? i = some d → d.role = role → d.session.userId = some user → i ≤ t.id := by
  have belongs : ∀ {i d}, r.find? i = some d → d.role = role → d.session.userId = some user →
      r.Belongs user (some role) d := by
    intro i d hd hdrole hduser
    refine ⟨(id_of_find? hd).symm ▸ hd, hduser, fun asked h => ?_⟩
    exact hdrole.trans (Option.mem_some_iff.mp h)
  obtain ⟨t, ht⟩ := Option.ne_none_iff_exists'.mp fun hnone =>
    byUser?_eq_none_iff.mp hnone c (belongs hc hrole huser)
  obtain ⟨hbelongs, hmax⟩ := byUser?_eq_some_iff.mp ht
  refine ⟨t, ht, hbelongs.live, hbelongs.role role rfl, hbelongs.user, fun {i d} hd hdrole hduser => ?_⟩
  exact id_of_find? hd ▸ hmax d (belongs hd hdrole hduser)

/-! ## Any order -/

/-- A search gives the same list in whatever order the connections are looked at. -/
theorem within_of_perm (h : r'.connections.Perm r.connections) :
    r'.within place radius keep = r.within place radius keep := by
  have hmeasured := (h.filter keep).filterMap (measure? place radius)
  have hperm := within_perm.trans (hmeasured.trans within_perm.symm)
  exact hperm.eq_of_pairwise (fun _ _ _ _ hab hba => absurd hba hab.asymm) sorted_within sorted_within

/-- Whom a user is found as does not depend on the order of the registry. -/
theorem byUser?_of_perm {role : Option Role} (h : r'.connections.Perm r.connections) :
    r'.byUser? user role = r.byUser? user role :=
  newest?_of_perm nodup_select (h.filter _)

/-- What is found near a place is exactly who was asked for, has a position and is no farther away than the
radius, each once, and the nearer ones and then the older ones first; who is found by user is the newest of
those who were asked for; and neither depends on the order of the registry. -/
theorem found_in_any_order (r : Registry) (place : Geo.Point) (radius : Float)
    (keep : Connection → Bool) (user : UserId) (role : Option Role) :
    (∀ d, d ∈ r.within place radius keep ↔ r.find? d.1.id = some d.1 ∧ keep d.1 = true ∧
      d.1.session.distanceTo place = some d.2 ∧ d.2 ≤ radius) ∧
    ((r.within place radius keep).map fun d => d.1.id).Nodup ∧
    (r.within place radius keep).Pairwise Precedes ∧
    (∀ c, r.byUser? user role = some c ↔
      r.Belongs user role c ∧ ∀ d, r.Belongs user role d → d.id ≤ c.id) ∧
    (r.byUser? user role = none ↔ ∀ c, ¬ r.Belongs user role c) ∧
    ∀ r' : Registry, r'.connections.Perm r.connections →
      r'.within place radius keep = r.within place radius keep ∧
        r'.byUser? user role = r.byUser? user role :=
  ⟨fun _ => mem_within_iff, nodup_within, sorted_within, fun _ => byUser?_eq_some_iff,
    byUser?_eq_none_iff, fun _ h => ⟨within_of_perm h, byUser?_of_perm h⟩⟩

/-- A user's two connections at one place, in the order in which they came. -/
def abreast : Registry where
  connections := [1, 2].map fun id => .accepted id none
    { Session.fresh .standard 0 with
      user := some ⟨7, "twin"⟩
      role := .pilot
      position := some ⟨⟨50.0, 8.0, 0.0⟩, 0.0, 0.0, false⟩ }
  nextId := 3
  closed := []
  ids_nodup := by decide

/-- The same connections, the later one first. -/
def abreastAgain : Registry where
  connections := abreast.connections.reverse
  nextId := 3
  closed := []
  ids_nodup := by decide

/-- The two are equally near, and yet they are found in one order; by user the later one is found. -/
theorem found_in_any_order_abreast :
    abreastAgain.connections.Perm abreast.connections ∧
      abreastAgain.within ⟨50.1, 8.0, 0.0⟩ 10.0 (fun _ => true)
        = abreast.within ⟨50.1, 8.0, 0.0⟩ 10.0 (fun _ => true) ∧
      abreastAgain.byUser? 7 (some .pilot) = abreast.byUser? 7 (some .pilot) ∧
      (abreast.byUser? 7 (some .pilot)).map Connection.id = some 2 := by
  have hperm : abreastAgain.connections.Perm abreast.connections := List.reverse_perm _
  have found := found_in_any_order abreast ⟨50.1, 8.0, 0.0⟩ 10.0 (fun _ => true) 7 (some .pilot)
  obtain ⟨hwithin, huser⟩ := found.2.2.2.2.2 abreastAgain hperm
  exact ⟨hperm, hwithin, huser, by decide⟩

end Registry

end FlightRelay

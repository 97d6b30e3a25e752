import Mathlib
import FlightRelay.Proofs.Registry.Proximity
import FlightRelay.Proofs.Router.Requests
import FlightRelay.Settings.App

/-!
# Settings that are accepted

The checks of the settings refuse what is wrong, so each of them has to cover everything but the good
values.  They do for whole numbers.  A range is refused if it is at most zero, and that leaves the
positive ones and what is no number: `numberless` settings are accepted, and nobody is ever in range.
-/

namespace FlightRelay

open Float.Model Float.Model.UnpackedFloat

/-- The doubles above zero, infinity among them. -/
inductive Positive : UnpackedFloat → Prop
  | infinity : Positive (.infinity .positive)
  | finite (m : Nat) (e : Int) (pos : 0 < m) : Positive (.finite .positive m e pos)

/-- Whole numbers with which a relay can be run, on a machine with so many processors. -/
structure RelaySettings.Sized (r : RelaySettings) (processors : Nat) : Prop where
  connections : 1 ≤ r.maxConnections
  queue : 1 ≤ r.pipeline.queueDepth
  frame : 1 ≤ r.pipeline.maxFrameSize
  /-- The length of a frame fits the prefix that tells it. -/
  prefixed : r.pipeline.maxFrameSize ≤ 2 ^ 32 - 1
  core : 1 ≤ r.pool.core processors
  most : r.pool.core processors ≤ r.pool.most processors

/-- A proximity range is positive, and whoever is at no distance from a connection with this range is
within it. -/
structure Reaches (range : Float) : Prop where
  positive : 0.0 < range
  inRange : ∀ (r : Registry) (c : Connection) (place : Geo.Point) (distance : Float),
    c ∈ r.connections → c.session.range = range → c.session.distanceTo place = some distance →
      distance ≤ 0.0 → c ∈ r.inRange place
  within : ∀ (r : Registry) (c : Connection) (place : Geo.Point) (distance : Float)
    (keep : Connection → Bool), c ∈ r.connections → keep c = true →
      c.session.distanceTo place = some distance → distance ≤ 0.0 →
        (c, distance) ∈ r.within place range keep

/-- A service range is positive, and a dispatcher with this range serves a pilot at no distance. -/
structure Serves (range : Float) : Prop where
  positive : 0.0 < range
  offered : ∀ (dispatcher : Connection) (place center : Geo.Point),
    dispatcher.session.serviceRange = range → dispatcher.session.serviceLocation = some center →
      place.distance center ≤ 0.0 →
        Handler.offerDistance place dispatcher = some (place.distance center)

variable {s : AppSettings} {processors : Nat} {x y : Float} {wrong : Bool} {e : SettingsError}
  {rest : Except SettingsError Unit}

/-! ## Doubles and zero -/

theorem le_iff_unpack : x ≤ y ↔ x.toModel.unpack.le y.toModel.unpack = true :=
  decide_eq_true_iff

theorem lt_iff_unpack : x < y ↔ x.toModel.unpack.lt y.toModel.unpack = true :=
  decide_eq_true_iff

theorem zero_unpack : (0.0 : Float).toModel.unpack = .zero .positive := rfl

/-- A double is above zero if it is positive. -/
theorem zero_lt_iff : 0.0 < x ↔ Positive x.toModel.unpack := by
  rw [lt_iff_unpack, zero_unpack]
  cases x.toModel.unpack with
  | notANumber => exact ⟨nofun, nofun⟩
  | zero sign => exact ⟨nofun, nofun⟩
  | infinity sign => cases sign with
    | positive => exact ⟨fun _ => .infinity, fun _ => rfl⟩
    | negative => exact ⟨nofun, nofun⟩
  | finite sign m e pos => cases sign with
    | positive => exact ⟨fun _ => .finite m e pos, fun _ => rfl⟩
    | negative => exact ⟨nofun, nofun⟩

/-- What is not at most zero is above zero, or no number. -/
theorem not_le_zero_iff : ¬ x ≤ 0.0 ↔ x.isNaN = true ∨ 0.0 < x := by
  rw [le_iff_unpack, zero_lt_iff, zero_unpack]
  show _ ↔ x.toModel.unpack.isNaN = true ∨ _
  cases x.toModel.unpack with
  | notANumber => exact ⟨fun _ => .inl rfl, fun _ => nofun⟩
  | zero sign => exact ⟨fun h => absurd rfl h, nofun⟩
  | infinity sign => cases sign with
    | positive => exact ⟨fun _ => .inr .infinity, fun _ => nofun⟩
    | negative => exact ⟨fun h => absurd rfl h, nofun⟩
  | finite sign m e pos => cases sign with
    | positive => exact ⟨fun _ => .inr (.finite m e pos), fun _ => nofun⟩
    | negative => exact ⟨fun h => absurd rfl h, nofun⟩

/-- What a check for at most zero lets through is above zero, if it is a number. -/
theorem zero_lt_of_not_le (h : ¬ x ≤ 0.0) (number : x.isNaN = false) : 0.0 < x :=
  (not_le_zero_iff.mp h).resolve_left (Bool.eq_false_iff.mp number)

/-- What is at most zero is at most everything above zero. -/
theorem le_of_le_zero_of_zero_lt (hx : x ≤ 0.0) (hy : 0.0 < y) : x ≤ y := by
  rw [zero_lt_iff] at hy
  rw [le_iff_unpack] at hx ⊢
  rw [zero_unpack] at hx
  generalize x.toModel.unpack = u at hx ⊢
  generalize y.toModel.unpack = v at hy ⊢
  cases hy with
  | infinity => cases u with
    | notANumber => cases hx
    | infinity sign => cases sign <;> rfl
    | zero sign => rfl
    | finite sign m e pos => cases sign <;> rfl
  | finite m e pos => cases u with
    | notANumber => cases hx
    | infinity sign => cases sign with
      | positive => cases hx
      | negative => rfl
    | zero sign => rfl
    | finite sign m e pos => cases sign with
      | positive => cases hx
      | negative => rfl

/-! ## Ranges -/

/-- Every positive range reaches. -/
theorem reaches_of_zero_lt (h : 0.0 < x) : Reaches x where
  positive := h
  inRange := by
    intro r c place distance hc hrange hdistance hzero
    have hnear : distance ≤ c.session.range := hrange ▸ le_of_le_zero_of_zero_lt hzero h
    exact List.mem_filter.mpr ⟨hc, by simp [hdistance, hnear]⟩
  within := by
    intro r c place distance keep hc hkeep hdistance hzero
    have hnear : distance ≤ x := le_of_le_zero_of_zero_lt hzero h
    exact Registry.mem_within_iff.mpr ⟨Registry.find?_of_mem hc, hkeep, hdistance, hnear⟩

/-- A range above zero serves. -/
theorem serves_of_zero_lt (h : 0.0 < x) : Serves x where
  positive := h
  offered := by
    intro dispatcher place center hrange hcenter hzero
    refine offerDistance_eq_some.mpr ⟨⟨center, hcenter, rfl⟩, ?_⟩
    exact hrange ▸ le_of_le_zero_of_zero_lt hzero h

/-- Nothing is at most what is no number. -/
theorem not_le_of_isNaN (h : y.isNaN = true) : ¬ x ≤ y := by
  rw [le_iff_unpack]
  replace h : y.toModel.unpack.isNaN = true := h
  cases hy : y.toModel.unpack with
  | notANumber => cases x.toModel.unpack <;> nofun
  | infinity sign => rw [hy] at h; cases h
  | zero sign => rw [hy] at h; cases h
  | finite sign m e pos => rw [hy] at h; cases h

/-- A range that is no number is a range that nobody is within. -/
theorem not_mem_inRange_of_isNaN {r : Registry} {c : Connection} {place : Geo.Point}
    (h : c.session.range.isNaN = true) : c ∉ r.inRange place := by
  intro hmem
  obtain ⟨distance, -, hnear⟩ := (Option.any_eq_true _ _).mp (List.mem_filter.mp hmem).2
  exact not_le_of_isNaN h (of_decide_eq_true hnear)

namespace AppSettings

/-! ## What the checks let through -/

/-- A check that passes leaves the rest to be checked. -/
theorem refuseIf_bind_eq_ok :
    (refuseIf wrong e >>= fun _ => rest) = .ok () ↔ wrong = false ∧ rest = .ok () := by
  cases wrong with
  | false => exact ⟨fun h => ⟨rfl, h⟩, fun h => h.2⟩
  | true => exact ⟨nofun, nofun⟩

theorem refuseIf_eq_ok : refuseIf wrong e = .ok () ↔ wrong = false := by
  cases wrong with
  | false => exact ⟨fun _ => rfl, fun _ => rfl⟩
  | true => exact ⟨nofun, nofun⟩

/-- An address that can be read leaves the rest to be checked. -/
theorem socket_bind_eq_ok :
    (s.socket >>= fun _ => rest) = .ok () ↔ (∃ socket, s.socket = .ok socket) ∧ rest = .ok () := by
  cases s.socket with
  | ok socket => exact ⟨fun h => ⟨⟨socket, rfl⟩, h⟩, fun h => h.2⟩
  | error e => exact ⟨nofun, nofun⟩

/-- What the checks let through. -/
theorem validate_eq_ok_iff : s.validate processors = .ok () ↔
    (∃ socket, s.socket = .ok socket) ∧ s.listen.maxConnections ≠ 0 ∧ s.pipeline.queueDepth ≠ 0 ∧
      (s.pipeline.maxFrameSize ≠ 0 ∧ s.pipeline.maxFrameSize ≤ 2 ^ 32 - 1) ∧
      s.pool.core processors ≠ 0 ∧ s.pool.core processors ≤ s.pool.most processors ∧
      (¬ s.sessions.range ≤ 0.0 ∧ ¬ s.sessions.dispatchRange ≤ 0.0) ∧
      s.log.level ∈ LogSettings.levels := by
  unfold validate
  rw [socket_bind_eq_ok]
  simp only [refuseIf_bind_eq_ok, refuseIf_eq_ok, decide_eq_false_iff_not, Bool.or_eq_false_iff,
    Bool.not_eq_false', Nat.not_lt, List.contains_iff_mem]
  rfl

/-- Settings for a relay are there as soon as the address can be read. -/
theorem relay_of_socket {socket : Net.Socket} (h : s.socket = .ok socket) :
    s.relay = .ok ⟨socket, s.listen.maxConnections, s.listen.idleTimeout, s.pipeline, s.pool,
      s.supervisor, s.sessions, s.admission⟩ := by
  unfold relay
  rw [h]
  rfl

/-- Accepted settings give settings for a relay that can be run, and each range that is a number is one
within which somebody can be. -/
theorem accepted_usable (accepted : s.validate processors = .ok ()) :
    ∃ r, s.relay = .ok r ∧ r.Sized processors ∧
      (r.sessions.range.isNaN = false → Reaches r.sessions.range) ∧
      (r.sessions.dispatchRange.isNaN = false → Serves r.sessions.dispatchRange) := by
  obtain ⟨⟨socket, hsocket⟩, hconnections, hqueue, ⟨hframe, hprefixed⟩, hcore, hmost,
    ⟨hrange, hdispatch⟩, -⟩ := validate_eq_ok_iff.mp accepted
  refine ⟨_, relay_of_socket hsocket, ?_, ?_, ?_⟩
  · exact ⟨Nat.one_le_iff_ne_zero.mpr hconnections, Nat.one_le_iff_ne_zero.mpr hqueue,
      Nat.one_le_iff_ne_zero.mpr hframe, hprefixed, Nat.one_le_iff_ne_zero.mpr hcore, hmost⟩
  · intro hnumber
    exact reaches_of_zero_lt (zero_lt_of_not_le hrange hnumber)
  · intro hnumber
    exact serves_of_zero_lt (zero_lt_of_not_le hdispatch hnumber)

/-- Settings that nobody has touched are accepted on any machine with a processor. -/
theorem accepted_usable_standard : standard.validate 4 = .ok () ∧
    ∃ r, standard.relay = .ok r ∧ r.Sized 4 ∧ Reaches r.sessions.range ∧
      Serves r.sessions.dispatchRange := by
  have haccepted : standard.validate 4 = .ok () := by decide
  obtain ⟨r, hrelay, hsized, hreaches, hserves⟩ := accepted_usable haccepted
  cases hrelay
  exact ⟨haccepted, _, rfl, hsized, hreaches (by decide), hserves (by decide)⟩

/-- Settings with ranges that are no numbers. -/
def numberless : AppSettings :=
  { standard with sessions := { standard.sessions with range := 0.0 / 0.0, dispatchRange := 0.0 / 0.0 } }

/-- Ranges that are no numbers are accepted, and then nobody is in range of a connection that has not
chosen its own, however near. -/
theorem numberless_accepted : numberless.validate 4 = .ok () ∧
    ∃ r, numberless.relay = .ok r ∧ ¬ 0.0 < r.sessions.range ∧ ¬ 0.0 < r.sessions.dispatchRange ∧
      ∀ (registry : Registry) (c : Connection) (place : Geo.Point),
        c.session.range = r.sessions.range → c ∉ registry.inRange place := by
  have hrange : ¬ (0.0 : Float) < 0.0 / 0.0 := by decide
  have hnan : (0.0 / 0.0 : Float).isNaN = true := by decide
  have hsocket : numberless.socket = .ok ⟨.v4 0x7F000001, 14000, 0⟩ := by decide
  refine ⟨by decide, _, relay_of_socket hsocket, hrange, hrange, ?_⟩
  intro registry c place hdefault
  exact not_mem_inRange_of_isNaN (hdefault ▸ hnan)

end AppSettings

end FlightRelay

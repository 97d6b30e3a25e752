import FlightRelay.Message.Codec
import FlightRelay.Proofs.Json.Records

/-!
# Reading client messages

A client message is read from every restatement of its members: these may come in any order, with unknown
ones among them and without those that hold their default, and the same goes for a point inside.
-/

namespace FlightRelay

open Json

variable {rest ms : List (String × Value)} {d : Nat} {v v' : Value} {α : Type}
  {read : Value → Option α} {a : α}

/-! ## Points -/

namespace Geo.Point

variable {p : Geo.Point}

/-- The members of a point. -/
def members (p : Geo.Point) : List (String × Value) :=
  [("lat", .ofFloat p.lat), ("lon", .ofFloat p.lon), ("alt_ft", .ofFloat p.altitude)]

/-- The field of a point that may be left out, and what it stands for then. -/
def defaults : List (String × Value) := [("alt_ft", .ofFloat 0.0)]

/-- No message has two members of one name, its kind included. -/
theorem nodup_members : (p.members.map Prod.fst).Nodup := by simp [members]

/-- A point is read from every restatement of its members. -/
theorem read?_of_restates (h : Restates defaults d Eq p.members ms) :
    Geo.Point.read? (.object ms) = some p := by
  have hfields : ∀ m ∈ p.members, Field defaults Eq ms m.1 m.2 := fun m hm => h.field nodup_members hm
  have hnames : Value.fields? ["lat", "lon", "alt_ft"] (.object ms) = some (.named ms) :=
    Field.fields? hfields
  simp only [members, List.forall_mem_cons] at hfields
  obtain ⟨hlat, hlon, haltitude, -⟩ := hfields
  unfold Geo.Point.read?
  simp only [hnames, Option.bind_eq_bind, Option.bind_some,
    hlat.required (by simp [defaults]) (back_self Value.float? rfl),
    hlon.required (by simp [defaults]) (back_self Value.float? rfl),
    haltitude.withDefault (.ofFloat 0.0) 0.0 (by simp [defaults]) rfl rfl (back_self Value.float? rfl)]
  rfl

end Geo.Point

/-! ## What may stand for a value -/

/-- What may stand for a value in a message: the value itself, and for a record a restatement of it. -/
inductive Replaces : Value → Value → Prop
  | self {v : Value} : Replaces v v
  | record {ms ms' : List (String × Value)}
      (restated : Restates Geo.Point.defaults (maxDepth - 2) Eq ms ms') :
      Replaces (.object ms) (.object ms')

namespace Replaces

/-- Nothing but itself stands for a value that is no record. -/
theorem back (hv : ∀ ms, v ≠ .object ms) (hread : read v = some a) :
    ∀ v', Replaces v v' → read v' = some a := by
  intro v' h
  cases h with
  | self => exact hread
  | @record ms ms' => exact absurd rfl (hv ms)

/-- A value that replaces a legible one is legible. -/
theorem legible (h : Replaces v v') (hv : Legible (maxDepth - 1) v) : Legible (maxDepth - 1) v' := by
  cases h with
  | self => exact hv
  | record restated =>
    cases hv with
    | object each => exact restated.legible each fun h hv => h ▸ hv

theorem string (s : String) : ∀ v', Replaces (.string s) v' → v'.string? = some s := back nofun rfl

theorem bool (b : Bool) : ∀ v', Replaces (.bool b) v' → v'.bool? = some b := back nofun rfl

theorem float (x : Float) : ∀ v', Replaces (.ofFloat x) v' → v'.float? = some x := back nofun rfl

theorem word (n : UInt64) : ∀ v', Replaces (.ofWord n) v' → v'.word? = some n :=
  back nofun (Value.word?_ofWord n)

theorem halfWord (n : UInt32) : ∀ v', Replaces (.ofNat n.toNat) v' → v'.halfWord? = some n :=
  back nofun (Value.halfWord?_ofNat n)

theorem optionFloat (o : Option Float) :
    ∀ v', Replaces (.ofOption .ofFloat o) v' → v'.option? Value.float? = some o :=
  back (by cases o <;> nofun) (Value.option?_ofOption .ofFloat (fun _ => rfl) nofun o)

theorem optionWord (o : Option UInt64) :
    ∀ v', Replaces (.ofOption .ofWord o) v' → v'.option? Value.word? = some o :=
  back (by cases o <;> nofun) (Value.option?_ofOption .ofWord Value.word?_ofWord nofun o)

theorem role (r : Role) : ∀ v', Replaces (.string r.name) v' → Role.read? true v' = some r :=
  back nofun (by cases r <;> rfl)

theorem compression (c : Compression) :
    ∀ v', Replaces (.string c.name) v' → Compression.read? true v' = some c :=
  back nofun (by cases c <;> rfl)

theorem strings (l : List String) :
    ∀ v', Replaces (.array (l.map .string)) v' → v'.list? Value.string? = some l :=
  back nofun (Value.list?_map .string (fun _ => rfl) l)

/-- A point is read from any object that says the same. -/
theorem point (p : Geo.Point) : ∀ v', Replaces p.toJson v' → Geo.Point.read? v' = some p := by
  intro v' h
  have hjson : p.toJson = .object p.members := rfl
  rw [hjson] at h
  generalize hms : p.members = ms at h
  cases h with
  | self => rw [← hms]; rfl
  | record restated => exact Geo.Point.read?_of_restates (hms ▸ restated)

theorem optionPoint (o : Option Geo.Point) :
    ∀ v', Replaces (.ofOption Geo.Point.toJson o) v' → v'.option? Geo.Point.read? = some o := by
  cases o with
  | none => exact back nofun rfl
  | some p =>
    intro v' h
    have hread := point p v' h
    unfold Value.option?
    split
    · cases hread
    · rw [hread]
      rfl

end Replaces

/-! ## Messages -/

namespace ClientMessage

/-- The fields of a message that may be left out, and what they stand for then. -/
def defaults : ClientMessage → List (String × Value)
  | .login _ =>
    [("protocol_version", .ofNat 0), ("compression", .string "none"), ("range_nm", .null),
      ("max_aircraft", .null)]
  | .ping _ => [("nonce", .ofNat 0)]
  | .position _ =>
    [("heading", .ofFloat 0.0), ("ground_speed_kts", .ofFloat 0.0), ("on_ground", .bool false)]
  | .flightInfo _ =>
    [("aircraft_type", .string ""), ("departure", .string ""), ("arrival", .string "")]
  | .dispatcherStatus _ =>
    [("busy", .bool false), ("hidden", .bool false), ("range_nm", .null), ("center", .null)]
  | .serviceRequest _ => [("note", .string "")]
  | .serviceCancel _ _ => [("pilot_id", .null), ("reason", .string "")]
  | .serviceComplete _ => [("remarks", .string "")]
  | .viewerCancel _ => [("pilot_id", .null)]
  | _ => []

/-- The members `ms` restate the message. -/
def Restated (m : ClientMessage) (ms : List (String × Value)) : Prop :=
  Restates m.defaults (maxDepth - 1) Replaces (("type", .string m.kind) :: m.members) ms

/-- A record of one field without a default is read. -/
theorem readOnly?_eq_some {defaults : List (String × Value)} {same : Value → Value → Prop}
    {name : String} (h : ∀ m ∈ [(name, v)], Field defaults same rest m.1 m.2)
    (hkept : name ∉ defaults.map Prod.fst) (back : ∀ v', same v v' → read v' = some a) :
    readOnly? name read (.object rest) = some a := by
  have hnames : Value.fields? [name] (.object rest) = some (.named rest) := Field.fields? h
  unfold readOnly?
  rw [hnames]
  exact (h _ (List.mem_singleton_self _)).required hkept back

/-- A record of one field with a default is read. -/
theorem readOnlyOr?_eq_some {defaults : List (String × Value)} {name : String} (w : Value) (default : α)
    (h : ∀ m ∈ [(name, v)], Field defaults Replaces rest m.1 m.2)
    (hdefault : ∀ w', (name, w') ∈ defaults → w' = w) (hread : read w = some default)
    (back : ∀ v', Replaces v v' → read v' = some a) :
    readOnlyOr? name read default (.object rest) = some a := by
  have hnames : Value.fields? [name] (.object rest) = some (.named rest) := Field.fields? h
  unfold readOnlyOr?
  rw [hnames]
  exact (h _ (List.mem_singleton_self _)).withDefault w default hdefault hread .self back

/-- A login is read from any object with its fields. -/
theorem readLogin?_of_fields {f : LoginForm}
    (h : ∀ m ∈ (login f).members, Field (login f).defaults Replaces rest m.1 m.2) :
    readLogin? (.object rest) = some f := by
  have hnames : Value.fields? ["user_id", "callsign", "token", "role", "protocol_version",
      "compression", "range_nm", "max_aircraft"] (.object rest) = some (.named rest) :=
    Field.fields? h
  simp only [members, List.forall_mem_cons] at h
  obtain ⟨huser, hcallsign, htoken, hrole, hversion, hcompression, hrange, haircraft, -⟩ := h
  unfold readLogin?
  simp only [hnames, Option.bind_eq_bind, Option.bind_some,
    huser.required (by simp [defaults]) (Replaces.word _),
    hcallsign.required (by simp [defaults]) (Replaces.string _),
    htoken.required (by simp [defaults]) (Replaces.string _),
    hrole.required (by simp [defaults]) (Replaces.role _),
    hversion.withDefault (.ofNat 0) 0 (by simp [defaults]) rfl .self (Replaces.halfWord _),
    hcompression.withDefault (.string "none") .none (by simp [defaults]) rfl .self
      (Replaces.compression _),
    hrange.withDefault .null none (by simp [defaults]) rfl .self (Replaces.optionFloat _),
    haircraft.withDefault .null none (by simp [defaults]) rfl .self (Replaces.optionWord _)]
  rfl

/-- A duty is read from any object with its fields. -/
theorem readDuty?_of_fields {f : DutyForm}
    (h : ∀ m ∈ (dispatcherStatus f).members,
      Field (dispatcherStatus f).defaults Replaces rest m.1 m.2) :
    readDuty? (.object rest) = some f := by
  have hnames : Value.fields? ["on_duty", "busy", "hidden", "range_nm", "center"] (.object rest)
      = some (.named rest) := Field.fields? h
  simp only [members, List.forall_mem_cons] at h
  obtain ⟨hduty, hbusy, hhidden, hrange, hcenter, -⟩ := h
  unfold readDuty?
  simp only [hnames, Option.bind_eq_bind, Option.bind_some,
    hduty.required (by simp [defaults]) (Replaces.bool _),
    hbusy.withDefault (.bool false) false (by simp [defaults]) rfl .self (Replaces.bool _),
    hhidden.withDefault (.bool false) false (by simp [defaults]) rfl .self (Replaces.bool _),
    hrange.withDefault .null none (by simp [defaults]) rfl .self (Replaces.optionFloat _),
    hcenter.withDefault .null none (by simp [defaults]) rfl .self (Replaces.optionPoint _)]
  rfl

theorem position_of_fields {p : Position}
    (h : ∀ m ∈ (position p).members, Field (position p).defaults Replaces rest m.1 m.2) :
    Position.read? (.object rest) = some p := by
  have hnames : Value.fields? ["location", "heading", "ground_speed_kts", "on_ground"] (.object rest)
      = some (.named rest) := Field.fields? h
  simp only [members, Position.members, List.forall_mem_cons] at h
  obtain ⟨hlocation, hheading, hspeed, hground, -⟩ := h
  unfold Position.read?
  simp only [hnames, Option.bind_eq_bind, Option.bind_some,
    hlocation.required (by simp [defaults]) (Replaces.point _),
    hheading.withDefault (.ofFloat 0.0) 0.0 (by simp [defaults]) rfl .self (Replaces.float _),
    hspeed.withDefault (.ofFloat 0.0) 0.0 (by simp [defaults]) rfl .self (Replaces.float _),
    hground.withDefault (.bool false) false (by simp [defaults]) rfl .self (Replaces.bool _)]
  rfl

theorem flightPlan_of_fields {p : FlightPlan}
    (h : ∀ m ∈ (flightInfo p).members, Field (flightInfo p).defaults Replaces rest m.1 m.2) :
    FlightPlan.read? (.object rest) = some p := by
  have hnames : Value.fields? ["flight_number", "aircraft_type", "departure", "arrival"] (.object rest)
      = some (.named rest) := Field.fields? h
  simp only [members, FlightPlan.members, List.forall_mem_cons] at h
  obtain ⟨hnumber, htype, hdeparture, harrival, -⟩ := h
  unfold FlightPlan.read?
  simp only [hnames, Option.bind_eq_bind, Option.bind_some,
    hnumber.required (by simp [defaults]) (Replaces.string _),
    htype.withDefault (.string "") "" (by simp [defaults]) rfl .self (Replaces.string _),
    hdeparture.withDefault (.string "") "" (by simp [defaults]) rfl .self (Replaces.string _),
    harrival.withDefault (.string "") "" (by simp [defaults]) rfl .self (Replaces.string _)]
  rfl

theorem route_of_fields {r : Route}
    (h : ∀ m ∈ (saveRoute r).members, Field (saveRoute r).defaults Replaces rest m.1 m.2) :
    Route.read? (.object rest) = some r := by
  have hnames : Value.fields? ["name", "waypoints"] (.object rest) = some (.named rest) :=
    Field.fields? h
  simp only [members, Route.members, List.forall_mem_cons] at h
  obtain ⟨hname, hwaypoints, -⟩ := h
  unfold Route.read?
  simp only [hnames, Option.bind_eq_bind, Option.bind_some,
    hname.required (by simp [defaults]) (Replaces.string _),
    hwaypoints.required (by simp [defaults]) (Replaces.strings _)]
  rfl

/-- A message is read from its fields. -/
theorem readKind?_of_fields {m : ClientMessage}
    (h : ∀ e ∈ m.members, Field m.defaults Replaces rest e.1 e.2) :
    readKind? m.kind (.object rest) = some m := by
  cases m with
  | login f => exact congrArg (Option.map login) (readLogin?_of_fields h)
  | ping nonce =>
    exact congrArg (Option.map ping)
      (readOnlyOr?_eq_some (.ofNat 0) 0 h (by simp [defaults]) rfl (Replaces.word _))
  | position p => exact congrArg (Option.map position) (position_of_fields h)
  | flightInfo p => exact congrArg (Option.map flightInfo) (flightPlan_of_fields h)
  | dispatcherStatus f => exact congrArg (Option.map dispatcherStatus) (readDuty?_of_fields h)
  | serviceRequest note =>
    exact congrArg (Option.map serviceRequest)
      (readOnlyOr?_eq_some (.string "") "" h (by simp [defaults]) rfl (Replaces.string _))
  | serviceAccept pilot =>
    exact congrArg (Option.map serviceAccept)
      (readOnly?_eq_some h (by simp [defaults]) (Replaces.word _))
  | serviceCancel pilot reason =>
    have hnames : Value.fields? ["pilot_id", "reason"] (.object rest) = some (.named rest) :=
      Field.fields? h
    simp only [members, List.forall_mem_cons] at h
    obtain ⟨hpilot, hreason, -⟩ := h
    simp only [kind, readKind?, hnames, Option.bind_eq_bind, Option.bind_some,
      hpilot.withDefault .null none (by simp [defaults]) rfl .self (Replaces.optionWord _),
      hreason.withDefault (.string "") "" (by simp [defaults]) rfl .self (Replaces.string _)]
    rfl
  | serviceComplete remarks =>
    exact congrArg (Option.map serviceComplete)
      (readOnlyOr?_eq_some (.string "") "" h (by simp [defaults]) rfl (Replaces.string _))
  | viewerRequest pilot =>
    exact congrArg (Option.map viewerRequest)
      (readOnly?_eq_some h (by simp [defaults]) (Replaces.word _))
  | viewerAccept viewer =>
    exact congrArg (Option.map viewerAccept)
      (readOnly?_eq_some h (by simp [defaults]) (Replaces.word _))
  | viewerReject viewer =>
    exact congrArg (Option.map viewerReject)
      (readOnly?_eq_some h (by simp [defaults]) (Replaces.word _))
  | viewerCancel pilot =>
    exact congrArg (Option.map viewerCancel)
      (readOnlyOr?_eq_some .null none h (by simp [defaults]) rfl (Replaces.optionWord _))
  | saveRoute r => exact congrArg (Option.map saveRoute) (route_of_fields h)
  | loadRoutes =>
    have hnames : Value.fields? [] (.object rest) = some (.named rest) := rfl
    exact congrArg (Option.map fun _ => loadRoutes) hnames

theorem nodup_members (m : ClientMessage) :
    ((("type", .string m.kind) :: m.members).map Prod.fst).Nodup := by
  cases m <;> simp [members, Position.members, FlightPlan.members, Route.members]

/-- The kind has no default. -/
theorem type_not_mem_defaults (m : ClientMessage) : "type" ∉ m.defaults.map Prod.fst := by
  cases m <;> simp [defaults]

/-- A message is read from every restatement of its members. -/
theorem read?_of_restated {m : ClientMessage} (h : m.Restated ms) : read? (.object ms) = some m := by
  have hfields : ∀ e ∈ m.members,
      Field m.defaults Replaces (ms.filter fun e => e.1 ≠ "type") e.1 e.2 := by
    intro e he
    refine (Restates.field h m.nodup_members (List.mem_cons_of_mem _ he)).untagged fun htype => ?_
    have hnd := m.nodup_members
    rw [List.map_cons, List.nodup_cons] at hnd
    exact hnd.1 (List.mem_map.mpr ⟨e, he, htype⟩)
  have htag := (Restates.field h m.nodup_members List.mem_cons_self).tagged? m.type_not_mem_defaults
    (by rintro v' ⟨⟩; rfl)
  unfold read?
  rw [htag]
  exact readKind?_of_fields hfields

end ClientMessage

end FlightRelay

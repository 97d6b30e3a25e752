import FlightRelay.Proofs.Message.Reading

/-!
# The wire format round-trips

A frame that the relay sends is read as the message that was sent, and the message of a client is read from
its frame however its record was restated.  Both rest on one thing: the doubles in the message are read from
their texts as themselves.
-/

namespace FlightRelay

open Json

namespace Json

variable {d : Nat} {x : Float} {v rest : Value} {tag : String} {α : Type}

/-! ## Single values -/

/-- The double is read from its text as itself. -/
def ReadsBack (x : Float) : Prop := Number.ofLiteral? (Number.real x).write = some (.real x)

namespace Legible

/-- A double that is read back is legible. -/
theorem ofFloat (h : ReadsBack x) : Legible d (.ofFloat x) := .number h

theorem ofNat {n : Nat} (h : n < UInt64.size) : Legible d (.ofNat n) := by
  refine .number (Number.ofLiteral?_integer ?_)
  have hlow : -(Int.pow 2 63) ≤ (n : Int) := Int.le_trans (by decide) (Int.natCast_nonneg n)
  have hhigh : (n : Int) < Int.pow 2 64 := Int.ofNat_lt.mpr h
  unfold Number.fitsWord
  rw [Bool.and_eq_true, decide_eq_true_eq, decide_eq_true_eq]
  exact ⟨hlow, hhigh⟩

theorem ofWord (n : UInt64) : Legible d (.ofWord n) := ofNat n.toNat_lt_size

theorem ofHalfWord (n : UInt32) : Legible d (.ofNat n.toNat) :=
  ofNat (n.toNat_lt_size.trans (by decide))

/-- An optional value is legible if what it may be is. -/
theorem ofOption {write : α → Value} {o : Option α} (h : ∀ a ∈ o, Legible d (write a)) :
    Legible d (.ofOption write o) := by
  cases o with
  | none => exact .null
  | some a => exact h a rfl

theorem ofOptionFloat {o : Option Float} (h : ∀ x ∈ o.toList, ReadsBack x) :
    Legible d (.ofOption .ofFloat o) :=
  ofOption fun x hx => ofFloat (h x (Option.mem_toList.mpr hx))

theorem ofOptionWord (o : Option UInt64) : Legible d (.ofOption .ofWord o) := ofOption fun n _ => ofWord n

end Legible

/-- The value carries the name of a kind, under the name `type` or as its first item. -/
inductive Tagged (tag : String) : Value → Prop
  | named {ms : List (String × Value)} (once : membersNamed "type" ms = [("type", .string tag)]) :
      Tagged tag (.object ms)
  | listed {items : List Value} : Tagged tag (.array (.string tag :: items))

/-- An object with a tag is tagged with it. -/
theorem Tagged.of_tagged? (h : v.tagged? = some (tag, rest)) : Tagged tag v := by
  unfold Value.tagged? at h
  split at h
  · rename_i ms
    split at h
    · rename_i k tag' hnamed
      obtain ⟨rfl, -⟩ := Prod.mk.inj (Option.some.inj h)
      have hmem : (k, .string tag') ∈ membersNamed "type" ms := by
        rw [hnamed]
        exact List.mem_singleton_self _
      obtain rfl : k = "type" := of_decide_eq_true (List.mem_filter.mp hmem).2
      exact .named hnamed
    · cases h
  · obtain ⟨rfl, -⟩ := Prod.mk.inj (Option.some.inj h)
    exact .listed
  · cases h

end Json

/-! ## Doubles in messages -/

/-- The doubles in a point. -/
def Geo.Point.floats (p : Geo.Point) : List Float := [p.lat, p.lon, p.altitude]

/-- The doubles in a position. -/
def Position.floats (p : Position) : List Float := p.location.floats ++ [p.heading, p.groundSpeed]

/-- The doubles in a client message. -/
def ClientMessage.floats : ClientMessage → List Float
  | .login f => f.range.toList
  | .position p => p.floats
  | .dispatcherStatus f => f.range.toList ++ f.center.toList.flatMap Geo.Point.floats
  | _ => []

/-- The doubles in a server message. -/
def ServerMessage.floats : ServerMessage → List Float
  | .traffic _ _ position distance _ => position.floats ++ distance.toList
  | .serviceOffer _ _ location distance _ => location.toList.flatMap Geo.Point.floats ++ [distance]
  | _ => []

/-! ## Legible messages -/

section Legible

variable {d : Nat}

/-- A point whose coordinates are read back is legible. -/
theorem Geo.Point.legible {p : Geo.Point} (h : ∀ x ∈ p.floats, ReadsBack x) : Legible (d + 1) p.toJson := by
  simp only [floats, List.forall_mem_cons] at h
  obtain ⟨hlat, hlon, haltitude, -⟩ := h
  refine .object ?_
  simp only [List.forall_mem_cons]
  exact ⟨.ofFloat hlat, .ofFloat hlon, .ofFloat haltitude, List.forall_mem_nil _⟩

theorem Geo.Point.legible_option {o : Option Geo.Point}
    (h : ∀ x ∈ o.toList.flatMap floats, ReadsBack x) : Legible (d + 1) (.ofOption toJson o) :=
  .ofOption fun p hp => legible fun x hx =>
    h x (List.mem_flatMap.mpr ⟨p, Option.mem_toList.mpr hp, hx⟩)

/-- A position whose doubles are read back is legible. -/
theorem Position.legible_members {p : Position} (h : ∀ x ∈ p.floats, ReadsBack x) :
    ∀ e ∈ p.members, Legible (d + 1) e.2 := by
  simp only [floats, List.forall_mem_append, List.forall_mem_cons] at h
  obtain ⟨hlocation, hheading, hspeed, -⟩ := h
  simp only [members, List.forall_mem_cons]
  exact ⟨Geo.Point.legible hlocation, .ofFloat hheading, .ofFloat hspeed, .bool, List.forall_mem_nil _⟩

theorem FlightPlan.legible_members (p : FlightPlan) : ∀ e ∈ p.members, Legible d e.2 := by
  simp only [members, List.forall_mem_cons]
  exact ⟨.string, .string, .string, .string, List.forall_mem_nil _⟩

theorem Route.legible_members (r : Route) : ∀ e ∈ r.members, Legible (d + 1) e.2 := by
  simp only [members, List.forall_mem_cons]
  refine ⟨.string, .array fun v hv => ?_, List.forall_mem_nil _⟩
  obtain ⟨waypoint, -, rfl⟩ := List.mem_map.mp hv
  exact .string

/-- The fields of a client message are legible if its doubles are. -/
theorem ClientMessage.legible_members {m : ClientMessage} (h : ∀ x ∈ m.floats, ReadsBack x) :
    ∀ e ∈ m.members, Legible (d + 1) e.2 := by
  cases m with
  | login f =>
    simp only [members, List.forall_mem_cons]
    exact ⟨.ofWord _, .string, .string, .string, .ofHalfWord _, .string, .ofOptionFloat h,
      .ofOptionWord _, List.forall_mem_nil _⟩
  | position p => exact Position.legible_members h
  | flightInfo p => exact p.legible_members
  | dispatcherStatus f =>
    simp only [floats, List.forall_mem_append] at h
    obtain ⟨hrange, hcenter⟩ := h
    simp only [members, List.forall_mem_cons]
    exact ⟨.bool, .bool, .bool, .ofOptionFloat hrange, Geo.Point.legible_option hcenter,
      List.forall_mem_nil _⟩
  | serviceCancel pilot reason =>
    simp only [members, List.forall_mem_cons]
    exact ⟨.ofOptionWord _, .string, List.forall_mem_nil _⟩
  | viewerCancel pilot =>
    simp only [members, List.forall_mem_cons]
    exact ⟨.ofOptionWord _, List.forall_mem_nil _⟩
  | saveRoute r => exact r.legible_members
  | loadRoutes => exact List.forall_mem_nil _
  | _ => simp [members, Legible.ofWord, Legible.string]

/-- A member that may be left out is legible if its value is. -/
theorem ServerMessage.legible_optionalMember {α : Type} {name : String} {write : α → Value} {o : Option α}
    (h : ∀ a ∈ o, Legible d (write a)) : ∀ e ∈ optionalMember name write o, Legible d e.2 := by
  intro e he
  obtain ⟨a, ha, rfl⟩ := Option.map_eq_some_iff.mp (Option.mem_toList.mp he)
  exact h a ha

/-- The fields of a server message are legible if its doubles are. -/
theorem ServerMessage.legible_members {m : ServerMessage} (h : ∀ x ∈ m.floats, ReadsBack x) :
    ∀ e ∈ m.members, Legible (d + 3) e.2 := by
  cases m with
  | ack request ok error =>
    simp only [members, List.forall_mem_append, List.forall_mem_cons]
    exact ⟨⟨.string, .bool, List.forall_mem_nil _⟩, legible_optionalMember fun _ _ => .string⟩
  | traffic connection callsign position distance serverTime =>
    simp only [floats, List.forall_mem_append] at h
    obtain ⟨hposition, hdistance⟩ := h
    have hoptional : ∀ x ∈ distance, Legible (d + 3) (.ofFloat x) := fun x hx =>
      .ofFloat (hdistance x (Option.mem_toList.mpr hx))
    simp only [members, List.forall_mem_append, List.forall_mem_cons]
    exact ⟨⟨⟨.ofWord _, .string, .object (Position.legible_members hposition), List.forall_mem_nil _⟩,
      legible_optionalMember hoptional⟩, .ofWord _, List.forall_mem_nil _⟩
  | flightInfo connection callsign plan =>
    simp only [members, List.forall_mem_cons]
    exact ⟨.ofWord _, .string, .object plan.legible_members, List.forall_mem_nil _⟩
  | serviceOffer pilot callsign location distance note =>
    simp only [floats, List.forall_mem_append, List.forall_mem_cons] at h
    obtain ⟨hlocation, hdistance, -⟩ := h
    simp only [members, List.forall_mem_cons]
    exact ⟨.ofWord _, .string, Geo.Point.legible_option hlocation, .ofFloat hdistance, .string,
      List.forall_mem_nil _⟩
  | serviceBound pilot dispatcher callsign =>
    simp only [members, List.forall_mem_cons]
    exact ⟨.ofWord _, .ofWord _, .string, List.forall_mem_nil _⟩
  | routes saved =>
    simp only [members, List.forall_mem_cons]
    refine ⟨.array fun v hv => ?_, List.forall_mem_nil _⟩
    obtain ⟨r, -, rfl⟩ := List.mem_map.mp hv
    exact .object r.legible_members
  | _ => simp [members, Legible.ofWord, Legible.string]

end Legible

/-! ## Kinds -/

/-- A message is of the kind that it is read as. -/
theorem ClientMessage.kind_of_readKind? {kind : String} {v : Value} {m : ClientMessage}
    (h : readKind? kind v = some m) : m.kind = kind := by
  unfold readKind? at h
  split at h
  -- a cancel has two fields, and the last case is that of an unknown kind
  case h_8 =>
    simp only [Option.bind_eq_bind, Option.bind_eq_some_iff] at h
    obtain ⟨f, -, pilot, -, reason, -, hm⟩ := h
    cases hm
    rfl
  case h_16 => cases h
  all_goals
    obtain ⟨a, -, rfl⟩ := Option.map_eq_some_iff.mp h
    rfl

namespace Codec

variable {frame : ByteArray}

/-- A frame is decoded to the message that its text is read as. -/
theorem decode_eq_ok {m : ClientMessage} :
    decode frame = .ok m ↔ (parseBytes? frame).bind ClientMessage.read? = some m := by
  unfold decode
  cases (parseBytes? frame).bind ClientMessage.read? with
  | none => exact ⟨nofun, nofun⟩
  | some m' =>
    exact ⟨fun h => congrArg some (Except.ok.inj h), fun h => congrArg Except.ok (Option.some.inj h)⟩

/-- A frame whose text is read as a message of the server is decoded to it. -/
theorem decodeServer_eq_ok {m : ServerMessage}
    (h : (parseBytes? frame).bind ServerMessage.read? = some m) : decodeServer frame = .ok m := by
  unfold decodeServer
  rw [h]

/-- A server message is read back from its frame. -/
theorem decodeServer_encode {m : ServerMessage} {version : UInt32} (hversion : version ≤ highestVersion)
    (h : ∀ x ∈ m.floats, ReadsBack x) :
    ∃ frame, encode m version = .ok frame ∧ decodeServer frame = .ok m := by
  have hspoken : ¬ highestVersion < version := UInt32.not_lt.mpr hversion
  refine ⟨m.toJson.write.toUTF8, ?_, decodeServer_eq_ok ?_⟩
  · unfold encode encodeText
    rw [if_neg hspoken]
    rfl
  · have hlegible : Legible maxDepth m.toJson :=
      .object (List.forall_mem_cons.mpr ⟨.string, ServerMessage.legible_members h⟩)
    rw [parseBytes?_write hlegible]
    exact m.read?_toJson

/-- A client message is read from the frame of every restatement of its members. -/
theorem decode_restated {m : ClientMessage} {ms : List (String × Value)} (hms : m.Restated ms)
    (h : ∀ x ∈ m.floats, ReadsBack x) : decode (Value.object ms).write.toUTF8 = .ok m := by
  have hlegible : Legible maxDepth (.object ms) :=
    hms.legible (List.forall_mem_cons.mpr ⟨.string, ClientMessage.legible_members h⟩) Replaces.legible
  rw [decode_eq_ok, parseBytes?_write hlegible]
  exact ClientMessage.read?_of_restated hms

/-- The kind of a message that was decoded is the one its frame names. -/
theorem tagged_of_decode {m : ClientMessage} (h : decode frame = .ok m) :
    ∃ v, parseBytes? frame = some v ∧ Tagged m.kind v := by
  obtain ⟨v, hv, hm⟩ := Option.bind_eq_some_iff.mp (decode_eq_ok.mp h)
  obtain ⟨⟨tag, rest⟩, htag, hm⟩ := Option.bind_eq_some_iff.mp hm
  obtain rfl := ClientMessage.kind_of_readKind? hm
  exact ⟨v, hv, .of_tagged? htag⟩

/-- What is written is read back.  Every server message with doubles that are read from their texts is
encoded at every version that the relay speaks, and its frame is read as that message.  A client message
with such doubles is decoded from the record that it is written as, and from every restatement of it; and
what is decoded from a frame is of the kind that the frame names. -/
theorem wire_round_trip :
    (∀ (m : ServerMessage) (version : UInt32), version ≤ highestVersion → (∀ x ∈ m.floats, ReadsBack x) →
      ∃ frame, encode m version = .ok frame ∧ decodeServer frame = .ok m) ∧
    (∀ m : ClientMessage, (∀ x ∈ m.floats, ReadsBack x) → decode m.toJson.write.toUTF8 = .ok m) ∧
    (∀ (m : ClientMessage) (ms : List (String × Value)), m.Restated ms → (∀ x ∈ m.floats, ReadsBack x) →
      decode (Value.object ms).write.toUTF8 = .ok m) ∧
    (∀ (frame : ByteArray) (m : ClientMessage), decode frame = .ok m →
      ∃ v, parseBytes? frame = some v ∧ Tagged m.kind v) :=
  ⟨fun _ _ hversion h => decodeServer_encode hversion h,
    fun _ h => decode_restated (.refl fun _ => .self) h,
    fun _ _ hms h => decode_restated hms h,
    fun _ _ h => tagged_of_decode h⟩

/-- A level flight westwards. -/
def cruise : Position := ⟨⟨50.0, 8.5, 0.0⟩, 270.0, 110.5, false⟩

/-- The doubles of the cruise are read back. -/
theorem readsBack_cruise : ∀ x ∈ cruise.floats, ReadsBack x := by
  simp only [cruise, Position.floats, Geo.Point.floats, List.forall_mem_append, List.forall_mem_cons]
  exact ⟨⟨rfl, rfl, rfl, List.forall_mem_nil _⟩, rfl, rfl, List.forall_mem_nil _⟩

/-- The record of the flight backwards, without what holds its default and with a member that nobody
knows. -/
def backwards : List (String × Value) :=
  [("squawk", .array [.string "7000"]), ("ground_speed_kts", .ofFloat 110.5), ("heading", .ofFloat 270.0),
    ("location", .object [("lon", .ofFloat 8.5), ("lat", .ofFloat 50.0)]), ("type", .string "position")]

/-- The object backwards says the same as the message. -/
theorem restated_cruise : (ClientMessage.position cruise).Restated backwards := by
  have hlocation : Replaces cruise.location.toJson
      (.object [("lon", .ofFloat 8.5), ("lat", .ofFloat 50.0)]) :=
    .record (@Restates.intro _ _ _ _ _ [("lat", .ofFloat 50.0), ("lon", .ofFloat 8.5)]
      [("alt_ft", .ofFloat 0.0)] [] Prod.snd (.refl _) (by simp [Geo.Point.defaults]) nofun nofun
      (fun _ _ => rfl) (.swap _ _ _))
  refine @Restates.intro _ _ _ _ _
    [("type", .string "position"), ("location", cruise.location.toJson), ("heading", .ofFloat 270.0),
      ("ground_speed_kts", .ofFloat 110.5)]
    [("on_ground", .bool false)] [("squawk", .array [.string "7000"])]
    (fun m => if m.1 = "location" then .object [("lon", .ofFloat 8.5), ("lat", .ofFloat 50.0)] else m.2)
    (.refl _) ?omitted ?unknown ?legible ?replaced ?joined
  case omitted => simp [ClientMessage.defaults]
  case unknown => simp [ClientMessage.members, Position.members]
  case legible =>
    have hsquawk : Legible (maxDepth - 1) (.array [.string "7000"]) :=
      .array (List.forall_mem_singleton.mpr .string)
    exact List.forall_mem_singleton.mpr hsquawk
  case replaced =>
    simp only [List.forall_mem_cons]
    exact ⟨.self, hlocation, .self, .self, List.forall_mem_nil _⟩
  case joined => exact List.reverse_perm [_, _, _, _, _]

/-- The flight in a traffic report, in the words of its pilot, and backwards. -/
theorem wire_round_trip_cruise :
    (∃ frame, encode (.traffic 7 "D-\"ABC\"\n" cruise (some 12.5) 1) 2 = .ok frame ∧
      decodeServer frame = .ok (.traffic 7 "D-\"ABC\"\n" cruise (some 12.5) 1)) ∧
    decode (Value.object backwards).write.toUTF8 = .ok (.position cruise) ∧
    ∃ v, parseBytes? (ClientMessage.position cruise).toJson.write.toUTF8 = some v ∧
      Tagged "position" v := by
  have hfloats : ∀ x ∈ cruise.floats ++ (some (12.5 : Float)).toList, ReadsBack x :=
    List.forall_mem_append.mpr ⟨readsBack_cruise, List.forall_mem_singleton.mpr rfl⟩
  exact ⟨wire_round_trip.1 _ 2 (by decide) hfloats,
    wire_round_trip.2.2.1 _ _ restated_cruise readsBack_cruise,
    wire_round_trip.2.2.2 _ _ (wire_round_trip.2.1 (.position cruise) readsBack_cruise)⟩

end Codec

end FlightRelay

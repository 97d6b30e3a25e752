import FlightRelay.Proofs.Message.Restating

/-!
# Reading server messages

A server message is read from what is written, be the error of an acknowledgement or the distance of a
traffic report there or left out.
-/

namespace FlightRelay

open Json

variable {rest : List (String × Value)}

/-! ## Records inside a message -/

/-- A position is read from what is written. -/
theorem Position.read?_toJson (p : Position) : read? p.toJson = some p :=
  ClientMessage.position_of_fields fun e he => .given
    (membersNamed_of_mem (by simp [members]) he) .self

/-- A flight plan is read from what is written. -/
theorem FlightPlan.read?_toJson (p : FlightPlan) : read? p.toJson = some p :=
  ClientMessage.flightPlan_of_fields fun e he => .given
    (membersNamed_of_mem (by simp [members]) he) .self

/-- A route is read from what is written. -/
theorem Route.read?_toJson (r : Route) : read? r.toJson = some r :=
  ClientMessage.route_of_fields fun e he => .given
    (membersNamed_of_mem (by simp [members]) he) .self

namespace ServerMessage

variable {α β : Type} {first second : String} {v w : Value} {a : α} {b : β}
  {readFirst : Value → Option α} {readSecond : Value → Option β}

/-- The fields of a message besides its kind, those that are left out when there is nothing to say among
them. -/
def said : ServerMessage → List (String × Value)
  | .ack request ok error =>
    [("request", .string request), ("ok", .bool ok), ("error", .ofOption .string error)]
  | .traffic connection callsign position distance serverTime =>
    [("connection_id", .ofWord connection), ("callsign", .string callsign),
      ("position", position.toJson), ("distance_nm", .ofOption .ofFloat distance),
      ("server_time_ms", .ofWord serverTime)]
  | m => m.members

/-- The fields that are left out when there is nothing to say. -/
def optional : ServerMessage → List (String × Value)
  | .ack _ _ _ => [("error", .null)]
  | .traffic _ _ _ _ _ => [("distance_nm", .null)]
  | _ => []

/-- A record of two fields is read. -/
theorem readPair?_eq_some
    (h : ∀ e ∈ [(first, v), (second, w)], Field [] Eq rest e.1 e.2)
    (ha : readFirst v = some a) (hb : readSecond w = some b) :
    readPair? first readFirst second readSecond (.object rest) = some (a, b) := by
  have hnames : Value.fields? [first, second] (.object rest) = some (.named rest) := Field.fields? h
  simp only [List.forall_mem_cons] at h
  obtain ⟨hfirst, hsecond, -⟩ := h
  unfold readPair?
  simp only [hnames, Option.bind_eq_bind, Option.bind_some,
    hfirst.required (by simp) (back_self readFirst ha),
    hsecond.required (by simp) (back_self readSecond hb)]
  rfl

/-- Traffic is read from any object with its fields, with or without the distance. -/
theorem readTraffic?_of_fields {connection : ConnectionId} {callsign : String} {position : Position}
    {distance : Option Float} {serverTime : UInt64}
    (h : ∀ e ∈ (traffic connection callsign position distance serverTime).said,
      Field [("distance_nm", .null)] Eq rest e.1 e.2) :
    readTraffic? (.object rest) = some (traffic connection callsign position distance serverTime) := by
  have hnames : Value.fields? ["connection_id", "callsign", "position", "distance_nm",
      "server_time_ms"] (.object rest) = some (.named rest) := Field.fields? h
  simp only [said, List.forall_mem_cons] at h
  obtain ⟨hconnection, hcallsign, hposition, hdistance, htime, -⟩ := h
  unfold readTraffic?
  simp only [hnames, Option.bind_eq_bind, Option.bind_some,
    hconnection.required (by simp) (back_self Value.word? (Value.word?_ofWord _)),
    hcallsign.required (by simp) (back_self Value.string? rfl),
    hposition.required (by simp) (back_self Position.read? position.read?_toJson),
    hdistance.withDefault .null none (by simp) rfl rfl
      (back_self (Value.option? Value.float?)
        (Value.option?_ofOption .ofFloat (fun _ => rfl) nofun distance)),
    htime.withDefault (.ofNat 0) 0 (by simp) rfl rfl (back_self Value.word? (Value.word?_ofWord _))]
  rfl

/-- An offer is read from any object with its fields. -/
theorem readOffer?_of_fields {pilot : ConnectionId} {callsign : String} {location : Option Geo.Point}
    {distance : Float} {note : String}
    (h : ∀ e ∈ (serviceOffer pilot callsign location distance note).members, Field [] Eq rest e.1 e.2) :
    readOffer? (.object rest) = some (serviceOffer pilot callsign location distance note) := by
  have hnames : Value.fields? ["pilot_id", "callsign", "location", "distance_nm", "note"] (.object rest)
      = some (.named rest) := Field.fields? h
  simp only [members, List.forall_mem_cons] at h
  obtain ⟨hpilot, hcallsign, hlocation, hdistance, hnote, -⟩ := h
  unfold readOffer?
  simp only [hnames, Option.bind_eq_bind, Option.bind_some,
    hpilot.required (by simp) (back_self Value.word? (Value.word?_ofWord _)),
    hcallsign.required (by simp) (back_self Value.string? rfl),
    hlocation.nullable (by simp) (back_self (Value.option? Geo.Point.read?)
      (Value.option?_ofOption Geo.Point.toJson (fun p => Replaces.point p _ .self) nofun location)),
    hdistance.required (by simp) (back_self Value.float? rfl),
    hnote.required (by simp) (back_self Value.string? rfl)]
  rfl

/-- A message is read from members in which each of its fields is said. -/
theorem readKind?_of_fields {m : ServerMessage} (h : ∀ e ∈ m.said, Field m.optional Eq rest e.1 e.2) :
    readKind? m.kind (.object rest) = some m := by
  cases m with
  | ack request ok error =>
    have hnames : Value.fields? ["request", "ok", "error"] (.object rest) = some (.named rest) :=
      Field.fields? h
    simp only [said, List.forall_mem_cons] at h
    obtain ⟨hrequest, hok, herror, -⟩ := h
    simp only [kind, readKind?, hnames, Option.bind_eq_bind, Option.bind_some,
      hrequest.required (by simp [optional]) (back_self Value.string? rfl),
      hok.required (by simp [optional]) (back_self Value.bool? rfl),
      herror.withDefault .null none (by simp [optional]) rfl rfl
        (back_self (Value.option? Value.string?)
          (Value.option?_ofOption .string (fun _ => rfl) nofun error))]
    rfl
  | pong nonce serverTime =>
    have hnames : Value.fields? ["nonce", "server_time_ms"] (.object rest) = some (.named rest) :=
      Field.fields? h
    simp only [said, members, List.forall_mem_cons] at h
    obtain ⟨hnonce, htime, -⟩ := h
    simp only [kind, readKind?, hnames, Option.bind_eq_bind, Option.bind_some,
      hnonce.required (by simp [optional]) (back_self Value.word? (Value.word?_ofWord _)),
      htime.withDefault (.ofNat 0) 0 (by simp [optional]) rfl rfl
        (back_self Value.word? (Value.word?_ofWord _))]
    rfl
  | notice text =>
    exact congrArg (Option.map notice)
      (ClientMessage.readOnly?_eq_some h (by simp [optional]) (back_self Value.string? rfl))
  | traffic connection callsign position distance serverTime => exact readTraffic?_of_fields h
  | trafficRemoved connection =>
    exact congrArg (Option.map trafficRemoved)
      (ClientMessage.readOnly?_eq_some h (by simp [optional])
        (back_self Value.word? (Value.word?_ofWord _)))
  | flightInfo connection callsign plan =>
    have hnames : Value.fields? ["connection_id", "callsign", "info"] (.object rest)
        = some (.named rest) := Field.fields? h
    simp only [said, members, List.forall_mem_cons] at h
    obtain ⟨hconnection, hcallsign, hplan, -⟩ := h
    simp only [kind, readKind?, hnames, Option.bind_eq_bind, Option.bind_some,
      hconnection.required (by simp [optional]) (back_self Value.word? (Value.word?_ofWord _)),
      hcallsign.required (by simp [optional]) (back_self Value.string? rfl),
      hplan.required (by simp [optional]) (back_self FlightPlan.read? plan.read?_toJson)]
    rfl
  | serviceOffer pilot callsign location distance note => exact readOffer?_of_fields h
  | serviceBound pilot dispatcher callsign =>
    have hnames : Value.fields? ["pilot_id", "dispatcher_id", "dispatcher_callsign"] (.object rest)
        = some (.named rest) := Field.fields? h
    simp only [said, members, List.forall_mem_cons] at h
    obtain ⟨hpilot, hdispatcher, hcallsign, -⟩ := h
    simp only [kind, readKind?, hnames, Option.bind_eq_bind, Option.bind_some,
      hpilot.required (by simp [optional]) (back_self Value.word? (Value.word?_ofWord _)),
      hdispatcher.required (by simp [optional]) (back_self Value.word? (Value.word?_ofWord _)),
      hcallsign.required (by simp [optional]) (back_self Value.string? rfl)]
    rfl
  | serviceCancelled pilot reason =>
    exact congrArg (Option.map fun e : ConnectionId × String => serviceCancelled e.1 e.2)
      (readPair?_eq_some h (Value.word?_ofWord _) rfl)
  | serviceCompleted pilot remarks =>
    exact congrArg (Option.map fun e : ConnectionId × String => serviceCompleted e.1 e.2)
      (readPair?_eq_some h (Value.word?_ofWord _) rfl)
  | viewerRequested viewer callsign =>
    exact congrArg (Option.map fun e : ConnectionId × String => viewerRequested e.1 e.2)
      (readPair?_eq_some h (Value.word?_ofWord _) rfl)
  | viewerBound pilot viewer =>
    exact congrArg (Option.map fun e : ConnectionId × ConnectionId => viewerBound e.1 e.2)
      (readPair?_eq_some h (Value.word?_ofWord _) (Value.word?_ofWord _))
  | viewerRejected pilot reason =>
    exact congrArg (Option.map fun e : ConnectionId × String => viewerRejected e.1 e.2)
      (readPair?_eq_some h (Value.word?_ofWord _) rfl)
  | viewerCancelled pilot viewer =>
    exact congrArg (Option.map fun e : ConnectionId × ConnectionId => viewerCancelled e.1 e.2)
      (readPair?_eq_some h (Value.word?_ofWord _) (Value.word?_ofWord _))
  | routes saved =>
    exact congrArg (Option.map routes)
      (ClientMessage.readOnly?_eq_some h (by simp [optional])
        (back_self (Value.list? Route.read?) (Value.list?_map Route.toJson Route.read?_toJson saved)))

/-- No message of the server has two members of one name. -/
theorem nodup_said (m : ServerMessage) : ((("type", .string m.kind) :: m.said).map Prod.fst).Nodup := by
  cases m <;> simp [said, members]

/-- What a message leaves out is what it has nothing to say about. -/
theorem field_of_said (m : ServerMessage) :
    ∀ e ∈ ("type", .string m.kind) :: m.said,
      Field m.optional Eq (("type", .string m.kind) :: m.members) e.1 e.2 := by
  cases m with
  | ack request ok error =>
    simp only [said, List.forall_mem_cons]
    cases error with
    | none =>
      exact ⟨.given rfl rfl, .given rfl rfl, .given rfl rfl, .omitted rfl (List.mem_singleton_self _),
        nofun⟩
    | some text => exact ⟨.given rfl rfl, .given rfl rfl, .given rfl rfl, .given rfl rfl, nofun⟩
  | traffic connection callsign position distance serverTime =>
    simp only [said, List.forall_mem_cons]
    cases distance with
    | none =>
      exact ⟨.given rfl rfl, .given rfl rfl, .given rfl rfl, .given rfl rfl,
        .omitted rfl (List.mem_singleton_self _), .given rfl rfl, nofun⟩
    | some x =>
      exact ⟨.given rfl rfl, .given rfl rfl, .given rfl rfl, .given rfl rfl, .given rfl rfl,
        .given rfl rfl, nofun⟩
  | _ => exact fun e he => .of_mem (nodup_said _) he

/-- A message is read from what is written. -/
theorem read?_toJson (m : ServerMessage) : read? m.toJson = some m := by
  have hfields := m.field_of_said
  rw [List.forall_mem_cons] at hfields
  obtain ⟨htype, hsaid⟩ := hfields
  have hnd := m.nodup_said
  rw [List.map_cons, List.nodup_cons] at hnd
  unfold read? toJson
  rw [htype.tagged? (by cases m <;> simp [optional]) (by rintro v' ⟨⟩; rfl)]
  exact readKind?_of_fields fun e he =>
    (hsaid e he).untagged fun hname => hnd.1 (List.mem_map.mpr ⟨e, he, hname⟩)

end ServerMessage

end FlightRelay

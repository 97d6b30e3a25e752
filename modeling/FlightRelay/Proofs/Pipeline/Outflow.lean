import FlightRelay.Pipeline.Chain
import FlightRelay.Proofs.Frame.Packing
import FlightRelay.Proofs.Message.RoundTrip
import FlightRelay.Proofs.Pipeline.Writing

/-!
# Messages on their way out

Every message is fitted to its recipient, written and packed, and charged, one message after the other;
what the stages find in the registry may have changed from one to the next.  The frames that come out are
those of the messages whose recipients were there, in order, and each is read as the message that its
recipient was to see.
-/

namespace FlightRelay

open Codec Registry

/-! ## Passages -/

/-- A message on its way out, with what each stage finds when the message comes by. -/
structure Passage where
  message : Outbound
  /-- The registry and the clock when the message is fitted to its recipient. -/
  fitting : Registry
  clock : UInt64
  /-- The registry when the message is written. -/
  writing : Registry
  /-- The registry and the clock, in nanoseconds, when the frame is charged. -/
  charging : Registry
  time : Nat

namespace Passage

/-- The frame that comes out, if one does. -/
def frame? (lib : Deflater) (p : Passage) : Option EncodedFrame :=
  (p.message.enrich p.fitting p.clock).bind fun o => o.serialize lib p.writing

/-- The recipient is there when the message is fitted and when it is written, and its version is spoken. -/
def arrives (p : Passage) : Bool :=
  p.fitting.contains p.message.target
    && (p.writing.find? p.message.target).any fun c => c.session.protocolVersion ≤ highestVersion

/-- The meter after the message came by. -/
def metered (lib : Deflater) (m : BandwidthMeter) (p : Passage) : BandwidthMeter :=
  match p.frame? lib with
  | some f => (f.charge p.time p.charging m).2
  | none => m

/-- The frames of messages, in the order of the messages. -/
def frames (lib : Deflater) (ps : List Passage) : List EncodedFrame := ps.filterMap (frame? lib)

/-- What a recipient is told in place of a message: how far away the traffic is, if the recipient is
anywhere, and what time it is. -/
inductive Fits (recipient : Session) (clock : UInt64) : ServerMessage → ServerMessage → Prop
  | located {id : ConnectionId} {callsign : String} {position : Position} {distance : Option Float}
      {time : UInt64} {here : Geo.Point} (somewhere : recipient.location = some here) :
      Fits recipient clock (.traffic id callsign position distance time)
        (.traffic id callsign position (some (here.distance position.location)) clock)
  | nowhere {id : ConnectionId} {callsign : String} {position : Position} {distance : Option Float}
      {time : UInt64} (nowhere : recipient.location = none) :
      Fits recipient clock (.traffic id callsign position distance time)
        (.traffic id callsign position distance clock)
  | unstamped {nonce : UInt64} : Fits recipient clock (.pong nonce 0) (.pong nonce clock)
  | stamped {nonce time : UInt64} (stamped : time ≠ 0) :
      Fits recipient clock (.pong nonce time) (.pong nonce time)
  | other {m : ServerMessage} (traffic : m.kind ≠ "traffic") (pong : m.kind ≠ "pong") :
      Fits recipient clock m m

/-- A frame carries a message to its recipient: unpacked and decoded it is what the recipient is told, as
far as the doubles in it are read back as they are written. -/
structure Carries (lib : Deflater) (p : Passage) (f : EncodedFrame) : Prop where
  target : f.target = p.message.target
  immediate : f.immediate = p.message.immediate
  content : ∃ recipient receiver body m,
    p.fitting.find? p.message.target = some recipient ∧
    p.writing.find? p.message.target = some receiver ∧
    receiver.session.protocolVersion ≤ highestVersion ∧
    (∀ limit : UInt64, body.size ≤ limit.toNat → limit.toNat + 1 < UInt64.size →
      receiver.session.compression.unpack lib f.body limit = .ok body) ∧
    Fits recipient.session p.clock p.message.message m ∧
    ((∀ x ∈ m.floats, Json.ReadsBack x) → decodeServer body = .ok m)

/-- A frame is charged with its length and the four bytes in front of it: to the meter, and to its
connection if that is still there, and to nobody else. -/
structure Charged (p : Passage) (f : EncodedFrame) : Prop where
  meter : ∀ m, (f.charge p.time p.charging m).2.bytes = m.bytes + (f.body.size + 4).toUInt64 ∧
    (f.charge p.time p.charging m).2.frames = m.frames + 1
  connection : ∀ m, (f.charge p.time p.charging m).1.find? p.message.target
    = (p.charging.find? p.message.target).map fun c =>
        { c with counters := { c.counters with
            bytesOut := c.counters.bytesOut + (f.body.size + 4).toUInt64
            messagesOut := c.counters.messagesOut + 1 } }
  others : ∀ m id, id ≠ p.message.target →
    (f.charge p.time p.charging m).1.find? id = p.charging.find? id

end Passage

variable {lib : Deflater} {p : Passage} {ps : List Passage} {f : EncodedFrame} {s : Session} {clock : UInt64}
  {m : ServerMessage} {c d : Connection}

namespace Passage

/-! ## One message -/

/-- What is fitted to a session fits it. -/
theorem fits_fitted (s : Session) (clock : UInt64) (m : ServerMessage) :
    Fits s clock m (Outbound.fitted s clock m) := by
  cases m with
  | traffic id callsign position distance time =>
    show Fits s clock _
      (.traffic id callsign position ((s.location.map fun here => here.distance position.location).or
        distance) clock)
    cases hlocation : s.location with
    | none => exact .nowhere hlocation
    | some here => exact .located hlocation
  | pong nonce time =>
    show Fits s clock _ (.pong nonce (if time = 0 then clock else time))
    split
    · subst time
      exact .unstamped
    · exact .stamped ‹_›
  | _ => exact .other (by simp [ServerMessage.kind]) (by simp [ServerMessage.kind])

/-- A message arrives if its recipient is there at both times, and speaks a version that can be written. -/
theorem arrives_iff : p.arrives = true ↔ ∃ recipient receiver,
    p.fitting.find? p.message.target = some recipient ∧
    p.writing.find? p.message.target = some receiver ∧
    receiver.session.protocolVersion ≤ highestVersion := by
  unfold arrives
  rw [Bool.and_eq_true, Registry.contains_iff]
  cases p.writing.find? p.message.target with
  | none => simp
  | some receiver => simp

/-- The frame of a message is packed in the way of the receiver. -/
theorem frame?_of_find? (hrecipient : p.fitting.find? p.message.target = some c)
    (hreceiver : p.writing.find? p.message.target = some d)
    (hversion : d.session.protocolVersion ≤ highestVersion) :
    p.frame? lib = some ⟨p.message.target, d.session.compression.pack lib
      (Outbound.fitted c.session p.clock p.message.message).toJson.write.toUTF8,
      p.message.immediate⟩ := by
  unfold frame? Outbound.enrich
  rw [hrecipient]
  exact Outbound.serialize_of_le hreceiver hversion

/-- No frame comes out of a message that does not arrive. -/
theorem frame?_of_not_arrives (h : p.arrives = false) : p.frame? lib = none := by
  unfold frame? Outbound.enrich
  cases hrecipient : p.fitting.find? p.message.target with
  | none => rfl
  | some recipient =>
    rw [Option.map_some, Option.bind_some]
    cases hreceiver : p.writing.find? p.message.target with
    | none =>
      unfold Outbound.serialize
      rw [hreceiver]
      rfl
    | some receiver =>
      refine Outbound.serialize_of_lt hreceiver (UInt32.not_le.mp fun hversion => ?_)
      rw [arrives_iff.mpr ⟨recipient, receiver, hrecipient, hreceiver, hversion⟩] at h
      cases h

/-- The frame of a message that arrives carries it. -/
theorem carries_of_arrives (hlib : lib.Inverts) (h : p.arrives = true) :
    ∃ f, p.frame? lib = some f ∧ Carries lib p f := by
  obtain ⟨recipient, receiver, hrecipient, hreceiver, hversion⟩ := arrives_iff.mp h
  refine ⟨_, frame?_of_find? hrecipient hreceiver hversion, rfl, rfl, recipient, receiver, _, _,
    hrecipient, hreceiver, hversion, fun limit => Compression.unpack_pack hlib, fits_fitted _ _ _,
    fun hfloats => ?_⟩
  obtain ⟨body, hencode, hdecode⟩ := decodeServer_encode hversion hfloats
  have hbody : encode (Outbound.fitted recipient.session p.clock p.message.message)
      receiver.session.protocolVersion
      = .ok (Outbound.fitted recipient.session p.clock p.message.message).toJson.write.toUTF8 := by
    rw [encode, encodeText, if_neg (UInt32.not_lt.mpr hversion)]
    rfl
  rw [hbody] at hencode
  exact Except.ok.inj hencode ▸ hdecode

/-- A frame is charged to the connection that its message was for. -/
theorem charged_of_target (h : f.target = p.message.target) : Charged p f := by
  refine ⟨fun m => ⟨rfl, rfl⟩, fun m => ?_, fun m id hne => ?_⟩
  · rw [← h]
    exact (Registry.find?_count _).trans (if_pos rfl)
  · exact (Registry.find?_count _).trans (if_neg (h ▸ hne))

/-! ## All messages -/

/-- Frames come out in the order of the messages, one for each message that arrives. -/
theorem frames_carry (hlib : lib.Inverts) (ps : List Passage) :
    List.Forall₂ (fun p f => Carries lib p f ∧ Charged p f) (ps.filter arrives) (frames lib ps) := by
  induction ps with
  | nil => exact .nil
  | cons p ps ih =>
    cases harrives : p.arrives with
    | false =>
      rw [List.filter_cons_of_neg (by rw [harrives]; decide), frames,
        List.filterMap_cons_none (frame?_of_not_arrives harrives)]
      exact ih
    | true =>
      obtain ⟨f, hf, hcarries⟩ := carries_of_arrives hlib harrives
      rw [List.filter_cons_of_pos harrives, frames, List.filterMap_cons_some hf]
      exact .cons ⟨hcarries, charged_of_target hcarries.target⟩ ih

/-- The meter counts every frame once, and its bytes with the four in front of it. -/
theorem metered_frames (lib : Deflater) (ps : List Passage) (m : BandwidthMeter) :
    (ps.foldl (metered lib) m).bytes
        = m.bytes + ((frames lib ps).map fun f : EncodedFrame => f.body.size + 4).sum.toUInt64 ∧
      (ps.foldl (metered lib) m).frames = m.frames + (frames lib ps).length.toUInt64 := by
  induction ps generalizing m with
  | nil => exact ⟨(UInt64.add_zero _).symm, (UInt64.add_zero _).symm⟩
  | cons p ps ih =>
    obtain ⟨hbytes, hframes⟩ := ih (metered lib m p)
    rw [List.foldl_cons, hbytes, hframes]
    cases hf : p.frame? lib with
    | none =>
      have hm : metered lib m p = m := by rw [metered, hf]
      rw [hm, frames, frames, List.filterMap_cons_none hf]
      exact ⟨rfl, rfl⟩
    | some f =>
      have hm : metered lib m p = (f.charge p.time p.charging m).2 := by rw [metered, hf]
      rw [hm, frames, frames, List.filterMap_cons_some hf, List.map_cons, List.sum_cons,
        List.length_cons]
      constructor
      · show m.bytes + (f.body.size + 4).toUInt64 + _ = m.bytes + (f.body.size + 4 + _).toUInt64
        rw [UInt64.add_assoc]
        exact congrArg _ (UInt64.ofNat_add _ _).symm
      · show m.frames + 1 + _ = m.frames + (_ + 1).toUInt64
        rw [UInt64.add_assoc, UInt64.add_comm 1]
        exact congrArg _ (UInt64.ofNat_add _ _).symm

/-- Whatever happens in the registry between one message and the next, frames come out in the order of the
messages, one for each whose recipient is there and speaks the language of the relay; each is read by its
recipient as the message fitted to it, and is charged once. -/
theorem carried_in_order (hlib : lib.Inverts) (ps : List Passage) (m : BandwidthMeter) :
    List.Forall₂ (fun p f => Carries lib p f ∧ Charged p f) (ps.filter arrives) (frames lib ps) ∧
      (ps.foldl (metered lib) m).bytes
        = m.bytes + ((frames lib ps).map fun f : EncodedFrame => f.body.size + 4).sum.toUInt64 ∧
      (ps.foldl (metered lib) m).frames = m.frames + (frames lib ps).length.toUInt64 :=
  ⟨frames_carry hlib ps, metered_frames lib ps m⟩

/-- Who is registered after the boarding. -/
def boarded : Registry := ((Relay.empty .empty).run Event.boarding).registry

/-- A viewer is told of a flight while it is nowhere. -/
def toViewer : Passage :=
  ⟨⟨3, .traffic 1 "AB12" cruise none 0, false⟩, boarded, 7, boarded, boarded, 0⟩

/-- What else is sent: the viewer is told of the flight once it is somewhere, the dispatcher goes over to
packed frames, the pilot goes over to a version that is not spoken, and number nine is nobody. -/
def afterBoarding : List Passage :=
  let placed := boarded.modify 3 fun s => { s with position := some cruise }
  let packing := boarded.modify 2 fun s => { s with compression := .deflate }
  let foreign := boarded.modify 1 fun s => { s with protocolVersion := highestVersion + 1 }
  [toViewer, ⟨⟨3, .traffic 1 "AB12" cruise none 0, false⟩, placed, 7, placed, boarded, 0⟩,
    ⟨⟨2, .pong 5 0, true⟩, boarded, 8, packing, foreign, 1⟩,
    ⟨⟨1, .notice "hello", false⟩, boarded, 9, foreign, boarded, 2⟩,
    ⟨⟨9, .pong 5 0, true⟩, boarded, 10, boarded, boarded, 3⟩]

theorem carried_in_order_boarding :
    Deflate.library.Inverts ∧ afterBoarding.map arrives = [true, true, true, false, false] ∧
      List.Forall₂ (fun p f => Carries Deflate.library p f ∧ Charged p f)
        (afterBoarding.filter arrives) (frames Deflate.library afterBoarding) ∧
      ∃ f fs body, frames Deflate.library afterBoarding = f :: fs ∧
        (∀ limit : UInt64, body.size ≤ limit.toNat → limit.toNat + 1 < UInt64.size →
          Compression.unpack Deflate.library .none f.body limit = .ok body) ∧
        decodeServer body = .ok (.traffic 1 "AB12" cruise none 7) := by
  have hlib := Deflate.library_inverts
  have hcarried := (carried_in_order hlib afterBoarding (.start 5000)).1
  refine ⟨hlib, by decide, hcarried, ?_⟩
  obtain ⟨ps, hfirst⟩ : ∃ ps, afterBoarding.filter arrives = toViewer :: ps := ⟨_, rfl⟩
  rw [hfirst] at hcarried
  obtain ⟨f, fs, ⟨hf, -⟩, -, hframes⟩ := List.forall₂_cons_left_iff.mp hcarried
  obtain ⟨recipient, receiver, body, m, hrecipient, hreceiver, -, hbody, hfits, hread⟩ := hf.content
  -- the viewer is nowhere, and takes frames as they are
  have hnowhere : toViewer.fitting.aspect Session.location toViewer.message.target = some none := rfl
  have hplain : toViewer.writing.aspect Session.compression toViewer.message.target = some .none := rfl
  rw [aspect_of_find? hrecipient] at hnowhere
  rw [aspect_of_find? hreceiver] at hplain
  rw [Option.some.inj hplain] at hbody
  change Fits recipient.session 7 (.traffic 1 "AB12" cruise none 0) m at hfits
  refine ⟨f, fs, body, hframes, hbody, ?_⟩
  cases hfits with
  | located somewhere =>
    rw [Option.some.inj hnowhere] at somewhere
    cases somewhere
  | nowhere _ =>
    exact hread (List.forall_mem_append.mpr ⟨readsBack_cruise, List.forall_mem_nil _⟩)
  | other traffic _ => exact absurd rfl traffic

end Passage

/-! ## The chain -/

/-- The frame that was sent. -/
def Sending.frame? : Sending → Option EncodedFrame
  | .sent f _ => some f
  | _ => none

namespace Chain

variable {ctx : ChainContext} {leaving : Option ConnectionId} {chain : Chain} {o : Outbound}

/-- The chain as the writing stage finds it: a connection that leaves is gone once a message was fitted
to it. -/
def left (leaving : Option ConnectionId) (c : Chain) (o : Outbound) : Registry :=
  if leaving = some o.target then (c.registry.remove o.target).map Prod.snd |>.getD c.registry
  else c.registry

/-- What a message finds that the chain sends. -/
def passage (ctx : ChainContext) (leaving : Option ConnectionId) (c : Chain) (o : Outbound) : Passage :=
  ⟨o, c.registry, ctx.relay.now, c.left leaving o, c.left leaving o, ctx.nanos⟩

/-- What the messages find that the chain sends one after the other. -/
def passages (ctx : ChainContext) (leaving : Option ConnectionId) : Chain → List Outbound → List Passage
  | _, [] => []
  | c, o :: os => c.passage ctx leaving o :: passages ctx leaving (c.send ctx leaving o).2 os

/-- A message that the chain sends goes the way of its passage. -/
theorem send_passage (ctx : ChainContext) (leaving : Option ConnectionId) (chain : Chain) (o : Outbound) :
    (chain.send ctx leaving o).1.frame? = (chain.passage ctx leaving o).frame? ctx.deflater ∧
      (chain.send ctx leaving o).2.meter = (chain.passage ctx leaving o).metered ctx.deflater chain.meter := by
  unfold Passage.metered Passage.frame? passage send
  dsimp only
  cases hfitted : o.enrich chain.registry ctx.relay.now with
  | none => exact ⟨rfl, rfl⟩
  | some fitted =>
    obtain ⟨recipient, -, rfl⟩ := Option.map_eq_some_iff.mp hfitted
    dsimp only [Option.bind_some]
    generalize hwriting : ite (leaving = some o.target) _ _ = writing
    have hregistry : writing.registry = chain.left leaving o := by
      rw [← hwriting]
      unfold left
      split <;> rfl
    have hmeter : writing.meter = chain.meter := by
      rw [← hwriting]
      split <;> rfl
    rw [← hregistry, ← hmeter]
    cases hframe : Outbound.serialize ctx.deflater writing.registry _ with
    | none => exact ⟨rfl, rfl⟩
    | some f => exact ⟨rfl, rfl⟩

/-- The passages are those of the messages, in their order. -/
theorem passages_message (chain : Chain) (os : List Outbound) :
    (passages ctx leaving chain os).map Passage.message = os := by
  induction os generalizing chain with
  | nil => rfl
  | cons o os ih => exact congrArg _ (ih _)

/-- Messages that are sent one after the other go the way of their passages. -/
theorem foldl_send (os : List Outbound) (chain : Chain) (done : List Sending) :
    let sent := os.foldl (fun (done, c) o =>
      let (sending, c) := send ctx leaving c o
      (sending :: done, c)) (done, chain)
    sent.1.reverse.filterMap Sending.frame?
        = done.reverse.filterMap Sending.frame? ++ Passage.frames ctx.deflater (passages ctx leaving chain os) ∧
      sent.2.meter = (passages ctx leaving chain os).foldl (Passage.metered ctx.deflater) chain.meter := by
  induction os generalizing chain done with
  | nil => exact ⟨(List.append_nil _).symm, rfl⟩
  | cons o os ih =>
    obtain ⟨hframe, hmeter⟩ := send_passage ctx leaving chain o
    obtain ⟨hframes, hmeters⟩ := ih (chain.send ctx leaving o).2 ((chain.send ctx leaving o).1 :: done)
    refine ⟨?_, ?_⟩
    · rw [List.foldl_cons, hframes, List.reverse_cons, List.filterMap_append, List.append_assoc]
      refine congrArg _ ?_
      show _ = List.filterMap (Passage.frame? ctx.deflater) (_ :: _)
      cases hsent : (chain.send ctx leaving o).1.frame? with
      | none =>
        rw [List.filterMap_cons_none hsent, List.filterMap_cons_none (hframe ▸ hsent)]
        rfl
      | some f =>
        rw [List.filterMap_cons_some hsent, List.filterMap_cons_some (hframe ▸ hsent)]
        rfl
    · rw [List.foldl_cons, hmeters, passages, List.foldl_cons, ← hmeter]

/-- The chain once its messages were taken out of the outbox. -/
def drained (c : Chain) : Chain :=
  { c with hub := { c.hub with relay := c.hub.relay.drain.2 }, dropping := [] }

/-- The messages in the outbox are carried recipient by recipient, each in the order in which it was
written to. -/
theorem flush_passages (ctx : ChainContext) (leaving : Option ConnectionId) (chain : Chain) :
    (chain.flush ctx leaving).1.filterMap Sending.frame?
        = Passage.frames ctx.deflater (passages ctx leaving chain.drained
            (chain.hub.relay.outbox.sent.mergeSort fun a b => a.target ≤ b.target)) ∧
      (chain.flush ctx leaving).2.2.meter
        = (passages ctx leaving chain.drained
            (chain.hub.relay.outbox.sent.mergeSort fun a b => a.target ≤ b.target)).foldl
              (Passage.metered ctx.deflater) chain.meter :=
  foldl_send _ chain.drained []

end Chain

end FlightRelay

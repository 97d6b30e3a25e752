import FlightRelay.Pipeline.Intake
import FlightRelay.Proofs.Registry.Lookup
import Mathlib.Data.List.Induction

/-!
# Every frame is accounted for

Frames come in, and in between connections come and go, log in, and choose how they pack what they send.
A frame of a connection that is gone is counted as such.  Any other is charged to its connection, and turns
out to be a message or not; whoever sent it stays connected.  The end of a connection is passed on in any
case.
-/

namespace FlightRelay.Intake

/-! ## One thing that was read -/

/-- A frame was charged to its connection, which gave a sign of life by it.  Nothing else has changed. -/
structure Charged (r : Registry) (c : Connection) (body : ByteArray) (now : Nat) (r' : Registry) :
    Prop where
  live : r.find? c.id = some c
  charged : r'.find? c.id = some { c with
    session := { c.session with lastActivity := now }
    counters := { c.counters with
      bytesIn := c.counters.bytesIn + (body.size + 4).toUInt64
      messagesIn := c.counters.messagesIn + 1 } }
  others : ∀ id, id ≠ c.id → r'.find? id = r.find? id
  /-- Nobody was closed. -/
  ids : r'.connections.map Connection.id = r.connections.map Connection.id
  closed : r'.closed = r.closed
  nextId : r'.nextId = r.nextId

/-- What becomes of one thing that was read: what is passed on, and the intake after it. -/
inductive Accounted (lib : Deflater) (limit : UInt64) (now : Nat) (s : Intake) :
    ReadEvent → Option Inbound → Intake → Prop
  /-- An end is passed on as it is, whoever is registered. -/
  | ended {id : ConnectionId} {reason : CloseReason} :
      Accounted lib limit now s (.closed id reason) (some (.closed id reason)) s
  | orphaned {id : ConnectionId} {body : ByteArray} (gone : s.registry.find? id = none) :
      Accounted lib limit now s (.frame id body) none
        { s with counters := { s.counters with orphaned := s.counters.orphaned + 1 } }
  /-- The frame cannot be unpacked, or is no message. -/
  | malformed {c : Connection} {body : ByteArray} {r : Registry} (charged : Charged s.registry c body now r)
      (unread : ∀ frame, c.session.compression.unpack lib body limit = .ok frame →
        ∀ m, Codec.decode frame ≠ .ok m) :
      Accounted lib limit now s (.frame c.id body) none
        ⟨r, { s.counters with malformed := s.counters.malformed + 1 }⟩
  /-- The message is stamped with its sender and with the user who is logged in there. -/
  | decoded {c : Connection} {body frame : ByteArray} {r : Registry} {m : ClientMessage}
      (charged : Charged s.registry c body now r)
      (unpacked : c.session.compression.unpack lib body limit = .ok frame)
      (read : Codec.decode frame = .ok m) :
      Accounted lib limit now s (.frame c.id body) (some (.message ⟨m, c.id, c.session.userId⟩))
        ⟨r, { s.counters with decoded := s.counters.decoded + 1 }⟩

/-! ## One thing after the other -/

/-- Something is read, or the registry has become another one. -/
inductive Happening where
  | read (event : ReadEvent) (now : Nat)
  | changed (registry : Registry)

/-- The intake, and all that it has passed on. -/
structure Log where
  intake : Intake
  passed : List Inbound

/-- What becomes of something that happens. -/
def Log.step (lib : Deflater) (limit : UInt64) (l : Log) : Happening → Log
  | .read event now =>
    let (inbound, intake) := l.intake.decode lib limit now event
    ⟨intake, l.passed ++ inbound.toList⟩
  | .changed registry => { l with intake := { l.intake with registry } }

/-- What has become of all that happened, from a registry on. -/
def after (lib : Deflater) (limit : UInt64) (r : Registry) (past : List Happening) : Log :=
  past.foldl (Log.step lib limit) ⟨⟨r, .zero⟩, []⟩

/-- A frame is read. -/
def Happening.isFrame : Happening → Bool
  | .read (.frame _ _) _ => true
  | _ => false

/-- The end of a connection that is read. -/
def Happening.end? : Happening → Option Inbound
  | .read (.closed id reason) _ => some (.closed id reason)
  | _ => none

/-- A message, and not the end of a connection. -/
def isMessage : Inbound → Bool
  | .message _ => true
  | .closed _ _ => false

/-- All frames that were counted. -/
def total (counters : IntakeCounters) : Nat := counters.decoded + counters.malformed + counters.orphaned

/-- Every frame is counted once, and all that is passed on is the messages that were counted and the ends
that were read. -/
structure Tallied (past : List Happening) (l : Log) : Prop where
  frames : total l.intake.counters = past.countP Happening.isFrame
  messages : l.passed.countP isMessage = l.intake.counters.decoded
  ends : (l.passed.filter fun i => !isMessage i) = past.filterMap Happening.end?

variable {lib : Deflater} {limit : UInt64} {now : Nat} {s s' : Intake} {event : ReadEvent} {inbound : Option Inbound}
  {id : ConnectionId} {c : Connection} {body : ByteArray} {r : Registry} {past : List Happening}
  {h : Happening} {l : Log}

/-! ## What is read is charged -/

/-- A frame is charged to its connection, and moves its clock. -/
theorem charged_touch (hlive : r.find? id = some c) (body : ByteArray) (now : Nat) :
    Charged r c body now ((r.count id fun io => io.recordIn (wireLength body)).touch id now) := by
  obtain rfl := Registry.id_of_find? hlive
  have hids : ∀ f : Connection → Connection, (∀ d, (f d).id = d.id) → ∀ cs : List Connection,
      (cs.map f).map Connection.id = cs.map Connection.id := by
    intro f hf cs
    rw [List.map_map]
    exact List.map_congr_left fun d _ => hf d
  refine ⟨hlive, ?_, fun other hne => ?_, ?_, rfl, rfl⟩
  · rw [Registry.touch, Registry.find?_modify, if_pos rfl, Registry.find?_count, if_pos rfl, hlive]
    rfl
  · rw [Registry.touch, Registry.find?_modify_of_ne hne, Registry.find?_count, if_neg hne]
  · exact (hids _ (fun d => by split <;> rfl) _).trans (hids _ (fun d => by split <;> rfl) _)

/-- What cannot be read is no frame that unpacks to a message. -/
theorem read?_eq_none {compression : Compression} (h : read? lib compression limit body = none)
    (frame : ByteArray) (hunpack : compression.unpack lib body limit = .ok frame) (m : ClientMessage) :
    Codec.decode frame ≠ .ok m := by
  intro hdecode
  rw [read?, hunpack] at h
  dsimp only at h
  rw [hdecode] at h
  cases h

/-- What is read was packed in the frame. -/
theorem read?_eq_some {compression : Compression} {m : ClientMessage}
    (h : read? lib compression limit body = some m) :
    ∃ frame, compression.unpack lib body limit = .ok frame ∧ Codec.decode frame = .ok m := by
  unfold read? at h
  split at h
  · cases h
  · rename_i frame hunpack
    refine ⟨frame, hunpack, ?_⟩
    cases hdecode : Codec.decode frame with
    | error e =>
      rw [hdecode] at h
      cases h
    | ok m' =>
      rw [hdecode] at h
      exact congrArg _ (Option.some.inj h)

/-- A frame of nobody is an orphan, and changes nothing else. -/
theorem decode_of_gone (gone : s.registry.find? id = none) :
    s.decode lib limit now (.frame id body)
      = (none, { s with counters := { s.counters with orphaned := s.counters.orphaned + 1 } }) := by
  simp only [decode, gone]

/-- A frame that cannot be read is charged and counted, and gives no message. -/
theorem decode_of_unread (live : s.registry.find? id = some c)
    (unread : read? lib c.session.compression limit body = none) :
    s.decode lib limit now (.frame id body)
      = (none, ⟨(s.registry.count id fun io => io.recordIn (wireLength body)).touch id now,
          { s.counters with malformed := s.counters.malformed + 1 }⟩) := by
  simp only [decode, live, unread]

/-- A frame that can be read is charged and counted, and gives its message with the user of the sender. -/
theorem decode_of_read {m : ClientMessage} (live : s.registry.find? id = some c)
    (read : read? lib c.session.compression limit body = some m) :
    s.decode lib limit now (.frame id body)
      = (some (.message ⟨m, id, c.session.userId⟩),
          ⟨(s.registry.count id fun io => io.recordIn (wireLength body)).touch id now,
            { s.counters with decoded := s.counters.decoded + 1 }⟩) := by
  simp only [decode, live, read]

/-- Whatever is read, and whoever is registered, it is accounted for. -/
theorem accounted_decode (lib : Deflater) (limit : UInt64) (now : Nat) (s : Intake) (event : ReadEvent) :
    Accounted lib limit now s event (s.decode lib limit now event).1 (s.decode lib limit now event).2 := by
  cases event with
  | closed id reason => exact .ended
  | frame id body =>
    cases hfind : s.registry.find? id with
    | none =>
      rw [decode_of_gone hfind]
      exact .orphaned hfind
    | some c =>
      obtain rfl := Registry.id_of_find? hfind
      have hcharged := charged_touch hfind body now
      cases hread : read? lib c.session.compression limit body with
      | none =>
        rw [decode_of_unread hfind hread]
        exact .malformed hcharged (read?_eq_none hread)
      | some m =>
        obtain ⟨frame, hunpack, hdecode⟩ := read?_eq_some hread
        rw [decode_of_read hfind hread]
        exact .decoded hcharged hunpack hdecode

/-! ## All that was read -/

/-- A frame is counted once, whatever becomes of it. -/
theorem Accounted.frames (h : Accounted lib limit now s event inbound s') :
    total s'.counters = total s.counters + [Happening.read event now].countP Happening.isFrame := by
  cases h with
  | ended => rfl
  | orphaned _ => rfl
  | malformed _ _ => exact Nat.add_right_comm _ 1 _
  | decoded _ _ _ =>
    exact (congrArg (· + _) (Nat.add_right_comm _ 1 _)).trans (Nat.add_right_comm _ 1 _)

/-- As many messages are passed on as frames were decoded. -/
theorem Accounted.messages (h : Accounted lib limit now s event inbound s') :
    s'.counters.decoded = s.counters.decoded + inbound.toList.countP isMessage := by
  cases h <;> rfl

/-- Every end of a stream is passed on. -/
theorem Accounted.ends (h : Accounted lib limit now s event inbound s') :
    (inbound.toList.filter fun i => !isMessage i) = [Happening.read event now].filterMap Happening.end? := by
  cases h <;> rfl

/-- One more thing that happens is counted in its place. -/
theorem Tallied.step (hl : Tallied past l) (h : Happening) :
    Tallied (past ++ [h]) (l.step lib limit h) := by
  cases h with
  | read event now =>
    have haccounted := accounted_decode lib limit now l.intake event
    refine ⟨?_, ?_, ?_⟩
    · rw [List.countP_append, ← hl.frames]
      exact haccounted.frames
    · refine (List.countP_append ..).trans ?_
      rw [hl.messages]
      exact haccounted.messages.symm
    · refine (List.filter_append ..).trans ?_
      rw [hl.ends, List.filterMap_append]
      exact congrArg _ haccounted.ends
  | changed registry =>
    refine ⟨?_, hl.messages, ?_⟩
    · rw [List.countP_append, ← hl.frames]
      rfl
    · rw [List.filterMap_append, ← hl.ends]
      exact (List.append_nil _).symm

/-- Whatever happens, everything is counted in its place. -/
theorem tallied_after (lib : Deflater) (limit : UInt64) (r : Registry) (past : List Happening) :
    Tallied past (after lib limit r past) := by
  induction past using List.reverseRecOn with
  | nil => exact ⟨rfl, rfl, rfl⟩
  | append_singleton past h ih =>
    rw [after, List.foldl_append]
    exact ih.step h

/-- However often the registry changes in between: every frame is counted once, as decoded, malformed or
orphaned, and whatever is read next is accounted for by who is registered then. -/
theorem frames_accounted (lib : Deflater) (limit : UInt64) (r : Registry) (past : List Happening) :
    Tallied past (after lib limit r past) ∧
      ∀ event now, Accounted lib limit now (after lib limit r past).intake event
        ((after lib limit r past).intake.decode lib limit now event).1
        ((after lib limit r past).intake.decode lib limit now event).2 :=
  ⟨tallied_after lib limit r past, fun event now => accounted_decode lib limit now _ event⟩

end FlightRelay.Intake

import FlightRelay.CloseReason
import FlightRelay.Frame.Packing
import FlightRelay.Frame.Stream
import FlightRelay.Message.Codec
import FlightRelay.Router.Basic

/-!
# Frames become messages

What is read from a connection is a frame or the end of the connection.  A frame is charged to its
connection, unpacked and decoded; it is then stamped with its sender and with the user who is logged in
there at that moment.  A frame that cannot be decoded is counted and dropped, and the connection stays.
-/

namespace FlightRelay

/-- What is read from a connection. -/
inductive ReadEvent where
  | frame (connection : ConnectionId) (body : ByteArray)
  | closed (connection : ConnectionId) (reason : CloseReason)

/-- What the router is to work on. -/
inductive Inbound where
  | message (envelope : Envelope)
  | closed (connection : ConnectionId) (reason : CloseReason)

namespace Inbound

/-- The connection that it is about. -/
def connection : Inbound → ConnectionId
  | .message envelope => envelope.sender
  | .closed connection _ => connection

end Inbound

/-- What became of the frames that were read.  Each frame adds one to one of the numbers, which are 64-bit
words for as long as fewer than `2 ^ 64` frames were read. -/
structure IntakeCounters where
  decoded : Nat
  malformed : Nat
  /-- Frames of connections that are gone. -/
  orphaned : Nat
  deriving DecidableEq, Repr, Inhabited

namespace IntakeCounters

/-- Nothing was read yet. -/
def zero : IntakeCounters := ⟨0, 0, 0⟩

/-- The counters as a JSON value. -/
def toJson (c : IntakeCounters) : Json.Value :=
  .object [("decoded", .ofNat c.decoded), ("malformed", .ofNat c.malformed),
    ("orphaned", .ofNat c.orphaned)]

end IntakeCounters

/-- Bytes of a frame on the wire: the body and its length in front. -/
def wireLength (body : ByteArray) : UInt64 := (body.size + Frame.headerLength).toUInt64

/-- The registry, and what became of the frames so far. -/
structure Intake where
  registry : Registry
  counters : IntakeCounters

namespace Intake

/-- The message in a frame of at most `limit` bytes. -/
def read? (lib : Deflater) (compression : Compression) (limit : UInt64) (body : ByteArray) :
    Option ClientMessage :=
  match compression.unpack lib body limit with
  | .error _ => none
  | .ok frame => (Codec.decode frame).toOption

/-- Takes in one thing that was read; gives what the router is to work on, if anything. -/
def decode (lib : Deflater) (limit : UInt64) (now : Nat) (s : Intake) (event : ReadEvent) :
    Option Inbound × Intake :=
  match event with
  | .closed id reason => (some (.closed id reason), s)
  | .frame id body =>
    match s.registry.find? id with
    | none =>
      (none, { s with counters := { s.counters with orphaned := s.counters.orphaned + 1 } })
    | some c =>
      let charged := s.registry.count id fun io => io.recordIn (wireLength body)
      let registry := charged.touch id now
      match read? lib c.session.compression limit body with
      | none =>
        (none, ⟨registry, { s.counters with malformed := s.counters.malformed + 1 }⟩)
      | some m =>
        (some (.message ⟨m, id, c.session.userId⟩),
          ⟨registry, { s.counters with decoded := s.counters.decoded + 1 }⟩)

end Intake

end FlightRelay

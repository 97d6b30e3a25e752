import FlightRelay.Bandwidth
import FlightRelay.Frame.Packing
import FlightRelay.Message.Codec
import FlightRelay.Pipeline.Intake

/-!
# Messages become frames

A message on its way out passes three stages.  The first fits it to its recipient: how far away the
traffic is, and what time it is.  The second writes and packs it as the recipient expects.  The third
charges it.  Each stage looks the recipient up anew, and a message whose recipient is gone is dropped.
-/

namespace FlightRelay

/-- A packed message on its way to one connection. -/
structure EncodedFrame where
  target : ConnectionId
  body : ByteArray
  /-- To be written at once, not with the next batch. -/
  immediate : Bool

namespace Outbound

/-- A message as its recipient is to see it. -/
def fitted (recipient : Session) (now : UInt64) : ServerMessage → ServerMessage
  | .traffic id callsign position distance _ =>
    .traffic id callsign position ((recipient.distanceTo position.location).or distance) now
  | .pong nonce time => .pong nonce (if time = 0 then now else time)
  | m => m

/-- Fits a message to its recipient. -/
def enrich (r : Registry) (now : UInt64) (o : Outbound) : Option Outbound :=
  (r.find? o.target).map fun c => { o with message := fitted c.session now o.message }

/-- Writes and packs a message as its recipient expects.  To pack into memory has no error, so that only an
unknown recipient or a version that is not spoken stands in the way. -/
def serialize (lib : Deflater) (r : Registry) (o : Outbound) : Option EncodedFrame := do
  let c ← r.find? o.target
  let body ← (Codec.encode o.message c.session.protocolVersion).toOption
  return ⟨o.target, c.session.compression.pack lib body, o.immediate⟩

end Outbound

namespace EncodedFrame

/-- Charges a frame to its connection and to the meter; the clock counts nanoseconds. -/
def charge (f : EncodedFrame) (now : Nat) (r : Registry) (m : BandwidthMeter) :
    Registry × BandwidthMeter :=
  let bytes := wireLength f.body
  (r.count f.target fun io => io.recordOut bytes, m.record bytes now)

end EncodedFrame

end FlightRelay

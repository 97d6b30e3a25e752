import FlightRelay.Json.Reader
import FlightRelay.Json.Writer
import FlightRelay.Message.Server

/-!
# The wire format

A frame holds one message as JSON text.  Frames are decoded whatever the version of the protocol;
encoding is refused for versions that the relay does not speak.
-/

namespace FlightRelay

/-- Why a message could not be coded.  Only the version stands in the way of writing one: the keys in a
message are all strings, so it always has a JSON text. -/
inductive CodecError where
  | malformed
  | unsupportedVersion (version : UInt32)
  deriving DecidableEq, Repr

namespace CodecError

/-- Wording of a codec error. -/
def message : CodecError → String
  | .malformed => "Malformed frame"
  | .unsupportedVersion version => s!"Unsupported protocol version {version.toNat}"

end CodecError

namespace Codec

/-- Highest version of the protocol that the relay speaks. -/
def highestVersion : UInt32 := 2

/-- The client message in a frame. -/
def decode (frame : ByteArray) : Except CodecError ClientMessage :=
  match (Json.parseBytes? frame).bind ClientMessage.read? with
  | some m => .ok m
  | none => .error .malformed

/-- The text of a server message. -/
def encodeText (m : ServerMessage) (version : UInt32) : Except CodecError String :=
  if highestVersion < version then .error (.unsupportedVersion version)
  else .ok m.toJson.write

/-- The frame of a server message. -/
def encode (m : ServerMessage) (version : UInt32) : Except CodecError ByteArray :=
  (encodeText m version).map String.toUTF8

/-- The server message in a frame. -/
def decodeServer (frame : ByteArray) : Except CodecError ServerMessage :=
  match (Json.parseBytes? frame).bind ServerMessage.read? with
  | some m => .ok m
  | none => .error .malformed

end Codec

end FlightRelay

import FlightRelay.Deflate.Inflate
import FlightRelay.Deflate.Pack
import FlightRelay.Deflate.Stored
import FlightRelay.Frame.Packing

/-!
# A library of one's own

The relay works with any library for DEFLATE streams; this is the one that the program runs with.  It
reads a stream back before it gives it away, and stores the bytes should the stream not hold them.
-/

namespace FlightRelay.Deflate

/-! ## Reading ahead -/

/-- No byte of a stream makes more bytes than this: a reference takes two bits, and makes 258. -/
def mostFromByte : Nat := 1032

/-- A stream is read in portions of so many bytes put out: nothing of a portion is handed on before the
whole portion is read, so a flaw in it is found first. -/
def portion : Nat := 32768

/-- A stream comes in pieces of so many bytes.  A portion also ends where a piece ends. -/
def piece : Nat := 32768

/-- How many bytes the first pieces of a stream put out, if the stream goes on. -/
def sizeOfPieces (stream : ByteArray) (pieces : Nat) : Nat :=
  match inflate (mostFromByte * stream.size) (stream.extract 0 (pieces * piece)) with
  | .flawed .cut out => out.size
  | _ => 0

/-- How many bytes are handed on of a stream with a flaw behind byte number `n`. -/
def sizeBeforeFlaw (stream : ByteArray) (n : Nat) : Nat :=
  ((List.range (stream.size / piece + 1)).map (sizeOfPieces stream)).foldl max
    ((n - 1) / portion * portion)

/-- What is handed on of a stream.  A stream that is cut is handed on up to the cut. -/
def unpack (stream : ByteArray) : Unpacked :=
  match inflate (mostFromByte * stream.size) stream with
  | .more out _ => ⟨out, false⟩
  | .full out => ⟨out, false⟩
  | .flawed .cut out => ⟨out, true⟩
  | .flawed .corrupt out => ⟨out.extract 0 (sizeBeforeFlaw stream out.size), true⟩

/-! ## Packing -/

/-- A stream holds some bytes. -/
def holds (stream bytes : ByteArray) : Bool :=
  let u := unpack stream
  !u.flawed && u.bytes.toList = bytes.toList

/-- A stream that holds the bytes. -/
def pack (bytes : ByteArray) : ByteArray :=
  let stream := packTokens bytes
  if holds stream bytes then stream else packStored bytes

/-- The library. -/
def library : Deflater := ⟨pack, unpack⟩

end FlightRelay.Deflate

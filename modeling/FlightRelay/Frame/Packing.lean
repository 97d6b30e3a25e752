import FlightRelay.Role

/-!
# Packing frames

A frame is sent as it is or as a DEFLATE stream, as agreed at login.  The streams are written and read by
a library that the relay is given.  Unpacking stops one byte past the limit, so a small frame cannot unpack
into a large one.
-/

namespace FlightRelay

/-! ## The library -/

/-- What a reader hands on of a stream: some bytes, and then the end of the stream or a flaw. -/
structure Unpacked where
  bytes : ByteArray
  flawed : Bool

namespace Unpacked

/-- Reads to the end, but not past `bound` bytes.  A flaw spoils what was read before it, unless the
reading has stopped by then. -/
def readUpTo (bound : Nat) (u : Unpacked) : Option ByteArray :=
  if bound ≤ u.bytes.size then some (u.bytes.extract 0 bound)
  else if u.flawed then none
  else some u.bytes

end Unpacked

/-- A library for DEFLATE streams.  It packs into memory, and has no error for that. -/
structure Deflater where
  pack : ByteArray → ByteArray
  unpack : ByteArray → Unpacked

/-- What the library packs it unpacks again, without a flaw. -/
def Deflater.Inverts (lib : Deflater) : Prop := ∀ bytes, lib.unpack (lib.pack bytes) = ⟨bytes, false⟩

/-! ## Packing and unpacking -/

/-- Why a frame could not be unpacked. -/
inductive UnpackError where
  | corrupt
  /-- More than `limit` bytes. -/
  | tooLarge (limit : UInt64)
  deriving DecidableEq, Repr

namespace UnpackError

/-- Wording of an unpacking error. -/
def message : UnpackError → String
  | .corrupt => "corrupt deflate stream"
  | .tooLarge limit => s!"decompressed frame exceeds {limit} bytes"

end UnpackError

namespace Compression

/-- Packs a frame. -/
def pack (lib : Deflater) (mode : Compression) (frame : ByteArray) : ByteArray :=
  match mode with
  | .none => frame
  | .deflate => lib.pack frame

/-- Unpacks a frame of at most `limit` bytes.  The limit and the one byte past it are words of 64 bits,
so past the greatest limit nothing is read at all. -/
def unpack (lib : Deflater) (mode : Compression) (frame : ByteArray) (limit : UInt64) :
    Except UnpackError ByteArray :=
  match mode with
  | .none => .ok frame
  | .deflate =>
    match (lib.unpack frame).readUpTo (limit + 1).toNat with
    | Option.none => .error .corrupt
    | some out => if limit.toNat < out.size then .error (.tooLarge limit) else .ok out

end Compression

end FlightRelay

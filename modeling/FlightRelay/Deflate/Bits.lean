/-!
# Bits of a byte string

DEFLATE reads the bits of each byte from the least significant one on.  A number is written with its
least significant bit first, a Huffman code with its first bit first.
-/

namespace FlightRelay.Deflate

/-- Why a stream cannot be read on. -/
inductive Flaw where
  /-- The bits end too early. -/
  | cut
  /-- The bits cannot be a stream, whatever may follow. -/
  | corrupt
  deriving DecidableEq, Repr

/-- Bits still to be read. -/
abbrev Bits := List Bool

/-- The bits of a byte, least significant first. -/
def byteBits (b : UInt8) : Bits :=
  (List.range 8).map fun i => b.toNat.testBit i

/-- The bits of a byte string. -/
def ofBytes (bytes : List UInt8) : Bits :=
  bytes.flatMap byteBits

/-- The number that bits denote, least significant first. -/
def toNumber : Bits → Nat
  | [] => 0
  | b :: bs => b.toNat + 2 * toNumber bs

/-- A number of `n` bits. -/
def readNumber (n : Nat) (bits : Bits) : Except Flaw (Nat × Bits) :=
  let taken := bits.take n
  if taken.length = n then .ok (toNumber taken, bits.drop n) else .error .cut

/-- The bits of a number, least significant first. -/
def numberBits (n value : Nat) : Bits := (List.range n).map value.testBit

/-- Skips to the next byte boundary; what is left always ends on one. -/
def alignToByte (bits : Bits) : Bits :=
  bits.drop (bits.length % 8)

/-! ## Filling bytes -/

/-- Bytes that are filled up bit by bit. -/
structure Filling where
  full : ByteArray
  /-- The byte that is being filled, and how many of its bits are there. -/
  value : Nat
  filled : Nat

namespace Filling

/-- Adds a bit. -/
def push (f : Filling) (bit : Bool) : Filling :=
  let value := f.value + bit.toNat * Nat.pow 2 f.filled
  if f.filled = 7 then ⟨f.full.push value.toUInt8, 0, 0⟩ else ⟨f.full, value, f.filled + 1⟩

/-- All bytes; what is left of the last one is zero. -/
def finish (f : Filling) : ByteArray := if f.filled = 0 then f.full else f.full.push f.value.toUInt8

end Filling

/-- The bytes that hold some bits. -/
def toBytes (bits : Bits) : ByteArray := (bits.foldl Filling.push ⟨ByteArray.empty, 0, 0⟩).finish

end FlightRelay.Deflate

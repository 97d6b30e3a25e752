/-!
# Stored blocks

A stored block holds up to 65535 bytes as they are, after a header of five bytes.
-/

namespace FlightRelay.Deflate

/-- Most bytes of a stored block. -/
def maxStored : Nat := 65535

/-- A number of two bytes, least significant first. -/
def shortBytes (n : Nat) : List UInt8 :=
  [(n % 256).toUInt8, (n / 256).toUInt8]

/-- One stored block. -/
def storedBlock (last : Bool) (body : List UInt8) : List UInt8 :=
  (if last then 1 else 0) :: shortBytes body.length ++ shortBytes (65535 - body.length) ++ body

/-- Stored blocks for a body, at most `fuel` before the last. -/
def storedBlocks : Nat → List UInt8 → List UInt8
  | 0, body => storedBlock true body
  | fuel + 1, body =>
    if body.length ≤ maxStored then storedBlock true body
    else storedBlock false (body.take maxStored) ++ storedBlocks fuel (body.drop maxStored)

/-- A stream of stored blocks that holds the bytes. -/
def packStored (bytes : ByteArray) : ByteArray :=
  let body := bytes.toList
  ⟨(storedBlocks (body.length / maxStored) body).toArray⟩

end FlightRelay.Deflate

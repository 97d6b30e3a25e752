import FlightRelay.CloseReason

/-!
# Frames on the wire

A frame is its length in four bytes, most significant first, and its body.  `append` puts a frame behind
others; `readFrame` takes one frame off a byte string, or says why there is none.
-/

namespace FlightRelay.Frame

/-- Bytes of the length in front of a body. -/
def headerLength : Nat := 4

/-- A word of 32 bits as four bytes, most significant first. -/
def wordBytes (n : UInt32) : List UInt8 :=
  [24, 16, 8, 0].map fun shift => (n.toNat / Nat.pow 2 shift % 256).toUInt8

/-- The number that bytes denote, most significant first. -/
def ofBytes (bytes : List UInt8) : Nat :=
  bytes.foldl (fun n b => 256 * n + b.toNat) 0

/-- Puts a frame behind what is there already. -/
def append (buffer body : List UInt8) : List UInt8 :=
  buffer ++ wordBytes body.length.toUInt32 ++ body

/-- What reading one frame comes to. -/
inductive Reading where
  | frame (body : List UInt8)
  /-- The bytes ended before there was a length. -/
  | ended
  | closed (reason : CloseReason)
  deriving DecidableEq, Repr

/-- Reads one frame of at most `max` bytes, and gives the bytes that were not read. -/
def readFrame (max : Nat) (wire : List UInt8) : Reading × List UInt8 :=
  if wire.length < headerLength then (.ended, [])
  else
    let length := ofBytes (wire.take headerLength)
    let rest := wire.drop headerLength
    if max < length then (.closed .frameTooLarge, rest)
    else if rest.length < length then (.closed .readError, [])
    else (.frame (rest.take length), rest.drop length)

theorem length_lt_of_frame {max : Nat} {wire body rest : List UInt8}
    (h : readFrame max wire = (.frame body, rest)) : rest.length < wire.length := by
  unfold readFrame at h
  split at h
  · simp at h
  · dsimp only at h
    split at h
    · simp at h
    · split at h
      · simp at h
      · simp only [Prod.mk.injEq, Reading.frame.injEq] at h
        rw [← h.2]
        simp only [List.length_drop, headerLength] at *
        omega

end FlightRelay.Frame

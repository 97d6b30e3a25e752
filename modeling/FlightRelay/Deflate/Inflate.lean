import FlightRelay.Deflate.Huffman
import FlightRelay.Deflate.Token

/-!
# Inflating

A stream is a run of blocks: stored ones, and packed ones made of literals and of references to what was
put out before.  `inflate` reads a stream until its last block ends, until a flaw is found, or until more
bytes than a given number would be put out; it tells which, and what was put out by then.
-/

namespace FlightRelay.Deflate

/-- Greatest numbers of literal and of distance symbols in a code of a block's own. -/
def maxLiteralSymbols : Nat := 286
@[inherit_doc maxLiteralSymbols]
def maxDistanceSymbols : Nat := 30

/-! ## Codes of a block -/

/-- The two codes of a packed block. -/
structure BlockCodes where
  literals : Huffman
  distances : Huffman

/-- The lengths of the code-length code, in the order of its symbols. -/
def readCodeLengthLengths : List Nat → Bits → Except Flaw (List (Nat × Nat) × Bits)
  | [], bits => .ok ([], bits)
  | symbol :: symbols, bits => do
    let (n, bits) ← readNumber 3 bits
    let (rest, bits) ← readCodeLengthLengths symbols bits
    return ((symbol, n) :: rest, bits)

/-- Reads `total` code lengths, last first, with runs; at most `fuel` symbols. -/
def readLengths (h : Huffman) (total : Nat) :
    Nat → List Nat → Bits → Except Flaw (List Nat × Bits)
  | 0, done, bits => if done.length = total then .ok (done, bits) else .error .corrupt
  | fuel + 1, done, bits =>
    if total ≤ done.length then
      if done.length = total then .ok (done, bits) else .error .corrupt
    else do
      let (symbol, bits) ← h.decode bits
      if symbol < 16 then readLengths h total fuel (symbol :: done) bits
      else if symbol = 16 then
        match done with
        | [] => .error .corrupt
        | last :: _ =>
          let (n, bits) ← readNumber 2 bits
          readLengths h total fuel (List.replicate (3 + n) last ++ done) bits
      else if symbol = 17 then
        let (n, bits) ← readNumber 3 bits
        readLengths h total fuel (List.replicate (3 + n) 0 ++ done) bits
      else
        let (n, bits) ← readNumber 7 bits
        readLengths h total fuel (List.replicate (11 + n) 0 ++ done) bits

/-- A code that a block brings along, if there is one. -/
def required (code : Option Huffman) : Except Flaw Huffman :=
  match code with
  | some code => .ok code
  | none => .error .corrupt

/-- Reads the codes that a block brings along.  The code-length code has to be complete. -/
def readCodes (bits : Bits) : Except Flaw (BlockCodes × Bits) := do
  let (hlit, bits) ← readNumber 5 bits
  let (hdist, bits) ← readNumber 5 bits
  let (hclen, bits) ← readNumber 4 bits
  let literals := hlit + 257
  let distances := hdist + 1
  if maxLiteralSymbols < literals || maxDistanceSymbols < distances then .error .corrupt
  else
    let (lengths, bits) ← readCodeLengthLengths (codeLengthOrder.take (hclen + 4)) bits
    let code ← required <| Huffman.completeOfLengths? <|
      (List.range 19).map fun s => (lengths.lookup s).getD 0
    let total := literals + distances
    let (done, bits) ← readLengths code total total [] bits
    let all := done.reverse
    let distances ← required (Huffman.ofLengths? (all.drop literals))
    let literals ← required (Huffman.ofLengths? (all.take literals))
    return (⟨literals, distances⟩, bits)

/-! ## Contents of a block -/

/-- How far the reading of a stream has come. -/
inductive Inflated where
  /-- A block has ended. -/
  | more (out : ByteArray) (bits : Bits)
  /-- As many bytes are out as may be, and there is another one. -/
  | full (out : ByteArray)
  | flawed (flaw : Flaw) (out : ByteArray)

/-- The byte that was put out `distance` bytes ago; before the first byte there are zeros. -/
def byteBack (out : ByteArray) (distance : Nat) : UInt8 :=
  if distance ≤ out.size then out.get! (out.size - distance) else 0

/-- Puts out `n` bytes again from `distance` bytes back, but no more than `room` in all. -/
def copyBack (room distance : Nat) : Nat → ByteArray → ByteArray
  | 0, out => out
  | n + 1, out =>
    if room ≤ out.size then out
    else copyBack room distance n (out.push (byteBack out distance))

/-- Reads a base and its extra bits. -/
def readExtended (table : Array (Nat × Nat)) (symbol : Nat) (bits : Bits) :
    Except Flaw (Nat × Bits) :=
  match table[symbol]? with
  | none => .error .corrupt
  | some (base, extra) => do
    let (n, bits) ← readNumber extra bits
    return (base + n, bits)

/-- Reads what follows a length symbol. -/
def readReference (distances : Huffman) (symbol : Nat) (bits : Bits) :
    Except Flaw (Reference × Bits) := do
  let (length, bits) ← readExtended lengthTable (symbol - 257) bits
  let (symbol, bits) ← distances.decode bits
  let (distance, bits) ← readExtended distanceTable symbol bits
  return (⟨length, distance⟩, bits)

/-- The contents of a packed block; every symbol takes at least one bit, so `fuel` bits are enough. -/
def inflateSymbols (codes : BlockCodes) (room : Nat) : Nat → ByteArray → Bits → Inflated
  | 0, out, _ => .flawed .cut out
  | fuel + 1, out, bits =>
    match codes.literals.decode bits with
    | .error flaw => .flawed flaw out
    | .ok (symbol, bits) =>
      if symbol = endOfBlock then .more out bits
      else if symbol < endOfBlock then
        if room ≤ out.size then .full out
        else inflateSymbols codes room fuel (out.push symbol.toUInt8) bits
      else
        match readReference codes.distances symbol bits with
        | .error flaw => .flawed flaw out
        | .ok (r, bits) =>
          let copied := copyBack room r.distance r.length out
          if room < out.size + r.length then .full copied
          else inflateSymbols codes room fuel copied bits

/-- Puts out `n` bytes as they stand in the stream. -/
def copyStored (room : Nat) : Nat → ByteArray → Bits → Inflated
  | 0, out, bits => .more out bits
  | n + 1, out, bits =>
    if room ≤ out.size then .full out
    else
      match readNumber 8 bits with
      | .error flaw => .flawed flaw out
      | .ok (b, bits) => copyStored room n (out.push b.toUInt8) bits

/-- The length of a stored block, which stands there with its complement. -/
def readStoredLength (bits : Bits) : Except Flaw (Nat × Bits) := do
  let (length, bits) ← readNumber 16 (alignToByte bits)
  let (complement, bits) ← readNumber 16 bits
  if length + complement = 65535 then return (length, bits) else .error .corrupt

/-- The contents of a block of a given kind. -/
def inflateBlock (kind room : Nat) (out : ByteArray) (bits : Bits) : Inflated :=
  match kind with
  | 0 =>
    match readStoredLength bits with
    | .error flaw => .flawed flaw out
    | .ok (length, bits) => copyStored room length out bits
  | 1 => inflateSymbols ⟨.fixedLiterals, .fixedDistances⟩ room (bits.length + 1) out bits
  | 2 =>
    match readCodes bits with
    | .error flaw => .flawed flaw out
    | .ok (codes, bits) => inflateSymbols codes room (bits.length + 1) out bits
  | _ => .flawed .corrupt out

/-- Whether a block is the last one, and its kind. -/
def readBlockHead (bits : Bits) : Except Flaw ((Bool × Nat) × Bits) := do
  let (last, bits) ← readNumber 1 bits
  let (kind, bits) ← readNumber 2 bits
  return ((last = 1, kind), bits)

/-- The blocks of a stream; every block takes at least three bits, so `fuel` bits are enough. -/
def inflateBlocks (room : Nat) : Nat → ByteArray → Bits → Inflated
  | 0, out, _ => .flawed .cut out
  | fuel + 1, out, bits =>
    match readBlockHead bits with
    | .error flaw => .flawed flaw out
    | .ok ((last, kind), bits) =>
      match inflateBlock kind room out bits with
      | .more out bits => if last then .more out bits else inflateBlocks room fuel out bits
      | ended => ended

/-- Reads a stream that puts out no more than `room` bytes; what follows the stream is handed back. -/
def inflate (room : Nat) (stream : ByteArray) : Inflated :=
  let bits := ofBytes stream.toList
  inflateBlocks room (bits.length + 1) ByteArray.empty bits

end FlightRelay.Deflate

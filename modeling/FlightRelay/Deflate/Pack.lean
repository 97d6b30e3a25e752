import FlightRelay.Deflate.Block
import FlightRelay.Deflate.Search

/-!
# Packing

Bytes become tokens, tokens are gathered into blocks, and blocks are written one after the other.
-/

namespace FlightRelay.Deflate

/-! ## Gathering tokens -/

/-- Room that a token takes in the buffer of a block. -/
def Token.cost : Token → Nat
  | .literal _ => 1
  | .reference _ => 3

/-- A block is ended when its buffer holds more than this. -/
def bufferRoom : Nat := 65528

/-- Tokens on their way into blocks; the last token and the last block come first. -/
structure Gathering where
  ended : List (List Token)
  tokens : List Token
  count : Nat
  cost : Nat

namespace Gathering

/-- Adds a token, and ends the block if its buffer is full.  Eight tokens share a byte of marks. -/
def push (g : Gathering) (t : Token) : Gathering :=
  let tokens := t :: g.tokens
  let count := g.count + 1
  let cost := g.cost + t.cost
  if bufferRoom < 1 + cost + count / 8 then ⟨tokens.reverse :: g.ended, [], 0, 0⟩
  else { g with tokens, count, cost }

end Gathering

/-- The blocks before the last one, and the last one, which may be empty. -/
def gather (tokens : List Token) : List (List Token) × List Token :=
  let g := tokens.foldl Gathering.push ⟨[], [], 0, 0⟩
  (g.ended.reverse, g.tokens.reverse)

/-! ## Streams -/

/-- A stream while it is written. -/
structure Writing where
  bits : Bits
  /-- How many bytes were written. -/
  done : Nat

/-- Writes one block. -/
def Writing.block (data : List UInt8) (last : Bool) (w : Writing) (tokens : List Token) : Writing :=
  let size := (tokens.map Token.size).foldl (· + ·) 0
  let body := (data.drop w.done).take size
  ⟨w.bits ++ blockBits (w.bits.length % 8) last tokens body, w.done + size⟩

/-- The stream that the tokens of some bytes make. -/
def packTokens (bytes : ByteArray) : ByteArray :=
  let data := bytes.toList
  let (blocks, last) := gather (tokensOf bytes)
  toBytes ((blocks.foldl (Writing.block data false) ⟨[], 0⟩).block data true last).bits

end FlightRelay.Deflate

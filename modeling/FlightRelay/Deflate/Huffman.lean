import FlightRelay.Deflate.Bits

/-!
# Canonical Huffman codes

A code is given by the length of each symbol's code word.  Words of one length are consecutive numbers
in the order of their symbols, and follow on the words one bit shorter.  A code is complete if its words
take all the room there is.  A bare code has no word at all, or a single word of one bit; the first bit
that is none of its words is a flaw.  All other codes are refused.
-/

namespace FlightRelay.Deflate

/-- Longest code word. -/
def maxCodeLength : Nat := 15

/-- A canonical code: how many words there are of each length from one on, and the symbols by length and
number. -/
structure Huffman where
  counts : List Nat
  symbols : Array Nat

namespace Huffman

/-- How much of the room for words of length `maxCodeLength` the words of these lengths take. -/
def room (counts : List Nat) : Nat :=
  counts.foldl (fun total n => 2 * (total + n)) 0

/-- The words take all the room there is. -/
def isComplete (counts : List Nat) : Bool := room counts = Nat.pow 2 (maxCodeLength + 1)

/-- There is no word, or a single one of one bit. -/
def isBare (counts : List Nat) : Bool := counts.foldl (· + ·) 0 ≤ 1 && (counts.drop 1).foldl (· + ·) 0 = 0

/-- How many words there are of each length from one on; length zero is no word. -/
def countsOf (lengths : List Nat) : List Nat :=
  (List.range maxCodeLength).map fun i => lengths.count (i + 1)

/-- The symbols by length and number. -/
def symbolsOf (lengths : List Nat) : Array Nat :=
  ((List.range maxCodeLength).flatMap fun i =>
    (lengths.zipIdx.filter fun e => e.1 = i + 1).map Prod.snd).toArray

/-- The complete code whose symbols have these word lengths. -/
def completeOfLengths? (lengths : List Nat) : Option Huffman :=
  let counts := countsOf lengths
  if isComplete counts then some ⟨counts, symbolsOf lengths⟩ else none

/-- The complete or bare code whose symbols have these word lengths; a bare one knows no second bit. -/
def ofLengths? (lengths : List Nat) : Option Huffman :=
  let counts := countsOf lengths
  if isBare counts then some ⟨counts.take 1, symbolsOf lengths⟩ else completeOfLengths? lengths

/-- Reads one word bit by bit.  `code` is the number so far, `first` the number of the first word of the
length at hand, `index` the place of its symbol. -/
def decodeFrom (symbols : Array Nat) :
    List Nat → Nat → Nat → Nat → Bits → Except Flaw (Nat × Bits)
  | [], _, _, _, _ => .error .corrupt
  | _ :: _, _, _, _, [] => .error .cut
  | n :: counts, code, first, index, b :: bits =>
    let code := 2 * code + b.toNat
    let first := 2 * first
    if code < first + n then
      match symbols[index + (code - first)]? with
      | some s => .ok (s, bits)
      | none => .error .corrupt
    else decodeFrom symbols counts code (first + n) (index + n) bits

/-- Reads one symbol. -/
def decode (h : Huffman) (bits : Bits) : Except Flaw (Nat × Bits) :=
  decodeFrom h.symbols h.counts 0 0 0 bits

/-! ## Words -/

/-- Number of the first word of a length. -/
def firstWord (lengths : List Nat) : Nat → Nat
  | 0 => 0
  | 1 => 0
  | n + 2 => 2 * (firstWord lengths (n + 1) + lengths.count (n + 1))

/-- The word of a symbol, first bit first; empty for a symbol without a word. -/
def wordOf (lengths : List Nat) (symbol : Nat) : Bits :=
  let length := lengths.getD symbol 0
  (numberBits length (firstWord lengths length + (lengths.take symbol).count length)).reverse

/-- The words of all symbols. -/
def wordsOf (lengths : List Nat) : Array Bits :=
  ((List.range lengths.length).map (wordOf lengths)).toArray

/-! ## Fixed codes -/

/-- Word lengths of the fixed code of literals and lengths. -/
def fixedLiteralLengths : List Nat :=
  List.replicate 144 8 ++ List.replicate 112 9 ++ List.replicate 24 7 ++ List.replicate 8 8

/-- Word lengths of the fixed code of distances. -/
def fixedDistanceLengths : List Nat := List.replicate 32 5

/-- The fixed code of literals and lengths. -/
def fixedLiterals : Huffman := (ofLengths? fixedLiteralLengths).getD ⟨[], #[]⟩

/-- The fixed code of distances. -/
def fixedDistances : Huffman := (ofLengths? fixedDistanceLengths).getD ⟨[], #[]⟩

end Huffman

end FlightRelay.Deflate

import FlightRelay.Deflate.Huffman
import FlightRelay.Deflate.Token
import FlightRelay.Deflate.WordLengths

/-!
# Writing blocks

A small block is written with the fixed codes, any other one with codes of its own.  A block that does not
get smaller by this is stored as it is.
-/

namespace FlightRelay.Deflate

/-- How many symbols there are of each kind, with those that are never used. -/
def literalAlphabet : Nat := 288
@[inherit_doc literalAlphabet]
def distanceAlphabet : Nat := 32
@[inherit_doc literalAlphabet]
def codeLengthAlphabet : Nat := 19

/-! ## Tokens -/

/-- The words of a packed block. -/
structure BlockWords where
  literals : Array Bits
  distances : Array Bits

/-- The word of a symbol. -/
def wordAt (words : Array Bits) (symbol : Nat) : Bits := words.getD symbol []

/-- The extra bits that make `n` of a base. -/
def extraBits (table : Array (Nat × Nat)) (n : Nat) : Bits :=
  let (base, extra) := table.getD (placeOf table n) (0, 0)
  numberBits extra (n - base)

/-- A token in the words of a block. -/
def Token.bits (w : BlockWords) : Token → Bits
  | .literal b => wordAt w.literals b.toNat
  | .reference r =>
    wordAt w.literals (lengthSymbol r.length) ++ extraBits lengthTable r.length
      ++ wordAt w.distances (distanceSymbol r.distance) ++ extraBits distanceTable r.distance

/-- Tokens and the end of their block. -/
def contents (w : BlockWords) (tokens : List Token) : Bits :=
  tokens.flatMap (Token.bits w) ++ wordAt w.literals endOfBlock

/-! ## Codes -/

/-- How often the symbols of literals and lengths are used; the end of the block is one of them. -/
def literalCounts (tokens : List Token) : List Nat :=
  let count (counts : Array Nat) : Token → Array Nat
    | .literal b => counts.modify b.toNat (· + 1)
    | .reference r => counts.modify (lengthSymbol r.length) (· + 1)
  (tokens.foldl count ((Array.replicate literalAlphabet 0).modify endOfBlock (· + 1))).toList

/-- How often the symbols of distances are used. -/
def distanceCounts (tokens : List Token) : List Nat :=
  let count (counts : Array Nat) : Token → Array Nat
    | .literal _ => counts
    | .reference r => counts.modify (distanceSymbol r.distance) (· + 1)
  (tokens.foldl count (Array.replicate distanceAlphabet 0)).toList

/-- A symbol of the code-length code, and the number that follows it. -/
structure LengthSymbol where
  symbol : Nat
  extra : Nat
  value : Nat
  deriving DecidableEq, Repr, Inhabited

namespace LengthSymbol

/-- A length by itself. -/
def single (length : Nat) : LengthSymbol := ⟨length, 0, 0⟩

/-- So many unused symbols in a row. -/
def gaps : Nat → Nat → List LengthSymbol
  | 0, _ => []
  | fuel + 1, n =>
    if n < 3 then List.replicate n (single 0)
    else if n ≤ 10 then [⟨17, 3, n - 3⟩]
    else if n ≤ 138 then [⟨18, 7, n - 11⟩]
    else ⟨18, 7, 127⟩ :: gaps fuel (n - 138)

/-- The same length again, so many times. -/
def repeats (length : Nat) : Nat → Nat → List LengthSymbol
  | 0, _ => []
  | fuel + 1, n =>
    if n < 3 then List.replicate n (single length)
    else if n ≤ 6 then [⟨16, 2, n - 3⟩]
    else ⟨16, 2, 3⟩ :: repeats length fuel (n - 6)

/-- So many equal lengths in a row. -/
def ofRun (length n : Nat) : List LengthSymbol :=
  if length = 0 then gaps n n else single length :: repeats length n (n - 1)

/-- The symbol in words of the code-length code. -/
def bits (words : Array Bits) (s : LengthSymbol) : Bits :=
  wordAt words s.symbol ++ numberBits s.extra s.value

end LengthSymbol

/-- Equal neighbours, each with their number. -/
def runsOf : List Nat → List (Nat × Nat)
  | [] => []
  | x :: rest =>
    match runsOf rest with
    | (y, n) :: runs => if x = y then (y, n + 1) :: runs else (x, 1) :: (y, n) :: runs
    | [] => [(x, 1)]

/-- Leaves out unused symbols at the end, but leaves at least so many symbols. -/
def trimmed (least : Nat) (lengths : List Nat) : List Nat :=
  let used := (lengths.reverse.dropWhile (· = 0)).length
  lengths.take (max least used)

/-- What tells the codes of a packed block: the numbers of symbols, the code-length code, and the lengths
in that code. -/
def codesHead (literals distances : List Nat) : Bits :=
  let symbols := (runsOf (literals ++ distances)).flatMap fun run => LengthSymbol.ofRun run.1 run.2
  let counts := (List.range codeLengthAlphabet).map fun s => symbols.countP fun e => e.symbol = s
  let lengths := wordLengths 7 counts
  let written := trimmed 4 (codeLengthOrder.map fun s => lengths.getD s 0)
  numberBits 5 (literals.length - 257) ++ numberBits 5 (distances.length - 1)
    ++ numberBits 4 (written.length - 4) ++ written.flatMap (numberBits 3)
    ++ symbols.flatMap (LengthSymbol.bits (Huffman.wordsOf lengths))

/-! ## Blocks -/

/-- A block with the fixed codes, from its kind on. -/
def fixedBlock (tokens : List Token) : Bits :=
  let w := ⟨Huffman.wordsOf Huffman.fixedLiteralLengths, Huffman.wordsOf Huffman.fixedDistanceLengths⟩
  numberBits 2 1 ++ contents w tokens

/-- A block with codes of its own, from its kind on. -/
def ownBlock (tokens : List Token) : Bits :=
  let literals := trimmed 257 (wordLengths maxCodeLength (literalCounts tokens))
  let distances := trimmed 1 (wordLengths maxCodeLength (distanceCounts tokens))
  numberBits 2 2 ++ codesHead literals distances
    ++ contents ⟨Huffman.wordsOf literals, Huffman.wordsOf distances⟩ tokens

/-- A block of bytes as they are, from its kind on, which stands at a bit of a byte. -/
def storedContents (place : Nat) (body : List UInt8) : Bits :=
  numberBits 2 0 ++ List.replicate ((8 - (place + 2) % 8) % 8) false
    ++ numberBits 16 body.length ++ numberBits 16 (65535 - body.length) ++ ofBytes body

/-- Below so many bytes a block has the fixed codes. -/
def smallBlock : Nat := 48

/-- Only blocks of more bytes than the first number, and of no more than the second one, are stored. -/
def leastStored : Nat := 32
@[inherit_doc leastStored]
def mostStored : Nat := 32768

/-- A block whose first bit has a place in its byte: the tokens, and the bytes that they stand for. -/
def blockBits (place : Nat) (last : Bool) (tokens : List Token) (body : List UInt8) : Bits :=
  let size := body.length
  let packed := if size < smallBlock then fixedBlock tokens else ownBlock tokens
  let wholeBytes := (place + 1 + packed.length) / 8 - (place + 1) / 8
  if leastStored < size && size ≤ mostStored && size ≤ wholeBytes + 1 then
    last :: storedContents (place + 1) body
  else last :: packed

end FlightRelay.Deflate

/-!
# Tokens

A packed block is a run of tokens: single bytes, and references to bytes that stand before.  Lengths and
distances are written as a symbol, which stands for a base, and some extra bits to be added to it.
-/

namespace FlightRelay.Deflate

/-- Length and distance of a reference. -/
structure Reference where
  length : Nat
  distance : Nat
  deriving DecidableEq, Repr, Inhabited

/-- One token of a packed block. -/
inductive Token where
  | literal (byte : UInt8)
  | reference (r : Reference)
  deriving DecidableEq, Repr, Inhabited

/-- How many bytes a token stands for. -/
def Token.size : Token → Nat
  | .literal _ => 1
  | .reference r => r.length

/-- Lengths of references. -/
def minLength : Nat := 3
@[inherit_doc minLength]
def maxLength : Nat := 258

/-! ## Symbols -/

/-- The symbol that ends a packed block. -/
def endOfBlock : Nat := 256

/-- Base and extra bits of the length symbols, from 257 on. -/
def lengthTable : Array (Nat × Nat) :=
  #[(3, 0), (4, 0), (5, 0), (6, 0), (7, 0), (8, 0), (9, 0), (10, 0), (11, 1), (13, 1), (15, 1), (17, 1),
    (19, 2), (23, 2), (27, 2), (31, 2), (35, 3), (43, 3), (51, 3), (59, 3), (67, 4), (83, 4), (99, 4),
    (115, 4), (131, 5), (163, 5), (195, 5), (227, 5), (258, 0)]

/-- Base and extra bits of the distance symbols. -/
def distanceTable : Array (Nat × Nat) :=
  #[(1, 0), (2, 0), (3, 0), (4, 0), (5, 1), (7, 1), (9, 2), (13, 2), (17, 3), (25, 3), (33, 4), (49, 4),
    (65, 5), (97, 5), (129, 6), (193, 6), (257, 7), (385, 7), (513, 8), (769, 8), (1025, 9), (1537, 9),
    (2049, 10), (3073, 10), (4097, 11), (6145, 11), (8193, 12), (12289, 12), (16385, 13), (24577, 13)]

/-- Order in which the lengths of the code-length code are written. -/
def codeLengthOrder : List Nat :=
  [16, 17, 18, 0, 8, 7, 9, 6, 10, 5, 11, 4, 12, 3, 13, 2, 14, 1, 15]

/-- Place in a table of the last base that is no greater than `n`. -/
def placeOf (table : Array (Nat × Nat)) (n : Nat) : Nat :=
  table.toList.countP (fun e => e.1 ≤ n) - 1

/-- Symbol of a length. -/
def lengthSymbol (length : Nat) : Nat := endOfBlock + 1 + placeOf lengthTable length

/-- Symbol of a distance. -/
def distanceSymbol (distance : Nat) : Nat := placeOf distanceTable distance

end FlightRelay.Deflate

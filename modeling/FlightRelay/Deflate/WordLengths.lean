/-!
# Word lengths from counts

A code is short if symbols that are used often have short words.  The two lightest subtrees are joined
until one tree is left; the depths of its leaves are the lengths of the words.  Words that are too long are
cut down to the longest allowed, and other words are made longer until there is room for all.
-/

namespace FlightRelay.Deflate

/-- A tree of symbols: how often they are used in all, and how deep they lie. -/
structure Subtree where
  weight : Nat
  depths : List Nat
  deriving DecidableEq, Repr, Inhabited

namespace Subtree

/-- The tree of a single symbol. -/
def leaf (weight : Nat) : Subtree := ⟨weight, [0]⟩

/-- Two trees under one root. -/
def join (a b : Subtree) : Subtree := ⟨a.weight + b.weight, (a.depths ++ b.depths).map (· + 1)⟩

/-- Takes the lightest tree, a leaf rather than a joined one. -/
def takeLightest : List Nat → List Subtree → Option (Subtree × List Nat × List Subtree)
  | [], [] => none
  | w :: leaves, [] => some (leaf w, leaves, [])
  | [], t :: joined => some (t, [], joined)
  | w :: leaves, t :: joined =>
    if t.weight < w then some (t, w :: leaves, joined) else some (leaf w, leaves, t :: joined)

/-- Joins the two lightest trees until one is left; both lists are in order of weight. -/
def joinAll : Nat → List Nat → List Subtree → List Nat
  | 0, _, _ => []
  | fuel + 1, leaves, joined =>
    match takeLightest leaves joined with
    | none => []
    | some (a, leaves, joined) =>
      match takeLightest leaves joined with
      | none => a.depths
      | some (b, leaves, joined) => joinAll fuel leaves (joined ++ [a.join b])

end Subtree

/-! ## How many words there are of each length -/

/-- Makes a word longer by one bit, one of the longest that can be, which makes room for another one of
that length.  The counts are those of the longest words first. -/
def lengthenOne : List Nat → List Nat
  | c :: d :: rest =>
    if d = 0 then c :: lengthenOne (d :: rest) else (c + 2) :: (d - 1) :: rest
  | counts => counts

/-- Moves one of the longest words to where a shorter one was. -/
def makeRoom : List Nat → List Nat
  | c :: rest => lengthenOne ((c - 1) :: rest)
  | [] => []

/-- How much room words take; the counts are those of the longest words first. -/
def roomTaken : List Nat → Nat
  | [] => 0
  | c :: rest => c + 2 * roomTaken rest

/-- How many words there are of each length up to `most`, the longest first. -/
def limitedCounts (most : Nat) (depths : List Nat) : List Nat :=
  let counts := (List.range most).map fun i => depths.countP fun d => min (max d 1) most = most - i
  if depths.length ≤ 1 then counts
  else (List.range (roomTaken counts - Nat.pow 2 most)).foldl (fun counts _ => makeRoom counts) counts

/-! ## Lengths -/

/-- Puts a symbol, with its count, behind all that are used no more often. -/
def insertByCount (e : Nat × Nat) : List (Nat × Nat) → List (Nat × Nat)
  | [] => [e]
  | d :: rest => if e.1 < d.1 then e :: d :: rest else d :: insertByCount e rest

/-- The symbols that are used, with their counts, the least used first. -/
def byCount (counts : List Nat) : List (Nat × Nat) :=
  (counts.zipIdx.filter fun e => e.1 ≠ 0).foldl (fun sorted e => insertByCount e sorted) []

/-- Lengths of words, longest first. -/
def spelledOut (most : Nat) (counts : List Nat) : List Nat :=
  counts.zipIdx.flatMap fun e => List.replicate e.1 (most - e.2)

/-- Lengths of at most `most` bits for symbols that are used so often; an unused symbol has no word. -/
def wordLengths (most : Nat) (counts : List Nat) : List Nat :=
  let used := byCount counts
  let depths := Subtree.joinAll used.length (used.map Prod.fst) []
  let lengths := (used.map Prod.snd).zip (spelledOut most (limitedCounts most depths))
  (List.range counts.length).map fun s => (lengths.lookup s).getD 0

end FlightRelay.Deflate

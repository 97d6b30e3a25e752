import FlightRelay.Deflate.Token

/-!
# Finding what stands before

The search goes through the bytes once.  Where a token begins it looks up the last place at which a token
began with three bytes of the same hash, and refers to it if the three bytes are really there.  It never
looks for a better reference.  Bytes are searched in stretches, and no reference crosses the end of one.
-/

namespace FlightRelay.Deflate

/-- How many bytes are searched at a time. -/
def stretch : Nat := 4096

/-- How far back a reference may reach. -/
def windowSize : Nat := 32768

/-- Distance from which on a reference of the least length is not worth while. -/
def farAway : Nat := 8192

/-- How many hashes there are. -/
def hashes : Nat := 4096

/-- Hash of three bytes. -/
def hash (a b c : UInt8) : Nat :=
  let n := a.toNat + 256 * b.toNat + 65536 * c.toNat
  (n ^^^ (n >>> 17)) % hashes

/-- Places are remembered by their last sixteen bits. -/
def places : Nat := 65536

/-- How far a search has come. -/
structure Search where
  /-- Where the next token begins. -/
  place : Nat
  /-- How far back that token may reach. -/
  window : Nat
  /-- The last place of each hash. -/
  heads : Array Nat
  /-- The tokens, the last one first. -/
  found : List Token

namespace Search

/-- Nothing was searched yet. -/
def start : Search := ⟨0, 0, Array.replicate hashes 0, []⟩

/-- How many bytes are the same from two places on; at most `n` are looked at. -/
def common (data : ByteArray) : Nat → Nat → Nat → Nat
  | 0, _, _ => 0
  | n + 1, p, q => if data.get! p = data.get! q then common data n (p + 1) (q + 1) + 1 else 0

/-- Puts a token behind those that were found. -/
def emit (s : Search) (t : Token) : Search :=
  { s with
    place := s.place + t.size
    window := min (s.window + t.size) windowSize
    found := t :: s.found }

/-- The reference from a place that reaches back so far, if it is allowed and worth while; nothing at or
behind `stop` is looked at. -/
def referenceTo? (s : Search) (data : ByteArray) (stop distance : Nat) : Option Reference :=
  if distance = 0 || s.window < distance then none
  else
    let length := common data (min maxLength (stop - s.place)) s.place (s.place - distance)
    if length < minLength || (length = minLength && farAway ≤ distance) then none
    else some ⟨length, distance⟩

/-- Finds one token before `stop`. -/
def step (data : ByteArray) (stop : Nat) (s : Search) : Search :=
  let byte := data.get! s.place
  if stop - s.place ≤ minLength then s.emit (.literal byte)
  else
    let h := hash byte (data.get! (s.place + 1)) (data.get! (s.place + 2))
    let distance := (s.place + places - s.heads.getD h 0) % places
    let s := { s with heads := s.heads.setIfInBounds h (s.place % places) }
    match s.referenceTo? data stop distance with
    | some r => s.emit (.reference r)
    | none => s.emit (.literal byte)

/-- Finds all tokens before `stop`; every token takes a byte, so `fuel` bytes are enough. -/
def advance (data : ByteArray) (stop : Nat) : Nat → Search → Search
  | 0, s => s
  | fuel + 1, s => if stop ≤ s.place then s else advance data stop fuel (s.step data stop)

/-- Searches the stretch with a given number.  What is read ahead leaves less room to reach back. -/
def searchStretch (data : ByteArray) (s : Search) (i : Nat) : Search :=
  let stop := min data.size ((i + 1) * stretch)
  let ahead := stop - s.place
  advance data stop ahead { s with window := min s.window (windowSize - ahead) }

end Search

/-- The tokens that stand for some bytes. -/
def tokensOf (data : ByteArray) : List Token :=
  ((List.range (data.size / stretch + 1)).foldl (Search.searchStretch data) .start).found.reverse

end FlightRelay.Deflate

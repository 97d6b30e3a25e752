import FlightRelay.Json.Value

/-!
# Recent latencies

The latencies of the last units of work, in nanoseconds: as many as the capacity says, the oldest first.
-/

namespace FlightRelay

/-- The longest span of time, in nanoseconds: its whole seconds are a word. -/
def longestSpan : Nat := 18446744073709551616 * 1000000000 - 1

/-- Why latencies have no mean. -/
inductive LatencyError where
  /-- Together they are longer than any span of time. -/
  | totalTooLong
  /-- There are so many that their count, a half word, is zero. -/
  | countLost
  deriving DecidableEq, Repr

/-- The last samples, the oldest first. -/
structure LatencyRing where
  samples : List Nat
  /-- Greatest number of samples that are kept. -/
  capacity : Nat
  deriving DecidableEq, Repr, Inhabited

namespace LatencyRing

/-- A ring without samples; there is always room for one. -/
def empty (capacity : Nat) : LatencyRing := ⟨[], max capacity 1⟩

/-- Adds a sample; a full ring drops its oldest one. -/
def record (r : LatencyRing) (sample : Nat) : LatencyRing :=
  let kept := if r.samples.length = r.capacity then r.samples.drop 1 else r.samples
  { r with samples := kept ++ [sample] }

/-- How many samples are kept. -/
def size (r : LatencyRing) : Nat := r.samples.length

/-- All samples together. -/
def total (r : LatencyRing) : Nat := r.samples.foldl (· + ·) 0

/-- Mean of the samples, rounded down: their total, a span of time, by their count, a half word. -/
def average (r : LatencyRing) : Except LatencyError (Option Nat) :=
  let count := r.samples.length.toUInt32.toNat
  if r.samples.isEmpty then .ok none
  else if longestSpan < r.total then .error .totalTooLong
  else if count = 0 then .error .countLost
  else .ok (some (r.total / count))

/-- The mean of the samples, where they have one. -/
def mean? (r : LatencyRing) : Option Nat := r.average.toOption.join

/-- Greatest sample. -/
def greatest (r : LatencyRing) : Option Nat := r.samples.max?

/-- The ring as a JSON value, in nanoseconds. -/
def toJson (r : LatencyRing) : Json.Value :=
  .object
    [("len", .ofNat r.size), ("empty", .bool (r.size = 0)),
      ("avg_ns", .ofOption .ofNat r.mean?), ("max_ns", .ofOption .ofNat r.greatest)]

end LatencyRing

end FlightRelay

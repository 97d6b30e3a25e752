import FlightRelay.Json.Value

/-!
# Outbound traffic

All bytes and frames that were ever sent, and the rate over a window of time that ends now.  Samples
that have left the window are forgotten when the meter is next used.
-/

namespace FlightRelay

/-- A meter; its clock counts nanoseconds. -/
structure BandwidthMeter where
  bytes : UInt64
  frames : UInt64
  /-- Length of the window in nanoseconds. -/
  window : Nat
  /-- When how many bytes were sent, the oldest first. -/
  samples : List (Nat × UInt64)
  deriving DecidableEq, Repr, Inhabited

/-- Outbound traffic as it is reported. -/
structure BandwidthStats where
  bytesOut : UInt64
  framesOut : UInt64
  bytesPerSecond : Float
  deriving Inhabited

/-- The numbers as a JSON value. -/
def BandwidthStats.toJson (s : BandwidthStats) : Json.Value :=
  .object [("bytes_out", .ofWord s.bytesOut), ("frames_out", .ofWord s.framesOut),
    ("bytes_per_sec", .ofFloat s.bytesPerSecond)]

/-- Nanoseconds in seconds: whole seconds plus a fraction. -/
def secondsOfNanos (ns : Nat) : Float :=
  (ns / 1000000000).toUInt64.toFloat + (ns % 1000000000).toUInt64.toFloat / 1000000000.0

namespace BandwidthMeter

/-- The window of the relay's own meter: five seconds. -/
def standardWindow : Nat := 5000000000

/-- No window is shorter than a millisecond. -/
def shortestWindow : Nat := 1000000

/-- Nothing was sent yet. -/
def start (window : Nat) : BandwidthMeter := ⟨0, 0, max window shortestWindow, []⟩

/-- Forgets the samples that have left the window. -/
def evict (m : BandwidthMeter) (now : Nat) : BandwidthMeter :=
  { m with samples := m.samples.dropWhile fun s => m.window < now - s.1 }

/-- Counts a frame of so many bytes. -/
def record (m : BandwidthMeter) (bytes : UInt64) (now : Nat) : BandwidthMeter :=
  { m with
    bytes := m.bytes + bytes
    frames := m.frames + 1
    samples := m.samples ++ [(now, bytes)] }.evict now

/-- Bytes of the samples that are kept. -/
def kept (m : BandwidthMeter) : UInt64 := (m.samples.map Prod.snd).foldl (· + ·) 0

/-- Bytes per second over the window, and the meter without what has left it. -/
def rate (m : BandwidthMeter) (now : Nat) : Float × BandwidthMeter :=
  let m := m.evict now
  (m.kept.toFloat / secondsOfNanos m.window, m)

/-- What there is to report, and the meter without what has left the window. -/
def stats (m : BandwidthMeter) (now : Nat) : BandwidthStats × BandwidthMeter :=
  let (perSecond, m) := m.rate now
  (⟨m.bytes, m.frames, perSecond⟩, m)

end BandwidthMeter

end FlightRelay

import FlightRelay.Pipeline.Intake

/-!
# What a connection yields

The bytes that come from a connection are taken off frame by frame, and each frame is an event.  The end
is reported once, with the reason for it, and nothing follows.
-/

namespace FlightRelay

/-- The reading side of a connection. -/
structure FrameSource where
  connection : ConnectionId
  /-- Greatest length of a body. -/
  maxFrame : Nat
  /-- Bytes that were not read yet. -/
  rest : List UInt8
  /-- The end was reported. -/
  done : Bool

namespace FrameSource

/-- A connection from which nothing was read yet. -/
def start (connection : ConnectionId) (maxFrame : Nat) (wire : List UInt8) : FrameSource :=
  ⟨connection, maxFrame, wire, false⟩

/-- The next event, if the end was not reported yet. -/
def next? (s : FrameSource) : Option (ReadEvent × FrameSource) :=
  if s.done then none
  else
    match Frame.readFrame s.maxFrame s.rest with
    | (.frame body, rest) => some (.frame s.connection ⟨body.toArray⟩, { s with rest })
    | (.ended, rest) => some (.closed s.connection .peerClosed, { s with rest, done := true })
    | (.closed reason, rest) => some (.closed s.connection reason, { s with rest, done := true })

/-- Bytes that are left, and one more while the end was not reported. -/
def size (s : FrameSource) : Nat := if s.done then 0 else s.rest.length + 1

theorem size_lt_of_next? {s t : FrameSource} {e : ReadEvent} (h : s.next? = some (e, t)) :
    t.size < s.size := by
  unfold next? at h
  split at h
  · cases h
  · rename_i hdone
    have hsize : s.size = s.rest.length + 1 := if_neg hdone
    rw [hsize]
    split at h
    · rename_i body rest hread
      obtain ⟨-, rfl⟩ := Prod.mk.inj (Option.some.inj h)
      have hlength := Frame.length_lt_of_frame hread
      simp only [size, hdone]
      simpa using hlength
    · obtain ⟨-, rfl⟩ := Prod.mk.inj (Option.some.inj h)
      simp [size]
    · obtain ⟨-, rfl⟩ := Prod.mk.inj (Option.some.inj h)
      simp [size]

/-- All events, one after the other. -/
def events (s : FrameSource) : List ReadEvent :=
  match _h : s.next? with
  | none => []
  | some (e, t) => e :: t.events
termination_by s.size
decreasing_by exact size_lt_of_next? _h

end FrameSource

end FlightRelay

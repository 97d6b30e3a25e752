/-!
# Watching the backlog

A backlog is reported by episodes.  An episode opens, with one escalation, when more than `size` tasks
wait and the oldest has waited too long; it closes when fewer than `size` wait.  Outside an episode a
backlog is only warned of, and not more often than once in an interval.
-/

namespace FlightRelay.Pool

/-- What to report of an observation. -/
inductive BacklogAlert where
  /-- Nothing waits. -/
  | clear
  | warn
  /-- The first report of an episode. -/
  | escalate
  /-- Something waits, and it was reported already. -/
  | suppressed
  deriving DecidableEq, Repr

/-- Name of what is reported. -/
def BacklogAlert.name : BacklogAlert → String
  | .clear => "Clear"
  | .warn => "Warn"
  | .escalate => "Escalate"
  | .suppressed => "Suppressed"

/-- When a backlog is reported. -/
structure BacklogPolicy where
  /-- An episode opens above this number of tasks and closes below it. -/
  size : Nat
  /-- An episode opens if the oldest task has waited longer than this. -/
  wait : Nat
  /-- Least time between a report and a warning. -/
  interval : Nat
  deriving DecidableEq, Repr

/-- What is remembered of earlier observations. -/
structure BacklogMonitor where
  /-- An episode is open. -/
  escalated : Bool
  /-- Clock reading of the last report. -/
  lastReport : Option Nat
  deriving DecidableEq, Repr, Inhabited

namespace BacklogMonitor

/-- Nothing was observed yet. -/
def start : BacklogMonitor := ⟨false, none⟩

/-- The last report is no longer ago than the interval. -/
def reportedLately (p : BacklogPolicy) (m : BacklogMonitor) (now : Nat) : Bool :=
  m.lastReport.any fun last => now - last < p.interval

/-- One observation: how many tasks wait, how long the oldest has waited, and the clock. -/
def observe (p : BacklogPolicy) (m : BacklogMonitor) (queued oldest now : Nat) :
    BacklogAlert × BacklogMonitor :=
  let m := { m with escalated := m.escalated && p.size ≤ queued }
  if queued = 0 then (.clear, m)
  else if p.size < queued && p.wait < oldest then
    if m.escalated then (.suppressed, m) else (.escalate, ⟨true, some now⟩)
  else if m.escalated || m.reportedLately p now then (.suppressed, m)
  else (.warn, { m with lastReport := some now })

end BacklogMonitor

end FlightRelay.Pool

import FlightRelay.Admission
import FlightRelay.Bandwidth
import FlightRelay.Pipeline.Intake
import FlightRelay.Pool.Stats
import FlightRelay.Registry.Query

/-!
# Health

What a relay reports of itself at one instant, what is to be said about it, and the same numbers as text
for a collector.  A stage that is not at work is down, unless it was shut down in order.
-/

namespace FlightRelay

namespace RoleCounts

/-- Reads the counts. -/
def read? (v : Json.Value) : Option RoleCounts := do
  let f ← v.fields? ["unidentified", "pilots", "dispatchers", "atc", "viewers"]
  let count (place : Nat) (name : String) : Option Nat := f.required place name Json.Value.count?
  return ⟨← count 0 "unidentified", ← count 1 "pilots", ← count 2 "dispatchers", ← count 3 "atc",
    ← count 4 "viewers"⟩

end RoleCounts

namespace RouterStats

/-- Reads the counters. -/
def read? (v : Json.Value) : Option RouterStats := do
  let f ← v.fields? ["handled", "rejected", "stale_senders", "delivered", "routing_misses",
    "dispatch_bindings", "viewer_bindings", "persistence_failures"]
  let count (place : Nat) (name : String) : Option Nat := f.required place name Json.Value.count?
  return ⟨← count 0 "handled", ← count 1 "rejected", ← count 2 "stale_senders",
    ← count 3 "delivered", ← count 4 "routing_misses", ← count 5 "dispatch_bindings",
    ← count 6 "viewer_bindings", ← count 7 "persistence_failures"⟩

end RouterStats

namespace BandwidthStats

/-- Reads the numbers. -/
def read? (v : Json.Value) : Option BandwidthStats := do
  let f ← v.fields? ["bytes_out", "frames_out", "bytes_per_sec"]
  return ⟨← f.required 0 "bytes_out" Json.Value.word?, ← f.required 1 "frames_out" Json.Value.word?,
    ← f.required 2 "bytes_per_sec" Json.Value.float?⟩

end BandwidthStats

namespace IntakeCounters

/-- Reads the counters. -/
def read? (v : Json.Value) : Option IntakeCounters := do
  let f ← v.fields? ["decoded", "malformed", "orphaned"]
  let count (place : Nat) (name : String) : Option Nat := f.required place name Json.Value.count?
  return ⟨← count 0 "decoded", ← count 1 "malformed", ← count 2 "orphaned"⟩

end IntakeCounters

namespace AdmissionStats

/-- Reads the counts. -/
def read? (v : Json.Value) : Option AdmissionStats := do
  let f ← v.fields? ["tracked_ips", "refused_connections", "banned_ips"]
  let count (place : Nat) (name : String) : Option Nat := f.required place name Json.Value.count?
  return ⟨← count 0 "tracked_ips", ← count 1 "refused_connections", ← count 2 "banned_ips"⟩

end AdmissionStats

/-- Everything a relay reports of itself at one instant. -/
structure Metrics where
  uptime : Nat
  maxConnections : Nat
  connections : RoleCounts
  stages : List StageReport
  stageRestarts : Nat
  pool : PoolStats
  router : RouterStats
  bandwidth : BandwidthStats
  intake : IntakeCounters
  admission : AdmissionStats

namespace Metrics

/-- Reads metrics. -/
def read? (v : Json.Value) : Option Metrics := do
  let f ← v.fields? ["uptime_seconds", "max_connections", "connections", "stages",
    "stage_restarts", "pool", "router", "bandwidth", "decode", "security"]
  let uptime ← f.required 0 "uptime_seconds" Json.Value.count?
  let maxConnections ← f.required 1 "max_connections" Json.Value.count?
  let connections ← f.required 2 "connections" RoleCounts.read?
  let stages ← f.required 3 "stages" (Json.Value.list? StageReport.read?)
  let stageRestarts ← f.required 4 "stage_restarts" Json.Value.count?
  let pool ← f.required 5 "pool" PoolStats.read?
  let router ← f.required 6 "router" RouterStats.read?
  let bandwidth ← f.required 7 "bandwidth" BandwidthStats.read?
  let intake ← f.required 8 "decode" IntakeCounters.read?
  let admission ← f.required 9 "security" AdmissionStats.read?
  return ⟨uptime, maxConnections, connections, stages, stageRestarts, pool, router, bandwidth,
    intake, admission⟩

end Metrics

/-- How a relay is. -/
inductive HealthStatus where
  | healthy
  | degraded
  | unhealthy
  deriving DecidableEq, Repr, Inhabited

namespace HealthStatus

/-- Name of a status. -/
def name : HealthStatus → String
  | .healthy => "Healthy"
  | .degraded => "Degraded"
  | .unhealthy => "Unhealthy"

/-- A status as a number from zero to one. -/
def gauge : HealthStatus → Float
  | .healthy => 1.0
  | .degraded => 0.5
  | .unhealthy => 0.0

end HealthStatus

/-- What is to be said about metrics. -/
structure HealthReport where
  status : HealthStatus
  uptime : Nat
  activeConnections : Nat
  stagesAlive : Nat
  stagesTotal : Nat
  errors : List String
  warnings : List String
  deriving DecidableEq, Repr, Inhabited

namespace HealthReport

/-- The report as a JSON value. -/
def toJson (r : HealthReport) : Json.Value :=
  .object
    [("status", .string r.status.name), ("uptime_seconds", .ofNat r.uptime),
      ("active_connections", .ofNat r.activeConnections), ("stages_alive", .ofNat r.stagesAlive),
      ("stages_total", .ofNat r.stagesTotal), ("errors", .array (r.errors.map .string)),
      ("warnings", .array (r.warnings.map .string))]

end HealthReport

namespace Metrics

/-- Share of the greatest number of connections from which on a relay is near it. -/
def connectionShare : Float := 0.9

/-- A stage is down: nothing is at work for it, and it was not shut down. -/
def isDown (s : StageReport) : Bool := !s.alive && s.status.state ≠ .shutdown

/-- The live connections come near the greatest number there may be. -/
def isNearLimit (m : Metrics) : Bool :=
  0 < m.maxConnections &&
    m.maxConnections.toUInt64.toFloat * connectionShare
      ≤ m.connections.total.toUInt64.toFloat

/-- What is wrong. -/
def errors (m : Metrics) : List String :=
  (m.stages.filter isDown).map fun s => s!"Stage '{s.name}' is down"

/-- What may go wrong. -/
def warnings (m : Metrics) : List String :=
  let restarts := m.stageRestarts
  let queued := m.pool.overflowQueued
  let wait := m.pool.oldestOverflowWait
  let active := m.connections.total
  let most := m.maxConnections
  (if 0 < restarts then [s!"{restarts} stage restart(s) since start"] else [])
    ++ (if 0 < queued then [s!"Logic pool backlog: {queued} queued, oldest waiting {wait}ms"] else [])
    ++ (if m.isNearLimit then [s!"Near connection limit: {active}/{most}"] else [])

/-- The status that errors and warnings come to. -/
def statusOf (errors warnings : List String) : HealthStatus :=
  if !errors.isEmpty then .unhealthy else if !warnings.isEmpty then .degraded else .healthy

/-- What is to be said about metrics. -/
def assess (m : Metrics) : HealthReport where
  status := statusOf m.errors m.warnings
  uptime := m.uptime
  activeConnections := m.connections.total
  stagesAlive := m.stages.countP StageReport.alive
  stagesTotal := m.stages.length
  errors := m.errors
  warnings := m.warnings

end Metrics

/-! ## For a collector -/

namespace Exposition

/-- What a number is: its name, what it means, and whether it only grows. -/
structure Family where
  name : String
  help : String
  grows : Bool

/-- The two lines in front of the values of a number. -/
def Family.head (f : Family) : String :=
  let kind := if f.grows then "counter" else "gauge"
  s!"# HELP {f.name} {f.help}\n# TYPE {f.name} {kind}\n"

/-- A number with one value. -/
def single (name help : String) (grows : Bool) (value : String) : String :=
  (Family.mk name help grows).head ++ s!"{name} {value}\n"

/-- A number with a value for each case of a label. -/
def labelled (name help : String) (grows : Bool) (label : String) (values : List (String × String)) :
    String :=
  let row (v : String × String) : String :=
    name ++ "\x7b" ++ label ++ "=\"" ++ v.1 ++ "\"\x7d " ++ v.2 ++ "\n"
  (Family.mk name help grows).head ++ String.join (values.map row)

/-- A double without exponent and without a point that says nothing. -/
def real (x : Float) : String := Decimal.Layout.write .plain x

end Exposition

namespace Metrics

open Exposition

/-- A count of every stage. -/
def perStage (m : Metrics) (name help : String) (grows : Bool) (count : StageReport → Option Nat) :
    String :=
  labelled name help grows "stage"
    (m.stages.filterMap fun s => (count s).map fun n => (s.name, toString n))

/-- The metrics as text for a collector. -/
def exposition (m : Metrics) (report : HealthReport) : String :=
  let c := m.connections
  let counter (name help : String) (n : Nat) : String := single name help true (toString n)
  let gauge (name help : String) (n : Nat) : String := single name help false (toString n)
  String.join
    [single "skyrelay_health" "Overall server health status" false (real report.status.gauge),
      counter "skyrelay_uptime_seconds" "Server uptime in seconds" m.uptime,
      labelled "skyrelay_connections" "Live connections per role" false "role"
        [("unidentified", toString c.unidentified), ("pilot", toString c.pilots),
          ("dispatcher", toString c.dispatchers), ("atc", toString c.atc),
          ("viewer", toString c.viewers)],
      m.perStage "skyrelay_stage_executed_total" "Units of work executed per stage" true
        fun s => some s.status.executed,
      m.perStage "skyrelay_stage_restarts_total" "Restarts per stage" true fun s => some s.restarts,
      m.perStage "skyrelay_stage_latency_avg_us" "Average recent execution latency per stage" false
        fun s => s.status.averageLatency,
      gauge "skyrelay_pool_threads" "Logic pool threads" m.pool.threads,
      gauge "skyrelay_pool_overflow_queued" "Tasks waiting in the overflow queue"
        m.pool.overflowQueued,
      counter "skyrelay_pool_completed_total" "Tasks completed by the logic pool" m.pool.completed,
      counter "skyrelay_pool_panicked_total" "Tasks that panicked on the logic pool"
        m.pool.panicked,
      counter "skyrelay_pool_escalations_total" "Backlog escalations" m.pool.escalations,
      counter "skyrelay_messages_handled_total" "Client messages handled" m.router.handled,
      counter "skyrelay_messages_rejected_total" "Client messages answered with an error"
        m.router.rejected,
      counter "skyrelay_messages_delivered_total" "Messages queued for delivery"
        m.router.delivered,
      counter "skyrelay_routing_misses_total" "Messages addressed to departed connections"
        m.router.routingMisses,
      counter "skyrelay_persistence_failures_total" "Failed store transactions"
        m.router.persistenceFailures,
      counter "skyrelay_frames_malformed_total" "Inbound frames that failed to decode"
        m.intake.malformed,
      counter "skyrelay_bytes_out_total" "Bytes written to clients" m.bandwidth.bytesOut.toNat,
      single "skyrelay_bytes_out_per_second" "Outbound byte rate" false
        (real m.bandwidth.bytesPerSecond),
      counter "skyrelay_refused_connections_total" "Connections refused at accept"
        m.admission.refused,
      gauge "skyrelay_banned_ips" "Banned IP addresses" m.admission.bannedAddresses]

end Metrics

end FlightRelay

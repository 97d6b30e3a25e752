import FlightRelay.Json.Fields
import FlightRelay.Net.Address
import FlightRelay.Session

/-!
# Settings of the relay

What a relay can be told before it starts, with the values that hold when it is not told.  Times are
whole milliseconds, but for the idle timeout, which is whole seconds.  How many threads the pool has is
left to the number of processors where it is not set.
-/

namespace FlightRelay

/-- Reads whole numbers of 64 bits. -/
def Json.Value.count? (v : Json.Value) : Option Nat := v.below? (Nat.pow 2 64)

/-- Queues and frames. -/
structure PipelineSettings where
  /-- Room in each queue between two stages. -/
  queueDepth : Nat
  /-- Greatest length of a frame in bytes. -/
  maxFrameSize : Nat
  batchInterval : Nat
  idleSweepInterval : Nat
  writeTimeout : Nat
  deriving DecidableEq, Repr, Inhabited

namespace PipelineSettings

/-- The values that hold unless others are set. -/
def standard : PipelineSettings := ⟨512, 65536, 50, 5000, 5000⟩

/-- Reads the settings. -/
def read? (surplus : Bool) (v : Json.Value) : Option PipelineSettings := do
  let f ← v.fieldsOf? surplus ["queue_depth", "max_frame_size", "batch_interval_ms",
    "idle_sweep_interval_ms", "write_timeout_ms"]
  let d := standard
  let queueDepth ← f.withDefault 0 "queue_depth" Json.Value.count? d.queueDepth
  let maxFrameSize ← f.withDefault 1 "max_frame_size" Json.Value.count? d.maxFrameSize
  let batchInterval ← f.withDefault 2 "batch_interval_ms" Json.Value.count? d.batchInterval
  let idleSweepInterval ←
    f.withDefault 3 "idle_sweep_interval_ms" Json.Value.count? d.idleSweepInterval
  let writeTimeout ← f.withDefault 4 "write_timeout_ms" Json.Value.count? d.writeTimeout
  return ⟨queueDepth, maxFrameSize, batchInterval, idleSweepInterval, writeTimeout⟩

/-- The settings as members of an object. -/
def members (s : PipelineSettings) : List (String × Json.Value) :=
  [("queue_depth", .ofNat s.queueDepth), ("max_frame_size", .ofNat s.maxFrameSize),
    ("batch_interval_ms", .ofNat s.batchInterval),
    ("idle_sweep_interval_ms", .ofNat s.idleSweepInterval),
    ("write_timeout_ms", .ofNat s.writeTimeout)]

end PipelineSettings

/-- Threads and queues of the pool. -/
structure PoolSettings where
  /-- Starts the names of the threads. -/
  name : String
  /-- Threads that stay when they are idle; by default one for each processor. -/
  coreThreads : Option Nat
  /-- Greatest number of threads; by default two for each processor. -/
  maxThreads : Option Nat
  /-- Room in the primary queue. -/
  primaryCapacity : Nat
  keepAlive : Nat
  backlogSize : Nat
  backlogWait : Nat
  backlogInterval : Nat
  shutdownTimeout : Nat
  deriving DecidableEq, Repr, Inhabited

namespace PoolSettings

/-- The values that hold unless others are set. -/
def standard : PoolSettings := ⟨"logic", none, none, 4, 30000, 40, 1500, 2500, 1500⟩

/-- Threads that stay, on a machine with so many processors. -/
def core (s : PoolSettings) (processors : Nat) : Nat := s.coreThreads.getD processors

/-- Greatest number of threads, on a machine with so many processors. -/
def most (s : PoolSettings) (processors : Nat) : Nat := s.maxThreads.getD (2 * processors)

/-- Reads the settings. -/
def read? (surplus : Bool) (v : Json.Value) : Option PoolSettings := do
  let f ← v.fieldsOf? surplus ["name", "core_threads", "max_threads", "primary_capacity",
    "keep_alive_ms", "backlog_escalate_size", "backlog_escalate_wait_ms",
    "backlog_warn_interval_ms", "shutdown_timeout_ms"]
  let d := standard
  let threads (v : Json.Value) : Option (Option Nat) := v.count?.map some
  let name ← f.withDefault 0 "name" Json.Value.string? d.name
  let coreThreads ← f.withDefault 1 "core_threads" threads d.coreThreads
  let maxThreads ← f.withDefault 2 "max_threads" threads d.maxThreads
  let primaryCapacity ← f.withDefault 3 "primary_capacity" Json.Value.count? d.primaryCapacity
  let keepAlive ← f.withDefault 4 "keep_alive_ms" Json.Value.count? d.keepAlive
  let backlogSize ← f.withDefault 5 "backlog_escalate_size" Json.Value.count? d.backlogSize
  let backlogWait ← f.withDefault 6 "backlog_escalate_wait_ms" Json.Value.count? d.backlogWait
  let backlogInterval ←
    f.withDefault 7 "backlog_warn_interval_ms" Json.Value.count? d.backlogInterval
  let shutdownTimeout ← f.withDefault 8 "shutdown_timeout_ms" Json.Value.count? d.shutdownTimeout
  return ⟨name, coreThreads, maxThreads, primaryCapacity, keepAlive, backlogSize, backlogWait,
    backlogInterval, shutdownTimeout⟩

/-- The settings as members of an object; numbers that are left to the machine are null. -/
def members (s : PoolSettings) : List (String × Json.Value) :=
  [("name", .string s.name), ("core_threads", .ofOption .ofNat s.coreThreads),
    ("max_threads", .ofOption .ofNat s.maxThreads),
    ("primary_capacity", .ofNat s.primaryCapacity), ("keep_alive_ms", .ofNat s.keepAlive),
    ("backlog_escalate_size", .ofNat s.backlogSize),
    ("backlog_escalate_wait_ms", .ofNat s.backlogWait),
    ("backlog_warn_interval_ms", .ofNat s.backlogInterval),
    ("shutdown_timeout_ms", .ofNat s.shutdownTimeout)]

end PoolSettings

/-- Times of the supervisor. -/
structure SupervisorSettings where
  sweepInterval : Nat
  /-- A stage that runs one unit for longer hangs. -/
  hangThreshold : Nat
  joinTimeout : Nat
  deriving DecidableEq, Repr, Inhabited

namespace SupervisorSettings

/-- The values that hold unless others are set. -/
def standard : SupervisorSettings := ⟨10000, 60000, 1500⟩

/-- Reads the settings. -/
def read? (surplus : Bool) (v : Json.Value) : Option SupervisorSettings := do
  let f ← v.fieldsOf? surplus ["sweep_interval_ms", "hang_threshold_ms", "join_timeout_ms"]
  let d := standard
  let sweepInterval ← f.withDefault 0 "sweep_interval_ms" Json.Value.count? d.sweepInterval
  let hangThreshold ← f.withDefault 1 "hang_threshold_ms" Json.Value.count? d.hangThreshold
  let joinTimeout ← f.withDefault 2 "join_timeout_ms" Json.Value.count? d.joinTimeout
  return ⟨sweepInterval, hangThreshold, joinTimeout⟩

/-- The settings as members of an object. -/
def members (s : SupervisorSettings) : List (String × Json.Value) :=
  [("sweep_interval_ms", .ofNat s.sweepInterval), ("hang_threshold_ms", .ofNat s.hangThreshold),
    ("join_timeout_ms", .ofNat s.joinTimeout)]

end SupervisorSettings

namespace SessionDefaults

/-- Reads the settings. -/
def read? (surplus : Bool) (v : Json.Value) : Option SessionDefaults := do
  let f ← v.fieldsOf? surplus ["default_range_nm", "default_max_aircraft",
    "default_dispatch_range_nm"]
  let d := standard
  let range ← f.withDefault 0 "default_range_nm" Json.Value.float? d.range
  let maxAircraft ← f.withDefault 1 "default_max_aircraft" Json.Value.word? d.maxAircraft
  let dispatchRange ← f.withDefault 2 "default_dispatch_range_nm" Json.Value.float? d.dispatchRange
  return ⟨range, maxAircraft, dispatchRange⟩

/-- The settings as members of an object. -/
def members (s : SessionDefaults) : List (String × Json.Value) :=
  [("default_range_nm", .ofFloat s.range), ("default_max_aircraft", .ofWord s.maxAircraft),
    ("default_dispatch_range_nm", .ofFloat s.dispatchRange)]

end SessionDefaults

/-- Whom the relay admits. -/
structure AdmissionSettings where
  banned : List Net.Address
  /-- Greatest number of connections from one address; zero sets no limit. -/
  perAddress : Nat
  deriving DecidableEq, Repr, Inhabited

namespace AdmissionSettings

/-- The values that hold unless others are set. -/
def standard : AdmissionSettings := ⟨[], 10⟩

/-- Reads an address. -/
def address? (v : Json.Value) : Option Net.Address := v.string?.bind Net.Address.ofText?

/-- Reads the settings. -/
def read? (surplus : Bool) (v : Json.Value) : Option AdmissionSettings := do
  let f ← v.fieldsOf? surplus ["banned_ips", "max_connections_per_ip"]
  let d := standard
  let banned ← f.withDefault 0 "banned_ips" (Json.Value.list? address?) d.banned
  let perAddress ←
    f.withDefault 1 "max_connections_per_ip" (Json.Value.below? (Nat.pow 2 32)) d.perAddress
  return ⟨banned, perAddress⟩

/-- The settings as members of an object. -/
def members (s : AdmissionSettings) : List (String × Json.Value) :=
  [("banned_ips", .array (s.banned.map fun a => .string a.text)),
    ("max_connections_per_ip", .ofNat s.perAddress)]

end AdmissionSettings

/-- Everything a relay can be told. -/
structure RelaySettings where
  bindAddress : Net.Socket
  /-- Greatest number of connections; zero sets no limit. -/
  maxConnections : Nat
  /-- Seconds after which a silent connection is closed; zero never closes one. -/
  idleTimeout : Nat
  pipeline : PipelineSettings
  pool : PoolSettings
  supervisor : SupervisorSettings
  sessions : SessionDefaults
  admission : AdmissionSettings

namespace RelaySettings

/-- The values that hold unless others are set. -/
def standard : RelaySettings where
  bindAddress := ⟨.v4 0x7F000001, 14000, 0⟩
  maxConnections := 2000
  idleTimeout := 180
  pipeline := .standard
  pool := .standard
  supervisor := .standard
  sessions := .standard
  admission := .standard

/-- Reads an address with a port. -/
def socket? (v : Json.Value) : Option Net.Socket := v.string?.bind Net.Socket.ofText?

/-- Reads the settings. -/
def read? (v : Json.Value) : Option RelaySettings := do
  let f ← v.fields? ["bind_address", "max_connections", "connection_timeout", "pipeline", "pool",
    "supervisor", "router", "security"]
  let d := standard
  let bindAddress ← f.withDefault 0 "bind_address" socket? d.bindAddress
  let maxConnections ← f.withDefault 1 "max_connections" Json.Value.count? d.maxConnections
  let idleTimeout ← f.withDefault 2 "connection_timeout" Json.Value.count? d.idleTimeout
  let pipeline ← f.withDefault 3 "pipeline" (PipelineSettings.read? false) d.pipeline
  let pool ← f.withDefault 4 "pool" (PoolSettings.read? false) d.pool
  let supervisor ← f.withDefault 5 "supervisor" (SupervisorSettings.read? false) d.supervisor
  let sessions ← f.withDefault 6 "router" (SessionDefaults.read? false) d.sessions
  let admission ← f.withDefault 7 "security" (AdmissionSettings.read? false) d.admission
  return ⟨bindAddress, maxConnections, idleTimeout, pipeline, pool, supervisor, sessions, admission⟩

/-- The settings as a JSON value. -/
def toJson (s : RelaySettings) : Json.Value :=
  .object
    [("bind_address", .string s.bindAddress.text), ("max_connections", .ofNat s.maxConnections),
      ("connection_timeout", .ofNat s.idleTimeout), ("pipeline", .object s.pipeline.members),
      ("pool", .object s.pool.members), ("supervisor", .object s.supervisor.members),
      ("router", .object s.sessions.members), ("security", .object s.admission.members)]

/-- The idle timeout in milliseconds, as a word of 64 bits. -/
def idleTimeoutMillis (s : RelaySettings) : Nat := s.idleTimeout * 1000 % Nat.pow 2 64

/-- All times in milliseconds: of connections, of the stages, of the pool and of the supervisor. -/
def times (s : RelaySettings) : List Nat :=
  [s.idleTimeoutMillis, s.pipeline.batchInterval, s.pipeline.idleSweepInterval,
    s.pipeline.writeTimeout, s.pool.keepAlive, s.pool.backlogWait, s.pool.backlogInterval,
    s.pool.shutdownTimeout, s.supervisor.sweepInterval, s.supervisor.hangThreshold,
    s.supervisor.joinTimeout]

end RelaySettings

end FlightRelay

import FlightRelay.Settings.Relay

/-!
# Settings of the application

What the settings file holds: where to listen, how to log and report, and the settings of the relay.
`AppSettings.validate` names the first thing that is wrong with them; settings that pass give settings
for a relay.
-/

namespace FlightRelay

/-- Where to listen, and to how many. -/
structure ListenSettings where
  /-- Address and port, as text. -/
  bindAddress : String
  maxConnections : Nat
  /-- Seconds after which a silent connection is closed; zero never closes one. -/
  idleTimeout : Nat
  deriving DecidableEq, Repr, Inhabited

namespace ListenSettings

/-- The values that hold unless others are set. -/
def standard : ListenSettings := ⟨"127.0.0.1:14000", 2000, 180⟩

/-- Reads the settings; the address must be set. -/
def read? (surplus : Bool) (v : Json.Value) : Option ListenSettings := do
  let f ← v.fieldsOf? surplus ["bind_address", "max_connections", "connection_timeout"]
  let d := standard
  let bindAddress ← f.required 0 "bind_address" Json.Value.string?
  let maxConnections ← f.withDefault 1 "max_connections" Json.Value.count? d.maxConnections
  let idleTimeout ← f.withDefault 2 "connection_timeout" Json.Value.count? d.idleTimeout
  return ⟨bindAddress, maxConnections, idleTimeout⟩

/-- The settings as members of an object. -/
def members (s : ListenSettings) : List (String × Json.Value) :=
  [("bind_address", .string s.bindAddress), ("max_connections", .ofNat s.maxConnections),
    ("connection_timeout", .ofNat s.idleTimeout)]

end ListenSettings

/-- What is logged, and how. -/
structure LogSettings where
  level : String
  /-- Logs are lines of JSON. -/
  json : Bool
  deriving DecidableEq, Repr, Inhabited

namespace LogSettings

/-- The values that hold unless others are set. -/
def standard : LogSettings := ⟨"info", false⟩

/-- The levels there are. -/
def levels : List String := ["trace", "debug", "info", "warn", "error"]

/-- Reads the settings; the level must be set. -/
def read? (surplus : Bool) (v : Json.Value) : Option LogSettings := do
  let f ← v.fieldsOf? surplus ["level", "json_format"]
  let level ← f.required 0 "level" Json.Value.string?
  let json ← f.withDefault 1 "json_format" Json.Value.bool? standard.json
  return ⟨level, json⟩

/-- The settings as members of an object. -/
def members (s : LogSettings) : List (String × Json.Value) :=
  [("level", .string s.level), ("json_format", .bool s.json)]

end LogSettings

/-- Reports and shutdown; times are whole seconds. -/
structure MonitorSettings where
  /-- Time between two reports; zero reports nothing. -/
  statsInterval : Nat
  shutdownTimeout : Nat
  deriving DecidableEq, Repr, Inhabited

namespace MonitorSettings

/-- The values that hold unless others are set. -/
def standard : MonitorSettings := ⟨60, 10⟩

/-- Reads the settings. -/
def read? (surplus : Bool) (v : Json.Value) : Option MonitorSettings := do
  let f ← v.fieldsOf? surplus ["stats_interval_secs", "shutdown_timeout_secs"]
  let d := standard
  let statsInterval ← f.withDefault 0 "stats_interval_secs" Json.Value.count? d.statsInterval
  let shutdownTimeout ← f.withDefault 1 "shutdown_timeout_secs" Json.Value.count? d.shutdownTimeout
  return ⟨statsInterval, shutdownTimeout⟩

/-- The settings as members of an object. -/
def members (s : MonitorSettings) : List (String × Json.Value) :=
  [("stats_interval_secs", .ofNat s.statsInterval),
    ("shutdown_timeout_secs", .ofNat s.shutdownTimeout)]

end MonitorSettings

/-- Everything the settings file holds. -/
structure AppSettings where
  listen : ListenSettings
  pipeline : PipelineSettings
  pool : PoolSettings
  supervisor : SupervisorSettings
  sessions : SessionDefaults
  admission : AdmissionSettings
  log : LogSettings
  monitor : MonitorSettings

/-- What is wrong with settings. -/
inductive SettingsError where
  | bindAddress (text : String)
  | noConnections
  | noQueue
  | frameSize
  | noThreads
  | fewerThreadsThanCore
  | ranges
  | logLevel (text : String)
  deriving DecidableEq, Repr

namespace SettingsError

/-- What is wrong, in words. -/
def detail : SettingsError → String
  | .bindAddress text => s!"Invalid bind address: {text}"
  | .noConnections => "server.max_connections must be greater than 0"
  | .noQueue => "pipeline.queue_depth must be greater than 0"
  | .frameSize => "pipeline.max_frame_size must fit a 32-bit length prefix"
  | .noThreads => "pool.core_threads must be greater than 0"
  | .fewerThreadsThanCore => "pool.max_threads must not be below pool.core_threads"
  | .ranges => "routing ranges must be positive"
  | .logLevel text =>
    let levels := ", ".intercalate (LogSettings.levels.map fun l => "\"" ++ l ++ "\"")
    s!"Invalid log level: {text}. Must be one of: [{levels}]"

/-- Wording of a settings error. -/
def message (e : SettingsError) : String := "Invalid configuration: " ++ e.detail

/-- Kind of a settings error, for programs. -/
def kind (_ : SettingsError) : String := "Invalid"

/-- The error as a JSON value. -/
def toJson (e : SettingsError) : Json.Value := .failure e.kind e.message

/-- Wording of a start that the settings forbid. -/
def startMessage (e : SettingsError) : String :=
  "Configuration validation failed: " ++ e.message

end SettingsError

namespace AppSettings

/-- The values that hold when there is no settings file. -/
def standard : AppSettings where
  listen := .standard
  pipeline := .standard
  pool := .standard
  supervisor := .standard
  sessions := .standard
  admission := .standard
  log := .standard
  monitor := .standard

/-- Reads the settings; where to listen and how to log must be set. -/
def read? (surplus : Bool) (v : Json.Value) : Option AppSettings := do
  let f ← v.fieldsOf? surplus ["server", "pipeline", "pool", "supervisor", "routing", "security",
    "logging", "monitoring"]
  let d := standard
  let listen ← f.required 0 "server" (ListenSettings.read? surplus)
  let pipeline ← f.withDefault 1 "pipeline" (PipelineSettings.read? surplus) d.pipeline
  let pool ← f.withDefault 2 "pool" (PoolSettings.read? surplus) d.pool
  let supervisor ← f.withDefault 3 "supervisor" (SupervisorSettings.read? surplus) d.supervisor
  let sessions ← f.withDefault 4 "routing" (SessionDefaults.read? surplus) d.sessions
  let admission ← f.withDefault 5 "security" (AdmissionSettings.read? surplus) d.admission
  let log ← f.required 6 "logging" (LogSettings.read? surplus)
  let monitor ← f.withDefault 7 "monitoring" (MonitorSettings.read? surplus) d.monitor
  return ⟨listen, pipeline, pool, supervisor, sessions, admission, log, monitor⟩

/-- The tables of the settings file, in the order they are written. -/
def tables (s : AppSettings) : List (String × List (String × Json.Value)) :=
  [("server", s.listen.members), ("pipeline", s.pipeline.members), ("pool", s.pool.members),
    ("supervisor", s.supervisor.members), ("routing", s.sessions.members),
    ("security", s.admission.members), ("logging", s.log.members),
    ("monitoring", s.monitor.members)]

/-- The settings as a JSON value. -/
def toJson (s : AppSettings) : Json.Value :=
  .object (s.tables.map fun t => (t.1, .object t.2))

/-- The address to listen on. -/
def socket (s : AppSettings) : Except SettingsError Net.Socket :=
  match Net.Socket.ofText? s.listen.bindAddress with
  | some socket => .ok socket
  | none => .error (.bindAddress s.listen.bindAddress)

/-- Settings for a relay. -/
def relay (s : AppSettings) : Except SettingsError RelaySettings := do
  let bindAddress ← s.socket
  return {
    bindAddress
    maxConnections := s.listen.maxConnections
    idleTimeout := s.listen.idleTimeout
    pipeline := s.pipeline
    pool := s.pool
    supervisor := s.supervisor
    sessions := s.sessions
    admission := s.admission }

/-- Fails with `e` if something is wrong. -/
def refuseIf (wrong : Bool) (e : SettingsError) : Except SettingsError Unit :=
  if wrong then .error e else .ok ()

/-- Names the first thing that is wrong, on a machine with so many processors. -/
def validate (s : AppSettings) (processors : Nat) : Except SettingsError Unit := do
  let _ ← s.socket
  refuseIf (s.listen.maxConnections = 0) .noConnections
  refuseIf (s.pipeline.queueDepth = 0) .noQueue
  refuseIf (s.pipeline.maxFrameSize = 0 || Nat.pow 2 32 - 1 < s.pipeline.maxFrameSize) .frameSize
  refuseIf (s.pool.core processors = 0) .noThreads
  refuseIf (s.pool.most processors < s.pool.core processors) .fewerThreadsThanCore
  refuseIf (s.sessions.range ≤ 0.0 || s.sessions.dispatchRange ≤ 0.0) .ranges
  refuseIf (!LogSettings.levels.contains s.log.level) (.logLevel s.log.level)

/-- Settings for a relay, if nothing is wrong. -/
def checked (s : AppSettings) (processors : Nat) : Except SettingsError RelaySettings := do
  s.validate processors
  s.relay

end AppSettings

end FlightRelay

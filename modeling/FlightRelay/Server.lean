import FlightRelay.Health
import FlightRelay.Pipeline.Chain
import FlightRelay.Pipeline.FrameSource
import FlightRelay.Pipeline.Idle
import FlightRelay.Pipeline.WriteBuffers
import FlightRelay.Supervisor.Basic

/-!
# The server

The stages, the tasks that run them, and the writers of the connections.  Whatever is read from a
connection passes all stages before the next thing is read.  A server that was stopped does not serve
again, though it may be started again: its supervisor tells every task to end.
-/

namespace FlightRelay

/-- A server and its connections; clocks count milliseconds. -/
structure Server where
  settings : RelaySettings
  authenticate : Authenticator
  deflater : Deflater
  chain : Chain
  table : SlotTable
  writers : WriteBuffers
  sweep : IdleSweep
  running : Bool
  /-- Clock reading when the server was made. -/
  created : Nat

namespace Server

/-- A server that was not started yet, on a machine with so many processors. -/
def create (settings : RelaySettings) (authenticate : Authenticator) (deflater : Deflater)
    (processors now : Nat) : Server where
  settings
  authenticate
  deflater
  chain := .start settings processors .empty
  table := .empty
  writers := .empty
  sweep := .start settings.idleTimeoutMillis
  running := false
  created := now

/-- What the stages may consult. -/
def context (s : Server) (now : Nat) : ChainContext where
  relay := ⟨s.authenticate, s.settings.sessions, now.toUInt64⟩
  deflater := s.deflater
  maxFrame := s.settings.pipeline.maxFrameSize.toUInt64
  now

/-- The registry. -/
def registry (s : Server) : Registry := s.chain.registry

/-- The workers and the tasks that run them. -/
def supervisor (s : Server) : Supervisor := ⟨s.chain.crew, s.table⟩

/-- Replaces the workers and the tasks that run them. -/
def withSupervisor (s : Server) (v : Supervisor) : Server :=
  { s with chain := { s.chain with crew := v.crew }, table := v.table }

/-- There are tasks that take what comes in. -/
def serves (s : Server) : Bool := s.running && !s.table.shuttingDown

/-- The worker of a stage runs one unit of work. -/
def unit (s : Server) (now : Nat) (stage : Stage) (activity : String) : Server :=
  { s with chain := s.chain.unit (s.context now) stage activity }

/-! ## Start and stop -/

/-- Opens the stages and starts their tasks. -/
def start (s : Server) : Except StartError Unit × Server :=
  if s.running then (.error .alreadyStarted, s)
  else
    let (answer, v) := s.supervisor.start
    (answer, { s.withSupervisor v with running := answer.toOption.isSome })

/-- Closes what lies between the stages: work at hand is finished, and nothing is handed on. -/
def closeQueues (s : Server) (now : Nat) : Server :=
  let chain := s.chain.drainLogic (s.context now)
  let relay := chain.hub.relay
  let relay := { relay with outbox := { relay.outbox with isOpen := false } }
  { s with
    chain := { chain with hub := { chain.hub with relay } }
    writers := s.writers.closeAll }

/-- Stops the stages in order and drops all connections, if the server runs. -/
def stop (s : Server) (now : Nat) : Server :=
  if !s.running then s
  else
    let s := { s with running := false }
    if s.table.shuttingDown then s
    else
      let s := s.closeQueues now
      let (v, r) := s.supervisor.stop s.registry (s.context now).nanos
      let s := s.withSupervisor v
      { s with chain := s.chain.withRegistry r }

/-- An operator ends the task of a stage; tells whether the stage is known. -/
def abortStage (s : Server) (stage : String) (now : Nat) : Bool × Server :=
  let (known, v) := s.supervisor.abort stage (s.context now).nanos
  (known, s.withSupervisor v)

/-! ## Connections -/

/-- What became of an outgoing message reaches its writer. -/
def write (now : Nat) (s : Server) : Sending → Server
  | .sent frame _ =>
    let body := frame.body.toList
    let s := { s with writers := s.writers.step (.frame frame.target body frame.immediate) }
    if frame.immediate then s.unit now .write s!"flushing {frame.target}" else s
  | .lostBeforeEnriching _ => s
  | .lostBeforeSerializing _ => s

/-- The socket of a connection is dropped once its buffer is written out. -/
def drop (now : Nat) (s : Server) (id : ConnectionId) : Server :=
  if (s.writers.find? id).isSome then
    { s with writers := s.writers.step (.close id) }.unit now .write s!"closing {id}"
  else s

/-- Lets the pool work, and hands on what it has to say. -/
def settle (s : Server) (now : Nat) : Server :=
  let ctx := s.context now
  let (sendings, dropped, chain) := (s.chain.work ctx).flush ctx none
  let s := sendings.foldl (write now) { s with chain }
  dropped.foldl (drop now) s

/-- Gives the logic stage something to work on. -/
def route (s : Server) (item : Inbound) (now : Nat) : Server :=
  { s with chain := (s.chain.route (s.context now) item).2 }.settle now

/-- One attempt to connect. -/
def accept (s : Server) (remote : Net.Socket) (now : Nat) :
    Except AcceptError ConnectionId × Server :=
  if !s.serves then (.error .notHandedOn, s)
  else
    let s := s.unit now .accept s!"accepting {remote.text}"
    let session := Session.fresh s.settings.sessions now
    let (answer, hub) := s.chain.hub.accept s.settings.maxConnections remote session true
    let s := { s with chain := { s.chain with hub } }
    match answer with
    | .error e => (.error e, s)
    | .ok id =>
      let s := s.unit now .read s!"attaching {id}"
      (.ok id, { s with writers := s.writers.step (.attach id true) })

/-- Something is read from a connection. -/
def receive (s : Server) (event : ReadEvent) (now : Nat) : Server :=
  if !s.serves then s
  else
    let s := s.unit now .read "forwarding frame"
    let (item, chain) := s.chain.decode (s.context now) event
    let s := { s with chain }
    match item with
    | none => s
    | some item => s.route item now

/-- All bytes that are read from a connection until it ends. -/
def receiveAll (s : Server) (id : ConnectionId) (wire : List UInt8) (now : Nat) : Server :=
  let source := FrameSource.start id s.settings.pipeline.maxFrameSize wire
  source.events.foldl (fun s event => s.receive event now) s

/-- An operator closes a connection; tells whether it is known and can be closed. -/
def kick (s : Server) (id : ConnectionId) (now : Nat) : Bool × Server :=
  if s.registry.contains id && s.chain.takesWork then (true, s.route (.closed id .kicked) now)
  else (false, s)

/-- Closes the connections that have been silent for too long. -/
def sweepIdle (s : Server) (now : Nat) : Server :=
  if s.sweep.timeout = 0 then s
  else
    let s := s.unit now .idleSweep "sweeping idle connections"
    let (answer, sweep) := s.sweep.sweep s.registry now s.chain.takesWork
    let s := { s with sweep }
    (answer.toOption.getD []).foldl (fun s item => s.route item now) s

/-- Writes all buffers out. -/
def tick (s : Server) (now : Nat) : Server :=
  if s.writers.writers.all fun w => w.buffer.isEmpty then s
  else { s with writers := s.writers.step .tick }.unit now .write "flushing batch"

/-! ## Admission -/

/-- Replaces the admission. -/
def withAdmission (s : Server) (admission : Admission) : Server :=
  { s with chain := { s.chain with hub := { s.chain.hub with admission } } }

/-- Bans an address; tells whether it was not banned before. -/
def ban (s : Server) (address : Net.Address) : Bool × Server :=
  let (fresh, admission) := s.chain.hub.admission.ban address
  (fresh, s.withAdmission admission)

/-- Lifts a ban; tells whether there was one. -/
def unban (s : Server) (address : Net.Address) : Bool × Server :=
  let (banned, admission) := s.chain.hub.admission.unban address
  (banned, s.withAdmission admission)

/-! ## Reports -/

/-- Everything there is to report. -/
def metrics (s : Server) (now : Nat) : Metrics where
  uptime := (now - s.created) / 1000
  maxConnections := s.settings.maxConnections
  connections := s.registry.roleCounts
  stages := s.supervisor.reports (s.context now).nanos
  stageRestarts := s.table.restarts
  pool := s.chain.pool.stats (s.context now).nanos
  router := s.chain.hub.relay.stats
  bandwidth := (s.chain.meter.stats (s.context now).nanos).1
  intake := s.chain.intake
  admission := s.chain.hub.admission.stats

/-- How the server is. -/
def health (s : Server) (now : Nat) : HealthReport := (s.metrics now).assess

/-- There is an address that the server was bound to.  It stays known when the server no longer listens. -/
def isBound (s : Server) : Bool := 0 < s.chain.crew.timesAsked (.opened Stage.accept.place)

/-- Connections can be served: an address is bound, and every stage is alive. -/
def isReady (s : Server) (now : Nat) : Bool :=
  s.isBound && (s.metrics now).stages.all StageReport.alive

end Server

/-- Whoever watches a server remembers the last report. -/
structure HealthWatch where
  last : Option HealthReport
  deriving DecidableEq, Repr, Inhabited

namespace HealthWatch

/-- Nothing was looked at yet. -/
def start : HealthWatch := ⟨none⟩

/-- Looks at a server. -/
def check (_ : HealthWatch) (s : Server) (now : Nat) : HealthReport × HealthWatch :=
  (s.health now, ⟨some (s.health now)⟩)

end HealthWatch

end FlightRelay

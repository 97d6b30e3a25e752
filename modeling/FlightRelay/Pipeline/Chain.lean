import FlightRelay.Pipeline.Hub
import FlightRelay.Pipeline.Lanes
import FlightRelay.Pipeline.Outgoing
import FlightRelay.Pool.Basic
import FlightRelay.Supervisor.Crew

/-!
# The stages as one chain

From a frame that was read to the frames that are to be written: decoding, the lanes on the pool, and
the three stages of outgoing messages.  Each function here is one stage at work, with the record that it
keeps of itself.
-/

namespace FlightRelay

/-- The stages between reading and writing. -/
structure Chain where
  hub : Hub
  lanes : Lanes
  /-- The tasks of the pool are lanes. -/
  pool : Pool ConnectionId
  intake : IntakeCounters
  meter : BandwidthMeter
  crew : Crew
  /-- The logic stage takes work. -/
  takesWork : Bool
  /-- Connections whose sockets are to be dropped, in order. -/
  dropping : List ConnectionId

/-- What became of an outgoing message. -/
inductive Sending where
  | sent (frame : EncodedFrame) (compression : Compression)
  /-- The recipient was gone before the message was fitted to it. -/
  | lostBeforeEnriching (target : ConnectionId)
  /-- The recipient was gone, or does not understand the message, when it was to be written. -/
  | lostBeforeSerializing (target : ConnectionId)

/-- What the stages may consult and not change. -/
structure ChainContext where
  relay : RelayContext
  deflater : Deflater
  /-- Greatest length of a frame in bytes. -/
  maxFrame : UInt64
  /-- Clock reading in milliseconds. -/
  now : Nat

namespace ChainContext

/-- The same clock reading in nanoseconds, for the pool, the meter and records of workers. -/
def nanos (ctx : ChainContext) : Nat := ctx.now * Pool.nanosPerMilli

end ChainContext

namespace Chain

/-- The stages before anything happened. -/
def start (settings : RelaySettings) (processors : Nat) (store : Store) : Chain where
  hub := ⟨.empty store, .start settings.admission.banned settings.admission.perAddress⟩
  lanes := .empty
  pool := .start (.ofSettings settings.pool processors)
  intake := .zero
  meter := .start BandwidthMeter.standardWindow
  crew := .relay
  takesWork := true
  dropping := []

/-- The registry. -/
def registry (c : Chain) : Registry := c.hub.relay.registry

/-- Replaces the registry. -/
def withRegistry (c : Chain) (registry : Registry) : Chain :=
  { c with hub := { c.hub with relay := { c.hub.relay with registry } } }

/-- The worker of a stage runs one unit of work. -/
def unit (ctx : ChainContext) (c : Chain) (s : Stage) (activity : String) : Chain :=
  { c with crew := c.crew.unit s activity ctx.nanos }

/-! ## Stages -/

/-- The decoding stage takes one thing that was read. -/
def decode (ctx : ChainContext) (c : Chain) (event : ReadEvent) : Option Inbound × Chain :=
  let (inbound, intake) := Intake.decode ctx.deflater ctx.maxFrame ctx.now ⟨c.registry, c.intake⟩ event
  let c := c.withRegistry intake.registry
  (inbound, { c with intake := intake.counters }.unit ctx .decode "decoding frame")

/-- Submits the task of a lane; without a pool to run it the lane is dropped. -/
def schedule (now : Nat) (c : Chain) (id : ConnectionId) : Except StageError Unit × Chain :=
  match c.pool.submit s!"lane {id}" id now with
  | .ok pool => (.ok (), { c with pool })
  | .error e => (.error (.other e.message), { c with lanes := c.lanes.drop id })

/-- The logic stage takes one item. -/
def route (ctx : ChainContext) (c : Chain) (item : Inbound) : Except StageError Unit × Chain :=
  if !c.takesWork then (.error (.queueClosed "logic"), c)
  else
    let id := item.connection
    let c := c.unit ctx .logic s!"submitting work for {id}"
    let (start, lanes) := c.lanes.enqueue item
    let c := { c with lanes }
    if start then c.schedule ctx.nanos id else (.ok (), c)

/-- What the task of a lane does: it handles one item, and goes on if there is more. -/
def runLane (ctx : ChainContext) (c : Chain) (id : ConnectionId) : Chain :=
  let (item, lanes) := c.lanes.take id
  let c := { c with lanes }
  let c :=
    match item with
    | none => c
    | some item =>
      let (dropped, hub) := c.hub.process ctx.relay item
      { c with hub, dropping := c.dropping ++ dropped.toList }
  let (more, lanes) := c.lanes.settle id
  let c := { c with lanes }
  if more then (c.schedule ctx.nanos id).2 else c

/-- One move of a thread of the pool. -/
def move (ctx : ChainContext) (c : Chain) (t : Pool.Thread ConnectionId) : Chain :=
  match t.phase with
  | .running task =>
    let c := c.runLane ctx task.work
    { c with pool := c.pool.finish t.id false ctx.nanos }
  | .finished => { c with pool := c.pool.drain t.id ctx.nanos }
  | .seeking => { c with pool := c.pool.seek t.id ctx.nanos }
  | .waiting => c

/-- Lets the threads of the pool go on for at most so many moves. -/
def workFor (ctx : ChainContext) : Nat → Chain → Chain
  | 0, c => c
  | fuel + 1, c =>
    match c.pool.threads.find? fun t => !t.isWaiting with
    | none => c
    | some t => workFor ctx fuel (c.move ctx t)

/-- Greatest number of moves until no thread has work: every item that waits is one task, and every
task takes three moves. -/
def movesLeft (c : Chain) : Nat :=
  3 * (c.lanes.lanes.map fun l => l.2.queue.length + 1).foldl (· + ·) 0
    + 3 * (c.pool.primary.length + c.pool.overflow.size) + 5 * c.pool.threads.length + 1

/-- Lets the threads of the pool go on until none has work. -/
def work (ctx : ChainContext) (c : Chain) : Chain := workFor ctx c.movesLeft c

/-- The stages of outgoing messages take one message; `leaving` is removed once a message to it was
fitted. -/
def send (ctx : ChainContext) (leaving : Option ConnectionId) (c : Chain) (o : Outbound) :
    Sending × Chain :=
  let fitted := o.enrich c.registry ctx.relay.now
  let c := c.unit ctx .enrich s!"enriching for {o.target}"
  match fitted with
  | none => (.lostBeforeEnriching o.target, c)
  | some o =>
    let c :=
      if leaving = some o.target then
        c.withRegistry ((c.registry.remove o.target).map Prod.snd |>.getD c.registry)
      else c
    let frame := o.serialize ctx.deflater c.registry
    let compression := ((c.registry.find? o.target).map fun t => t.session.compression).getD .none
    let c := c.unit ctx .serialize s!"serializing for {o.target}"
    match frame with
    | none => (.lostBeforeSerializing o.target, c)
    | some frame =>
      let (registry, meter) := frame.charge ctx.nanos c.registry c.meter
      let c := c.withRegistry registry
      (.sent frame compression, { c with meter }.unit ctx .bandwidth s!"metering for {o.target}")

/-- The stages of outgoing messages take all messages that the router has sent, and the sockets that are
to be dropped are handed on.  Recipients are served in the order of their identifiers, and each in the
order in which it was written to. -/
def flush (ctx : ChainContext) (leaving : Option ConnectionId) (c : Chain) :
    List Sending × List ConnectionId × Chain :=
  let (messages, relay) := c.hub.relay.drain
  let dropping := c.dropping
  let c := { c with hub := { c.hub with relay }, dropping := [] }
  let inTurn := messages.mergeSort fun a b => a.target ≤ b.target
  let (sendings, c) := inTurn.foldl (fun (done, c) o =>
    let (sending, c) := send ctx leaving c o
    (sending :: done, c)) (([] : List Sending), c)
  (sendings.reverse, dropping, c)

/-- The logic stage takes no more work, and the pool is shut down once it has run what it has. -/
def drainLogic (ctx : ChainContext) (c : Chain) : Chain :=
  { c with takesWork := false, pool := c.pool.shutDown }.work ctx

/-- Stops the logic stage. -/
def stopLogic (ctx : ChainContext) (c : Chain) : Chain :=
  let c := c.drainLogic ctx
  { c with crew := c.crew.close Stage.logic.place }

/-- Records of the stages of the chain, in order. -/
def records (c : Chain) : List WorkerStatus :=
  ([.decode, .logic, .enrich, .serialize, .bandwidth] : List Stage).map c.crew.status

end Chain

end FlightRelay

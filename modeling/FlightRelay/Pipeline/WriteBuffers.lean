import FlightRelay.Frame.Stream
import FlightRelay.Role

/-!
# Frames go out

Every connection with a writer has a buffer.  A frame is put behind what is buffered there, with its
length in front; an immediate frame, a tick and a close write the buffer out.  A frame for a connection
without a writer is dropped whole.
-/

namespace FlightRelay

/-- The writer of a connection: what was written to its socket, and what waits. -/
structure Writer where
  connection : ConnectionId
  written : List UInt8
  buffer : List UInt8
  deriving DecidableEq, Repr, Inhabited

namespace Writer

/-- Writes the buffer out. -/
def flush (w : Writer) : Writer := { w with written := w.written ++ w.buffer, buffer := [] }

/-- Puts a frame behind what waits. -/
def append (w : Writer) (body : List UInt8) : Writer :=
  { w with buffer := Frame.append w.buffer body }

end Writer

/-- What happens to the writers. -/
inductive WriteEvent where
  /-- A connection hands over its socket; `live` tells that it is still registered. -/
  | attach (connection : ConnectionId) (live : Bool)
  | frame (connection : ConnectionId) (body : List UInt8) (immediate : Bool)
  | tick
  | close (connection : ConnectionId)
  deriving DecidableEq, Repr

/-- The writers of all connections, each once, and those that were closed. -/
structure WriteBuffers where
  writers : List Writer
  /-- Closed writers, the last one first. -/
  closed : List Writer
  deriving DecidableEq, Repr, Inhabited

namespace WriteBuffers

/-- No connection has a writer. -/
def empty : WriteBuffers := ⟨[], []⟩

/-- The writer of a connection. -/
def find? (b : WriteBuffers) (id : ConnectionId) : Option Writer :=
  b.writers.find? fun w => w.connection = id

/-- Changes the writer of a connection. -/
def modify (b : WriteBuffers) (id : ConnectionId) (f : Writer → Writer) : WriteBuffers :=
  { b with writers := b.writers.map fun w => if w.connection = id then f w else w }

/-- The writers of all other connections. -/
def without (b : WriteBuffers) (id : ConnectionId) : WriteBuffers :=
  { b with writers := b.writers.filter fun w => w.connection ≠ id }

/-- One event, when writing to sockets succeeds. -/
def step (b : WriteBuffers) : WriteEvent → WriteBuffers
  | .attach id live =>
    if live then
      let others := b.without id
      { others with writers := others.writers ++ [⟨id, [], []⟩] }
    else b
  | .frame id body immediate =>
    b.modify id fun w => if immediate then (w.append body).flush else w.append body
  | .tick => { b with writers := b.writers.map Writer.flush }
  | .close id =>
    match b.find? id with
    | some w => { b.without id with closed := w.flush :: b.closed }
    | none => b

/-- Writes all buffers out and closes the writers. -/
def closeAll (b : WriteBuffers) : WriteBuffers :=
  ⟨[], b.writers.map Writer.flush ++ b.closed⟩

end WriteBuffers

end FlightRelay

import FlightRelay.Admission
import FlightRelay.Pipeline.Intake
import FlightRelay.Router.Handle

/-!
# Connections come and go

The hub is the relay together with the admission: a connection takes a slot of its address when it is
admitted, and gives it back when it is closed, however often and from wherever it is reported closed.
-/

namespace FlightRelay

/-- The relay and the slots of its connections. -/
structure Hub where
  relay : Relay
  admission : Admission
  deriving Inhabited

/-- Why an attempt to connect did not give a connection. -/
inductive AcceptError where
  | refused (e : AdmissionError)
  | registry (e : RegistryError)
  /-- The stages that read and write do not take connections any more. -/
  | notHandedOn
  deriving DecidableEq, Repr

namespace Hub

/-- Registers a connection under the next number. -/
def register (h : Hub) (remote : Option Net.Socket) (session : Session) :
    Except RegistryError ConnectionId × Hub :=
  let (answer, relay) := h.relay.enroll remote session
  (answer, { h with relay })

/-- Gives the slot of an address back. -/
def release (h : Hub) (address : Net.Address) : Hub :=
  { h with admission := h.admission.release address }

/-- Whether a connection from an address may be made: there is room, and the address is admitted. -/
def enter (h : Hub) (maxConnections : Nat) (address : Net.Address) :
    Except AdmissionError Unit × Hub :=
  if 0 < maxConnections && maxConnections ≤ h.relay.registry.size then
    (.error (.full maxConnections), h)
  else
    let (answer, admission) := h.admission.enter address
    (answer, { h with admission })

/-- One attempt to connect.  A connection that is admitted is registered and handed to the stages that
read and write; if they do not take it, both are undone. -/
def accept (h : Hub) (maxConnections : Nat) (remote : Net.Socket) (session : Session)
    (handedOn : Bool) : Except AcceptError ConnectionId × Hub :=
  match h.enter maxConnections remote.address with
  | (.error e, h) => (.error (.refused e), h)
  | (.ok (), h) =>
    match h.register (some remote) session with
    | (.error e, h) => (.error (.registry e), h.release remote.address)
    | (.ok id, h) =>
      if handedOn then (.ok id, h)
      else
        let relay := ((h.relay.evict id).map Prod.snd).getD h.relay
        (.error .notHandedOn, { h with relay }.release remote.address)

/-- Closes a connection: everyone concerned is told and its slot is given back.  A connection that is
closed already stays closed. -/
def close (h : Hub) (id : ConnectionId) : Hub :=
  match h.relay.depart id with
  | none => h
  | some (removal, relay) =>
    let h := { h with relay }
    match removal.snapshot.remote with
    | some remote => h.release remote.address
    | none => h

/-- Works on one item; gives the connection whose socket is to be dropped, if there is one. -/
def process (ctx : RelayContext) (h : Hub) (item : Inbound) : Option ConnectionId × Hub :=
  match item with
  | .message envelope => (none, { h with relay := h.relay.handle ctx envelope })
  | .closed id _ => (some id, h.close id)

end Hub

end FlightRelay

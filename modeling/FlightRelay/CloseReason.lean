import FlightRelay.Json.Fields

/-!
# Why connections close

Each reason has a wording for people and a name for programs.
-/

namespace FlightRelay

/-- Why a connection is closed. -/
inductive CloseReason where
  | peerClosed
  | readError
  | frameTooLarge
  | idleTimeout
  | writeError
  | kicked
  deriving DecidableEq, Repr, Inhabited

namespace CloseReason

/-- Every reason. -/
def all : List CloseReason :=
  [.peerClosed, .readError, .frameTooLarge, .idleTimeout, .writeError, .kicked]

/-- Wording of a reason. -/
def text : CloseReason → String
  | .peerClosed => "peer closed"
  | .readError => "read error"
  | .frameTooLarge => "frame too large"
  | .idleTimeout => "idle timeout"
  | .writeError => "write error"
  | .kicked => "kicked"

/-- Name of a reason. -/
def name : CloseReason → String
  | .peerClosed => "peer_closed"
  | .readError => "read_error"
  | .frameTooLarge => "frame_too_large"
  | .idleTimeout => "idle_timeout"
  | .writeError => "write_error"
  | .kicked => "kicked"

/-- Reads a reason. -/
def read? (v : Json.Value) : Option CloseReason :=
  (v.caseName? false).bind fun s => all.find? fun r => r.name = s

end CloseReason

end FlightRelay

import FlightRelay.Json.Value

/-!
# How stages fail
-/

namespace FlightRelay

/-- Why a stage could not open or could not take a step. -/
inductive StageError where
  | io (text : String)
  /-- The queue to or from another stage is closed. -/
  | queueClosed (queue : String)
  /-- The stage was not opened. -/
  | notOpen
  | other (text : String)
  deriving DecidableEq, Repr

namespace StageError

/-- Wording of a stage error. -/
def message : StageError → String
  | .io text => s!"I/O error: {text}"
  | .queueClosed queue => s!"Queue '{queue}' closed"
  | .notOpen => "Stage not open"
  | .other text => text

/-- Kind of a stage error, for programs. -/
def kind : StageError → String
  | .io _ => "Io"
  | .queueClosed _ => "QueueClosed"
  | .notOpen => "NotOpen"
  | .other _ => "Other"

/-- The error as a JSON value. -/
def toJson (e : StageError) : Json.Value := .failure e.kind e.message

end StageError

end FlightRelay

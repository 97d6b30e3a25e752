import FlightRelay.Message.Report
import FlightRelay.Role
import FlightRelay.Text.Blank

/-!
# The store

Routes and dispatch records are written through transactions: writes are staged and take effect together
when the transaction commits.  A store may be unable to serve some kinds of calls, and it may refuse
commits; then nothing of the transaction takes effect.
-/

namespace FlightRelay

/-- How a dispatch service ended. -/
inductive DispatchOutcome where
  | completed
  | cancelled
  deriving DecidableEq, Repr

namespace DispatchOutcome

/-- Name of an outcome. -/
def name : DispatchOutcome → String
  | .completed => "completed"
  | .cancelled => "cancelled"

end DispatchOutcome

/-- Record of a dispatch service that ended. -/
structure DispatchRecord where
  pilotUser : Option UserId
  dispatcherUser : Option UserId
  outcome : DispatchOutcome
  remarks : String
  /-- Clock reading when the record was made. -/
  recordedAt : UInt64
  deriving DecidableEq, Repr

namespace DispatchRecord

/-- The record as a JSON value, the time aside. -/
def toJson (d : DispatchRecord) : Json.Value :=
  .object [("pilot_user", .ofOption .ofWord d.pilotUser),
    ("dispatcher_user", .ofOption .ofWord d.dispatcherUser), ("outcome", .string d.outcome.name),
    ("remarks", .string d.remarks)]

end DispatchRecord

/-- Why the store did not do what it was asked. -/
inductive StoreError where
  | unavailable (reason : String)
  | invalid (reason : String)
  | commit (reason : String)
  deriving DecidableEq, Repr

namespace StoreError

/-- Wording of a store error. -/
def message : StoreError → String
  | .unavailable reason => s!"Store unavailable: {reason}"
  | .invalid reason => s!"Invalid data: {reason}"
  | .commit reason => s!"Commit failed: {reason}"

/-- Kind of a store error, for programs. -/
def kind : StoreError → String
  | .unavailable _ => "Unavailable"
  | .invalid _ => "Invalid"
  | .commit _ => "Commit"

/-- The error as a JSON value. -/
def toJson (e : StoreError) : Json.Value := .failure e.kind e.message

end StoreError

namespace Store

/-- Committed data: the routes of each user who has any, and the dispatch records, oldest first. -/
structure Data where
  routes : List (UserId × List Route)
  records : List DispatchRecord
  deriving DecidableEq, Repr, Inhabited

/-- Calls that the store cannot serve, each with the error it answers. -/
structure Outages where
  begin : Option StoreError
  saveRoute : Option StoreError
  loadRoutes : Option StoreError
  recordDispatch : Option StoreError
  deriving Inhabited

/-- Every call is served. -/
def Outages.none : Outages := ⟨.none, .none, .none, .none⟩

end Store

/-- A store. -/
structure Store where
  data : Store.Data
  /-- Commits are refused. -/
  refusesCommits : Bool
  outages : Store.Outages
  deriving Inhabited

/-- Writes that wait for a commit, oldest first. -/
structure Transaction where
  routes : List (UserId × Route)
  records : List DispatchRecord
  deriving DecidableEq, Repr, Inhabited

namespace Store

/-- A store without data that serves every call. -/
def empty : Store := ⟨⟨[], []⟩, false, .none⟩

namespace Data

/-- The routes of a user. -/
def routesOf (d : Data) (user : UserId) : List Route :=
  (d.routes.lookup user).getD []

/-- Puts a route into a list: in the place of the first route of that name, or at the end. -/
def upsert : List Route → Route → List Route
  | [], route => [route]
  | r :: routes, route => if r.name = route.name then route :: routes else r :: upsert routes route

/-- Saves a route for a user. -/
def saveRoute (d : Data) (user : UserId) (route : Route) : Data :=
  let saved := upsert (d.routesOf user) route
  if d.routes.any (·.1 = user) then
    { d with routes := d.routes.map fun e => if e.1 = user then (user, saved) else e }
  else { d with routes := d.routes ++ [(user, saved)] }

/-- The data after every write of a transaction. -/
def apply (d : Data) (t : Transaction) : Data :=
  let d := t.routes.foldl (fun d (user, route) => d.saveRoute user route) d
  { d with records := d.records ++ t.records }

/-- How many routes are saved. -/
def routeCount (d : Data) : Nat :=
  (d.routes.map fun e => e.2.length).foldl (· + ·) 0

end Data

/-- Fails with the error of an outage, if there is one. -/
def served : Option StoreError → Except StoreError Unit
  | some e => .error e
  | none => .ok ()

/-- Opens a transaction. -/
def begin (s : Store) : Except StoreError Transaction := do
  served s.outages.begin
  return ⟨[], []⟩

/-- Stages a route for a user; its name must not be blank. -/
def saveRoute (s : Store) (t : Transaction) (user : UserId) (route : Route) :
    Except StoreError Transaction := do
  served s.outages.saveRoute
  if Text.isAllBlank route.name then .error (.invalid "route name is empty")
  else return { t with routes := t.routes ++ [(user, route)] }

/-- The routes of a user as the transaction sees them: the committed ones with its own writes. -/
def loadRoutes (s : Store) (t : Transaction) (user : UserId) : Except StoreError (List Route) := do
  served s.outages.loadRoutes
  let own := t.routes.filter (·.1 = user)
  return own.foldl (fun routes e => Data.upsert routes e.2) (s.data.routesOf user)

/-- Stages a dispatch record. -/
def recordDispatch (s : Store) (t : Transaction) (record : DispatchRecord) :
    Except StoreError Transaction := do
  served s.outages.recordDispatch
  return { t with records := t.records ++ [record] }

/-- Makes every write of a transaction take effect. -/
def commit (s : Store) (t : Transaction) : Except StoreError Store :=
  if s.refusesCommits then .error (.commit "backend refused the write")
  else .ok { s with data := s.data.apply t }

end Store

end FlightRelay

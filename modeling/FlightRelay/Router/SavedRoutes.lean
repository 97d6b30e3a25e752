import FlightRelay.Router.Basic

/-!
# Saved routes

A route is saved under its trimmed name and replaces the user's route of that name.
-/

namespace FlightRelay.Handler

/-- The user who is logged in on a connection. -/
def requireUser (me : Connection) : Handler UserId :=
  match me.session.userId with
  | some user => pure user
  | none => refuse .notLoggedIn

/-- Saves one route in a transaction of its own. -/
def storeRoute (store : Store) (user : UserId) (route : Route) : Except StoreError Store := do
  let t ← store.begin
  let t ← store.saveRoute t user route
  store.commit t

/-- The routes of a user, read in a transaction of their own. -/
def storedRoutes (store : Store) (user : UserId) : Except StoreError (List Route) := do
  let t ← store.begin
  store.loadRoutes t user

/-- Saves a route. -/
def saveRoute (me : Connection) (route : Route) : Handler Unit := do
  let user ← requireUser me
  require (route.waypoints.length ≤ maxWaypoints) .tooManyWaypoints
  match storeRoute (← get).store user { route with name := Text.trim route.name } with
  | .error e => refuse (.store e)
  | .ok store =>
    modify fun s => { s with store }
    acknowledge me.id "save_route"

/-- Sends the user's routes. -/
def loadRoutes (me : Connection) : Handler Unit := do
  let user ← requireUser me
  match storedRoutes (← get).store user with
  | .error e => refuse (.store e)
  | .ok routes => perform fun s => s.send (.routes routes) me.id

end FlightRelay.Handler

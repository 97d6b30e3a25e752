import FlightRelay.Proofs.Router.Answers.Dispatch
import FlightRelay.Proofs.Router.Answers.Viewing

/-!
# What any message answers

Saved routes are the last of the handlers; with them every message of a live connection has an answer.
-/

namespace FlightRelay

namespace Handler

open Outbound Session Relay

variable {ctx : RelayContext} {s : Relay} {me : Connection}

/-! ## Saved routes -/

/-- A route is refused, or saved under the user and acknowledged. -/
theorem answered_saveRoute {route : Route} :
    Answered ctx s me (.saveRoute route) ((saveRoute me route).exec s) := by
  unfold saveRoute requireUser
  cases huser : me.session.userId with
  | none => exact .plain
  | some user =>
    simp only [exec_pure_bind]
    refine require_then (fun _ => .plain) fun _ => ?_
    simp only [exec_get_bind]
    cases hwrite : storeRoute s.store user { route with name := Text.trim route.name } with
    | error e => exact .plain
    | ok store => exact .carried (.routeSaved huser hwrite) Reaches.refl.withStore.send

/-- Whoever asks for routes is refused, or gets those saved under the user. -/
theorem answered_loadRoutes :
    Answered ctx s me .loadRoutes ((loadRoutes me).exec s) := by
  unfold loadRoutes requireUser
  cases huser : me.session.userId with
  | none => exact .plain
  | some user =>
    simp only [exec_pure_bind, exec_get_bind]
    cases hread : storedRoutes s.store user with
    | error e => exact .plain
    | ok routes => exact .carried (.routesLoaded huser hread) Reaches.refl.send

/-! ## All messages -/

/-- Every message of a live connection is refused or carried out. -/
theorem answered_handleMessage {m : ClientMessage} (hme : s.registry.find? me.id = some me) :
    Answered ctx s me m ((handleMessage ctx me m).exec s) := by
  by_cases hauth : me.session.isAuthenticated = true
  · cases m with
    | login form => exact answered_login hme
    | ping nonce => exact answered_ping
    | position p =>
      simp only [handleMessage, if_pos hauth]
      exact answered_position hme hauth
    | flightInfo plan =>
      simp only [handleMessage, if_pos hauth]
      exact answered_flightInfo hme
    | dispatcherStatus form =>
      simp only [handleMessage, if_pos hauth]
      exact answered_dispatcherStatus hme
    | serviceRequest note =>
      simp only [handleMessage, if_pos hauth]
      exact answered_serviceRequest hme
    | serviceAccept pilot =>
      simp only [handleMessage, if_pos hauth]
      exact answered_serviceAccept hme
    | serviceCancel pilot reason =>
      simp only [handleMessage, if_pos hauth]
      exact answered_serviceCancel hme
    | serviceComplete remarks =>
      simp only [handleMessage, if_pos hauth]
      exact answered_serviceComplete hme
    | viewerRequest pilot =>
      simp only [handleMessage, if_pos hauth]
      exact answered_viewerRequest hme
    | viewerAccept viewer =>
      simp only [handleMessage, if_pos hauth]
      exact answered_viewerAccept hme
    | viewerReject viewer =>
      simp only [handleMessage, if_pos hauth]
      exact answered_viewerReject
    | viewerCancel pilot =>
      simp only [handleMessage, if_pos hauth]
      exact answered_viewerCancel
    | saveRoute route =>
      simp only [handleMessage, if_pos hauth]
      exact answered_saveRoute
    | loadRoutes =>
      simp only [handleMessage, if_pos hauth]
      exact answered_loadRoutes
  · cases m with
    | login form => exact answered_login hme
    | ping nonce => exact answered_ping
    | _ =>
      simp only [handleMessage, if_neg hauth]
      exact .plain

/-! ## Messages that are not refused -/

/-- A valid position of someone who is logged in is always carried out. -/
theorem carriedOut_position_message {p : Position} (hme : s.registry.find? me.id = some me)
    (hauth : me.session.isAuthenticated = true) (hvalid : p.location.isValid = true) :
    CarriedOut ctx s me (.position p) ((handleMessage ctx me (.position p)).exec s) := by
  simp only [handleMessage, if_pos hauth]
  exact carriedOut_position hme hauth hvalid

/-- A pilot who is placed and not served is never refused a request. -/
theorem carriedOut_request_message {note : String} {location : Geo.Point}
    (hme : s.registry.find? me.id = some me) (hrole : me.role = .pilot)
    (hauth : me.session.isAuthenticated = true) (hplace : me.session.location = some location)
    (hunserved : me.session.dispatcher = noConnection) :
    CarriedOut ctx s me (.serviceRequest note)
      ((handleMessage ctx me (.serviceRequest note)).exec s) := by
  simp only [handleMessage, if_pos hauth]
  exact carriedOut_serviceRequest hme hrole hplace hunserved

/-- A dispatcher who is available is never refused an open request. -/
theorem carriedOut_accept_message {p : Connection} (hme : s.registry.find? me.id = some me)
    (hnumbered : me.id ≠ noConnection) (hauth : me.session.isAuthenticated = true)
    (havailable : me.session.isAvailableDispatcher = true) (hp : s.registry.find? p.id = some p)
    (hpilot : p.role = .pilot) (hunserved : p.session.dispatcher = noConnection)
    (hpending : p.session.servicePending = true) :
    CarriedOut ctx s me (.serviceAccept p.id)
      ((handleMessage ctx me (.serviceAccept p.id)).exec s) := by
  simp only [handleMessage, if_pos hauth]
  exact carriedOut_serviceAccept hme hnumbered havailable hp hpilot hunserved hpending

/-- A pilot who is logged in may always cancel. -/
theorem carriedOut_cancel_message {pilot : Option ConnectionId} {reason : String}
    (hme : s.registry.find? me.id = some me) (hrole : me.role = .pilot)
    (hauth : me.session.isAuthenticated = true) :
    CarriedOut ctx s me (.serviceCancel pilot reason)
      ((handleMessage ctx me (.serviceCancel pilot reason)).exec s) := by
  simp only [handleMessage, if_pos hauth]
  show CarriedOut ctx s me _ ((serviceCancel ctx me pilot reason).exec s)
  unfold serviceCancel
  rw [hrole]
  exact carriedOut_cancelFromPilot hme hrole

/-- A pilot who is served completes the service if the record is written. -/
theorem carriedOut_complete_message {remarks : String} {store : Store}
    (hme : s.registry.find? me.id = some me) (hrole : me.role = .pilot)
    (hauth : me.session.isAuthenticated = true) (hserved : me.session.dispatcher ≠ noConnection)
    (hwrite : storeRecord s.store
      ⟨me.session.userId, me.session.dispatcherUser, .completed, remarks, ctx.now⟩ = .ok store) :
    CarriedOut ctx s me (.serviceComplete remarks)
      ((handleMessage ctx me (.serviceComplete remarks)).exec s) := by
  simp only [handleMessage, if_pos hauth]
  exact carriedOut_serviceComplete hme hrole hserved hwrite

end Handler

end FlightRelay

import FlightRelay.Server
import FlightRelay.Settings.App

/-!
# The application

A server with the settings it was made from.  Settings that do not pass make no application.
-/

namespace FlightRelay

/-- A server and what the application does around it. -/
structure Application where
  settings : AppSettings
  server : Server

namespace Application

/-- The application that settings ask for, on a machine with so many processors. -/
def create (settings : AppSettings) (deflater : Deflater) (processors now : Nat) :
    Except SettingsError Application := do
  let relay ← settings.checked processors
  return ⟨settings, .create relay Authenticator.trusting deflater processors now⟩

/-- The application reports on its server from time to time. -/
def isMonitored (a : Application) : Bool := 0 < a.settings.monitor.statsInterval

/-- Starts the server. -/
def start (a : Application) : Except StartError Unit × Application :=
  let (answer, server) := a.server.start
  (answer, { a with server })

/-- Stops the reports and the server. -/
def shutDown (a : Application) (now : Nat) : Application := { a with server := a.server.stop now }

end Application

end FlightRelay

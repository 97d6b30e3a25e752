import FlightRelay.Role
import FlightRelay.Text.Blank

/-!
# Authentication

An authenticator turns a user number and a token into a profile.  The trusting one takes any token that
is not blank, for any user but zero, and allows every role.
-/

namespace FlightRelay

/-- What is known about a user. -/
structure Profile where
  userId : UserId
  /-- Roles the user may log in with; none means any. -/
  allowedRoles : List Role
  deriving DecidableEq, Repr

namespace Profile

/-- The profile as a JSON value. -/
def toJson (p : Profile) : Json.Value :=
  .object
    [("user_id", .ofWord p.userId),
      ("allowed_roles", .array (p.allowedRoles.map fun r => .string r.name))]

/-- Whether the user may log in with a role. -/
def permits (p : Profile) (r : Role) : Bool :=
  p.allowedRoles.isEmpty || p.allowedRoles.contains r

end Profile

/-- Why a login token was not accepted. -/
inductive AuthError where
  | invalidCredentials
  | suspended (user : UserId)
  | unavailable (reason : String)
  deriving DecidableEq, Repr

namespace AuthError

/-- Wording of an authentication error. -/
def message : AuthError → String
  | .invalidCredentials => "Invalid credentials"
  | .suspended user => s!"Account {user} is suspended"
  | .unavailable reason => s!"Authentication backend unavailable: {reason}"

/-- Kind of an authentication error, for programs. -/
def kind : AuthError → String
  | .invalidCredentials => "InvalidCredentials"
  | .suspended _ => "Suspended"
  | .unavailable _ => "Unavailable"

/-- The error as a JSON value. -/
def toJson (e : AuthError) : Json.Value := .failure e.kind e.message

end AuthError

/-- Checks a token for a user. -/
abbrev Authenticator := UserId → String → Except AuthError Profile

namespace Authenticator

/-- Accepts any token that is not blank, for any user but zero. -/
def trusting : Authenticator := fun user token =>
  if Text.isAllBlank token || user = 0 then .error .invalidCredentials
  else .ok ⟨user, []⟩

end Authenticator

end FlightRelay

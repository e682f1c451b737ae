import ActionLauncher.World

/-!
A login session remembers the login identity at its begin.  It may replace the login identity any
number of times, and restores the remembered one once, at its logout or at its end.
-/

namespace ActionLauncher

/-- How far a session has come. -/
inductive SessionState
  | notLoggedIn
  | loggedIn
  | loggedOut
  deriving DecidableEq, Repr

def SessionState.name : SessionState → String
  | .notLoggedIn => "not_logged_in"
  | .loggedIn => "logged_in"
  | .loggedOut => "logged_out"

/-- A login session. -/
structure Session where
  initial : Identity
  state : SessionState
  announce : Bool

namespace Session

def start (announce : Bool) : Launch Session := do
  return ⟨(← get).login, .notLoggedIn, announce⟩

/-- Makes an identity the login identity; after a logout this is refused. -/
def login (session : Session) (identity : Identity) : Launch (Bool × Session) := do
  if session.state = .loggedOut then
    Launch.warn "Login refused: session already logged out"
    return (false, session)
  else
    let previous ← Launch.swapLogin identity
    Launch.publish session.announce (.identitySwitched identity.principal previous.principal)
    return (true, { session with state := .loggedIn })

/-- Restores the initial identity, if the session is logged in. -/
def logout (session : Session) : Launch (Bool × Session) := do
  if session.state = .loggedIn then
    discard (Launch.swapLogin session.initial)
    Launch.publish session.announce (.identityRestored session.initial.principal)
    return (true, { session with state := .loggedOut })
  else return (false, session)

/-- Ends a session; one that is still logged in is logged out, with a warning. -/
def finish (session : Session) : Launch Unit := do
  if session.state = .loggedIn then
    Launch.warn "Login session dropped while logged in, restoring original identity"
    discard session.logout

/-- Runs a computation for a session; a panic ends the session before it goes on. -/
def guard {α : Type} (session : Session) (x : Launch α) : Launch α := do
  match ← Launch.settle x with
  | .ok a => return a
  | .error panic => do
      session.finish
      throw panic

end Session

end ActionLauncher

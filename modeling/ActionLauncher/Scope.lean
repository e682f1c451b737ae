import ActionLauncher.Acquirer
import ActionLauncher.Session

/-!
Running a body under an acquired identity.  A body is called with the identity and returns the
computation to run.  Impersonation makes the identity the guest of that computation, login makes it
the login identity of the process before the call; both end with the computation, however it ends,
and what was created for the identity is discarded.  A call that panics is not waited for: a login
is taken back on the way out, but nothing is discarded.
-/

namespace ActionLauncher

/-- A way into identities: how they are acquired and switched to. -/
structure Scope where
  acquirer : Acquirer
  method : AuthenticationMethod
  announce : Bool

namespace Scope

/-- Hands the identity back, unless it was there before. -/
def release (scope : Scope) (identity inherited : Identity) : Launch Unit :=
  if identity.same inherited then pure () else scope.acquirer.release identity

/-- Goes on with the end of a body; a panic leaves a warning. -/
def resume {α : Type} (ending : Except Panic α) : Launch α := do
  match ending with
  | .ok _ => pure ()
  | .error _ => Launch.warn "Body panicked inside the identity scope"
  Launch.resume ending

/-- Calls a body, and runs the computation that it returns as a guest.  A panic of the call itself
ends the scope at once. -/
def runAsGuest {α : Type} (scope : Scope) (identity inherited : Identity)
    (call : Launch (Launch α)) : Launch α := do
  let body ← call
  let ending ← Launch.settle (Launch.asGuest identity body)
  scope.release identity inherited
  resume ending

/-- Calls a body in a login session, and runs the computation that it returns there.  A panic of
the call itself ends the session and the scope at once. -/
def runLoggedIn {α : Type} (scope : Scope) (session : Session) (identity inherited : Identity)
    (call : Launch (Launch α)) : Launch α := do
  let (_, session) ← session.login identity
  let body ← session.guard call
  let ending ← Launch.settle body
  discard session.logout
  scope.release identity inherited
  resume ending

/-- Acquires an identity, calls a body with it and runs the computation that the body returns;
without the identity the body is not called. -/
def enter {α : Type} (scope : Scope) (spec : PrincipalSpec) (config : Configuration)
    (body : Identity → Configuration → Launch (Launch α)) : Launch (Except SecurityError α) := do
  let inherited := (← get).current
  let session ← Session.start scope.announce
  let acquisition ← scope.acquirer.acquire spec (some config)
  match acquisition.result with
  | .error e => return .error e
  | .ok identity =>
      let call := body identity (acquisition.config.getD config)
      match scope.method with
      | .impersonation => return .ok (← scope.runAsGuest identity inherited call)
      | .login => return .ok (← scope.runLoggedIn session identity inherited call)

/-- Runs a body that is one block: its call does nothing but return the computation. -/
def run {α : Type} (scope : Scope) (spec : PrincipalSpec) (config : Configuration)
    (body : Identity → Configuration → Launch α) : Launch (Except SecurityError α) :=
  scope.enter spec config fun identity config => pure (body identity config)

end Scope

end ActionLauncher

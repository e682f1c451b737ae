import ActionLauncher.Provider

namespace ActionLauncher

structure Acquirer where
  provider : Provider
  settings : LoginSettings

/-- What an acquisition comes to: the identity or the reason against it, and the configuration
that goes with it. -/
structure Acquisition where
  result : Except SecurityError Identity
  config : Option Configuration

namespace Acquirer

/-- The first requirement of a ticket cache that is not met. -/
def missing? (settings : LoginSettings) (config : Configuration) : Option String :=
  if (settings.realmConf.filter fun p => !p.isEmpty).isNone then some Names.realmConf
  else [Names.namenodePrincipal, Names.defaultFileSystem].find? fun key =>
    (config.nonBlank? key).isNone

/-- A failed login as one of the principal that was asked for. -/
def blame (principal : String) (result : Except SecurityError Identity) :
    Except SecurityError Identity :=
  result.mapError (SecurityError.asLoginOf principal)

def fromTicketCache (acquirer : Acquirer) (principal : String) (cache : Path)
    (config : Configuration) : Launch Acquisition := do
  match missing? acquirer.settings config with
  | some key => return ⟨.error (.missing key), some config⟩
  | none =>
      let config := config.forceKerberos.insert Names.ticketCachePath cache.text
      let result ← acquirer.provider.fromTicketCache principal cache acquirer.settings
      return ⟨blame principal result, some config⟩

def fromKeytab (acquirer : Acquirer) (principal : String) (keytab : Path)
    (config : Option Configuration) : Launch Acquisition := do
  let result ← acquirer.provider.fromKeytab principal keytab acquirer.settings
  return ⟨blame principal result, config.map Table.forceKerberos⟩

def fallBack (spec : PrincipalSpec) (config : Option Configuration) : Launch Acquisition := do
  if spec.ticketCache.isSome then
    Launch.warn "Ticket cache given without a configuration; it cannot be validated"
  Launch.warn
    "Ticket cache or keytab must be provided. Falling back to the current identity"
  return ⟨.ok (← get).current, config⟩

def acquire (acquirer : Acquirer) (spec : PrincipalSpec) (config : Option Configuration) :
    Launch Acquisition :=
  match spec.ticketCache, config with
  | some cache, some config => acquirer.fromTicketCache spec.principal cache config
  | _, config =>
      match spec.keytab with
      | some keytab =>
          if spec.principal.isEmpty then fallBack spec config
          else acquirer.fromKeytab spec.principal keytab config
      | none => fallBack spec config

/-- Hands an identity back to the provider; a failure leaves a warning only. -/
def release (acquirer : Acquirer) (identity : Identity) : Launch Unit := do
  match ← acquirer.provider.release identity with
  | .ok _ => pure ()
  | .error _ => Launch.warn "Failed to discard credentials"

/-- Which logins of an acquisition can be under way at once: those with a ticket cache all
together, those with a keytab one after another. -/
inductive Overlap
  | noLogin
  | oneAtATime
  | together
  deriving DecidableEq, Repr

/-- How the logins of an acquisition overlap. -/
def overlap (settings : LoginSettings) (spec : PrincipalSpec) (config : Option Configuration) :
    Overlap :=
  match spec.ticketCache, config with
  | some _, some config => if (missing? settings config).isSome then .noLogin else .together
  | _, _ =>
      if spec.keytab.isNone || spec.principal.isEmpty then .noLogin else .oneAtATime

/-- The logins under way in each round when a number of acquisitions start at once. -/
def Overlap.rounds (count : Nat) : Overlap → List Nat
  | .noLogin => []
  | .oneAtATime => List.replicate count 1
  | .together => if count = 0 then [] else [count]

end Acquirer

end ActionLauncher

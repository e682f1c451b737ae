import ActionLauncher.Provider

namespace ActionLauncher

/-- The answers of a scripted provider; where one is missing it makes up an identity. -/
structure ProviderScript where
  keytab : Option (Except SecurityError Identity)
  ticketCache : Option (Except SecurityError Identity)
  ambient : Option (Except SecurityError Identity)
  releaseError : Option SecurityError
  deriving Inhabited

namespace ProviderScript

/-- The time at which made-up identities were acquired. -/
def stamp : Time.Timestamp :=
  .ofSeconds 1

def reply (request : LoginRequest) (answer : Option (Except SecurityError Identity))
    (madeUp : Identity) : Launch (Except SecurityError Identity) := do
  Launch.note (.asked request)
  return answer.getD (.ok madeUp)

def provider (script : ProviderScript) : Provider where
  name := "scripted"
  ambient := reply .ambient script.ambient ⟨"nobody", .ambient, none, none, stamp⟩
  fromKeytab := fun principal path settings =>
    reply (.keytab principal path settings) script.keytab ⟨principal, .keytab, none, none, stamp⟩
  fromTicketCache := fun principal path settings =>
    reply (.ticketCache principal path settings) script.ticketCache
      ⟨principal, .ticketCache, some path, none, stamp⟩
  release := fun identity => do
    Launch.note (.released identity)
    return match script.releaseError with
      | some e => .error e
      | none => .ok ()

end ProviderScript

end ActionLauncher

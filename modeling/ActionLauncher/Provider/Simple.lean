import ActionLauncher.Provider

namespace ActionLauncher.Provider.Simple

def fromKeytab (principal : String) (keytab : Path) (_ : LoginSettings) :
    Launch (Except SecurityError Identity) := do
  if (← get).files.isFile keytab then return .ok (← Launch.newIdentity principal .keytab)
  else return .error (absent principal "keytab" keytab)

/-- Trusts a ticket cache; without a principal it belongs to the ambient user. -/
def fromTicketCache (principal : String) (cache : Path) (_ : LoginSettings) :
    Launch (Except SecurityError Identity) := do
  let world ← get
  if world.files.isFile cache then
    let owner := if principal.isEmpty then ambientUser world else principal
    return .ok { ← Launch.newIdentity owner .ticketCache with cache := some cache }
  else return .error (absent principal "ticket cache" cache)

end ActionLauncher.Provider.Simple

namespace ActionLauncher.Provider

def simple : Provider where
  name := "simple"
  ambient := do return .ok (← ambientIdentity)
  fromKeytab := Simple.fromKeytab
  fromTicketCache := Simple.fromTicketCache
  release := fun _ => return .ok ()

end ActionLauncher.Provider

import ActionLauncher.Provider
import ActionLauncher.Spawn

namespace ActionLauncher

/-- The tools, as far as there are any, and the directory of private ticket caches. -/
structure KerberosTools where
  kinit : Option Path
  klist : Option Path
  cacheDir : Path
  deriving Repr, Inhabited

namespace KerberosTools

/-- How the names of private caches start. -/
def privateStart : String := "krb5cc_"

/-- The name by which the tools know a cache in a file. -/
def cacheName (cache : Path) : String :=
  "FILE:" ++ cache.text

/-- A short name with an underscore for everything but letters and digits of ASCII. -/
def plainName (s : String) : String :=
  String.ofList (s.toList.map fun c => if c.isAlphanum then c else '_')

def privateName (principal : String) (id : Uuid) : String :=
  let short := (Identity.mk principal .keytab none none default).shortName
  privateStart ++ plainName short ++ "_" ++ id.compact

def privateCache (tools : KerberosTools) (principal : String) (id : Uuid) : Path :=
  tools.cacheDir.join ⟨privateName principal id⟩

/-- Whether a cache is a private one of this provider. -/
def ownsCache (tools : KerberosTools) (cache : Path) : Bool :=
  cache.parent? == some tools.cacheDir.components &&
    match cache.fileName? with
    | some name => (Text.after? privateStart name).isSome
    | none => false

/-- The principal in a listing of a cache: what follows `Default principal:` on the first line
that has more than this. -/
def defaultPrincipal? (listing : String) : Option String :=
  (Text.Chars.lines listing.toList).findSome? fun line =>
    (Text.Chars.after? "Default principal:".toList (Text.Chars.trim line)).bind fun rest =>
      let name := Text.Chars.trim rest
      if name.isEmpty then none else some (String.ofList name)

def toolVariables (settings : LoginSettings) : List (String × String) :=
  (match settings.realmConf with
    | some conf => [(Names.realmConfVariable, conf.text)]
    | none => []) ++
  (if settings.debug then [(Names.traceVariable, "/dev/stderr")] else [])

/-- Runs a tool and returns what it prints; a failure is one of the principal's authentication. -/
def runTool (principal : String) (program : Path) (args : List String)
    (settings : LoginSettings) : Launch (Except SecurityError String) := do
  match ← Launch.spawn program args (toolVariables settings) with
  | .error cause => return .error (.io cause)
  | .ok output =>
      if output.status.isSuccess then return .ok (Text.Utf8.lenient output.stdout)
      else return .error (.authentication principal
        (program.text ++ " exited with " ++ output.status.describe ++ ": " ++
          Text.trim (Text.Utf8.lenient output.stderr)))

/-- Asks `klist` for the principal of a cache. -/
def askPrincipal (tools : KerberosTools) (principal : String) (cache : Path)
    (settings : LoginSettings) : Launch (Except SecurityError String) := do
  match tools.klist with
  | none => return .error (.commandNotFound "klist")
  | some klist =>
      match ← runTool principal klist ["-c", cacheName cache] settings with
      | .error e => return .error e
      | .ok listing =>
          match defaultPrincipal? listing with
          | some found => return .ok found
          | none => return .error (.authentication principal
              ("no default principal in ticket cache " ++ cache.text))

/-- The ambient identity, under the principal of its ticket cache where `klist` tells it. -/
def ambient (tools : KerberosTools) : Launch (Except SecurityError Identity) := do
  let identity ← Provider.ambientIdentity
  match identity.cache with
  | none => return .ok identity
  | some cache =>
      if tools.klist.isNone || !(← get).files.isFile cache then return .ok identity
      else
        match ← tools.askPrincipal identity.principal cache .none with
        | .ok principal => return .ok { identity with principal := principal }
        | .error _ => return .ok identity

/-- The identity of a ticket cache that `klist` finds valid. -/
def fromTicketCache (tools : KerberosTools) (principal : String) (cache : Path)
    (settings : LoginSettings) : Launch (Except SecurityError Identity) := do
  if !(← get).files.isFile cache then
    return .error (Provider.absent principal "ticket cache" cache)
  match tools.klist with
  | none => return .error (.commandNotFound "klist")
  | some klist =>
      match ← runTool principal klist ["-s", "-c", cacheName cache] settings with
      | .error _ =>
          return .error (.authentication principal ("no valid ticket in " ++ cache.text))
      | .ok _ =>
          match ← tools.askPrincipal principal cache settings with
          | .error e => return .error e
          | .ok found =>
              if !principal.isEmpty && found != principal then
                Launch.warn "Ticket cache belongs to another principal"
              let owner := if principal.isEmpty then found else principal
              return .ok { ← Launch.newIdentity owner .ticketCache with cache := some cache }

/-- Logs in with `kinit`, into a new private cache. -/
def fromKeytab (tools : KerberosTools) (principal : String) (keytab : Path)
    (settings : LoginSettings) : Launch (Except SecurityError Identity) := do
  if !(← get).files.isFile keytab then
    return .error (Provider.absent principal "keytab" keytab)
  match tools.kinit with
  | none => return .error (.commandNotFound "kinit")
  | some kinit =>
      let cache := tools.privateCache principal (← Launch.freshId)
      let args := ["-k", "-t", keytab.text, "-c", cacheName cache, principal]
      match ← runTool principal kinit args settings with
      | .error e => return .error e
      | .ok _ => return .ok { ← Launch.newIdentity principal .keytab with cache := some cache }

/-- Removes the private cache of an identity that came from a keytab. -/
def release (tools : KerberosTools) (identity : Identity) :
    Launch (Except SecurityError Unit) := do
  match identity.cache with
  | none => return .ok ()
  | some cache =>
      if identity.source != .keytab || !tools.ownsCache cache then return .ok ()
      else
        match (← get).files.removeFile cache with
        | .ok files =>
            modify fun world => { world with files := files }
            return .ok ()
        | .error .notFound => return .ok ()
        | .error cause => return .error (.io cause)

def provider (tools : KerberosTools) : Provider where
  name := "kerberos"
  ambient := tools.ambient
  fromKeytab := tools.fromKeytab
  fromTicketCache := tools.fromTicketCache
  release := tools.release

/-- The first executable file of a given name in some directories. -/
def locate? (files : FileTree) (dirs : List String) (name : String) : Option Path :=
  (dirs.map fun dir => Path.join ⟨dir⟩ ⟨name⟩).find? fun path =>
    match files.executable path with
    | .ok _ => true
    | .error _ => false

/-- The tools that lie on a search path. -/
def located (files : FileTree) (searchPath : String) (cacheDir : Path) : KerberosTools :=
  let dirs := Text.splitAll ':' searchPath
  ⟨locate? files dirs "kinit", locate? files dirs "klist", cacheDir⟩

end KerberosTools

end ActionLauncher

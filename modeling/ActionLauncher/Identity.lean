import ActionLauncher.Path
import ActionLauncher.Text.Blank
import ActionLauncher.Time.Timestamp

namespace ActionLauncher

/-- Where the credentials of an identity came from. -/
inductive Source
  /-- The identity was active already; nothing was authenticated. -/
  | ambient
  | ticketCache
  | keytab
  deriving DecidableEq, Repr, Inhabited

namespace Source

def name : Source → String
  | .ambient => "ambient"
  | .ticketCache => "ticket_cache"
  | .keytab => "keytab"

def ofName? (s : String) : Option Source :=
  [ambient, ticketCache, keytab].find? fun source => source.name == s

end Source

/-- How an action switches to its identity. -/
inductive AuthenticationMethod
  /-- The body runs as a guest, for its own extent only. -/
  | impersonation
  /-- The login identity of the process is replaced and restored afterwards. -/
  | login
  deriving DecidableEq, Repr

namespace AuthenticationMethod

def name : AuthenticationMethod → String
  | .impersonation => "IMPERSONATION"
  | .login => "LOGIN"

def ofName? (s : String) : Option AuthenticationMethod :=
  [impersonation, login].find? fun method => method.name == s

end AuthenticationMethod

/-- An authenticated principal. -/
structure Identity where
  principal : String
  source : Source
  /-- The credential cache that backs the identity. -/
  cache : Option Path
  /-- The delegation tokens that the identity can use. -/
  tokens : Option Path
  acquiredAt : Time.Timestamp
  deriving DecidableEq, Inhabited

namespace Identity

/-- Equality of identities, paths compared by their components. -/
def same (a b : Identity) : Bool :=
  a.principal == b.principal && a.source == b.source && Path.sameOption a.cache b.cache &&
    Path.sameOption a.tokens b.tokens && a.acquiredAt == b.acquiredAt

/-- The principal without realm and instance. -/
def shortName (identity : Identity) : String :=
  let name := match Text.splitFirst? '@' identity.principal with
    | some (name, _) => name
    | none => identity.principal
  match Text.splitFirst? '/' name with
  | some (name, _) => name
  | none => name

def realm? (identity : Identity) : Option String :=
  (Text.splitFirst? '@' identity.principal).map Prod.snd

/-- Whether anything was authenticated. -/
def isAuthenticated (identity : Identity) : Bool :=
  identity.source != .ambient

end Identity

/-- Whom to authenticate as, and with which credential. -/
structure PrincipalSpec where
  principal : String
  ticketCache : Option Path
  keytab : Option Path
  deriving DecidableEq

namespace PrincipalSpec

/-- A request of raw values: each is trimmed, and a blank one counts as absent. -/
def ofRaw (principal ticketCache keytab : Option String) : PrincipalSpec where
  principal := (Text.trimmed? principal).getD ""
  ticketCache := (Text.trimmed? ticketCache).map Path.mk
  keytab := (Text.trimmed? keytab).map Path.mk

/-- Whether nothing is asked for that could be authenticated. -/
def usesAmbient (spec : PrincipalSpec) : Bool :=
  spec.ticketCache.isNone && (spec.keytab.isNone || spec.principal.isEmpty)

end PrincipalSpec

end ActionLauncher

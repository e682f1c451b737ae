import ActionLauncher.Configuration
import ActionLauncher.Identity
import ActionLauncher.Properties
import ActionLauncher.SecurityError

namespace ActionLauncher

structure LoginSettings where
  /-- The file that describes the realms. -/
  realmConf : Option Path
  /-- Whether the tools trace what they do. -/
  debug : Bool
  deriving DecidableEq, Repr, Inhabited

namespace LoginSettings

def none : LoginSettings :=
  ⟨Option.none, false⟩

def ofProperties (props : Properties) : LoginSettings :=
  ⟨props.realmConf?, props.realmDebug⟩

end LoginSettings

/-- What a provider is asked for. -/
inductive LoginRequest
  | keytab (principal : String) (path : Path) (settings : LoginSettings)
  | ticketCache (principal : String) (path : Path) (settings : LoginSettings)
  | ambient
  deriving DecidableEq

/-- How a log record is graded. -/
inductive Level
  | debug
  | warn
  | error
  deriving DecidableEq, Repr

/-- A log record. -/
structure Record where
  level : Level
  message : String
  fields : List (String × String)
  /-- Whether it belongs to a run. -/
  tagged : Bool
  deriving DecidableEq, Repr

/-- How a panic reaches the one who catches it: with a text, or with something else. -/
inductive Panic
  | text (message : String)
  | other
  deriving DecidableEq, Repr

namespace Panic

def message? : Panic → Option String
  | .text message => some message
  | .other => none

/-- The text of a panic, or one that stands for it. -/
def describe (panic : Panic) : String :=
  panic.message?.getD "unknown panic payload"

end Panic

/-- How a scope ended. -/
inductive ScopeResult
  | finished (method : AuthenticationMethod)
  | bodyFailed (message : String)
  | refused (cause : SecurityError)
  | panicked (panic : Panic)
  deriving DecidableEq

/-- What a scripted body observes. -/
inductive Observation
  | identity (identity : Identity)
  | config (config : Configuration)
  | current (identity : Identity)
  | login (identity : Identity)
  | guest (identity : Option Identity)
  | tree (files : List String)
  | acquire (result : Except SecurityError Identity) (config : Option Configuration)
  | scope (result : ScopeResult)
  | args (args : List String)
  | properties (entries : List (String × String))
  | outputs (entries : List (String × String))
  | get (value : Option String)
  | context (values : List (String × Option String)) (tags : List (String × String))
  | command (program : String) (environment : List (String × String))
  | printContext (records : List Record)

inductive JournalEntry
  | asked (request : LoginRequest)
  | released (identity : Identity)
  | observed (observation : Observation)

end ActionLauncher

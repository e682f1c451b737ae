import ActionLauncher.FileTree
import ActionLauncher.Stage

namespace ActionLauncher

/-- Why an identity could not be acquired. -/
inductive SecurityError
  | missing (key : String)
  | authentication (principal reason : String)
  | commandNotFound (name : String)
  | io (cause : IoError)
  deriving DecidableEq, Repr

namespace SecurityError

def message : SecurityError → String
  | .missing key => "Required configuration missing: " ++ key
  | .authentication principal reason =>
      "Authentication failed for '" ++ principal ++ "': " ++ reason
  | .commandNotFound name => "Command not found: " ++ name
  | .io cause => "IO error: " ++ cause.message

/-- The error as a login of a principal reports it: whatever is neither a failed authentication
nor a missing configuration becomes a failed authentication for that reason. -/
def asLoginOf (principal : String) : SecurityError → SecurityError
  | .missing key => .missing key
  | .authentication p reason => .authentication p reason
  | e => .authentication principal e.message

end SecurityError

/-- Why a run ended without success. -/
inductive ActionError
  | security (cause : SecurityError)
  /-- The body failed; the message is its own. -/
  | execution (message : String)
  | transition (cause : TransitionError)
  deriving DecidableEq, Repr

namespace ActionError

def message : ActionError → String
  | .security cause => "Security error: " ++ cause.message
  | .execution message => message
  | .transition cause => cause.message

/-- The exit code that the launcher ends with. -/
def exitCode : ActionError → Nat
  | .execution _ | .transition _ => 1
  | .security _ => 2

def isExecution : ActionError → Bool
  | .execution _ => true
  | _ => false

end ActionError

end ActionLauncher

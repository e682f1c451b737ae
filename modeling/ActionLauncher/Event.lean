import ActionLauncher.Time.Timestamp
import ActionLauncher.Uuid

namespace ActionLauncher

inductive Event
  /-- The run moved from one stage to another. -/
  | stageChanged (run : Uuid) (source target : String)
  /-- The location of the delegation tokens went into the configuration. -/
  | credentialsPropagated (location : String)
  /-- The login identity of the process was replaced. -/
  | identitySwitched (principal previous : String)
  /-- The login identity from before the session was put back. -/
  | identityRestored (principal : String)
  /-- The output sheet was flushed, or there was nothing to flush. -/
  | outputsFlushed (run : Uuid) (count : UInt64) (path : Option String) (written : Bool)
  | actionFinished (run : Uuid) (action : String) (success : Bool) (exitCode : Int32)
  | error (message : String) (context : Option String)
  deriving DecidableEq

namespace Event

def kind : Event → String
  | .stageChanged .. => "stage.changed"
  | .credentialsPropagated .. => "credentials.propagated"
  | .identitySwitched .. => "identity.switched"
  | .identityRestored .. => "identity.restored"
  | .outputsFlushed .. => "outputs.flushed"
  | .actionFinished .. => "action.finished"
  | .error .. => "error"

def run? : Event → Option Uuid
  | .stageChanged run .. | .outputsFlushed run .. | .actionFinished run .. => some run
  | _ => none

end Event

/-- An event with an identifier of its own and the time at which it was published. -/
structure Envelope where
  id : Uuid
  timestamp : Time.Timestamp
  event : Event
  deriving DecidableEq

end ActionLauncher

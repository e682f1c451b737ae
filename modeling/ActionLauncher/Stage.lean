namespace ActionLauncher

/-- A stage of a run. -/
inductive Stage
  | init
  | configResolved
  | credentialsPropagated
  | scopeEntered
  | loggerInitialized
  | running
  | succeeded
  | failed
  | outputsFlushed
  | done
  deriving DecidableEq, Repr, Inhabited

namespace Stage

def name : Stage → String
  | .init => "init"
  | .configResolved => "config_resolved"
  | .credentialsPropagated => "credentials_propagated"
  | .scopeEntered => "scope_entered"
  | .loggerInitialized => "logger_initialized"
  | .running => "running"
  | .succeeded => "succeeded"
  | .failed => "failed"
  | .outputsFlushed => "outputs_flushed"
  | .done => "done"

def all : List Stage :=
  [.init, .configResolved, .credentialsPropagated, .scopeEntered, .loggerInitialized, .running,
    .succeeded, .failed, .outputsFlushed, .done]

def ofName? (s : String) : Option Stage :=
  all.find? fun stage => stage.name == s

/-- Whether the run has its outcome, so that the body can no longer start. -/
def hasOutcome : Stage → Bool
  | .succeeded | .failed | .outputsFlushed | .done => true
  | _ => false

/-- The next stage of a run that goes well. -/
def next? : Stage → Option Stage
  | .init => some .configResolved
  | .configResolved => some .credentialsPropagated
  | .credentialsPropagated => some .scopeEntered
  | .scopeEntered => some .loggerInitialized
  | .loggerInitialized => some .running
  | .running => some .succeeded
  | .succeeded | .failed => some .outputsFlushed
  | .outputsFlushed => some .done
  | .done => none

/-- Whether a run may move from one stage to another. -/
def allows (source target : Stage) : Bool :=
  source.next? == some target || (!source.hasOutcome && target == .failed)

end Stage

/-- A move that no run makes. -/
structure TransitionError where
  source : Stage
  target : Stage
  deriving DecidableEq, Repr

def TransitionError.message (e : TransitionError) : String :=
  "Invalid lifecycle transition from " ++ e.source.name ++ " to " ++ e.target.name

def Stage.check (source target : Stage) : Except TransitionError Unit :=
  if source.allows target then .ok () else .error ⟨source, target⟩

end ActionLauncher

import ActionLauncher.Context
import ActionLauncher.Propagator
import ActionLauncher.Resolver
import ActionLauncher.Scope
import ActionLauncher.Time.LongDate

namespace ActionLauncher

/-- What is run. -/
structure Action where
  name : String
  /-- Whether the tools trace where the properties do not say. -/
  realmDebug : Bool
  body : Context → List String → Launch (Except String Unit)

/-- What an action that does not choose says of tracing. -/
def Action.defaultDebug : Bool :=
  true

/-- With what actions are run. -/
structure Runner where
  provider : Provider
  resolver : Resolver
  propagator : Propagator
  properties : Properties
  announce : Bool

namespace Runner

def advance (announce : Bool) (target : Stage) : Launch (Except TransitionError Unit) := do
  match (← get).stages.advance target with
  | .error e => return .error e
  | .ok (stages, event) =>
      Launch.publish announce event
      modify fun world => { world with stages := stages }
      return .ok ()

/-- Moves the run to failure, unless it has its outcome. -/
def fail (announce : Bool) : Launch Unit := do
  match (← get).stages.fail? with
  | none => pure ()
  | some (stages, event) =>
      Launch.publish announce event
      modify fun world => { world with stages := stages }

/-- Moves the run to another stage; a move that runs do not make ends the run. -/
def reach (announce : Bool) (target : Stage) : ExceptT ActionError Launch Unit :=
  ExceptT.mk do
    return (← advance announce target).mapError .transition

/-- The authentication method that the properties name: impersonation where they name none, and
login, with a warning, where they name one that does not exist. -/
def method (props : Properties) : Launch AuthenticationMethod := do
  match props.get? Names.authenticationMethod with
  | none => return .impersonation
  | some name =>
      match AuthenticationMethod.ofName? name with
      | some method => return method
      | none =>
          Launch.warn "Unknown authentication method"
          return .login

/-- Whom a run authenticates as: principal and keytab come from the properties or else from the
configuration, the ticket cache from the properties only. -/
def spec (props : Properties) (config : Configuration) : PrincipalSpec :=
  .ofRaw (propertyOrConfig? props config Names.principal) (props.get? Names.ticketCache)
    (propertyOrConfig? props config Names.keytab)

/-- The properties with the action's own choice of tracing where they have none. -/
def withDebug (props : Properties) (action : Action) : Properties :=
  if (props.get? Names.realmDebug).isSome then props
  else props.insert Names.realmDebug (if action.realmDebug then "true" else "false")

/-- What a run has settled by the time it acquires its identity. -/
structure Plan where
  properties : Properties
  config : Configuration
  method : AuthenticationMethod

def Plan.spec (plan : Plan) : PrincipalSpec :=
  Runner.spec plan.properties plan.config

def Plan.scope (plan : Plan) (runner : Runner) : Scope :=
  ⟨⟨runner.provider, .ofProperties plan.properties⟩, plan.method, runner.announce⟩

/-- The stages of a run up to the acquisition of its identity. -/
def prepare (runner : Runner) (action : Action) (base : Configuration) :
    ExceptT ActionError Launch Plan := do
  let resolution :=
    runner.resolver.resolve (← get).files base runner.properties.confDir?
  resolution.warnings.forM fun message => (Launch.warn message : Launch Unit)
  reach runner.announce .configResolved
  let (location, props, config) ←
    (runner.propagator.propagate runner.properties resolution.config : Launch _)
  match location with
  | some location => Launch.publish runner.announce (.credentialsPropagated location)
  | none => pure ()
  reach runner.announce .credentialsPropagated
  let props := withDebug props action
  let method ← (method props : Launch _)
  return ⟨props, config, method⟩

/-- The stages of a run between its identity and its body. -/
def approach (runner : Runner) (props : Properties) (identity : Identity)
    (config : Configuration) : ExceptT ActionError Launch Context := do
  reach runner.announce .scopeEntered
  let diagnostics := Diagnostics.ofIds props.workflowId? (config.nonBlank? Names.workflowName)
    props.actionId? (some identity.principal)
  modify fun world => { world with span := diagnostics.tags }
  reach runner.announce .loggerInitialized
  reach runner.announce .running
  return ⟨config, identity, props, diagnostics⟩

/-- Records how the body of a run ended. -/
def conclude (runner : Runner) : Except String Unit → ExceptT ActionError Launch Unit
  | .ok _ => reach runner.announce .succeeded
  | .error message => do
      Launch.reportError "Action failed"
      fail runner.announce
      throw (.execution message)

/-- The part of a run that goes on under the identity. -/
def runBody (runner : Runner) (action : Action) (args : List String) (props : Properties)
    (identity : Identity) (config : Configuration) : ExceptT ActionError Launch Unit := do
  let context ← runner.approach props identity config
  runner.conclude (← (action.body context args : Launch _))

/-- The stages of a run up to its outcome. -/
def runStages (runner : Runner) (action : Action) (base : Configuration) (args : List String) :
    ExceptT ActionError Launch Unit := do
  let plan ← runner.prepare action base
  let ending ← ((plan.scope runner).run plan.spec plan.config fun identity config =>
    (runner.runBody action args plan.properties identity config).run : Launch _)
  match ending with
  | .error cause => throw (.security cause)
  | .ok outcome => MonadExcept.ofExcept outcome

/-- The outcome that a settled run has; a panic counts as a failure of the body. -/
def outcome : Except Panic (Except ActionError Unit) → Except ActionError Unit
  | .ok outcome => outcome
  | .error panic => .error (.execution ("action panicked: " ++ panic.describe))

/-- Reports an outcome without success. -/
def reportFailure (runner : Runner) (action : Action) (e : ActionError) : Launch Unit := do
  if !e.isExecution then
    Launch.reportError "Action aborted before its body ran"
    Launch.publish runner.announce (.error e.message
      (some (action.name ++ " aborted at " ++ (← get).stages.current.name)))
  fail runner.announce

/-- Reports how a run ended, unless it ended well. -/
def report (runner : Runner) (action : Action) (ending : Except Panic (Except ActionError Unit)) :
    Launch Unit := do
  match ending with
  | .ok _ => pure ()
  | .error _ => Launch.reportError "Action panicked"
  match outcome ending with
  | .ok _ => pure ()
  | .error e => runner.reportFailure action e

/-- Writes the output sheet if anything was set; returns whether it was written. -/
def flush (path : Option Path) : Launch Bool := do
  let sheet := (← get).outputs
  if sheet.size = 0 then return false
  else
    let date := (← Launch.now).longDate
    match sheet.writeTo? date (← get).files path with
    | .ok files =>
        modify fun world => { world with files := files }
        return true
    | .error _ =>
        Launch.reportError "Output properties not written"
        return false

/-- Flushes the output sheet and ends the run. -/
def finish (runner : Runner) (action : Action) (result : Except ActionError Unit) :
    Launch Unit := do
  let path := runner.properties.outputPath?
  let written ← flush path
  match ← advance runner.announce .outputsFlushed with
  | .ok _ => pure ()
  | .error _ => Launch.warn "Unexpected lifecycle stage at flush"
  let run := (← get).stages.run
  Launch.publish runner.announce (.outputsFlushed run (UInt64.ofNat (← get).outputs.size)
    (path.map Path.text) written)
  match ← advance runner.announce .done with
  | .ok _ => pure ()
  | .error _ => Launch.warn "Unexpected lifecycle stage at completion"
  let (success, code) := match result with
    | .ok _ => (true, 0)
    | .error e => (false, e.exitCode)
  Launch.publish runner.announce (.actionFinished run action.name success (Int32.ofNat code))

/-- Starts a run: it has an identifier of its own, and log records belong to it. -/
def start : Launch Unit := do
  let run ← Launch.freshId
  modify fun world =>
    { world with stages := .start run, outputs := .empty, inRun := true, span := [] }

/-- Runs an action on top of a base configuration.  A panic goes on once the run is finished. -/
def run (runner : Runner) (action : Action) (base : Configuration) (args : List String) :
    Launch (Except ActionError Unit) := do
  start
  let ending ← Launch.settle (runner.runStages action base args).run
  runner.report action ending
  runner.finish action (outcome ending)
  modify fun world => { world with inRun := false }
  Launch.resume ending

def exitCode : Except ActionError Unit → Nat
  | .ok _ => 0
  | .error e => e.exitCode

end Runner

end ActionLauncher

import ActionLauncher.Context
import ActionLauncher.Scope

namespace ActionLauncher

/-- One thing that a body does. -/
inductive Operation
  | identity
  | config
  | current
  | login
  | guest
  | tree
  | acquire (spec : PrincipalSpec) (config : Option Configuration)
  | setLogin (identity : Identity)
  | fail (message : String)
  | panic (cause : Panic)
  | args
  | properties
  | outputs
  | get (key : String)
  | setOutput (key value : String)
  | context
  | command (program : String)
  | printContext

/-- What a scope is entered with. -/
structure Entry where
  method : AuthenticationMethod
  spec : PrincipalSpec
  config : Configuration
  silent : Bool

/-- What a body does, in order. -/
inductive Body
  | done
  | act (operation : Operation) (next : Body)
  | enter (entry : Entry) (inner next : Body)
  deriving Inhabited

/-- Where a body runs: how it acquires identities, whether it announces them, and the run that it
belongs to, with its arguments. -/
structure Surroundings where
  acquirer : Acquirer
  announce : Bool
  run : Option (Context × List String)

/-- The end of a body: its own failure has a message. -/
abbrev BodyEnd : Type :=
  Except String Unit

namespace ScopeResult

def ofEnd (method : AuthenticationMethod) :
    Except Panic (Except SecurityError BodyEnd) → ScopeResult
  | .error panic => .panicked panic
  | .ok (.error cause) => .refused cause
  | .ok (.ok (.error message)) => .bodyFailed message
  | .ok (.ok (.ok _)) => .finished method

end ScopeResult

namespace Body

/-- Writes an observation into the journal. -/
def observe (observation : Observation) : Launch BodyEnd := do
  Launch.note (.observed observation)
  return .ok ()

/-- Does something with the run that the body belongs to, if there is one. -/
def inRun (surroundings : Surroundings) (f : Context → List String → Launch BodyEnd) :
    Launch BodyEnd :=
  match surroundings.run with
  | some (context, args) => f context args
  | none => return .ok ()

def perform (surroundings : Surroundings) (identity : Identity) (config : Configuration) :
    Operation → Launch BodyEnd
  | .identity => observe (.identity identity)
  | .config => observe (.config config)
  | .current => do observe (.current (← get).current)
  | .login => do observe (.login (← get).login)
  | .guest => do observe (.guest (← get).guest)
  | .tree => do observe (.tree (← get).files.fileNames)
  | .acquire spec config => do
      let acquisition ← surroundings.acquirer.acquire spec config
      observe (.acquire acquisition.result acquisition.config)
  | .setLogin identity => do
      discard (Launch.swapLogin identity)
      return .ok ()
  | .fail message => return .error message
  | .panic cause => throw cause
  | .args => inRun surroundings fun _ args => observe (.args args)
  | .properties => inRun surroundings fun context _ =>
      observe (.properties context.properties.entries)
  | .outputs => do observe (.outputs (← get).outputs.entries)
  | .get key => inRun surroundings fun context _ => observe (.get (context.get? key))
  | .setOutput key value => do
      Launch.setOutput key value
      return .ok ()
  | .context => inRun surroundings fun context _ =>
      observe (.context context.values context.diagnostics.tags)
  | .command program => inRun surroundings fun context _ =>
      observe (.command program (Table.ofList context.childEnvironment).sorted)
  | .printContext => inRun surroundings fun context _ => do
      observe (.printContext (← context.print))

/-- Runs a body under an identity.  A scope that it enters may end in whatever way, the body goes
on. -/
def run (surroundings : Surroundings) (identity : Identity) (config : Configuration) :
    Body → Launch BodyEnd
  | .done => return .ok ()
  | .act operation next => do
      match ← perform surroundings identity config operation with
      | .error message => return .error message
      | .ok _ => next.run surroundings identity config
  | .enter entry inner next => do
      let scope : Scope :=
        ⟨surroundings.acquirer, entry.method, surroundings.announce && !entry.silent⟩
      let ending ← Launch.settle (scope.run entry.spec entry.config fun identity config =>
        inner.run surroundings identity config)
      Launch.note (.observed (.scope (.ofEnd entry.method ending)))
      next.run surroundings identity config

end Body

end ActionLauncher

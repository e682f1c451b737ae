import ActionLauncher.CommandLine.Actions
import ActionLauncher.CommandLine.Reader
import ActionLauncher.Configuration.Wire
import ActionLauncher.Provider.Kerberos
import ActionLauncher.Provider.Simple

namespace ActionLauncher.CommandLine

def versionText : String :=
  "secured-action 0.1.0"

def helpLines : List String :=
  ["Run workflow actions under a secured identity", "",
    "Usage: secured-action [OPTIONS] <COMMAND>", "",
    "Commands:",
    "  run <ACTION> [ARGS]...  Run list-dir, whoami or exec under the secured lifecycle",
    "  config [--json]         Print the resolved effective configuration", "",
    "Options:",
    "  -D <KEY=VALUE>              Base configuration entry",
    "  -P, --property <KEY=VALUE>  System property, overriding the environment",
    "      --provider <PROVIDER>   How identities are authenticated: kerberos or simple",
    "  -h, --help                  Print help",
    "  -V, --version               Print version"]

namespace Invocation

/-- The system properties: those that the environment gives and, over them, the ones given. -/
def systemProperties (invocation : Invocation) (environment : Table) : Properties :=
  invocation.properties.foldl (fun props (key, value) => props.insert key value)
    (.ofEnvironment environment)

def base (invocation : Invocation) : Configuration :=
  .ofList invocation.definitions

def temporaryDir (environment : Table) : Path :=
  ⟨(environment.get? "TMPDIR").getD "/tmp"⟩

/-- The chosen provider; the tools are looked up on the search path. -/
def chosenProvider (invocation : Invocation) (world : World) : Provider :=
  match invocation.provider with
  | .simple => .simple
  | .kerberos =>
      (KerberosTools.located world.files ((world.environment.get? "PATH").getD "")
        (temporaryDir world.environment)).provider

/-- The runner that the properties and the environment describe. -/
def runner (invocation : Invocation) (world : World) : Runner where
  provider := invocation.chosenProvider world
  resolver := .ofEnvironment (invocation.systemProperties world.environment) world.environment
    world.files
  propagator := .ofEnvironment world.osEnvironment
  properties := invocation.systemProperties world.environment
  announce := false

/-- Runs an action as the ambient identity; returns the exit code. -/
def launch (invocation : Invocation) (action : BuiltIn) (args : List String) : Launch Nat := do
  let runner := invocation.runner (← get)
  match ← runner.provider.ambient with
  | .error _ => return 1
  | .ok identity =>
      discard (Launch.swapLogin identity)
      return Runner.exitCode (← runner.run action.action invocation.base args)

/-- The configuration that an action would see. -/
def resolution (invocation : Invocation) (world : World) : Resolution :=
  let runner := invocation.runner world
  runner.resolver.resolve world.files invocation.base runner.properties.confDir?

/-- A resolution in JSON, the keys in order. -/
def resolutionJson (resolution : Resolution) : Json :=
  .ofMembers [("config", .ofMembers (resolution.config.sorted.map fun (key, value) =>
      (key, .text value))),
    ("source", .text resolution.source.describe)]

def resolutionLines (json : Bool) (resolution : Resolution) : List String :=
  if json then [(resolutionJson resolution).renderIndented]
  else ("# " ++ resolution.source.describe) ::
    resolution.config.sorted.map fun (key, value) => key ++ "=" ++ value

/-- Does what is asked for; returns the exit code. -/
def perform (invocation : Invocation) : Launch Nat := do
  match invocation.command with
  | .run action args => invocation.launch action args
  | .showConfig json =>
      printLines (resolutionLines json (invocation.resolution (← get)))
      return 0

end Invocation

/-- Ends without an invocation; returns the exit code. -/
def Ending.perform : Ending → Launch Nat
  | .help => do
      printLines helpLines
      return 0
  | .version => do
      printLines [versionText]
      return 0
  | .refused _ => return 2

/-- Runs the launcher with some arguments; returns the exit code. -/
def run (args : List String) : Launch Nat :=
  match read args with
  | .ok invocation => invocation.perform
  | .error ending => ending.perform

end ActionLauncher.CommandLine

import ActionLauncher.Text.Quoted
import ActionLauncher.World

namespace ActionLauncher

/-- The reason why the environment cannot hold a variable. -/
def Launch.variableFault? (name value : String) : Option IoError :=
  if name.toList.contains '\x00' || value.toList.contains '\x00' then some .nulInPath
  else if name.isEmpty || name.toList.contains '=' then some .invalidArgument
  else none

/-- Sets a property, and the environment variable that belongs to it.  A variable that the
environment cannot hold is a panic. -/
def Launch.exportProperty (props : Properties) (key value : String) : Launch Properties := do
  let name := Properties.variableName key
  match Launch.variableFault? name value with
  | some fault => throw (.text ("failed to set environment variable `" ++ Text.quotedName name ++
      "` to `" ++ Text.quotedName value ++ "`: " ++ fault.message))
  | none =>
      Launch.setVariable name value
      return props.insert key value

/-- Hands on the tokens in a file, if there is one.  Its path need not be a text. -/
structure Propagator where
  tokenFile : Option OsText
  deriving Inhabited

namespace Propagator

/-- An empty path counts as no file. -/
def ofFile (tokenFile : Option OsText) : Propagator :=
  ⟨tokenFile.filter fun path => !path.isEmpty⟩

def ofPath (tokenFile : Option Path) : Propagator :=
  .ofFile (tokenFile.map fun path => .text path.text)

/-- The tokens that the environment names. -/
def ofEnvironment (environment : Environment) : Propagator :=
  .ofFile (environment.get? Names.tokenFileVariable)

/-- The location of the tokens, as it is shown. -/
def location? (propagator : Propagator) : Option String :=
  propagator.tokenFile.map OsText.display

/-- Hands the location on; returns it with the properties and the configuration. -/
def propagate (propagator : Propagator) (props : Properties) (config : Configuration) :
    Launch (Option String × Properties × Configuration) := do
  match propagator.location? with
  | none => return (none, props, config)
  | some location =>
      let props ← Names.credentialKeys.foldlM
        (fun props key => Launch.exportProperty props key location) props
      let config := Names.credentialKeys.foldl
        (fun config key => config.insert key location) config
      return (some location, props, config)

end Propagator

end ActionLauncher

import ActionLauncher.CommandLine.Invocation
import ActionLauncher.Runner
import ActionLauncher.Spawn

namespace ActionLauncher.CommandLine

def printLines (lines : List String) : Launch Unit :=
  Launch.print (Utility.lineBytes lines)

/-- Lists a directory, the working directory unless one is named. -/
def listDirectory (_ : Context) (args : List String) : Launch (Except String Unit) := do
  let dir : Path := ⟨args.head?.getD "."⟩
  match (← get).files.listDirectory dir with
  | .error _ => return .error ("Failed to list " ++ dir.text)
  | .ok names =>
      printLines (names.mergeSort fun a b => !decide (b < a))
      Launch.setOutput "entries" (Text.decimal names.length)
      return .ok ()

def reportIdentity (context : Context) (_ : List String) : Launch (Except String Unit) := do
  discard context.print
  let identity := context.identity
  printLines [identity.principal ++ " (" ++ identity.source.name ++ ")"]
  Launch.setOutput "user.name" identity.principal
  return .ok ()

/-- The number that stands for the end of a process; a process that was killed has none of its
own. -/
def codeText (status : ExitStatus) : String :=
  match status.code? with
  | some code => Text.decimal code
  | none => "-1"

/-- Runs a program with the credentials of the run. -/
def startProgram (context : Context) (args : List String) : Launch (Except String Unit) := do
  match args with
  | [] => return .error "exec needs a program to run"
  | program :: rest =>
      match ← Launch.spawn ⟨program⟩ rest context.childEnvironment with
      | .error _ => return .error ("Failed to start " ++ program)
      | .ok output =>
          Launch.print output.stdout
          Launch.setOutput "exit.code" (codeText output.status)
          if output.status.isSuccess then return .ok ()
          else return .error (program ++ " exited with " ++ output.status.describe)

def BuiltIn.body : BuiltIn → Context → List String → Launch (Except String Unit)
  | .listDir => listDirectory
  | .whoami => reportIdentity
  | .exec => startProgram

/-- An action that can be run; none of them has the tools traced. -/
def BuiltIn.action (builtIn : BuiltIn) : Action :=
  ⟨builtIn.name, false, builtIn.body⟩

end ActionLauncher.CommandLine

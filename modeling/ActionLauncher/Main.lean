import ActionLauncher.CommandLine.Snapshot
import Std.Time.DateTime.Timestamp

namespace ActionLauncher

/-- The environment, as far as a launch reads it. -/
def readEnvironment : IO Table := do
  let entries ← CommandLine.variableNames.filterMapM fun name => do
    return (← IO.getEnv name).map fun value => (name, value)
  return .ofList entries

/-- The tree with those of some files that are there, be they open to reading or not. -/
def readFiles (tree : FileTree) (paths : List Path) : IO FileTree :=
  paths.foldlM (fun tree path => do
    try
      let content ← IO.FS.readBinFile path.text
      return tree.supply path (.file content.toList none)
    catch
      | .permissionDenied .. => return tree.supply path (.sealed [])
      | _ => return tree) tree

def readClock : IO Time.Timestamp := do
  return .ofSeconds (← Std.Time.Timestamp.now).toSecondsSinceUnixEpoch.val

def readChance : IO Uuid := do
  let bytes ← IO.getRandomBytes 16
  return .ofNat (bytes.toList.foldl (fun n byte => 256 * n + byte.toNat) 0)

/-- The world of the process, as far as an invocation reads it. -/
def readWorld (invocation : CommandLine.Invocation) : IO World := do
  let environment ← readEnvironment
  let user := (← IO.getEnv "USER").getD ""
  let here := (Text.splitAll '/' ((← IO.getEnv "PWD").getD "/")).filter (!·.isEmpty)
  let tree ← readFiles (Utility.install (.ofWorkingDir here))
    (invocation.resourceFiles environment)
  let world := World.start tree environment user default (← readClock) (← readChance)
  return { world with files := ← readFiles tree (invocation.credentialFiles world) }

/-- Writes the output sheet where the launch wrote one. -/
def writeOutputs (invocation : CommandLine.Invocation) (world : World) : IO Unit :=
  match (invocation.systemProperties world.environment).outputPath? with
  | none => pure ()
  | some path =>
      match world.files.readText path with
      | .ok text => IO.FS.writeFile path.text text
      | .error _ => pure ()

/-- Carries out what a launch left; returns the exit code.  A panic has a code of its own. -/
def carryOut (launch : Launch Nat) (world : World) : IO (UInt32 × World) := do
  let (code, world) := match launch world with
    | .ok code world => (code, world)
    | .error _ world => (101, world)
  (← IO.getStdout).write ⟨world.stdout.toArray⟩
  return (UInt32.ofNat code, world)

def launch (invocation : CommandLine.Invocation) : IO UInt32 := do
  let (code, world) ← carryOut invocation.perform (← readWorld invocation)
  writeOutputs invocation world
  return code

def refuse (ending : CommandLine.Ending) : IO UInt32 := do
  match ending with
  | .refused cause => IO.eprintln ("error: " ++ cause.message)
  | _ => pure ()
  let world := World.start (.ofWorkingDir []) ∅ "" default default default
  return (← carryOut ending.perform world).1

end ActionLauncher

def main (args : List String) : IO UInt32 :=
  match ActionLauncher.CommandLine.read args with
  | .ok invocation => ActionLauncher.launch invocation
  | .error ending => ActionLauncher.refuse ending

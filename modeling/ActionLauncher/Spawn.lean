import ActionLauncher.Program.Shell
import ActionLauncher.World

namespace ActionLauncher.Launch

/-- Whether something that is passed to a process holds a NUL, which none can. -/
def holdsNul (program : Path) (args : List String) (additions : List (String × String)) : Bool :=
  let hasNul (s : String) := s.toList.contains '\x00'
  hasNul program.text || args.any hasNul || additions.any fun (name, value) =>
    hasNul name || hasNul value

/-- The greatest number of bytes in an argument, or in a variable with its value. -/
def maxArgumentSize : Nat := 131071

/-- Whether something that is passed to a process is longer than any process takes. -/
def exceedsArgumentSize (args : List String) (environment : Table) : Bool :=
  (args.any fun arg => maxArgumentSize < arg.utf8ByteSize) ||
    environment.entries.any fun (name, value) =>
      maxArgumentSize < name.utf8ByteSize + 1 + value.utf8ByteSize

/-- The credential cache that the arguments of a tool name. -/
def namedCache? : List String → Option Path
  | "-c" :: cache :: _ => some ⟨(Text.after? "FILE:" cache).getD cache⟩
  | _ :: rest => namedCache? rest
  | [] => none

/-- Runs a tool: the call is noted, and the cache that the arguments name is written if the tool
writes one and can. -/
def callTool (tool : Tool) (args : List String) (environment : Table) : Launch Output := do
  modify fun world => { world with
    toolCalls := world.toolCalls ++ [⟨tool.name, args,
      environment.get? Names.realmConfVariable, environment.get? Names.traceVariable⟩] }
  if tool.writesCache then
    match namedCache? args with
    | none => pure ()
    | some cache => modify fun world =>
        match world.files.writeText cache "cache" with
        | .ok files => { world with files := files }
        | .error _ => world
  return tool.reply args

def runProgram (program : Program) (args : List String) (environment : Table) : Launch Output := do
  match program with
  | .tool tool => callTool tool args environment
  | .utility .shell => return Shell.run environment (← get).files args
  | .utility u =>
      return (u.run? ⟨args, environment, (← get).files, []⟩).getD (Utility.printed [])

/-- Starts a program and waits for its end. -/
def spawn (program : Path) (args : List String) (additions : List (String × String)) :
    Launch (Except IoError Output) := do
  if holdsNul program args additions then return .error .nulInArgument
  let world ← get
  let environment := world.environment.insertAll additions
  match world.files.findProgram ((world.environment.get? "PATH").getD "/bin:/usr/bin")
      program with
  | .error cause => return .error cause
  | .ok found =>
      if exceedsArgumentSize args environment then return .error .argumentTooLong
      else return .ok (← runProgram found args environment)

end ActionLauncher.Launch

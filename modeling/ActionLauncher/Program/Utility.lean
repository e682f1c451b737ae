import ActionLauncher.FileTree
import ActionLauncher.Program.Echo
import ActionLauncher.Table

namespace ActionLauncher.Utility

/-- What a program is started with. -/
structure Call where
  args : List String
  environment : Table
  files : FileTree
  input : List UInt8

def bytes (s : String) : List UInt8 :=
  s.toUTF8.toList

/-- The bytes of some lines, each ended by a line feed. -/
def lineBytes (lines : List String) : List UInt8 :=
  lines.flatMap fun line => bytes line ++ [0x0A]

def printed (stdout : List UInt8) : Output :=
  ⟨.exited 0, stdout, []⟩

/-- An end with a complaint and nothing printed. -/
def complaint (code : Nat) (message : String) : Output :=
  ⟨.exited code, [], lineBytes [message]⟩

/-- Prints the values of variables, each with the given end; it fails if one is missing. -/
def printVariables (environment : Table) (ending : List UInt8) (names : List String) : Output :=
  let printed (values : List String) := values.flatMap fun value => bytes value ++ ending
  if names.isEmpty then
    ⟨.exited 0, printed (environment.entries.map fun (name, value) => name ++ "=" ++ value), []⟩
  else
    ⟨.exited (if names.all environment.contains then 0 else 1),
      printed (names.filterMap environment.get?), []⟩

/-- Prints variables as the arguments ask: values end at a NUL after `-0`, else at a line feed. -/
def printEnvironment (environment : Table) (ending : List UInt8) : List String → Output
  | [] => printVariables environment ending []
  | argument :: rest =>
      if argument = "-0" ∨ argument = "--null" then printEnvironment environment [0] rest
      else if argument = "--" then printVariables environment ending rest
      else if "-".toList <+: argument.toList ∧ argument ≠ "-" then
        complaint 2 ("printenv: unknown option " ++ argument)
      else printVariables environment ending (argument :: rest)

/-- The names in a directory that are shown, in the order of code points. -/
def shownNames (names : List String) : List String :=
  (names.filter fun name => name.toList.head? != some '.').mergeSort fun a b => !decide (b < a)

/-- Lists a directory, the working directory unless one is named. -/
def listNames (files : FileTree) (args : List String) : Output :=
  let path : Path := ⟨((args.filter fun arg => arg.toList.head? != some '-').head?).getD "."⟩
  match files.listDirectory path with
  | .ok names => printed (lineBytes (shownNames names))
  | .error .notADirectory => printed (lineBytes [path.text])
  | .error cause => complaint 2 ("ls: cannot access '" ++ path.text ++ "': " ++ cause.message)

/-- Prints files, or the input where none is named. -/
def printFiles (call : Call) : Output :=
  if call.args.isEmpty then printed call.input
  else call.args.foldl (fun output arg =>
    match call.files.stat ⟨arg⟩ with
    | .ok (.file content _) => { output with stdout := output.stdout ++ content }
    | _ => { output with status := .exited 1 }) (printed [])

/-- Counts the lines of the input, or its bytes. -/
def countInput (args : List String) (input : List UInt8) : Output :=
  if args = ["-l"] then printed (lineBytes [toString (input.count 0x0A)])
  else if args = ["-c"] then printed (lineBytes [toString input.length])
  else complaint 1 "wc: invalid option"

def deleteBytes (args : List String) (input : List UInt8) : Output :=
  match args with
  | ["-d", set] => printed (input.filter fun b => !(bytes set).contains b)
  | _ => complaint 1 "tr: missing operand"

/-- Refuses options that it does not know, and any call without a source file. -/
def refuseSources (args : List String) : Output :=
  let known := ["-c", "-o", "-s", "-t", "-l", "-I", "-L", "-E", "-S", "-g", "-w"]
  let unknown := args.filter fun arg => arg.toList.head? == some '-' && !known.contains arg
  if unknown.isEmpty then complaint 1 "cc: fatal error: no input files"
  else ⟨.exited 1, [], lineBytes (unknown.map fun arg =>
    "cc: error: unrecognized command-line option \u2018" ++ arg ++ "\u2019")⟩

/-- Runs a program other than the shell. -/
def run? (utility : Utility) (call : Call) : Option Output :=
  match utility with
  | .succeed => some (printed [])
  | .fail => some ⟨.exited 1, [], []⟩
  | .echo => some (printed (Echo.program call.args))
  | .printenv => some (printEnvironment call.environment [0x0A] call.args)
  | .shell => none
  | .list => some (listNames call.files call.args)
  | .concatenate => some (printFiles call)
  | .count => some (countInput call.args call.input)
  | .transliterate => some (deleteBytes call.args call.input)
  | .compiler => some (refuseSources call.args)

/-- The directories that hold the common programs. -/
def directories : List Path :=
  [⟨"/usr/bin"⟩, ⟨"/bin"⟩]

/-- The tree with the common programs in their directories. -/
def install (tree : FileTree) : FileTree :=
  directories.foldl (fun tree dir => all.foldl (fun tree utility =>
    tree.supply (dir.join ⟨utility.name⟩) (.file [] (some (.utility utility)))) tree) tree

def ofName? (name : String) : Option Utility :=
  all.find? fun utility => utility.name == name

end ActionLauncher.Utility

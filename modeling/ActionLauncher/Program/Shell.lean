import ActionLauncher.Program.Utility

namespace ActionLauncher.Shell

inductive Part
  | char (c : Char)
  /-- Quotes, which make a word even where they hold nothing. -/
  | quotes
  | variable (name : String) (quoted : Bool)
  | status
  | ownId
  deriving DecidableEq, Repr

/-- A token of a script. -/
inductive Token
  | word (parts : List Part)
  | pipe
  | andThen
  | orElse
  | next
  | toErrors
  deriving DecidableEq, Repr

/-- How the characters of a word are taken. -/
inductive Quoting
  | none
  | single
  | double
  deriving DecidableEq, Repr

def isNameChar (c : Char) : Bool :=
  c.isAlphanum || c == '_'

/-- The token of the word read so far, if one was begun. -/
def finished : Option (List Part) → List Token
  | none => []
  | some parts => [.word parts.reverse]

/-- Puts a part at the end of the word that is being read. -/
def extend (word : Option (List Part)) (part : Part) : Option (List Part) :=
  some (part :: word.getD [])

/-- Reads the tokens of a script; `word` holds the parts of the current word in reverse. -/
def scan (quoting : Quoting) (word : Option (List Part)) : List Char → List Token
  | [] => finished word
  | '$' :: rest =>
      if quoting = .single then scan quoting (extend word (.char '$')) rest
      else match rest with
        | '$' :: rest => scan quoting (extend word .ownId) rest
        | '?' :: rest => scan quoting (extend word .status) rest
        | '\x7b' :: rest =>
            have : (rest.dropWhile (· != '\x7d')).length ≤ rest.length :=
              (List.dropWhile_sublist _).length_le
            scan quoting
              (extend word
                (.variable (String.ofList (rest.takeWhile (· != '\x7d'))) (quoting = .double)))
              ((rest.dropWhile (· != '\x7d')).drop 1)
        | rest =>
            have : (rest.dropWhile isNameChar).length ≤ rest.length :=
              (List.dropWhile_sublist _).length_le
            if (rest.takeWhile isNameChar).isEmpty then
              scan quoting (extend word (.char '$')) rest
            else
              scan quoting
                (extend word
                  (.variable (String.ofList (rest.takeWhile isNameChar)) (quoting = .double)))
                (rest.dropWhile isNameChar)
  | '\\' :: c :: rest =>
      if quoting = .single then scan quoting (extend word (.char '\\')) (c :: rest)
      else scan quoting (extend word (.char c)) rest
  | '\'' :: rest =>
      if quoting = .single then scan .none word rest
      else if quoting = .double then scan quoting (extend word (.char '\'')) rest
      else scan .single (extend word .quotes) rest
  | '"' :: rest =>
      if quoting = .double then scan .none word rest
      else if quoting = .single then scan quoting (extend word (.char '"')) rest
      else scan .double (extend word .quotes) rest
  | c :: rest =>
      if quoting ≠ .none then scan quoting (extend word (.char c)) rest
      else if c = ' ' ∨ c = '\t' then finished word ++ scan .none none rest
      else if c = ';' ∨ c = '\n' then finished word ++ .next :: scan .none none rest
      else match c, rest with
        | '&', '&' :: rest => finished word ++ .andThen :: scan .none none rest
        | '|', '|' :: rest => finished word ++ .orElse :: scan .none none rest
        | '|', rest => finished word ++ .pipe :: scan .none none rest
        | '>', '&' :: '2' :: rest => finished word ++ .toErrors :: scan .none none rest
        | c, rest => scan .none (extend word (.char c)) rest
  termination_by s => s.length
  decreasing_by all_goals (simp only [List.length_cons, List.length_drop]; omega)

/-- A command: its words, and whether it prints to the errors. -/
structure Command where
  words : List (List Part)
  toErrors : Bool
  deriving Repr

/-- When a pipeline runs, given how the one before it ended. -/
inductive Condition
  | always
  | afterSuccess
  | afterFailure
  deriving DecidableEq, Repr

/-- Commands joined by pipes, and when they run. -/
structure Pipeline where
  condition : Condition
  commands : List Command
  deriving Repr

/-- Reads pipelines from tokens; `pipeline` holds the commands before the current one. -/
def parse (condition : Condition) (pipeline : List Command) (command : Command) :
    List Token → List Pipeline
  | [] => [⟨condition, pipeline ++ [command]⟩]
  | .word parts :: rest =>
      parse condition pipeline { command with words := command.words ++ [parts] } rest
  | .toErrors :: rest => parse condition pipeline { command with toErrors := true } rest
  | .pipe :: rest => parse condition (pipeline ++ [command]) ⟨[], false⟩ rest
  | .next :: rest => ⟨condition, pipeline ++ [command]⟩ :: parse .always [] ⟨[], false⟩ rest
  | .andThen :: rest =>
      ⟨condition, pipeline ++ [command]⟩ :: parse .afterSuccess [] ⟨[], false⟩ rest
  | .orElse :: rest =>
      ⟨condition, pipeline ++ [command]⟩ :: parse .afterFailure [] ⟨[], false⟩ rest

def pipelines (script : String) : List Pipeline :=
  parse .always [] ⟨[], false⟩ (scan .none none script.toList)

/-- The state of a shell: the code of the last pipeline, what was printed, and how the shell
itself ended. -/
structure State where
  code : Nat
  stdout : List UInt8
  stderr : List UInt8
  ended : Option ExitStatus

/-- The number that a shell knows itself by. -/
def ownId : String := "1"

/-- The words that end in a text, which goes on the word begun before it, and the word that is
begun at its end.  A word that is begun holds its characters in reverse. -/
def cutWords (word : Option (List Char)) : List Char → List String × Option (List Char)
  | [] => ([], word)
  | c :: rest =>
      if c = ' ' ∨ c = '\t' ∨ c = '\n' then
        let (words, last) := cutWords none rest
        ((word.map fun cs => String.ofList cs.reverse).toList ++ words, last)
      else cutWords (some (c :: word.getD [])) rest

/-- The words that the parts of a word make: the value of a variable outside quotes is cut at its
white space. -/
def expand (environment : Table) (code : Nat) (word : Option (List Char)) :
    List Part → List String
  | [] => (word.map fun cs => String.ofList cs.reverse).toList
  | .char c :: rest => expand environment code (some (c :: word.getD [])) rest
  | .quotes :: rest => expand environment code (some (word.getD [])) rest
  | .variable name quoted :: rest =>
      let value := ((environment.get? name).getD "").toList
      if quoted then expand environment code (some (value.reverse ++ word.getD [])) rest
      else
        let (words, last) := cutWords word value
        words ++ expand environment code last rest
  | .status :: rest =>
      expand environment code (some ((Text.decimal code).toList.reverse ++ word.getD [])) rest
  | .ownId :: rest =>
      expand environment code (some (ownId.toList.reverse ++ word.getD [])) rest

/-- The number of a signal given by its number or by its name. -/
def signal? (name : String) : Option Nat :=
  match name.toNat? with
  | some n => some n
  | none => (ExitStatus.signalNames.findIdx? fun s => s == "SIG" ++ name).map (· + 1)

/-- The signal that the arguments of `kill` name, and its target; without a name it is the one
that asks for an end. -/
def killRequest? : List String → Option (Nat × String)
  | [target] => some (15, target)
  | [option, target] => do return (← signal? (← Text.after? "-" option), target)
  | ["-s", name, target] => do return (← signal? name, target)
  | _ => none

def runCommand (environment : Table) (files : FileTree) (input : List UInt8) (state : State)
    (command : Command) : State × List UInt8 :=
  let finish (output : Output) : State × List UInt8 :=
    let state := { state with
      code := (output.status.code?).getD 1, stderr := state.stderr ++ output.stderr }
    if command.toErrors then ({ state with stderr := state.stderr ++ output.stdout }, [])
    else (state, output.stdout)
  match command.words.flatMap (expand environment state.code none) with
  | [] => (state, [])
  | ["exit"] => ({ state with ended := some (.exited state.code) }, [])
  | "exit" :: code :: _ =>
      ({ state with ended := some (.exited ((code.toNat?.getD 2) % 256)) }, [])
  | "kill" :: args =>
      match killRequest? args with
      | some (signal, target) =>
          if target = ownId then ({ state with ended := some (.killed signal) }, [])
          else finish (Utility.complaint 1 "kill: no such process")
      | none => finish (Utility.complaint 1 "kill: bad request")
  | "echo" :: args => finish (Utility.printed (Echo.command args))
  | name :: args =>
      match (Utility.ofName? name).bind fun u => u.run? ⟨args, environment, files, input⟩ with
      | some output => finish output
      | none => finish (Utility.complaint 127 ("sh: 1: " ++ name ++ ": not found"))

/-- Runs the commands of a pipeline, each on what the one before it printed. -/
def runCommands (environment : Table) (files : FileTree) (input : List UInt8) (state : State) :
    List Command → State × List UInt8
  | [] => (state, input)
  | command :: rest =>
      let (state, printed) := runCommand environment files input state command
      if state.ended.isSome then (state, []) else runCommands environment files printed state rest

/-- Runs a pipeline if its time has come. -/
def runPipeline (environment : Table) (files : FileTree) (state : State) (pipeline : Pipeline) :
    State :=
  let due := match pipeline.condition with
    | .always => true
    | .afterSuccess => state.code == 0
    | .afterFailure => state.code != 0
  if state.ended.isSome || !due then state
  else
    let (state, printed) := runCommands environment files [] state pipeline.commands
    { state with stdout := state.stdout ++ printed }

def runScript (environment : Table) (files : FileTree) (script : String) : Output :=
  let state := (pipelines script).foldl (runPipeline environment files) ⟨0, [], [], none⟩
  ⟨state.ended.getD (.exited state.code), state.stdout, state.stderr⟩

/-- Runs the shell with arguments: the script after `-c`. -/
def run (environment : Table) (files : FileTree) (args : List String) : Output :=
  match args with
  | "-c" :: script :: _ => runScript environment files script
  | _ => Utility.printed []

end ActionLauncher.Shell

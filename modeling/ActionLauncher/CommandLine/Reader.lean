import ActionLauncher.CommandLine.Invocation
import ActionLauncher.Text.Split

/-!
Reading a command line.  Options stand before the command or after it; those after it win over the
same ones before it.  Everything from the first argument of an action on belongs to the action, and
so does an unknown option in front of it.
-/

namespace ActionLauncher.CommandLine

/-- Where on the command line an argument stands. -/
inductive Place
  | top
  | config
  | run
  deriving DecidableEq, Repr

/-- An option that takes a value. -/
inductive Setting
  | definition
  | property
  | provider
  deriving DecidableEq, Repr

/-- What the name of an option stands for. -/
inductive Flag
  | setting (setting : Setting)
  | json
  | help
  | version
  deriving DecidableEq, Repr

namespace Place

def long? (place : Place) (name : String) : Option Flag :=
  if name = "property" then some (.setting .property)
  else if name = "provider" then some (.setting .provider)
  else if name = "help" then some .help
  else if name = "version" ∧ place = .top then some .version
  else if name = "json" ∧ place = .config then some .json
  else none

def short? (place : Place) (letter : Char) : Option Flag :=
  if letter = 'D' then some (.setting .definition)
  else if letter = 'P' then some (.setting .property)
  else if letter = 'h' then some .help
  else if letter = 'V' ∧ place = .top then some .version
  else none

end Place

/-- The shapes of an argument. -/
inductive Shape
  /-- A double hyphen alone: no options follow. -/
  | divider
  | long (name : String) (value : Option String)
  | letters (first : Char) (others : List Char)
  | plain
  deriving DecidableEq, Repr

def Shape.of (argument : String) : Shape :=
  match argument.toList with
  | ['-', '-'] => .divider
  | '-' :: '-' :: rest =>
      match Text.Chars.splitFirst? '=' rest with
      | some (name, value) => .long (String.ofList name) (some (String.ofList value))
      | none => .long (String.ofList rest) none
  | '-' :: first :: others => .letters first others
  | _ => .plain

/-- The options given at one place. -/
structure Given where
  definitions : List (String × String)
  properties : List (String × String)
  provider : Option ProviderChoice
  json : Bool
  deriving DecidableEq, Repr

namespace Given

def none : Given :=
  ⟨[], [], Option.none, false⟩

def add (given : Given) (setting : Setting) (value : String) : Except UsageError Given :=
  match setting with
  | .definition =>
      match readAssignment value with
      | .ok entry => .ok { given with definitions := given.definitions ++ [entry] }
      | .error cause => .error (.notAnAssignment cause)
  | .property =>
      match readAssignment value with
      | .ok entry => .ok { given with properties := given.properties ++ [entry] }
      | .error cause => .error (.notAnAssignment cause)
  | .provider =>
      if given.provider.isSome then .error (.repeated "provider")
      else
        match ProviderChoice.ofName? value with
        | some choice => .ok { given with provider := some choice }
        | Option.none => .error (.notAProvider value)

/-- The options of a whole command line: those given after the command win. -/
def overriding (after before : Given) : Given where
  definitions := if after.definitions.isEmpty then before.definitions else after.definitions
  properties := if after.properties.isEmpty then before.properties else after.properties
  provider := after.provider.or before.provider
  json := after.json

end Given

/-- What was read so far. -/
structure Progress where
  place : Place
  /-- The options before the command. -/
  before : Given
  /-- The options at the present place. -/
  given : Given
  /-- The option whose value comes next. -/
  awaiting : Option Setting
  action : Option BuiltIn
  args : List String
  /-- Whether no options follow. -/
  verbatim : Bool

namespace Progress

def start : Progress :=
  ⟨.top, .none, .none, none, none, [], false⟩

def take (progress : Progress) (setting : Setting) (value : String) : Except Ending Progress :=
  match progress.given.add setting value with
  | .ok given => .ok { progress with given := given, awaiting := none }
  | .error cause => .error (.refused cause)

/-- Takes an argument that is neither an option nor its value. -/
def takePlain (progress : Progress) (argument : String) : Except Ending Progress :=
  match progress.place, progress.action with
  | .run, none =>
      match BuiltIn.ofName? argument with
      | some action => .ok { progress with action := some action }
      | none => .error (.refused (.notAnAction argument))
  | .run, some _ => .ok { progress with args := progress.args ++ [argument], verbatim := true }
  | _, _ => .error (.refused (.unexpected argument))

/-- Takes an argument that is no option: the value that is awaited, if one is. -/
def takeValue (progress : Progress) (argument : String) : Except Ending Progress :=
  match progress.awaiting with
  | some setting => progress.take setting argument
  | none => progress.takePlain argument

/-- Takes an option with the value that is attached to it, if one is. -/
def takeFlag (progress : Progress) (flag : Flag) (value : Option String) :
    Except Ending Progress :=
  if progress.awaiting.isSome then .error (.refused .noValue)
  else
    match flag, value with
    | .setting setting, some value => progress.take setting value
    | .setting setting, none => .ok { progress with awaiting := some setting }
    | .json, none =>
        if progress.given.json then .error (.refused (.repeated "json"))
        else .ok { progress with given := { progress.given with json := true } }
    | .help, none => .error .help
    | .version, none => .error .version
    | _, some value => .error (.refused (.unneededValue value))

/-- The value that is attached to a letter. -/
def attached? : List Char → Option String
  | [] => none
  | '=' :: value => some (String.ofList value)
  | value => some (String.ofList value)

/-- Takes options of one letter; the first that takes a value takes the other letters. -/
def takeLetters (progress : Progress) : List Char → Except Ending Progress
  | [] => .ok progress
  | letter :: rest =>
      match progress.place.short? letter with
      | none => .error (.refused (.unexpected (String.ofList ['-', letter])))
      | some (.setting setting) => progress.takeFlag (.setting setting) (attached? rest)
      | some flag =>
          match progress.takeFlag flag none with
          | .ok progress => progress.takeLetters rest
          | .error ending => .error ending

/-- Whether an unknown option belongs to the action. -/
def passesOptions (progress : Progress) : Bool :=
  progress.action.isSome

def takeShape (progress : Progress) (argument : String) : Shape → Except Ending Progress
  | .divider =>
      if progress.awaiting.isSome then .error (.refused .noValue)
      else .ok { progress with verbatim := true }
  | .long name value =>
      match progress.place.long? name with
      | some flag => progress.takeFlag flag value
      | none =>
          if progress.passesOptions then progress.takeValue argument
          else .error (.refused (.unexpected argument))
  | .letters first others =>
      if progress.passesOptions &&
          (first :: others).any (fun letter => (progress.place.short? letter).isNone) then
        progress.takeValue argument
      else progress.takeLetters (first :: others)
  | .plain => progress.takeValue argument

/-- Goes on behind the name of a command. -/
def enter (progress : Progress) (place : Place) : Progress :=
  { progress with place := place, before := progress.given, given := .none }

def step (progress : Progress) (argument : String) : Except Ending Progress :=
  if progress.verbatim then progress.takePlain argument
  else if progress.place = .top ∧ progress.awaiting = none then
    if argument = "run" then .ok (progress.enter .run)
    else if argument = "config" then .ok (progress.enter .config)
    else if argument = "help" then .error .help
    else progress.takeShape argument (.of argument)
  else progress.takeShape argument (.of argument)

def steps (progress : Progress) : List String → Except Ending Progress
  | [] => .ok progress
  | argument :: rest =>
      match progress.step argument with
      | .ok progress => progress.steps rest
      | .error ending => .error ending

/-- The command, once everything was read. -/
def command (progress : Progress) : Except UsageError Command :=
  match progress.awaiting, progress.place, progress.action with
  | some _, _, _ => .error .noValue
  | none, .top, _ => .error .noCommand
  | none, .config, _ => .ok (.showConfig progress.given.json)
  | none, .run, none => .error .noAction
  | none, .run, some action => .ok (.run action progress.args)

/-- The invocation, once everything was read. -/
def finish (progress : Progress) : Except Ending Invocation :=
  match progress.command with
  | .error cause => .error (.refused cause)
  | .ok command =>
      let given := progress.given.overriding progress.before
      .ok ⟨given.definitions, given.properties, given.provider.getD .kerberos, command⟩

end Progress

/-- Reads the arguments of the launcher. -/
def read (args : List String) : Except Ending Invocation :=
  match Progress.start.steps args with
  | .ok progress => progress.finish
  | .error ending => .error ending

end ActionLauncher.CommandLine

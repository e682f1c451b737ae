import ActionLauncher.Assignment

namespace ActionLauncher.CommandLine

/-- The actions that the launcher brings along. -/
inductive BuiltIn
  | listDir
  | whoami
  | exec
  deriving DecidableEq, Repr

namespace BuiltIn

def name : BuiltIn → String
  | .listDir => "list-dir"
  | .whoami => "whoami"
  | .exec => "exec"

def ofName? (s : String) : Option BuiltIn :=
  [listDir, whoami, exec].find? fun action => action.name == s

end BuiltIn

/-- How identities are authenticated. -/
inductive ProviderChoice
  | kerberos
  | simple
  deriving DecidableEq, Repr

namespace ProviderChoice

def name : ProviderChoice → String
  | .kerberos => "kerberos"
  | .simple => "simple"

def ofName? (s : String) : Option ProviderChoice :=
  [kerberos, simple].find? fun choice => choice.name == s

end ProviderChoice

/-- What is to be done. -/
inductive Command
  | run (action : BuiltIn) (args : List String)
  | showConfig (json : Bool)
  deriving DecidableEq, Repr

/-- A command with its options. -/
structure Invocation where
  /-- The base configuration. -/
  definitions : List (String × String)
  /-- System properties on top of those that the environment gives. -/
  properties : List (String × String)
  provider : ProviderChoice
  command : Command
  deriving DecidableEq, Repr

/-- Why a command line is refused. -/
inductive UsageError
  | noCommand
  | noAction
  | noValue
  | notAnAssignment (cause : AssignmentError)
  | notAProvider (value : String)
  | notAnAction (value : String)
  | repeated (name : String)
  | unneededValue (value : String)
  | unexpected (argument : String)
  deriving DecidableEq, Repr

def UsageError.message : UsageError → String
  | .noCommand => "a command is required"
  | .noAction => "an action is required"
  | .noValue => "an option lacks its value"
  | .notAnAssignment cause => cause.message
  | .notAProvider value => "no such provider: " ++ value
  | .notAnAction value => "no such action: " ++ value
  | .repeated name => "option given twice: " ++ name
  | .unneededValue value => "value of an option that takes none: " ++ value
  | .unexpected argument => "unexpected argument: " ++ argument

/-- How reading a command line can end without an invocation. -/
inductive Ending
  | help
  | version
  | refused (cause : UsageError)
  deriving DecidableEq, Repr

end ActionLauncher.CommandLine

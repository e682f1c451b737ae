import ActionLauncher.Names
import ActionLauncher.Path
import ActionLauncher.Table
import ActionLauncher.Text.Blank

namespace ActionLauncher

/-- The system properties of a process. -/
structure Properties where
  table : Table
  deriving DecidableEq, Inhabited

namespace Properties

/-- The properties got by setting the given pairs in order. -/
def ofList (entries : List (String × String)) : Properties :=
  ⟨.ofList entries⟩

/-- The entries in the order of their keys. -/
def entries (props : Properties) : List (String × String) :=
  props.table.sorted

/-- The value as it was set, blank or not. -/
def raw? (props : Properties) (key : String) : Option String :=
  props.table.get? key

/-- The value, a blank one counting as absent. -/
def get? (props : Properties) (key : String) : Option String :=
  Text.nonBlank? (props.raw? key)

def insert (props : Properties) (key value : String) : Properties :=
  ⟨props.table.insert key value⟩

def erase (props : Properties) (key : String) : Properties :=
  ⟨props.table.erase key⟩

def size (props : Properties) : Nat :=
  props.table.size

/-- The environment variable of a property: upper case, with underscores for dots and hyphens. -/
def variableName (key : String) : String :=
  String.ofList (key.toList.map fun c => if c = '.' ∨ c = '-' then '_' else c.toUpper)

def ofEnvironment (environment : Table) : Properties :=
  .ofList (Names.systemProperties.filterMap fun key =>
    (environment.get? (variableName key)).map fun value => (key, value))

def path? (props : Properties) (key : String) : Option Path :=
  (props.get? key).map Path.mk

def confDir? (props : Properties) : Option Path :=
  props.path? Names.confDir

def actionConf? (props : Properties) : Option Path :=
  props.path? Names.actionConf

def outputPath? (props : Properties) : Option Path :=
  props.path? Names.outputProperties

def workflowId? (props : Properties) : Option String :=
  props.get? Names.workflowId

def actionId? (props : Properties) : Option String :=
  props.get? Names.actionId

def ticketCache? (props : Properties) : Option Path :=
  props.path? Names.ticketCache

def realmConf? (props : Properties) : Option Path :=
  props.path? Names.realmConf

/-- Whether the tools are to trace: the property reads `true` in whatever case. -/
def realmDebug (props : Properties) : Bool :=
  match props.get? Names.realmDebug with
  | some value => Text.sameIgnoringCase value "true"
  | none => false

end Properties

end ActionLauncher

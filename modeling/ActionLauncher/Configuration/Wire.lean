import ActionLauncher.Configuration
import ActionLauncher.Json.Reader
import ActionLauncher.Json.Writer

namespace ActionLauncher.Table

def toJson (config : Configuration) : Json :=
  .ofMembers (config.entries.map fun (key, value) => (key, .text value))

def jsonText (config : Configuration) : String :=
  config.toJson.render

def entryOfMember? : Option String × Json → Option (String × String)
  | (some key, .string (some value)) => some (key, value)
  | _ => none

/-- Reads a configuration: its members are set in textual order. -/
def ofJson? : Json → Option Configuration
  | .object members => (members.mapM entryOfMember?).map .ofList
  | _ => none

/-- Reads a configuration from JSON text. -/
def ofText? (s : String) : Option Configuration :=
  (Json.ofText? s).bind ofJson?

end ActionLauncher.Table

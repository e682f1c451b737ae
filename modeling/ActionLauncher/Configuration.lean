import ActionLauncher.Names
import ActionLauncher.Table
import ActionLauncher.Text.Blank
import ActionLauncher.Text.Split

namespace ActionLauncher

abbrev Configuration : Type :=
  Table

namespace Table

/-- The value of a key, a blank one counting as absent. -/
def nonBlank? (config : Configuration) (key : String) : Option String :=
  Text.nonBlank? (config.get? key)

/-- The configuration that a login needs: authentication says Kerberos, in whatever case it
already said so. -/
def forceKerberos (config : Configuration) : Configuration :=
  match config.get? Names.securityAuthentication with
  | some value =>
      if Text.sameIgnoringCase value Names.kerberos then config
      else config.insert Names.securityAuthentication Names.kerberos
  | none => config.insert Names.securityAuthentication Names.kerberos

end Table

end ActionLauncher

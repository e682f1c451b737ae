import ActionLauncher.Text.Blank
import ActionLauncher.Text.Split

namespace ActionLauncher

inductive AssignmentError
  | noEquals (text : String)
  | emptyKey (text : String)
  deriving DecidableEq, Repr

def AssignmentError.message : AssignmentError → String
  | .noEquals text => "Invalid assignment '" ++ text ++ "': expected key=value"
  | .emptyKey text => "Empty key in assignment '" ++ text ++ "'"

/-- Reads an assignment: it is cut at the first equals sign, the key is trimmed and must not be
empty, the value is kept as it is. -/
def readAssignment (s : String) : Except AssignmentError (String × String) :=
  match Text.splitFirst? '=' s with
  | none => .error (.noEquals s)
  | some (key, value) =>
      let key := Text.trim key
      if key.isEmpty then .error (.emptyKey s) else .ok (key, value)

end ActionLauncher

import ActionLauncher.FileTree
import ActionLauncher.SiteXml.Document

namespace ActionLauncher

/-- Why a site document could not be read. -/
inductive ResourceError
  | unreadable (path : Path) (cause : IoError)
  | malformed (reason : String)
  | malformedFile (path : Path) (reason : String)
  deriving DecidableEq, Repr

def ResourceError.message : ResourceError → String
  | .unreadable path cause => "Failed to read resource " ++ path.text ++ ": " ++ cause.message
  | .malformed reason => "Malformed site resource: " ++ reason
  | .malformedFile path reason => "Malformed site resource " ++ path.text ++ ": " ++ reason

namespace Resource

def ofText (text : String) : Except ResourceError Configuration :=
  (SiteXml.read text).mapError fun fault => .malformed fault.reason

def load (files : FileTree) (path : Path) : Except ResourceError Configuration :=
  match files.readText path with
  | .error cause => .error (.unreadable path cause)
  | .ok text => (SiteXml.read text).mapError fun fault => .malformedFile path fault.reason

end Resource

end ActionLauncher

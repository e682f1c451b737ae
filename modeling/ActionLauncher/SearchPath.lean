import ActionLauncher.FileTree
import ActionLauncher.Names
import ActionLauncher.Table

namespace ActionLauncher

/-- Directories in the order in which they are searched. -/
structure SearchPath where
  dirs : List Path
  deriving Repr, Inhabited

namespace SearchPath

/-- The search path without directories. -/
def empty : SearchPath :=
  ⟨[]⟩

/-- Adds a directory at the end, unless it is empty or on the path already. -/
def push (path : SearchPath) (dir : Path) : SearchPath :=
  if dir.isEmpty || path.dirs.any fun d => d.same dir then path
  else ⟨path.dirs ++ [dir]⟩

/-- The search path got by adding some directories in order. -/
def ofList (dirs : List Path) : SearchPath :=
  dirs.foldl push empty

/-- The paths in a list that colons separate. -/
def listed (value : Option String) : List Path :=
  match value with
  | none => []
  | some text => (Text.splitAll ':' text).map Path.mk

/-- The directories that an environment names: those of the variables for configuration
directories, and after them the entries of the class path that are directories. -/
def candidates (environment : Table) (files : FileTree) : List Path :=
  (Names.confDirVariables.flatMap fun name => listed (environment.get? name)) ++
    (listed (environment.get? Names.classPathVariable)).filter files.isDirectory

def ofEnvironment (environment : Table) (files : FileTree) : SearchPath :=
  .ofList (candidates environment files)

/-- The first readable file of a given name. -/
def find? (path : SearchPath) (files : FileTree) (name : String) : Option Path :=
  (path.dirs.map fun dir => dir.join ⟨name⟩).find? files.isReadable

end SearchPath

end ActionLauncher

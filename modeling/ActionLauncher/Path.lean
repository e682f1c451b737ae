import ActionLauncher.Text.Split

/-!
Paths keep their spelling.  They are compared by their components: repeated and trailing slashes
and inner dots do not count, while a leading dot and every double dot do.
-/

namespace ActionLauncher

inductive Component
  | root
  | here
  | up
  | name (text : String)
  deriving DecidableEq, Repr

/-- A path as it was spelled. -/
structure Path where
  text : String
  deriving DecidableEq, Repr, Inhabited

namespace Path

/-- Whether the path starts at the root. -/
def isAbsolute (path : Path) : Bool :=
  path.text.toList.head? == some '/'

def isEmpty (path : Path) : Bool :=
  path.text.isEmpty

def segments (path : Path) : List String :=
  Text.splitAll '/' path.text

/-- The component of a segment that does not lead the path. -/
def innerComponent? (segment : String) : Option Component :=
  if segment = "" ∨ segment = "." then none
  else if segment = ".." then some .up
  else some (.name segment)

/-- The component of the first segment of a relative path. -/
def leadingComponent? (segment : String) : Option Component :=
  if segment = "." then some .here else innerComponent? segment

def components (path : Path) : List Component :=
  match path.segments with
  | [] => []
  | first :: rest =>
      let lead := if path.isAbsolute then some .root else leadingComponent? first
      lead.toList ++ rest.filterMap innerComponent?

def same (a b : Path) : Bool :=
  a.components == b.components

/-- Equality by components of paths that may be absent. -/
def sameOption : Option Path → Option Path → Bool
  | none, none => true
  | some a, some b => a.same b
  | _, _ => false

/-- The path of an entry of a directory.  A relative entry is appended, after a slash if the
directory is spelled without a trailing one; an absolute entry stands alone. -/
def join (dir entry : Path) : Path :=
  if entry.isAbsolute then entry
  else if dir.isEmpty || dir.text.toList.getLast? == some '/' then ⟨dir.text ++ entry.text⟩
  else ⟨dir.text ++ "/" ++ entry.text⟩

/-- The components of the directory that holds the path; absent for the empty path and the root. -/
def parent? (path : Path) : Option (List Component) :=
  match path.components.getLast? with
  | none | some .root => none
  | some _ => some path.components.dropLast

/-- The last component, if it is a name. -/
def fileName? (path : Path) : Option String :=
  match path.components.getLast? with
  | some (.name text) => some text
  | _ => none

end Path

end ActionLauncher

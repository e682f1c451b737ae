import ActionLauncher.Path
import ActionLauncher.Program
import ActionLauncher.Text.Utf8

/-!
A tree of files and the walk of a path through it.  Every part of a path but the last must name a
directory; a single dot stays there, a double dot goes up, and a trailing slash asks for a
directory.  Names and paths have a greatest length.
-/

namespace ActionLauncher

/-- Why a file or a process could not be used. -/
inductive IoError
  | notFound
  | permissionDenied
  | notADirectory
  | isADirectory
  | invalidArgument
  | nameTooLong
  | argumentTooLong
  | invalidUtf8
  | nulInPath
  | nulInArgument
  | other (message : String)
  deriving DecidableEq, Repr, Inhabited

def IoError.message : IoError → String
  | .notFound => "No such file or directory (os error 2)"
  | .permissionDenied => "Permission denied (os error 13)"
  | .notADirectory => "Not a directory (os error 20)"
  | .isADirectory => "Is a directory (os error 21)"
  | .invalidArgument => "Invalid argument (os error 22)"
  | .nameTooLong => "File name too long (os error 36)"
  | .argumentTooLong => "Argument list too long (os error 7)"
  | .invalidUtf8 => "stream did not contain valid UTF-8"
  | .nulInPath => "file name contained an unexpected NUL byte"
  | .nulInArgument => "nul byte found in provided data"
  | .other message => message

/-- The names that lead from the root to a place. -/
abbrev Location : Type :=
  List String

/-- What stands at a place.  Nobody can open a sealed file. -/
inductive Node
  | directory
  | file (content : List UInt8) (program : Option Program)
  | sealed (content : List UInt8)

/-- A tree of files with a working directory.  The root is a directory. -/
structure FileTree where
  workingDir : Location
  nodes : List (Location × Node)

namespace FileTree

def node? (tree : FileTree) (location : Location) : Option Node :=
  if location = [] then some .directory else tree.nodes.lookup location

/-- Succeeds where a directory stands. -/
def requireDirectory (tree : FileTree) (location : Location) : Except IoError Unit :=
  match tree.node? location with
  | some .directory => .ok ()
  | some _ => .error .notADirectory
  | none => .error .notFound

/-- The greatest number of bytes in a name. -/
def maxNameSize : Nat := 255

/-- The greatest number of bytes in a path. -/
def maxPathSize : Nat := 4095

/-- A name that no entry of a directory can have. -/
def isNameTooLong (name : String) : Bool :=
  maxNameSize < name.utf8ByteSize

def step (tree : FileTree) (location : Location) (segment : String) : Except IoError Location :=
  match tree.requireDirectory location with
  | .error e => .error e
  | .ok _ =>
      if segment = "" ∨ segment = "." then .ok location
      else if segment = ".." then .ok location.dropLast
      else if isNameTooLong segment then .error .nameTooLong
      else .ok (location ++ [segment])

/-- Where the walk along some segments ends; nothing needs to stand there. -/
def walk (tree : FileTree) (location : Location) : List String → Except IoError Location
  | [] => .ok location
  | segment :: rest =>
      match tree.step location segment with
      | .ok next => tree.walk next rest
      | .error e => .error e

def start (tree : FileTree) (path : Path) : Location :=
  if path.isAbsolute then [] else tree.workingDir

def refusal? (path : Path) : Option IoError :=
  if path.text.toList.contains '\x00' then some .nulInPath
  else if path.isEmpty then some .notFound
  else if maxPathSize < path.text.utf8ByteSize then some .nameTooLong
  else none

def locate (tree : FileTree) (path : Path) : Except IoError Location :=
  match refusal? path with
  | some e => .error e
  | none => tree.walk (tree.start path) path.segments

def stat (tree : FileTree) (path : Path) : Except IoError Node :=
  match tree.locate path with
  | .error e => .error e
  | .ok location =>
      match tree.node? location with
      | some node => .ok node
      | none => .error .notFound

/-- Whether something stands at the end of the path. -/
def holds (tree : FileTree) (path : Path) : Bool :=
  match tree.stat path with
  | .ok _ => true
  | .error _ => false

/-- Whether a file stands at the end of the path. -/
def isFile (tree : FileTree) (path : Path) : Bool :=
  match tree.stat path with
  | .ok (.file ..) | .ok (.sealed _) => true
  | _ => false

/-- Whether a file stands at the end of the path that can be opened for reading. -/
def isReadable (tree : FileTree) (path : Path) : Bool :=
  match tree.stat path with
  | .ok (.file ..) => true
  | _ => false

/-- Whether a directory stands at the end of the path. -/
def isDirectory (tree : FileTree) (path : Path) : Bool :=
  match tree.stat path with
  | .ok .directory => true
  | _ => false

def readText (tree : FileTree) (path : Path) : Except IoError String :=
  match tree.stat path with
  | .error e => .error e
  | .ok .directory => .error .isADirectory
  | .ok (.sealed _) => .error .permissionDenied
  | .ok (.file content _) =>
      match Text.Utf8.strict? content with
      | some text => .ok text
      | none => .error .invalidUtf8

def listDirectory (tree : FileTree) (path : Path) : Except IoError (List String) :=
  match tree.locate path with
  | .error e => .error e
  | .ok location =>
      match tree.requireDirectory location with
      | .error e => .error e
      | .ok _ => .ok (tree.nodes.filterMap fun (place, _) =>
          if place.dropLast = location ∧ place ≠ [] then place.getLast? else none)

/-- The tree with something at a place, in its old position or else at the end. -/
def put (tree : FileTree) (location : Location) (node : Node) : FileTree :=
  { tree with
    nodes :=
      if (tree.nodes.lookup location).isSome then
        tree.nodes.map fun entry => if entry.1 = location then (location, node) else entry
      else tree.nodes ++ [(location, node)] }

/-- The tree with directories along the given names. -/
def makeDirectories (tree : FileTree) (location : Location) : List String → FileTree
  | [] => tree
  | name :: rest =>
      let place := location ++ [name]
      let tree := if (tree.node? place).isSome then tree else tree.put place .directory
      tree.makeDirectories place rest

/-- Where a path leads if every directory on its way is there. -/
def destination (tree : FileTree) (path : Path) : Location :=
  path.segments.foldl (fun location segment =>
    if segment = "" ∨ segment = "." then location
    else if segment = ".." then location.dropLast
    else location ++ [segment]) (tree.start path)

/-- The tree with something at the end of a path, and with the directories on the way there. -/
def supply (tree : FileTree) (path : Path) (node : Node) : FileTree :=
  let location := tree.destination path
  (tree.makeDirectories [] location.dropLast).put location node

def supplyDirectory (tree : FileTree) (path : Path) : FileTree :=
  tree.makeDirectories [] (tree.destination path)

/-- A tree with nothing but a working directory. -/
def ofWorkingDir (location : Location) : FileTree :=
  makeDirectories ⟨location, []⟩ [] location

/-- The place where an entry of a directory is to be made or removed: the directory, the name of
the entry, and whether a trailing slash follows.  The name is absent where a dot, a double dot or
nothing stands for it. -/
structure Target where
  directory : Location
  name : Option String
  slash : Bool

/-- Finds the directory that a path's last name belongs to. -/
def target (tree : FileTree) (path : Path) : Except IoError Target :=
  match refusal? path with
  | some e => .error e
  | none =>
      let segments := path.segments
      let kept := (segments.reverse.dropWhile (· == "")).reverse
      match kept.getLast? with
      | none => .ok ⟨[], none, true⟩
      | some last =>
          match tree.walk (tree.start path) kept.dropLast with
          | .error e => .error e
          | .ok directory =>
              match tree.requireDirectory directory with
              | .error e => .error e
              | .ok _ =>
                  .ok ⟨directory, if last = "." ∨ last = ".." then none else some last,
                    kept.length < segments.length⟩

/-- Writes a text file, over an older one if there is one. -/
def writeText (tree : FileTree) (path : Path) (text : String) : Except IoError FileTree :=
  match tree.target path with
  | .error e => .error e
  | .ok ⟨_, none, _⟩ | .ok ⟨_, _, true⟩ => .error .isADirectory
  | .ok ⟨directory, some name, false⟩ =>
      if isNameTooLong name then .error .nameTooLong
      else match tree.node? (directory ++ [name]) with
        | some .directory => .error .isADirectory
        | some (.sealed _) => .error .permissionDenied
        | _ => .ok (tree.put (directory ++ [name]) (.file text.toUTF8.toList none))

def removeFile (tree : FileTree) (path : Path) : Except IoError FileTree :=
  match tree.target path with
  | .error e => .error e
  | .ok ⟨_, none, _⟩ => .error .isADirectory
  | .ok ⟨directory, some name, slash⟩ =>
      if isNameTooLong name then .error .nameTooLong
      else match tree.node? (directory ++ [name]) with
        | none => .error .notFound
        | some .directory => .error .isADirectory
        | some _ =>
            if slash then .error .notADirectory
            else .ok { tree with
              nodes := tree.nodes.filter fun entry => entry.1 != directory ++ [name] }

/-- The files below the working directory by their relative paths, in the order of code points. -/
def fileNames (tree : FileTree) : List String :=
  (tree.nodes.filterMap fun (place, node) =>
    match node with
    | .directory => none
    | _ =>
        if tree.workingDir <+: place then
          some ("/".intercalate (place.drop tree.workingDir.length))
        else none).mergeSort fun a b => !decide (b < a)

def executable (tree : FileTree) (path : Path) : Except IoError Program :=
  match tree.stat path with
  | .error e => .error e
  | .ok (.file _ (some program)) => .ok program
  | .ok _ => .error .permissionDenied

/-- Looks for a program in some directories; `refused` says whether an earlier one had a program
that may not be run, which is reported if no later one has the program.  A fault other than a
missing or refused program ends the search. -/
def searchProgram (tree : FileTree) (name : String) (refused : Bool) :
    List String → Except IoError Program
  | [] => .error (if refused then .permissionDenied else .notFound)
  | dir :: rest =>
      match tree.executable (Path.join ⟨if dir.isEmpty then "." else dir⟩ ⟨name⟩) with
      | .error .permissionDenied => tree.searchProgram name true rest
      | .error .notFound | .error .notADirectory => tree.searchProgram name refused rest
      | found => found

/-- The program that a command starts: the one at its path, or, when it holds no slash, the first
one of that name on the search path. -/
def findProgram (tree : FileTree) (searchPath : String) (command : Path) :
    Except IoError Program :=
  if command.isEmpty then .error .notFound
  else if command.text.toList.contains '/' then tree.executable command
  else tree.searchProgram command.text false (Text.splitAll ':' searchPath)

end FileTree

end ActionLauncher

import ActionLauncher.Properties
import ActionLauncher.Resource
import ActionLauncher.SearchPath

/-!
The effective configuration, by strict precedence: a configuration directory with at least one
loadable resource, else the action's own resource, else the base configuration with the resources
of the search path on top.
-/

namespace ActionLauncher

inductive ConfigSource
  | directory (dir : Path) (resources : List Path)
  | actionResource (path : Path)
  | searchPath (resources : List Path)
  deriving DecidableEq, Repr

def ConfigSource.describe : ConfigSource → String
  | .directory dir resources =>
      "directory " ++ dir.text ++ " (" ++ Text.decimal resources.length ++ " resources)"
  | .actionResource path => "action resource " ++ path.text
  | .searchPath resources =>
      "base configuration + " ++ Text.decimal resources.length ++ " search-path resources"

/-- A resolved configuration, its source, and the warnings on the way. -/
structure Resolution where
  config : Configuration
  source : ConfigSource
  warnings : List String

/-- Where configurations are looked for. -/
structure Resolver where
  actionConf : Option Path
  searchPath : SearchPath
  deriving Inhabited

namespace Resolver

def ofEnvironment (props : Properties) (environment : Table) (files : FileTree) : Resolver :=
  ⟨props.actionConf?, .ofEnvironment environment files⟩

/-- Resources merged so far, their paths, and the warnings. -/
structure Layers where
  config : Configuration
  loaded : List Path
  warnings : List String

namespace Layers

/-- Merges a resource on top; one that cannot be loaded leaves a warning instead. -/
def add (files : FileTree) (warning : String) (layers : Layers) (path : Path) : Layers :=
  match Resource.load files path with
  | .ok config =>
      { layers with config := layers.config.merge config, loaded := layers.loaded ++ [path] }
  | .error _ => { layers with warnings := layers.warnings ++ [warning] }

end Layers

/-- The resources of a directory that are readable files, in the order in which they are loaded. -/
def directoryFiles (files : FileTree) (dir : Path) : List Path :=
  (Names.directoryResources.map fun name => dir.join ⟨name⟩).filter files.isReadable

/-- Loads the resources of a directory. -/
def loadDirectory (files : FileTree) (dir : Path) : Layers :=
  (directoryFiles files dir).foldl (Layers.add files "Skipping configuration resource")
    ⟨∅, [], []⟩

/-- Loads the action's own resource; without one there is a warning if it was named. -/
def loadActionConf (files : FileTree) (path : Option Path) :
    Except (List String) (Configuration × Path) :=
  match path with
  | none => .error []
  | some path =>
      if files.holds path then
        match Resource.load files path with
        | .ok config => .ok (config, path)
        | .error _ => .error ["Failed to load action configuration"]
      else .error ["Action configuration resource does not exist"]

/-- The resources on the search path, in the order in which they are loaded. -/
def searchFiles (resolver : Resolver) (files : FileTree) : List Path :=
  Names.searchPathResources.filterMap fun name => resolver.searchPath.find? files name

/-- Loads the resources of the search path on top of the base configuration. -/
def loadSearchPath (resolver : Resolver) (files : FileTree) (base : Configuration) : Layers :=
  (resolver.searchFiles files).foldl (Layers.add files "Skipping search-path resource")
    ⟨base, [], []⟩

/-- Resolves without a configuration directory. -/
def resolveBeyond (resolver : Resolver) (files : FileTree) (base : Configuration) : Resolution :=
  match loadActionConf files resolver.actionConf with
  | .ok (config, path) => ⟨config, .actionResource path, []⟩
  | .error warnings =>
      let layers := resolver.loadSearchPath files base
      ⟨layers.config, .searchPath layers.loaded, warnings ++ layers.warnings⟩

def resolve (resolver : Resolver) (files : FileTree) (base : Configuration)
    (explicitDir : Option Path) : Resolution :=
  match explicitDir with
  | none => resolver.resolveBeyond files base
  | some dir =>
      let layers := loadDirectory files dir
      if layers.loaded.isEmpty then
        let beyond := resolver.resolveBeyond files base
        { beyond with
          warnings := layers.warnings ++ "No readable configuration resource in directory" ::
            beyond.warnings }
      else ⟨layers.config, .directory dir layers.loaded, layers.warnings⟩

end Resolver

end ActionLauncher

import ActionLauncher.Proofs.TableLaws
import ActionLauncher.Resolver

namespace ActionLauncher

namespace SearchPath

/-- The path leads to a readable file of the name, and no directory before its own has one. -/
def IsFirst (path : SearchPath) (files : FileTree) (name : String) (found : Path) : Prop :=
  ∃ before dir after, path.dirs = before ++ dir :: after ∧ found = dir.join ⟨name⟩ ∧
    files.isReadable found = true ∧
      ∀ earlier ∈ before, files.isReadable (earlier.join ⟨name⟩) = false

theorem find?_eq_some_iff {path : SearchPath} {files : FileTree} {name : String} {found : Path} :
    path.find? files name = some found ↔ path.IsFirst files name found := by
  rw [find?, List.find?_eq_some_iff_append]
  constructor
  · rintro ⟨hfile, before, after, hdirs, hbefore⟩
    obtain ⟨front, rest, hsplit, rfl, hrest⟩ := List.map_eq_append_iff.1 hdirs
    obtain ⟨dir, after, rfl, rfl, rfl⟩ := List.map_eq_cons_iff.1 hrest
    refine ⟨front, dir, after, hsplit, rfl, hfile, fun earlier hearlier => ?_⟩
    simpa using hbefore _ (List.mem_map_of_mem hearlier)
  · rintro ⟨before, dir, after, hdirs, rfl, hfile, hbefore⟩
    refine ⟨hfile, before.map fun dir => dir.join ⟨name⟩, after.map fun dir => dir.join ⟨name⟩, ?_,
      fun earlier hearlier => ?_⟩
    · rw [hdirs, List.map_append, List.map_cons]
    · obtain ⟨earlier, hmem, rfl⟩ := List.mem_map.1 hearlier
      simpa using hbefore earlier hmem

end SearchPath

namespace Resolver

/-- The resources that load, each with its path. -/
def loadable (files : FileTree) (paths : List Path) : List (Path × Configuration) :=
  paths.filterMap fun path => (Resource.load files path).toOption.map fun config => (path, config)

/-- The paths that hold no resource that loads. -/
def unloadable (files : FileTree) (paths : List Path) : List Path :=
  paths.filter fun path => !(Resource.load files path).isOk

/-- The paths at which names are found, in the order of the names. -/
inductive FoundInOrder (Finds : String → Path → Prop) : List String → List Path → Prop
  | nil : FoundInOrder Finds [] []
  | found {name : String} {path : Path} {names : List String} {paths : List Path}
      (h : Finds name path) (rest : FoundInOrder Finds names paths) :
      FoundInOrder Finds (name :: names) (path :: paths)
  | missing {name : String} {names : List String} {paths : List Path}
      (h : ∀ path, ¬ Finds name path) (rest : FoundInOrder Finds names paths) :
      FoundInOrder Finds (name :: names) paths

theorem foundInOrder_filterMap {Finds : String → Path → Prop} {find? : String → Option Path}
    (h : ∀ name path, find? name = some path ↔ Finds name path) (names : List String) :
    FoundInOrder Finds names (names.filterMap find?) := by
  induction names with
  | nil => exact .nil
  | cons name rest ih =>
      cases hfound : find? name with
      | none =>
          rw [List.filterMap_cons_none hfound]
          refine .missing (fun path hpath => ?_) ih
          cases hfound.symm.trans ((h name path).2 hpath)
      | some path =>
          rw [List.filterMap_cons_some hfound]
          exact .found ((h name path).1 hfound) ih

theorem searchFiles_inOrder (resolver : Resolver) (files : FileTree) :
    FoundInOrder (resolver.searchPath.IsFirst files) Names.searchPathResources
      (resolver.searchFiles files) :=
  foundInOrder_filterMap (fun _ _ => SearchPath.find?_eq_some_iff) _

theorem directoryFiles_inOrder (files : FileTree) (dir : Path) :
    FoundInOrder (fun name path => path = dir.join ⟨name⟩ ∧ files.isReadable path = true)
      Names.directoryResources (directoryFiles files dir) := by
  have hfiles : directoryFiles files dir = Names.directoryResources.filterMap fun name =>
      if files.isReadable (dir.join ⟨name⟩) then some (dir.join ⟨name⟩) else none := by
    rw [directoryFiles, List.filter_map, ← List.filterMap_eq_map, List.filterMap_filter]
    rfl
  rw [hfiles]
  refine foundInOrder_filterMap (fun name path => ?_) _
  rw [Option.ite_none_right_eq_some, Option.some.injEq]
  constructor
  · rintro ⟨hreadable, rfl⟩
    exact ⟨rfl, hreadable⟩
  · rintro ⟨rfl, hreadable⟩
    exact ⟨hreadable, rfl⟩

/-- Resources merged one after another over a base. -/
def merged (base : Configuration) (resources : List (Path × Configuration)) : Configuration :=
  resources.foldl (fun config resource => config.merge resource.2) base

variable {files : FileTree} {paths : List Path}

theorem toOption_load_eq_some_iff {path : Path} {config : Configuration} :
    (Resource.load files path).toOption = some config ↔
      Resource.load files path = .ok config := by
  cases Resource.load files path with
  | ok found => simp [Except.toOption]
  | error fault => simp [Except.toOption]

theorem mem_loadable {path : Path} {config : Configuration} :
    (path, config) ∈ loadable files paths ↔
      path ∈ paths ∧ Resource.load files path = .ok config := by
  rw [loadable, List.mem_filterMap]
  constructor
  · rintro ⟨path', hpath, hfound⟩
    obtain ⟨config', hconfig, heq⟩ := Option.map_eq_some_iff.1 hfound
    cases heq
    exact ⟨hpath, toOption_load_eq_some_iff.1 hconfig⟩
  · rintro ⟨hpath, hload⟩
    exact ⟨path, hpath, by rw [toOption_load_eq_some_iff.2 hload, Option.map_some]⟩

theorem get?_merged (base : Configuration) (resources : List (Path × Configuration))
    (key : String) :
    (merged base resources).get? key =
      (resources.reverse.findSome? fun resource => resource.2.get? key).or (base.get? key) := by
  -- The first resource becomes part of the base under the others.
  induction resources generalizing base with
  | nil => rfl
  | cons resource rest ih =>
      have hrest : merged base (resource :: rest) = merged (base.merge resource.2) rest := rfl
      rw [hrest, ih, Table.get?_merge, List.reverse_cons, List.findSome?_append, Option.or_assoc]
      simp

theorem foldl_add (warning : String) (paths : List Path) (layers : Layers) :
    paths.foldl (Layers.add files warning) layers =
      ⟨merged layers.config (loadable files paths),
        layers.loaded ++ (loadable files paths).map Prod.fst,
        layers.warnings ++ (unloadable files paths).map fun _ => warning⟩ := by
  induction paths generalizing layers with
  | nil => simp [loadable, unloadable, merged]
  | cons path rest ih =>
      rw [List.foldl_cons, ih]
      cases hload : Resource.load files path with
      | ok config =>
          simp [Layers.add, loadable, unloadable, merged, hload, Except.toOption, Except.isOk,
            Except.toBool]
      | error fault =>
          simp [Layers.add, loadable, unloadable, merged, hload, Except.toOption, Except.isOk,
            Except.toBool]

theorem loadable_eq_nil_iff :
    loadable files paths = [] ↔
      ¬ ∃ path ∈ paths, ∃ config, Resource.load files path = .ok config := by
  rw [List.eq_nil_iff_forall_not_mem, Prod.forall]
  simp only [mem_loadable]
  constructor
  · rintro h ⟨path, hpath, config, hload⟩
    exact h path config ⟨hpath, hload⟩
  · rintro h path config ⟨hpath, hload⟩
    exact h ⟨path, hpath, config, hload⟩

/-- The warnings about the resources of one source that do not load. -/
def skipping (files : FileTree) (warning : String) (paths : List Path) : List String :=
  (unloadable files paths).map fun _ => warning

theorem loadDirectory_eq (files : FileTree) (dir : Path) :
    loadDirectory files dir =
      ⟨merged ∅ (loadable files (directoryFiles files dir)),
        (loadable files (directoryFiles files dir)).map Prod.fst,
        skipping files "Skipping configuration resource" (directoryFiles files dir)⟩ :=
  foldl_add _ _ _

theorem loadSearchPath_eq (resolver : Resolver) (files : FileTree) (base : Configuration) :
    resolver.loadSearchPath files base =
      ⟨merged base (loadable files (resolver.searchFiles files)),
        (loadable files (resolver.searchFiles files)).map Prod.fst,
        skipping files "Skipping search-path resource" (resolver.searchFiles files)⟩ :=
  foldl_add _ _ _

theorem error_of_load {path : Path} {fault : ResourceError} (hfile : files.isReadable path = true)
    (h : Resource.load files path = .error fault) :
    fault = .unreadable path .invalidUtf8 ∨ ∃ reason, fault = .malformedFile path reason := by
  unfold FileTree.isReadable at hfile
  unfold Resource.load FileTree.readText at h
  rcases hstat : files.stat path with cause | (_ | ⟨content, program⟩ | content)
  · simp [hstat] at hfile
  · simp [hstat] at hfile
  · rw [hstat] at h
    dsimp only at h
    cases htext : Text.Utf8.strict? content with
    | none =>
        rw [htext] at h
        exact .inl (Except.error.inj h).symm
    | some text =>
        rw [htext] at h
        dsimp only at h
        cases hread : SiteXml.read text with
        | ok config => rw [hread] at h; cases h
        | error reason => rw [hread] at h; exact .inr ⟨_, (Except.error.inj h).symm⟩
  · simp [hstat] at hfile

theorem holds_of_load {path : Path} {config : Configuration}
    (h : Resource.load files path = .ok config) : files.holds path = true := by
  unfold Resource.load FileTree.readText at h
  unfold FileTree.holds
  cases hstat : files.stat path with
  | error cause => rw [hstat] at h; cases h
  | ok node => rfl

/-- What is said about an action's own resource that is not used. -/
def actionWarnings (files : FileTree) : Option Path → List String
  | none => []
  | some path =>
      if files.holds path then ["Failed to load action configuration"]
      else ["Action configuration resource does not exist"]

theorem loadActionConf_of_load {path : Path} {config : Configuration}
    (h : Resource.load files path = .ok config) :
    loadActionConf files (some path) = .ok (config, path) := by
  rw [loadActionConf, if_pos (holds_of_load h), h]

theorem loadActionConf_of_not {actionConf : Option Path}
    (h : ∀ path ∈ actionConf, ∀ config, Resource.load files path ≠ .ok config) :
    loadActionConf files actionConf = .error (actionWarnings files actionConf) := by
  cases actionConf with
  | none => rfl
  | some path =>
      rw [loadActionConf, actionWarnings]
      cases hload : Resource.load files path with
      | ok config => exact absurd hload (h path rfl config)
      | error fault => split <;> rfl

/-- What is said about a configuration directory that is not used. -/
def directoryWarnings (files : FileTree) : Option Path → List String
  | none => []
  | some dir =>
      skipping files "Skipping configuration resource" (directoryFiles files dir) ++
        ["No readable configuration resource in directory"]

/-- A configuration directory is given and holds a resource that loads. -/
def DirectoryCounts (files : FileTree) (explicitDir : Option Path) : Prop :=
  ∃ dir ∈ explicitDir, ∃ path ∈ directoryFiles files dir, ∃ config,
    Resource.load files path = .ok config

/-- The configuration is made over a base from the resources at some paths that load.  The last
one that has a key gives its value. -/
structure MergesOver (base : Configuration) (files : FileTree) (paths : List Path)
    (config : Configuration) : Prop where
  inOrder : config = merged base (loadable files paths)
  lastCounts : ∀ key, config.get? key =
    ((loadable files paths).reverse.findSome? fun resource => resource.2.get? key).or
      (base.get? key)

theorem mergesOver_merged (base : Configuration) (files : FileTree) (paths : List Path) :
    MergesOver base files paths (merged base (loadable files paths)) :=
  ⟨rfl, get?_merged base _⟩

section Tiers

variable (resolver : Resolver) (base : Configuration) {explicitDir : Option Path}

theorem resolve_of_directory {dir : Path}
    (h : ∃ path ∈ directoryFiles files dir, ∃ config, Resource.load files path = .ok config) :
    resolver.resolve files base (some dir) =
      ⟨merged ∅ (loadable files (directoryFiles files dir)),
        .directory dir ((loadable files (directoryFiles files dir)).map Prod.fst),
        skipping files "Skipping configuration resource" (directoryFiles files dir)⟩ := by
  have hsome : loadable files (directoryFiles files dir) ≠ [] := fun hnil =>
    loadable_eq_nil_iff.1 hnil h
  unfold resolve
  dsimp only
  rw [loadDirectory_eq]
  dsimp only
  rw [if_neg (by simpa using hsome)]

theorem resolve_of_no_directory (h : ¬ DirectoryCounts files explicitDir) :
    resolver.resolve files base explicitDir =
      { resolver.resolveBeyond files base with
        warnings := directoryWarnings files explicitDir ++
          (resolver.resolveBeyond files base).warnings } := by
  cases explicitDir with
  | none => rfl
  | some dir =>
      have hnil : loadable files (directoryFiles files dir) = [] :=
        loadable_eq_nil_iff.2 fun hsome => h ⟨dir, rfl, hsome⟩
      unfold resolve
      dsimp only
      rw [loadDirectory_eq, hnil]
      simp [directoryWarnings]

theorem resolve_of_actionConf (hdir : ¬ DirectoryCounts files explicitDir) {path : Path}
    (hconf : resolver.actionConf = some path) {config : Configuration}
    (hload : Resource.load files path = .ok config) :
    resolver.resolve files base explicitDir =
      ⟨config, .actionResource path, directoryWarnings files explicitDir⟩ := by
  have hbeyond : resolver.resolveBeyond files base = ⟨config, .actionResource path, []⟩ := by
    rw [resolveBeyond, hconf, loadActionConf_of_load hload]
  rw [resolve_of_no_directory resolver base hdir, hbeyond]
  dsimp only
  rw [List.append_nil]

theorem resolve_of_searchPath (hdir : ¬ DirectoryCounts files explicitDir)
    (hconf : ∀ path ∈ resolver.actionConf, ∀ config, Resource.load files path ≠ .ok config) :
    resolver.resolve files base explicitDir =
      ⟨merged base (loadable files (resolver.searchFiles files)),
        .searchPath ((loadable files (resolver.searchFiles files)).map Prod.fst),
        directoryWarnings files explicitDir ++ (actionWarnings files resolver.actionConf ++
          skipping files "Skipping search-path resource" (resolver.searchFiles files))⟩ := by
  have hbeyond : resolver.resolveBeyond files base =
      ⟨merged base (loadable files (resolver.searchFiles files)),
        .searchPath ((loadable files (resolver.searchFiles files)).map Prod.fst),
        actionWarnings files resolver.actionConf ++
          skipping files "Skipping search-path resource" (resolver.searchFiles files)⟩ := by
    rw [resolveBeyond, loadActionConf_of_not hconf]
    dsimp only
    rw [loadSearchPath_eq]
  rw [resolve_of_no_directory resolver base hdir, hbeyond]

end Tiers

/-- Each source counts only where none before it does, and then alone: the resources of the
directory, the action's own resource, or those of the search path over the base.  Candidates are
the readable files of the names, in the order of the names; every one of them that does not load is
passed over with one warning. -/
theorem resolve_precedence (resolver : Resolver) (files : FileTree) (base : Configuration)
    (explicitDir : Option Path) :
    let found := resolver.resolve files base explicitDir
    (∀ dir ∈ explicitDir, DirectoryCounts files (some dir) →
      found.source =
        .directory dir ((loadable files (directoryFiles files dir)).map Prod.fst) ∧
      MergesOver ∅ files (directoryFiles files dir) found.config ∧
      found.warnings =
        skipping files "Skipping configuration resource" (directoryFiles files dir) ∧
      ∀ (other : Resolver) (base' : Configuration),
        other.resolve files base' explicitDir = found) ∧
    (¬ DirectoryCounts files explicitDir → ∀ path ∈ resolver.actionConf, ∀ config,
      Resource.load files path = .ok config →
      found = ⟨config, .actionResource path, directoryWarnings files explicitDir⟩ ∧
      ∀ (other : Resolver) (base' : Configuration), other.actionConf = some path →
        other.resolve files base' explicitDir = found) ∧
    (¬ DirectoryCounts files explicitDir →
      (∀ path ∈ resolver.actionConf, ∀ config, Resource.load files path ≠ .ok config) →
      found.source = .searchPath ((loadable files (resolver.searchFiles files)).map Prod.fst) ∧
      MergesOver base files (resolver.searchFiles files) found.config ∧
      found.warnings = directoryWarnings files explicitDir ++
        (actionWarnings files resolver.actionConf ++
          skipping files "Skipping search-path resource" (resolver.searchFiles files))) ∧
    (∀ dir, FoundInOrder (fun name path => path = dir.join ⟨name⟩ ∧ files.isReadable path = true)
      Names.directoryResources (directoryFiles files dir)) ∧
    FoundInOrder (resolver.searchPath.IsFirst files) Names.searchPathResources
      (resolver.searchFiles files) ∧
    ∀ path fault, files.isReadable path = true → Resource.load files path = .error fault →
      fault = .unreadable path .invalidUtf8 ∨ ∃ reason, fault = .malformedFile path reason := by
  intro found
  refine ⟨?directory, ?actionConf, ?searchPath, directoryFiles_inOrder files,
    searchFiles_inOrder resolver files, fun path fault => error_of_load⟩
  case directory =>
    rintro dir rfl ⟨_, hdir, hcounts⟩
    cases Option.mem_some_iff.1 hdir
    have hfound := resolve_of_directory resolver base hcounts
    rw [show found = _ from hfound]
    exact ⟨rfl, mergesOver_merged _ _ _, rfl, fun other base' =>
      resolve_of_directory other base' hcounts⟩
  case actionConf =>
    intro hdir path hconf config hload
    have hfound := resolve_of_actionConf resolver base hdir hconf hload
    rw [show found = _ from hfound]
    exact ⟨rfl, fun other base' hother => resolve_of_actionConf other base' hdir hother hload⟩
  case searchPath =>
    intro hdir hconf
    have hfound := resolve_of_searchPath resolver base hdir hconf
    rw [show found = _ from hfound]
    exact ⟨rfl, mergesOver_merged _ _ _, rfl⟩

/-- A directory with a document, with a file that is none and with one that cannot be read. -/
def mixedFiles : FileTree :=
  ⟨[], [(["conf"], .directory), (["conf", "core-site.xml"], .file [] none),
    (["conf", "hdfs-site.xml"], .sealed []),
    (["conf", "hive-site.xml"], .file ("<configuration><property><name>k</name>" ++
      "<value>v</value></property>").toUTF8.toList none)]⟩

theorem resolve_precedence_mixedFiles :
    let found := Resolver.resolve default mixedFiles ∅ (some ⟨"conf"⟩)
    found.source = .directory ⟨"conf"⟩ [⟨"conf/hive-site.xml"⟩] ∧
      found.config.get? "k" = some "v" ∧
      found.warnings = ["Skipping configuration resource"] := by
  intro found
  have hloads : loadable mixedFiles (directoryFiles mixedFiles ⟨"conf"⟩) =
      [(⟨"conf/hive-site.xml"⟩, ⟨[("k", "v")], by decide⟩)] := by
    decide +kernel
  have hcounts : DirectoryCounts mixedFiles (some ⟨"conf"⟩) :=
    ⟨⟨"conf"⟩, rfl, _, (mem_loadable.1 (hloads ▸ List.mem_singleton_self _)).imp_right
      fun hload => ⟨_, hload⟩⟩
  obtain ⟨hsource, hmerges, hwarnings, -⟩ :=
    (resolve_precedence default mixedFiles ∅ (some ⟨"conf"⟩)).1 ⟨"conf"⟩ rfl hcounts
  refine ⟨?_, ?_, hwarnings.trans (by decide +kernel)⟩
  · rw [hsource, hloads]
    rfl
  · rw [hmerges.lastCounts, hloads]
    rfl

end Resolver

end ActionLauncher

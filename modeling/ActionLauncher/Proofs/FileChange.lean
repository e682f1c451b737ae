import Mathlib.Order.BooleanAlgebra.Set
import ActionLauncher.FileTree
import ActionLauncher.Proofs.DirectoryEntry

namespace ActionLauncher.FileTree

/-- A file stands at the place. -/
def HasFile (tree : FileTree) (location : Location) : Prop :=
  ∃ node, tree.node? location = some node ∧ node ≠ .directory

theorem not_hasFile_of_directory {tree : FileTree} {location : Location}
    (h : tree.node? location = some .directory) : ¬ tree.HasFile location := by
  rintro ⟨node, hnode, hfile⟩
  rw [h, Option.some.injEq] at hnode
  exact hfile hnode.symm

theorem lookup_replace (nodes : List (Location × Node)) (location place : Location) (node : Node) :
    (nodes.map fun entry => if entry.1 = location then (location, node) else entry).lookup place =
      if place = location then (nodes.lookup location).map fun _ => node
      else nodes.lookup place := by
  induction nodes with
  | nil => simp
  | cons entry rest ih =>
      obtain ⟨key, value⟩ := entry
      rw [List.map_cons]
      by_cases hkey : key = location
      · subst hkey
        by_cases hplace : place = key
        · simp [hplace]
        · have hne : (place == key) = false := beq_eq_false_iff_ne.mpr hplace
          simp [List.lookup_cons, hne, ih, hplace]
      · have hne : (location == key) = false := beq_eq_false_iff_ne.mpr (Ne.symm hkey)
        by_cases hplace : place = key
        · simp [hkey, hplace]
        · have hskip : (place == key) = false := beq_eq_false_iff_ne.mpr hplace
          simp [List.lookup_cons, hkey, hskip, hne, ih]

theorem lookup_erase (nodes : List (Location × Node)) (location place : Location) :
    (nodes.filter fun entry => entry.1 != location).lookup place =
      if place = location then none else nodes.lookup place := by
  induction nodes with
  | nil => simp
  | cons entry rest ih =>
      obtain ⟨key, value⟩ := entry
      by_cases hkey : key = location
      · subst hkey
        rw [List.filter_cons_of_neg (by simp), ih]
        by_cases hplace : place = key
        · simp [hplace]
        · have hne : (place == key) = false := beq_eq_false_iff_ne.mpr hplace
          simp [List.lookup_cons, hne]
      · rw [List.filter_cons_of_pos (by simpa using hkey), List.lookup_cons, List.lookup_cons, ih]
        by_cases hplace : place = key
        · simp [hplace, hkey]
        · have hne : (place == key) = false := beq_eq_false_iff_ne.mpr hplace
          simp [hne]

theorem node?_put (tree : FileTree) {location : Location} (h : location ≠ []) (node : Node)
    (place : Location) :
    (tree.put location node).node? place =
      if place = location then some node else tree.node? place := by
  unfold node? put
  by_cases hroot : place = []
  · simp [hroot, Ne.symm h]
  · cases hlookup : tree.nodes.lookup location with
    | none =>
        by_cases hplace : place = location
        · simp [hplace, h, List.lookup_append, hlookup]
        · have hne : (place == location) = false := beq_eq_false_iff_ne.mpr hplace
          simp [hroot, hplace, List.lookup_append, List.lookup_cons, hne]
    | some old => simp [hroot, lookup_replace, hlookup]

/-- The tree without what stands at a place. -/
def erase (tree : FileTree) (location : Location) : FileTree :=
  { tree with nodes := tree.nodes.filter fun entry => entry.1 != location }

theorem node?_erase (tree : FileTree) {location : Location} (h : location ≠ [])
    (place : Location) :
    (tree.erase location).node? place =
      if place = location then none else tree.node? place := by
  unfold node? erase
  by_cases hroot : place = []
  · simp [hroot, Ne.symm h]
  · simp [hroot, lookup_erase]

/-- Directories stand at the same places in both trees. -/
structure SameDirectories (tree next : FileTree) : Prop where
  workingDir : next.workingDir = tree.workingDir
  directory_iff : ∀ location,
    next.node? location = some .directory ↔ tree.node? location = some .directory

theorem requireDirectory_eq_ok_iff (tree : FileTree) (location : Location) :
    tree.requireDirectory location = .ok () ↔ tree.node? location = some .directory := by
  unfold requireDirectory
  split <;> simp_all

theorem step_of_directory {tree : FileTree} {location : Location}
    (h : tree.node? location = some .directory) (segment : String) :
    tree.step location segment =
      if segment = "" ∨ segment = "." then .ok location
      else if segment = ".." then .ok location.dropLast
      else if isNameTooLong segment then .error .nameTooLong
      else .ok (location ++ [segment]) := by
  rw [step, (requireDirectory_eq_ok_iff tree location).mpr h]

theorem directory_of_step {tree : FileTree} {location next : Location} {segment : String}
    (h : tree.step location segment = .ok next) : tree.node? location = some .directory := by
  rw [← requireDirectory_eq_ok_iff]
  unfold step at h
  cases hrequired : tree.requireDirectory location with
  | error e =>
      rw [hrequired] at h
      exact absurd h (by simp)
  | ok found => rfl

namespace SameDirectories

variable {tree next : FileTree}

theorem symm (h : SameDirectories tree next) : SameDirectories next tree :=
  ⟨h.workingDir.symm, fun location => (h.directory_iff location).symm⟩

theorem step_eq_ok (h : SameDirectories tree next) {location place : Location} {segment : String}
    (hstep : tree.step location segment = .ok place) :
    next.step location segment = .ok place := by
  have hdirectory := directory_of_step hstep
  rw [step_of_directory ((h.directory_iff location).mpr hdirectory), ← hstep,
    step_of_directory hdirectory]

theorem walk_eq_ok (h : SameDirectories tree next) {location place : Location}
    {segments : List String} (hwalk : tree.walk location segments = .ok place) :
    next.walk location segments = .ok place := by
  induction segments generalizing location with
  | nil => exact hwalk
  | cons segment rest ih =>
      rw [walk] at hwalk ⊢
      cases hstep : tree.step location segment with
      | error e =>
          rw [hstep] at hwalk
          exact absurd hwalk (by simp)
      | ok middle =>
          rw [hstep] at hwalk
          rw [h.step_eq_ok hstep]
          exact ih hwalk

theorem locate_eq_ok (h : SameDirectories tree next) {path : Path} {location : Location}
    (hlocate : tree.locate path = .ok location) : next.locate path = .ok location := by
  unfold locate at hlocate ⊢
  cases hrefusal : refusal? path with
  | some e =>
      rw [hrefusal] at hlocate
      exact absurd hlocate (by simp)
  | none =>
      rw [hrefusal] at hlocate
      rw [start, h.workingDir]
      exact h.walk_eq_ok hlocate

theorem locate_eq_ok_iff (h : SameDirectories tree next) (path : Path) (location : Location) :
    next.locate path = .ok location ↔ tree.locate path = .ok location :=
  ⟨h.symm.locate_eq_ok, h.locate_eq_ok⟩

end SameDirectories

theorem isFile_iff_stat (tree : FileTree) (path : Path) :
    tree.isFile path = true ↔ ∃ node, tree.stat path = .ok node ∧ node ≠ .directory := by
  unfold isFile
  cases tree.stat path with
  | error e => simp
  | ok node => cases node <;> simp

theorem isFile_iff (tree : FileTree) (path : Path) :
    tree.isFile path = true ↔ ∃ location, tree.locate path = .ok location ∧
      tree.HasFile location := by
  rw [isFile_iff_stat]
  unfold stat
  cases hlocate : tree.locate path with
  | error e => simp
  | ok location => cases hnode : tree.node? location <;> simp [HasFile, hnode]

theorem isFile_of_directories {tree : FileTree}
    (h : ∀ entry ∈ tree.nodes, entry.2 = .directory) (path : Path) : tree.isFile path = false := by
  rw [← Bool.not_eq_true, isFile_iff]
  rintro ⟨location, -, node, hnode, hfile⟩
  unfold node? at hnode
  split at hnode
  · cases hnode
    exact hfile rfl
  · obtain ⟨before, rest, hnodes, -⟩ := List.lookup_eq_some_iff.1 hnode
    exact hfile (h (location, node) (by simp [hnodes]))

theorem walk_append_eq (tree : FileTree) (location : Location) (front rest : List String) :
    tree.walk location (front ++ rest) =
      match tree.walk location front with
      | .error e => .error e
      | .ok middle => tree.walk middle rest := by
  induction front generalizing location with
  | nil => rfl
  | cons segment front ih =>
      rw [List.cons_append, walk, walk]
      cases tree.step location segment with
      | error e => rfl
      | ok next => exact ih next

theorem walk_append (tree : FileTree) (location place : Location) (front rest : List String) :
    tree.walk location (front ++ rest) = .ok place ↔
      ∃ middle, tree.walk location front = .ok middle ∧ tree.walk middle rest = .ok place := by
  rw [walk_append_eq]
  cases tree.walk location front <;> simp

/-- The directory in which an entry is looked up. -/
def entryDirectory (tree : FileTree) (dir : Path) (name : String) : Except IoError Location :=
  match refusal? (dir.join ⟨name⟩) with
  | some e => .error e
  | none =>
      match tree.walk (tree.start dir) dir.entryFront with
      | .error e => .error e
      | .ok directory =>
          match tree.requireDirectory directory with
          | .error e => .error e
          | .ok _ => .ok directory

theorem entryDirectory_eq_ok_iff {tree : FileTree} {dir : Path} {name : String}
    {directory : Location} :
    tree.entryDirectory dir name = .ok directory ↔
      refusal? (dir.join ⟨name⟩) = none ∧
        tree.walk (tree.start dir) dir.entryFront = .ok directory ∧
          tree.node? directory = some .directory := by
  rw [← requireDirectory_eq_ok_iff]
  unfold entryDirectory
  cases refusal? (dir.join ⟨name⟩) with
  | some e => simp
  | none =>
      cases tree.walk (tree.start dir) dir.entryFront with
      | error e => simp
      | ok place =>
          dsimp only
          cases hrequired : tree.requireDirectory place with
          | error e =>
              constructor
              · rintro ⟨⟩
              · rintro ⟨-, ⟨⟩, hdirectory⟩
                cases hrequired.symm.trans hdirectory
          | ok found =>
              constructor
              · rintro ⟨⟩
                exact ⟨rfl, rfl, hrequired⟩
              · rintro ⟨-, ⟨⟩, -⟩
                rfl

theorem start_join (tree : FileTree) (dir : Path) {entry : Path}
    (hentry : entry.isAbsolute = false) : tree.start (dir.join entry) = tree.start dir := by
  rw [start, start, Path.isAbsolute_join hentry]

theorem locate_join_eq (tree : FileTree) (dir : Path) {name : String}
    (hname : Path.IsName name) :
    tree.locate (dir.join ⟨name⟩) =
      match tree.entryDirectory dir name with
      | .error e => .error e
      | .ok directory =>
          if isNameTooLong name then .error .nameTooLong else .ok (directory ++ [name]) := by
  unfold locate entryDirectory
  cases refusal? (dir.join ⟨name⟩) with
  | some e => rfl
  | none =>
      dsimp only
      rw [start_join tree dir hname.isAbsolute, Path.segments_join hname.isAbsolute,
        hname.segments, walk_append_eq]
      cases tree.walk (tree.start dir) dir.entryFront with
      | error e => rfl
      | ok directory =>
          dsimp only
          rw [walk, step]
          cases tree.requireDirectory directory with
          | error e => rfl
          | ok found =>
              simp only [hname.ne_empty, hname.ne_here, hname.ne_up, or_self, if_false]
              cases isNameTooLong name <;> rfl

theorem locate_join_eq_ok_iff (tree : FileTree) (dir : Path) {name : String}
    (hname : Path.IsName name) (location : Location) :
    tree.locate (dir.join ⟨name⟩) = .ok location ↔
      refusal? (dir.join ⟨name⟩) = none ∧
        ∃ directory, tree.walk (tree.start dir) dir.entryFront = .ok directory ∧
          tree.node? directory = some .directory ∧ isNameTooLong name = false ∧
            location = directory ++ [name] := by
  rw [locate_join_eq tree dir hname]
  constructor
  · intro h
    cases hentry : tree.entryDirectory dir name with
    | error e => simp [hentry] at h
    | ok directory =>
        obtain ⟨hrefusal, hwalk, hdirectory⟩ := entryDirectory_eq_ok_iff.1 hentry
        rw [hentry] at h
        cases hlong : isNameTooLong name with
        | true => simp [hlong] at h
        | false =>
            simp only [hlong, Bool.false_eq_true, if_false, Except.ok.injEq] at h
            exact ⟨hrefusal, directory, hwalk, hdirectory, rfl, h.symm⟩
  · rintro ⟨hrefusal, directory, hwalk, hdirectory, hshort, rfl⟩
    rw [entryDirectory_eq_ok_iff.2 ⟨hrefusal, hwalk, hdirectory⟩, hshort]
    rfl

theorem locate_join_injective (tree : FileTree) (dir : Path) {name other : String}
    (hname : Path.IsName name) (hother : Path.IsName other) {location : Location}
    (h : tree.locate (dir.join ⟨name⟩) = .ok location)
    (hsame : tree.locate (dir.join ⟨other⟩) = .ok location) : name = other := by
  rw [locate_join_eq_ok_iff tree dir hname] at h
  rw [locate_join_eq_ok_iff tree dir hother] at hsame
  obtain ⟨-, directory, -, -, -, hlocation⟩ := h
  obtain ⟨-, place, -, -, -, hplace⟩ := hsame
  have hlast : (directory ++ [name]).getLast? = (place ++ [other]).getLast? := by
    rw [← hlocation, ← hplace]
  simpa using hlast

theorem target_join (tree : FileTree) (dir : Path) {name : String} (hname : Path.IsName name) :
    tree.target (dir.join ⟨name⟩) =
      match tree.entryDirectory dir name with
      | .error e => .error e
      | .ok directory => .ok ⟨directory, some name, false⟩ := by
  have hkept : ((dir.entryFront ++ [name]).reverse.dropWhile (· == "")).reverse =
      dir.entryFront ++ [name] := by
    simp [hname.ne_empty]
  unfold target entryDirectory
  cases refusal? (dir.join ⟨name⟩) with
  | some e => rfl
  | none =>
      dsimp only
      rw [Path.segments_join hname.isAbsolute, hname.segments, start_join tree dir hname.isAbsolute,
        hkept, List.getLast?_concat, List.dropLast_concat]
      dsimp only
      cases tree.walk (tree.start dir) dir.entryFront with
      | error e => rfl
      | ok directory =>
          dsimp only
          cases tree.requireDirectory directory with
          | error e => rfl
          | ok found => simp [hname.ne_here, hname.ne_up]

theorem kept_cases (segments : List String) :
    let kept := (segments.reverse.dropWhile (· == "")).reverse
    (∀ last, kept.getLast? = some last → last ≠ "") ∧
      (¬ kept.length < segments.length → kept = segments) := by
  intro kept
  constructor
  · intro last hlast
    rw [List.getLast?_reverse] at hlast
    have hhead := List.head?_dropWhile_not (· == "") segments.reverse
    rw [hlast] at hhead
    simpa using hhead
  · intro hlength
    have hsuffix : segments.reverse.dropWhile (· == "") <:+ segments.reverse :=
      List.dropWhile_suffix _
    have hsame : segments.reverse.dropWhile (· == "") = segments.reverse := by
      refine hsuffix.eq_of_length_le ?_
      simpa [kept] using hlength
    show (segments.reverse.dropWhile (· == "")).reverse = segments
    rw [hsame, List.reverse_reverse]

theorem locate_of_target (tree : FileTree) {path : Path} {directory : Location} {name : String}
    (h : tree.target path = .ok ⟨directory, some name, false⟩)
    (hshort : isNameTooLong name = false) : tree.locate path = .ok (directory ++ [name]) := by
  obtain ⟨hlastName, hall⟩ := kept_cases path.segments
  unfold target at h
  cases hrefusal : refusal? path with
  | some e => simp [hrefusal] at h
  | none =>
      rw [hrefusal] at h
      dsimp only at h hlastName hall
      generalize hkept : (path.segments.reverse.dropWhile (· == "")).reverse = kept at *
      cases hlast : kept.getLast? with
      | none => simp [hlast] at h
      | some last =>
          rw [hlast] at h
          dsimp only at h
          cases hwalk : tree.walk (tree.start path) kept.dropLast with
          | error e => simp [hwalk] at h
          | ok place =>
              rw [hwalk] at h
              dsimp only at h
              cases hrequired : tree.requireDirectory place with
              | error e => simp [hrequired] at h
              | ok found =>
                  rw [hrequired] at h
                  simp only [Except.ok.injEq, Target.mk.injEq, ite_eq_iff, reduceCtorEq,
                    and_false, false_or, Option.some.injEq, decide_eq_false_iff_not] at h
                  obtain ⟨rfl, ⟨hplain, rfl⟩, hlength⟩ := h
                  rw [not_or] at hplain
                  have hdirectory := (requireDirectory_eq_ok_iff tree place).mp hrequired
                  -- Nothing was dropped behind the name, so the walk takes all the segments.
                  have hsegments : path.segments = kept.dropLast ++ [last] := by
                    obtain ⟨front, hfront⟩ := List.getLast?_eq_some_iff.mp hlast
                    rw [← hall hlength, hfront, List.dropLast_concat]
                  rw [locate, hrefusal]
                  dsimp only
                  rw [hsegments, walk_append]
                  refine ⟨place, hwalk, ?_⟩
                  rw [walk, step_of_directory hdirectory]
                  simp [hlastName last hlast, hplain, hshort, walk]

theorem put_sameDirectories {tree : FileTree} {location : Location} (hroot : location ≠ [])
    (h : tree.node? location ≠ some .directory) (content : List UInt8) (program : Option Program) :
    SameDirectories tree (tree.put location (.file content program)) where
  workingDir := rfl
  directory_iff place := by
    rw [node?_put tree hroot]
    by_cases hplace : place = location
    · simp [hplace, h]
    · rw [if_neg hplace]

theorem hasFile_put {tree : FileTree} {location : Location} (hroot : location ≠ [])
    (content : List UInt8) (program : Option Program) (place : Location) :
    (tree.put location (.file content program)).HasFile place ↔
      place = location ∨ tree.HasFile place := by
  unfold HasFile
  rw [node?_put tree hroot]
  by_cases hplace : place = location
  · simp [hplace]
  · simp [hplace]

theorem erase_sameDirectories {tree : FileTree} {location : Location} (hroot : location ≠ [])
    (h : tree.node? location ≠ some .directory) :
    SameDirectories tree (tree.erase location) where
  workingDir := rfl
  directory_iff place := by
    rw [node?_erase tree hroot]
    by_cases hplace : place = location
    · simp [hplace, h]
    · rw [if_neg hplace]

theorem hasFile_erase {tree : FileTree} {location : Location} (hroot : location ≠ [])
    (place : Location) :
    (tree.erase location).HasFile place ↔
      place ≠ location ∧ tree.HasFile place := by
  unfold HasFile
  rw [node?_erase tree hroot]
  by_cases hplace : place = location
  · simp [hplace]
  · simp [hplace]

theorem writeText_eq_ok {tree next : FileTree} {path : Path} {text : String}
    (h : tree.writeText path text = .ok next) :
    ∃ location, tree.locate path = .ok location ∧ location ≠ [] ∧
      tree.node? location ≠ some .directory ∧
        next = tree.put location (.file text.toUTF8.toList none) := by
  unfold writeText at h
  split at h
  · simp at h
  · simp at h
  · simp at h
  · rename_i directory name htarget
    cases hshort : isNameTooLong name with
    | true => simp [hshort] at h
    | false =>
        rw [hshort] at h
        refine ⟨directory ++ [name], locate_of_target tree htarget hshort, by simp, ?_⟩
        cases hnode : tree.node? (directory ++ [name]) with
        | none =>
            rw [hnode] at h
            refine ⟨by simp, ?_⟩
            simpa [eq_comm] using h
        | some node =>
            cases node with
            | directory => simp [hnode] at h
            | sealed content => simp [hnode] at h
            | file content program =>
                rw [hnode] at h
                refine ⟨by simp, ?_⟩
                simpa [eq_comm] using h

theorem removeFile_eq_ok {tree next : FileTree} {path : Path}
    (h : tree.removeFile path = .ok next) :
    ∃ location, tree.locate path = .ok location ∧ location ≠ [] ∧ tree.HasFile location ∧
      next = tree.erase location := by
  unfold removeFile at h
  split at h
  · simp at h
  · simp at h
  · rename_i directory name slash htarget
    cases hshort : isNameTooLong name with
    | true => simp [hshort] at h
    | false =>
        rw [hshort] at h
        cases hnode : tree.node? (directory ++ [name]) with
        | none => simp [hnode] at h
        | some node =>
            have hfile : node ≠ .directory := by
              rintro rfl
              simp [hnode] at h
            cases slash with
            | true => cases node <;> simp [hnode] at h
            | false =>
                refine ⟨directory ++ [name], locate_of_target tree htarget hshort, by simp,
                  ⟨node, hnode, hfile⟩, ?_⟩
                cases node with
                | directory => exact absurd rfl hfile
                | file content program => simpa [hnode, erase, eq_comm] using h
                | sealed content => simpa [hnode, erase, eq_comm] using h

theorem isFile_writeText {tree next : FileTree} {path : Path} {text : String}
    (h : tree.writeText path text = .ok next) :
    ∃ location, tree.locate path = .ok location ∧ ∀ other, next.isFile other = true ↔
      tree.isFile other = true ∨ tree.locate other = .ok location := by
  obtain ⟨location, hlocate, hroot, hnode, rfl⟩ := writeText_eq_ok h
  refine ⟨location, hlocate, fun other => ?_⟩
  have hsame := put_sameDirectories hroot hnode text.toUTF8.toList none
  simp only [isFile_iff, hsame.locate_eq_ok_iff, hasFile_put hroot]
  constructor
  · rintro ⟨place, hplace, rfl | hfile⟩
    · exact .inr hplace
    · exact .inl ⟨place, hplace, hfile⟩
  · rintro (⟨place, hplace, hfile⟩ | hother)
    · exact ⟨place, hplace, .inr hfile⟩
    · exact ⟨location, hother, .inl rfl⟩

theorem stat_writeText {tree next : FileTree} {path : Path} {text : String}
    (h : tree.writeText path text = .ok next) :
    next.stat path = .ok (.file text.toUTF8.toList none) := by
  obtain ⟨location, hlocate, hroot, hnode, rfl⟩ := writeText_eq_ok h
  have hsame := put_sameDirectories hroot hnode text.toUTF8.toList none
  rw [stat, hsame.locate_eq_ok hlocate]
  dsimp only
  rw [node?_put tree hroot, if_pos rfl]

theorem isFile_writeText_of_isFile {tree next : FileTree} {path : Path} {text : String}
    (hfile : tree.isFile path = true) (h : tree.writeText path text = .ok next) :
    next.isFile = tree.isFile := by
  obtain ⟨location, hlocate, hfiles⟩ := isFile_writeText h
  obtain ⟨place, hplace, hthere⟩ := (isFile_iff tree path).mp hfile
  obtain rfl : location = place := by
    rw [hlocate, Except.ok.injEq] at hplace
    exact hplace
  funext other
  rw [Bool.eq_iff_iff, hfiles]
  constructor
  · rintro (hold | hwritten)
    · exact hold
    · exact (isFile_iff tree other).mpr ⟨location, hwritten, hthere⟩
  · exact .inl

theorem isFile_removeFile {tree next : FileTree} {path : Path}
    (h : tree.removeFile path = .ok next) :
    ∃ location, tree.locate path = .ok location ∧ tree.HasFile location ∧
      ∀ other, next.isFile other = true ↔
        tree.isFile other = true ∧ tree.locate other ≠ .ok location := by
  obtain ⟨location, hlocate, hroot, hfile, rfl⟩ := removeFile_eq_ok h
  refine ⟨location, hlocate, hfile, fun other => ?_⟩
  have hnode : tree.node? location ≠ some .directory :=
    fun hdirectory => not_hasFile_of_directory hdirectory hfile
  have hsame := erase_sameDirectories hroot hnode
  simp only [isFile_iff, hsame.locate_eq_ok_iff, hasFile_erase hroot]
  constructor
  · rintro ⟨place, hplace, hne, hthere⟩
    refine ⟨⟨place, hplace, hthere⟩, ?_⟩
    rw [hplace, ne_eq, Except.ok.injEq]
    exact hne
  · rintro ⟨⟨place, hplace, hthere⟩, hne⟩
    refine ⟨place, hplace, ?_, hthere⟩
    rw [hplace, ne_eq, Except.ok.injEq] at hne
    exact hne

/-- Where one step of a walk leads if it does not fail. -/
def place (location : Location) (segment : String) : Location :=
  if segment = "" ∨ segment = "." then location
  else if segment = ".." then location.dropLast
  else location ++ [segment]

theorem place_of_step {tree : FileTree} {location reached : Location} {segment : String}
    (h : tree.step location segment = .ok reached) : place location segment = reached := by
  rw [step_of_directory (directory_of_step h)] at h
  unfold place
  by_cases hhere : segment = "" ∨ segment = "."
  · rw [if_pos hhere] at h ⊢
    exact Except.ok.inj h
  · rw [if_neg hhere] at h ⊢
    by_cases hup : segment = ".."
    · rw [if_pos hup] at h ⊢
      exact Except.ok.inj h
    · rw [if_neg hup] at h ⊢
      split at h
      · cases h
      · exact Except.ok.inj h

theorem foldl_place_of_walk {tree : FileTree} {location reached : Location}
    {segments : List String}
    (h : tree.walk location segments = .ok reached) : segments.foldl place location = reached := by
  induction segments generalizing location with
  | nil => exact Except.ok.inj h
  | cons segment rest ih =>
      rw [walk] at h
      cases hstep : tree.step location segment with
      | error e => simp [hstep] at h
      | ok middle =>
          rw [hstep] at h
          rw [List.foldl_cons, place_of_step hstep]
          exact ih h

theorem destination_eq_foldl_entryFront (tree : FileTree) (dir : Path) :
    tree.destination dir = dir.entryFront.foldl place (tree.start dir) := by
  change dir.segments.foldl place (tree.start dir) = _
  rcases dir.spelling_cases with hempty | ⟨front, hslash⟩ | ⟨hempty, hslash⟩
  · have hdir : dir = ⟨""⟩ := by
      cases dir
      exact congrArg Path.mk hempty
    subst hdir
    rfl
  · -- The empty segment behind a trailing slash leads nowhere else.
    rw [Path.segments_of_slash hslash, Path.entryFront_of_slash hslash, List.foldl_append]
    rfl
  · rw [Path.entryFront_of_noSlash hempty hslash]

theorem destination_of_entryDirectory {tree : FileTree} {dir : Path} {name : String}
    {directory : Location} (h : tree.entryDirectory dir name = .ok directory) :
    tree.destination dir = directory := by
  obtain ⟨-, hwalk, -⟩ := entryDirectory_eq_ok_iff.1 h
  rw [destination_eq_foldl_entryFront]
  exact foldl_place_of_walk hwalk

theorem removeFile_join (tree : FileTree) (dir : Path) {name : String}
    (hname : Path.IsName name) :
    tree.removeFile (dir.join ⟨name⟩) =
      match tree.stat (dir.join ⟨name⟩) with
      | .error e => .error e
      | .ok .directory => .error .isADirectory
      | .ok _ => .ok (tree.erase (tree.destination dir ++ [name])) := by
  unfold removeFile stat
  rw [target_join tree dir hname, locate_join_eq tree dir hname]
  cases hentry : tree.entryDirectory dir name with
  | error e => rfl
  | ok directory =>
      dsimp only
      rw [destination_of_entryDirectory hentry]
      cases isNameTooLong name with
      | true => rfl
      | false =>
          simp only [Bool.false_eq_true, if_false]
          cases tree.node? (directory ++ [name]) with
          | none => rfl
          | some node => cases node <;> rfl

theorem removeFile_of_isFile {tree : FileTree} {dir : Path} {name : String}
    (hname : Path.IsName name) (h : tree.isFile (dir.join ⟨name⟩) = true) :
    ∃ next, tree.removeFile (dir.join ⟨name⟩) = .ok next := by
  obtain ⟨node, hstat, hfile⟩ := (isFile_iff_stat _ _).1 h
  rw [removeFile_join tree dir hname, hstat]
  cases node with
  | directory => exact absurd rfl hfile
  | file content program => exact ⟨_, rfl⟩
  | sealed content => exact ⟨_, rfl⟩

/-- The names of the files in a directory. -/
def filesIn (tree : FileTree) (dir : Path) : Set String :=
  { name | Path.IsName name ∧ tree.isFile (dir.join ⟨name⟩) = true }

theorem filesIn_congr {tree next : FileTree} (h : next.isFile = tree.isFile) (dir : Path) :
    next.filesIn dir = tree.filesIn dir := by
  rw [filesIn, filesIn, h]

section FilesIn

variable {tree next : FileTree} (dir : Path) {name : String}

theorem filesIn_writeText {text : String} (hname : Path.IsName name)
    (h : tree.writeText (dir.join ⟨name⟩) text = .ok next) :
    next.filesIn dir = insert name (tree.filesIn dir) := by
  obtain ⟨location, hlocate, hfiles⟩ := isFile_writeText h
  ext other
  simp only [filesIn, Set.mem_ofPred_eq, Set.mem_insert_iff, hfiles]
  constructor
  · rintro ⟨hother, hfile | hplace⟩
    · exact .inr ⟨hother, hfile⟩
    · exact .inl (locate_join_injective tree dir hother hname hplace hlocate)
  · rintro (rfl | ⟨hother, hfile⟩)
    · exact ⟨hname, .inr hlocate⟩
    · exact ⟨hother, .inl hfile⟩

theorem filesIn_removeFile (hname : Path.IsName name)
    (h : tree.removeFile (dir.join ⟨name⟩) = .ok next) :
    next.filesIn dir = tree.filesIn dir \ {name} := by
  obtain ⟨location, hlocate, -, hfiles⟩ := isFile_removeFile h
  ext other
  simp only [filesIn, Set.mem_ofPred_eq, Set.mem_sdiff, Set.mem_singleton_iff, hfiles]
  constructor
  · rintro ⟨hother, hfile, hne⟩
    refine ⟨⟨hother, hfile⟩, ?_⟩
    rintro rfl
    exact hne hlocate
  · rintro ⟨⟨hother, hfile⟩, hne⟩
    refine ⟨hother, hfile, fun hplace => hne ?_⟩
    exact locate_join_injective tree dir hother hname hplace hlocate

end FilesIn

end ActionLauncher.FileTree

import ActionLauncher.Proofs.PrivateCache

namespace ActionLauncher

open Launch

namespace FileTree

variable {tree earlier next : FileTree} {path dir : Path} {location : Location} {name : String}

theorem destination_of_locate (h : tree.locate path = .ok location) :
    tree.destination path = location := by
  unfold locate at h
  cases hrefusal : refusal? path with
  | some e => simp [hrefusal] at h
  | none =>
      rw [hrefusal] at h
      exact foldl_place_of_walk h

/-- The tree without the file at the end of a path, if there is one. -/
def without (tree : FileTree) (path : Path) : FileTree :=
  match tree.removeFile path with
  | .ok next => next
  | .error _ => tree

theorem workingDir_without (tree : FileTree) (path : Path) :
    (tree.without path).workingDir = tree.workingDir := by
  unfold without
  cases hremove : tree.removeFile path with
  | error e => rfl
  | ok next =>
      obtain ⟨location, -, -, -, rfl⟩ := removeFile_eq_ok hremove
      rfl

theorem isFile_without_self (tree : FileTree) (dir : Path) (hname : Path.IsName name) :
    (tree.without (dir.join ⟨name⟩)).isFile (dir.join ⟨name⟩) = false := by
  unfold without
  cases hremove : tree.removeFile (dir.join ⟨name⟩) with
  | error e =>
      rw [← Bool.not_eq_true]
      intro hfile
      obtain ⟨next, hnext⟩ := removeFile_of_isFile hname hfile
      cases hnext.symm.trans hremove
  | ok next =>
      obtain ⟨location, hlocate, -, hfiles⟩ := isFile_removeFile hremove
      rw [← Bool.not_eq_true]
      exact fun hfile => ((hfiles _).1 hfile).2 hlocate

/-- No file has the name, in whatever directory. -/
def Unused (tree : FileTree) (name : String) : Prop :=
  ∀ directory, ¬ tree.HasFile (directory ++ [name])

theorem unused_of_nodes (h : ∀ entry ∈ tree.nodes, entry.1.getLast? ≠ some name) :
    tree.Unused name := by
  rintro directory ⟨node, hnode, -⟩
  unfold node? at hnode
  rw [if_neg (by simp)] at hnode
  obtain ⟨before, rest, hnodes, -⟩ := List.lookup_eq_some_iff.1 hnode
  exact h (directory ++ [name], node) (by simp [hnodes]) (by simp)

/-- A file from before there was one of this name stays when the one in a directory goes. -/
theorem isFile_without (hname : Path.IsName name) (hunused : earlier.Unused name)
    (hworking : tree.workingDir = earlier.workingDir) (hearlier : earlier.isFile path = true)
    (h : tree.isFile path = true) : (tree.without (dir.join ⟨name⟩)).isFile path = true := by
  unfold without
  cases hremove : tree.removeFile (dir.join ⟨name⟩) with
  | error e => exact h
  | ok next =>
      obtain ⟨location, hlocate, -, hfiles⟩ := isFile_removeFile hremove
      refine (hfiles path).2 ⟨h, ?_⟩
      intro hsame
      -- The path led to the same place before, where the name says that no file can have stood.
      obtain ⟨place, hplace, hfile⟩ := (isFile_iff earlier path).1 hearlier
      have hdestination : earlier.destination path = tree.destination path := by
        rw [destination, destination, start, start, hworking]
      rw [destination_of_locate hplace, destination_of_locate hsame] at hdestination
      obtain ⟨-, directory, -, -, -, rfl⟩ := (locate_join_eq_ok_iff tree dir hname location).1
        hlocate
      exact hunused directory (hdestination ▸ hfile)

end FileTree

/-- The working directory stays, and a path that leads to a file goes on to do so. -/
def Spares (path : Path) (world next : World) : Prop :=
  next.files.workingDir = world.files.workingDir ∧
    (world.files.isFile path = true → next.files.isFile path = true)

instance (path : Path) : IsPreorder World (Spares path) where
  refl _ := ⟨rfl, id⟩
  trans _ _ _ first second := ⟨second.1.trans first.1, fun hfile => second.2 (first.2 hfile)⟩

variable {path : Path} {world next : World}

theorem spares_of_files (h : next.files = world.files) : Spares path world next := by
  unfold Spares
  rw [h]
  exact ⟨rfl, id⟩

theorem spares_of_writeText {written : Path} {text : String}
    (h : world.files.writeText written text = .ok next.files) : Spares path world next := by
  obtain ⟨location, -, hfiles⟩ := FileTree.isFile_writeText h
  obtain ⟨place, -, -, -, hput⟩ := FileTree.writeText_eq_ok h
  exact ⟨hput ▸ rfl, fun hfile => (hfiles path).2 (.inl hfile)⟩

theorem spares_discipline (path : Path) : Discipline (Respects (Spares path)) :=
  .respects fun _ _ _ _ => spares_of_files rfl

namespace KerberosTools

open Provider

variable (tools : KerberosTools)

theorem spawn_spares (path program : Path) (args : List String)
    (additions : List (String × String)) :
    Respects (Spares path) (spawn program args additions) := by
  intro world
  rcases spawn_writesAtMost program args additions world with hsame | ⟨cache, -, hwrite⟩
  · exact spares_of_files hsame
  · exact spares_of_writeText hwrite

theorem runTool_spares (path : Path) (principal : String) (program : Path) (args : List String)
    (settings : LoginSettings) :
    Respects (Spares path) (runTool principal program args settings) :=
  runTool_obeys (spares_discipline path) (spawn_spares path program args _) principal

theorem newIdentity_spares (path : Path) (principal : String) (source : Source) :
    Respects (Spares path) (newIdentity principal source) :=
  fun _ => spares_of_files rfl

theorem fromKeytab_spares (path : Path) (principal : String) (keytab : Path)
    (settings : LoginSettings) :
    Respects (Spares path) (tools.fromKeytab principal keytab settings) :=
  fromKeytab_obeys (spares_discipline path) tools (fun _ => spares_of_files rfl)
    (fun kinit args => runTool_spares path principal kinit args settings)
    (newIdentity_spares path principal .keytab) keytab

theorem acquire_spares (path : Path) (acquirer : Acquirer)
    (hprovider : acquirer.provider = tools.provider) (spec : PrincipalSpec)
    (config : Option Configuration) :
    Respects (Spares path) (acquirer.acquire spec config) := by
  -- A provider that only logs in serves an acquisition just as well.
  let logsIn : Provider :=
    { tools.provider with
      ambient := return .error (.commandNotFound "")
      release := fun _ => return .ok () }
  have hlogsIn : logsIn.Obeys (Respects (Spares path)) := by
    constructor
    case ambient => exact .pure _
    case fromKeytab => exact tools.fromKeytab_spares path
    case fromTicketCache =>
      intro principal cache settings
      exact fromTicketCache_obeys (spares_discipline path) tools
        (fun _ => runTool_spares path _ _ _ _) (fun _ => runTool_spares path _ _ _ _)
        fun _ => newIdentity_spares path _ _
    case release => exact fun _ => .pure _
  have hsame : (Acquirer.mk logsIn acquirer.settings).acquire spec config =
      acquirer.acquire spec config := by
    obtain ⟨provider, settings⟩ := acquirer
    obtain rfl : provider = tools.provider := hprovider
    rfl
  rw [← hsame]
  exact Acquirer.acquire_obeys (spares_discipline path) _ hlogsIn spec config

theorem files_release (principal : String) (id : Uuid) (time : Time.Timestamp) (world : World) :
    (after (tools.release (tools.keytabIdentity principal id time)) world).files =
      world.files.without (tools.privateCache principal id) := by
  rw [after, release_keytabIdentity, FileTree.without]
  cases world.files.removeFile (tools.privateCache principal id) <;> rfl

end KerberosTools

end ActionLauncher

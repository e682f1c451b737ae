import ActionLauncher.Proofs.FileChange
import ActionLauncher.Proofs.ProviderConduct

namespace ActionLauncher

open Launch

namespace Launch

/-- The files did not change, but for the cache that the arguments name. -/
def WritesAtMost (args : List String) (world next : World) : Prop :=
  next.files = world.files ∨
    ∃ cache, namedCache? args = some cache ∧ world.files.writeText cache "cache" = .ok next.files

theorem callTool_writesAtMost (tool : Tool) (args : List String) (environment : Table) :
    Respects (WritesAtMost args) (callTool tool args environment) := by
  intro world
  unfold WritesAtMost callTool
  cases tool.writesCache with
  | false => exact .inl rfl
  | true =>
      cases namedCache? args with
      | none => exact .inl rfl
      | some cache =>
          cases hwrite : world.files.writeText cache "cache" with
          | error cause =>
              left
              simp [after_bind, hwrite]
          | ok files =>
              right
              exact ⟨cache, rfl, by simp [after_bind, hwrite]⟩

theorem runProgram_writesAtMost (program : Program) (args : List String) (environment : Table) :
    Respects (WritesAtMost args) (runProgram program args environment) := by
  unfold runProgram
  split
  · exact callTool_writesAtMost _ _ _
  · exact fun _ => .inl rfl
  · exact fun _ => .inl rfl

theorem spawn_writesAtMost (program : Path) (args : List String)
    (additions : List (String × String)) :
    Respects (WritesAtMost args) (spawn program args additions) := by
  intro world
  unfold spawn
  split
  · exact .inl rfl
  · rw [after_congr (get_bind _ world)]
    dsimp only
    split
    · exact .inl rfl
    · split
      · exact .inl rfl
      · rename_i found _ _
        rw [bind_pure_comp, after_map]
        exact runProgram_writesAtMost found args _ world

theorem spawn_of_error (program : Path) (args : List String) (additions : List (String × String))
    (world : World) (cause : IoError) :
    ending (spawn program args additions) world = .ok (.error cause) →
      after (spawn program args additions) world = world := by
  unfold spawn
  split
  · exact fun _ => rfl
  · rw [ending_congr (get_bind _ world), after_congr (get_bind _ world)]
    dsimp only
    split
    · exact fun _ => rfl
    · split
      · exact fun _ => rfl
      · rename_i found _ _
        rw [bind_pure_comp, ending_map]
        intro hend
        cases hran : ending (runProgram found args (world.environment.insertAll additions))
            world <;> simp [hran, Except.map] at hend

end Launch

def World.fileTest (world : World) : Path → Bool :=
  world.files.isFile

namespace KerberosTools

open Provider

/-- If a path leads to a file, then the paths to files stay as they are. -/
def KeepsBeside (cache : Path) (world next : World) : Prop :=
  world.files.isFile cache = true → Same World.fileTest world next

instance (cache : Path) : IsPreorder World (KeepsBeside cache) where
  refl _ _ := rfl
  trans world middle last first second hfile := by
    have hfirst := first hfile
    refine (second ?_).trans hfirst
    show middle.fileTest cache = true
    rw [hfirst]
    exact hfile

theorem keepsBeside_of_files {cache : Path} {world next : World} (h : next.files = world.files) :
    KeepsBeside cache world next := by
  intro _
  exact congrArg FileTree.isFile h

theorem keepsBeside_discipline (cache : Path) : Discipline (Respects (KeepsBeside cache)) :=
  .respects fun _ _ _ _ => keepsBeside_of_files rfl

theorem spawn_keepsBeside {args : List String} {cache : Path} (h : namedCache? args = some cache)
    (program : Path) (additions : List (String × String)) :
    Respects (KeepsBeside cache) (spawn program args additions) := by
  intro world hfile
  rcases spawn_writesAtMost program args additions world with hsame | ⟨named, hnamed, hwrite⟩
  · exact congrArg FileTree.isFile hsame
  · rw [h, Option.some.injEq] at hnamed
    subst hnamed
    exact FileTree.isFile_writeText_of_isFile hfile hwrite

theorem runTool_keepsBeside {args : List String} {cache : Path} (h : namedCache? args = some cache)
    (principal : String) (program : Path) (settings : LoginSettings) :
    Respects (KeepsBeside cache) (runTool principal program args settings) :=
  runTool_obeys (keepsBeside_discipline cache) (spawn_keepsBeside h program _) principal

theorem unnamed_cacheName (cache : Path) :
    (Text.after? "FILE:" (cacheName cache)).getD (cacheName cache) = cache.text := by
  rw [cacheName, Text.after?_append, Option.getD_some]

theorem namedCache?_klist (cache : Path) : namedCache? ["-c", cacheName cache] = some cache := by
  simp [namedCache?, unnamed_cacheName]

theorem namedCache?_klist_test (cache : Path) :
    namedCache? ["-s", "-c", cacheName cache] = some cache := by
  simp [namedCache?, unnamed_cacheName]

theorem fromTicketCache_keeps (tools : KerberosTools) (principal : String) (cache : Path)
    (settings : LoginSettings) :
    Respects (Same World.fileTest) (tools.fromTicketCache principal cache settings) := by
  have hlogin := fromTicketCache_obeys (keepsBeside_discipline cache) tools
    (fun klist => runTool_keepsBeside (namedCache?_klist_test cache) principal klist settings)
    (fun klist => runTool_keepsBeside (namedCache?_klist cache) principal klist settings)
    (fun _ _ => keepsBeside_of_files rfl)
  intro world
  by_cases hfile : world.files.isFile cache = true
  · exact hlogin world hfile
  · unfold fromTicketCache
    rw [after_congr (get_bind _ world), if_pos (by simpa using hfile)]
    rfl

end KerberosTools

end ActionLauncher

import ActionLauncher.Body
import ActionLauncher.CommandLine.Actions
import ActionLauncher.Proofs.RunEvents

namespace ActionLauncher

open Launch

/-- The relation is kept by everything that a body does besides what its provider does. -/
structure Conduct (R : World → World → Prop) : Prop where
  logs : ∀ (world : World) (records : List Record), R world { world with records := records }
  notes : ∀ (world : World) (journal : List JournalEntry),
    R world { world with journal := journal }
  prints : ∀ (world : World) (stdout : List UInt8), R world { world with stdout := stdout }
  logins : ∀ (world : World) (identity : Identity), R world { world with login := identity }
  sets : ∀ (world : World) (key value : String), R world (after (setOutput key value) world)
  inside : ∀ (scope : Scope) (identity : Identity) (world : World),
    R world (scope.inside identity world)
  outside : ∀ (scope : Scope) (login : Identity) (guest : Option Identity) (world : World),
    R world (scope.outside login guest world)

section Conduct

variable {R : World → World → Prop} [IsPreorder World R] (hR : Conduct R)

include hR

theorem conduct_discipline : Discipline (Respects R) :=
  .respects fun _ _ _ world => hR.logs world _

namespace Body

variable (surroundings : Surroundings)

omit [IsPreorder World R] in
theorem observe_respects (observation : Observation) : Respects R (observe observation) :=
  fun world => hR.notes world _

theorem print_respects (context : Context) : Respects R context.print := by
  have hlogs (lines : List (String × List (String × String))) :
      Respects R (lines.forM fun line => log .debug line.1 line.2) := by
    induction lines with
    | nil => exact .pure _
    | cons line rest ih => exact .bind ((conduct_discipline hR).log _ _ _) fun _ => ih
  exact .bind .get fun _ => .bind (hlogs _) fun _ => .bind .get fun _ => .pure _

omit hR in
theorem inRun_respects {f : Context → List String → Launch BodyEnd}
    (hf : ∀ context args, Respects R (f context args)) :
    Respects R (inRun surroundings f) := by
  unfold inRun
  split
  · exact hf _ _
  · exact .pure _

variable (hprovider : surroundings.acquirer.provider.Obeys (Respects R))

include hprovider

theorem perform_respects (identity : Identity) (config : Configuration) (operation : Operation) :
    Respects R (perform surroundings identity config operation) := by
  have hobserve (observation : Observation) : Respects R (observe observation) :=
    observe_respects hR observation
  cases operation with
  | identity => exact hobserve _
  | config => exact hobserve _
  | current => exact .bind .get fun _ => hobserve _
  | login => exact .bind .get fun _ => hobserve _
  | guest => exact .bind .get fun _ => hobserve _
  | tree => exact .bind .get fun _ => hobserve _
  | acquire spec config =>
      exact .bind (Acquirer.acquire_obeys (conduct_discipline hR) _ hprovider _ _)
        fun _ => hobserve _
  | setLogin identity => exact fun world => hR.logins world identity
  | fail message => exact .pure _
  | panic cause => exact .throw cause
  | args => exact inRun_respects surroundings fun _ _ => hobserve _
  | properties => exact inRun_respects surroundings fun _ _ => hobserve _
  | outputs => exact .bind .get fun _ => hobserve _
  | get key => exact inRun_respects surroundings fun _ _ => hobserve _
  | setOutput key value => exact fun world => hR.sets world key value
  | context => exact inRun_respects surroundings fun _ _ => hobserve _
  | command program => exact inRun_respects surroundings fun _ _ => hobserve _
  | printContext =>
      exact inRun_respects surroundings fun context _ =>
        .bind (print_respects hR context) fun _ => hobserve _

/-- A scripted body keeps the relation, with all the scopes that it enters. -/
theorem run_respects (body : Body) (identity : Identity) (config : Configuration) :
    Respects R (body.run surroundings identity config) := by
  induction body generalizing identity config with
  | done => exact .pure _
  | act operation next ih =>
      refine .bind (perform_respects hR surroundings hprovider identity config operation)
        fun ended => ?_
      cases ended with
      | error message => exact .pure _
      | ok _ => exact ih identity config
  | enter entry inner next ihInner ihNext =>
      refine .bind (Respects.settle ?_) fun ended => .bind ?_ fun _ => ihNext identity config
      · exact Scope.run_respects (conduct_discipline hR) _ hprovider (hR.inside _)
          (hR.outside _) _ _ fun identity config => ihInner identity config
      · exact fun world => hR.notes world _

end Body

namespace CommandLine

theorem BuiltIn.body_respects (hspawn : ∀ program args additions,
    Respects R (spawn program args additions)) (builtIn : BuiltIn) (context : Context)
    (args : List String) : Respects R (builtIn.body context args) := by
  have hprint (bytes : List UInt8) : Respects R (print bytes) :=
    fun world => hR.prints world _
  have houtput (key value : String) : Respects R (setOutput key value) :=
    fun world => hR.sets world key value
  cases builtIn with
  | listDir =>
      refine .bind .get fun world => ?_
      split
      · exact .pure _
      · exact .bind (hprint _) fun _ => .bind (houtput _ _) fun _ => .pure _
  | whoami =>
      refine .bind ((Body.print_respects hR context).map _) fun _ => ?_
      exact .bind (hprint _) fun _ => .bind (houtput _ _) fun _ => .pure _
  | exec =>
      cases args with
      | nil => exact .pure _
      | cons program rest =>
          refine .bind (hspawn _ _ _) fun spawned => ?_
          split
          · exact .pure _
          · refine .bind (hprint _) fun _ => .bind (houtput _ _) fun _ => ?_
            split
            · exact .pure _
            · exact .pure _

end CommandLine

end Conduct

theorem Launch.Returns.aside {α : Type} {x : Launch α} (h : Returns (Same World.standing) x) :
    Respects Aside x :=
  h.respects.mono fun _ _ => World.aside_of_standing

namespace Scope

theorem inside_aside (scope : Scope) (identity : Identity) (world : World) :
    Aside world (scope.inside identity world) := by
  unfold inside bound entered
  cases scope.method with
  | impersonation => exact ⟨rfl, List.prefix_rfl⟩
  | login => exact ⟨rfl, List.prefix_append _ _⟩

theorem outside_aside (scope : Scope) (login : Identity) (guest : Option Identity)
    (world : World) : Aside world (scope.outside login guest world) := by
  unfold outside
  cases scope.method with
  | impersonation => exact ⟨rfl, List.prefix_rfl⟩
  | login => exact ⟨rfl, List.prefix_append _ _⟩

end Scope

theorem aside_conduct : Conduct Aside where
  logs _ _ := ⟨rfl, List.prefix_rfl⟩
  notes _ _ := ⟨rfl, List.prefix_rfl⟩
  prints _ _ := ⟨rfl, List.prefix_rfl⟩
  logins _ _ := ⟨rfl, List.prefix_rfl⟩
  sets _ _ _ := ⟨rfl, List.prefix_rfl⟩
  inside := Scope.inside_aside
  outside := Scope.outside_aside

theorem Body.run_aside (surroundings : Surroundings)
    (hprovider : surroundings.acquirer.provider.Obeys (Returns (Same World.standing)))
    (body : Body) (identity : Identity) (config : Configuration) :
    Respects Aside (body.run surroundings identity config) :=
  run_respects aside_conduct surroundings (hprovider.mono fun _ h => h.aside) body identity config

theorem CommandLine.BuiltIn.body_aside (builtIn : BuiltIn) (context : Context)
    (args : List String) : Respects Aside (builtIn.body context args) :=
  body_respects aside_conduct (fun _ _ _ => (Provider.standing_spawn _ _ _).aside) builtIn context
    args

end ActionLauncher

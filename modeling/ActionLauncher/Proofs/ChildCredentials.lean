import ActionLauncher.Proofs.AmbientVariables
import ActionLauncher.Proofs.BodyConfiguration
import ActionLauncher.Proofs.OutputDelivery

namespace ActionLauncher

open Launch

/-- The types of credential caches. -/
inductive CacheKind
  | file
  | directory
  | keyring
  | kcm
  | api
  | memory
  deriving DecidableEq, Repr

namespace CacheKind

/-- What stands in front of the name of a cache of this type. -/
def mark : CacheKind → String
  | file => "FILE:"
  | directory => "DIR:"
  | keyring => "KEYRING:"
  | kcm => "KCM:"
  | api => "API:"
  | memory => "MEMORY:"

def all : List CacheKind :=
  [file, directory, keyring, kcm, api, memory]

theorem mem_all (kind : CacheKind) : kind ∈ all := by
  cases kind <;> decide

end CacheKind

/-- A credential cache: its type, and what tells it from the others of that type. -/
structure CacheName where
  kind : CacheKind
  residual : String
  deriving DecidableEq, Repr

namespace CacheName

/-- The cache that a value of the variable names. -/
def ofText (text : String) : CacheName :=
  (CacheKind.all.findSome? fun kind =>
    (Text.after? kind.mark text).map (CacheName.mk kind)).getD ⟨.file, text⟩

/-- The value has no type in front, so that it names a file. -/
def Untyped (text : String) : Prop :=
  ∀ kind rest, text ≠ CacheKind.mark kind ++ rest

variable {text : String}

theorem ofText_file (rest : String) : ofText ("FILE:" ++ rest) = ⟨.file, rest⟩ := by
  have hafter : Text.after? "FILE:" ("FILE:" ++ rest) = some rest := Text.after?_append _ _
  rw [ofText, CacheKind.all, List.findSome?_cons, CacheKind.mark, hafter]
  rfl

theorem ofText_of_untyped (h : Untyped text) : ofText text = ⟨.file, text⟩ := by
  have hnone : (CacheKind.all.findSome? fun kind =>
      (Text.after? kind.mark text).map (CacheName.mk kind)) = none := by
    refine List.findSome?_eq_none_iff.2 fun kind _ => ?_
    refine Option.map_eq_none_iff.2 (Option.eq_none_iff_forall_ne_some.2 fun rest hrest => ?_)
    exact h kind rest (Text.eq_append_of_after? hrest)
  rw [ofText, hnone]
  rfl

theorem kind_ofText_ne_file (hplain : ∀ rest, text ≠ "FILE:" ++ rest) (h : ¬ Untyped text) :
    (ofText text).kind ≠ .file := by
  rw [ofText]
  cases hfound : CacheKind.all.findSome? fun kind =>
      (Text.after? kind.mark text).map (CacheName.mk kind) with
  | none =>
      refine absurd (fun kind rest htext => ?_) h
      have hmissing := List.findSome?_eq_none_iff.1 hfound kind kind.mem_all
      rw [htext, Text.after?_append] at hmissing
      cases hmissing
  | some name =>
      obtain ⟨kind, -, hkind⟩ := List.exists_of_findSome?_eq_some hfound
      obtain ⟨rest, hrest, rfl⟩ := Option.map_eq_some_iff.1 hkind
      rintro rfl
      exact hplain rest (Text.eq_append_of_after? hrest)

/-- The value has no type in front, or that of a file, but not twice with a name behind. -/
structure Faithful (value : String) : Prop where
  kind : (ofText value).kind = .file
  once : ∀ rest, value = "FILE:" ++ rest → Provider.Marked rest →
    Text.isBlank (Provider.unmarked rest) = true

/-- What becomes of the name of a cache on its way from the launcher to a child process. -/
structure PassedOn (value child : String) : Prop where
  sameCache_iff : ofText child = ofText value ↔ Faithful value
  spelling : Faithful value → child = value ∨ Untyped value ∧ child = "FILE:" ++ value
  /-- Otherwise the child is sent to a file with the name, marks left out, of the cache. -/
  astray : ¬ Faithful value → child = "FILE:" ++ Provider.unmarked value

open Provider (Marked unmarked marked_iff unmarked_append unmarked_of_not_marked
  not_marked_unmarked)

theorem passedOn_left {value : String} (hvalue : Text.isBlank value = false)
    (hunmarked : Text.isBlank (unmarked value) = true) : PassedOn value value := by
  have hmarked : Marked value := by
    by_contra hplain
    rw [unmarked_of_not_marked hplain, hvalue] at hunmarked
    cases hunmarked
  obtain ⟨rest, rfl⟩ := marked_iff.1 hmarked
  have hfaithful : Faithful ("FILE:" ++ rest) := by
    refine ⟨by rw [ofText_file], fun other hother _ => ?_⟩
    rwa [hother, unmarked_append] at hunmarked
  exact ⟨iff_of_true rfl hfaithful, fun _ => .inl rfl, fun h => absurd hfaithful h⟩

theorem passedOn_marked {rest : String} (hunmarked : Text.isBlank (unmarked rest) = false) :
    PassedOn ("FILE:" ++ rest) ("FILE:" ++ unmarked rest) := by
  have honce : Faithful ("FILE:" ++ rest) ↔ ¬ Marked rest := by
    constructor
    · intro h hmarked
      rw [h.once rest rfl hmarked] at hunmarked
      cases hunmarked
    · refine fun hplain => ⟨by rw [ofText_file], fun other hother hmarked => ?_⟩
      rw [← (String.append_right_inj _).1 hother] at hmarked
      exact absurd hmarked hplain
  constructor
  case sameCache_iff =>
    rw [ofText_file, ofText_file, CacheName.mk.injEq, honce]
    constructor
    · rintro ⟨-, hrest⟩
      exact hrest ▸ not_marked_unmarked rest
    · exact fun hplain => ⟨rfl, unmarked_of_not_marked hplain⟩
  case spelling =>
    intro h
    rw [unmarked_of_not_marked (honce.1 h)]
    exact .inl rfl
  case astray => exact fun _ => by rw [unmarked_append]

theorem passedOn_plain {value : String} (hplain : ¬ Marked value) :
    PassedOn value ("FILE:" ++ value) := by
  have hfile (rest : String) : value ≠ "FILE:" ++ rest :=
    fun hvalue => hplain (marked_iff.2 ⟨rest, hvalue⟩)
  have huntyped : Faithful value ↔ Untyped value := by
    constructor
    · intro h
      by_contra htyped
      exact kind_ofText_ne_file hfile htyped h.kind
    · intro h
      exact ⟨by rw [ofText_of_untyped h], fun rest hvalue => absurd hvalue (hfile rest)⟩
  constructor
  case sameCache_iff =>
    rw [ofText_file, huntyped]
    constructor
    · intro h
      by_contra htyped
      exact kind_ofText_ne_file hfile htyped (by rw [← h])
    · exact fun h => (ofText_of_untyped h).symm
  case spelling => exact fun h => .inr ⟨huntyped.1 h, rfl⟩
  case astray => exact fun _ => by rw [unmarked_of_not_marked hplain]

theorem passedOn_written {value : String} (hunmarked : Text.isBlank (unmarked value) = false) :
    PassedOn value ("FILE:" ++ unmarked value) := by
  by_cases hmarked : Marked value
  · obtain ⟨rest, rfl⟩ := marked_iff.1 hmarked
    rw [unmarked_append] at hunmarked ⊢
    exact passedOn_marked hunmarked
  · rw [unmarked_of_not_marked hmarked]
    exact passedOn_plain hmarked

end CacheName

/-- The value of an environment variable. -/
def World.valueOf? (name : String) (world : World) : Option String :=
  world.environment.get? name

section Variable

variable {name : String}

theorem variable_discipline (name : String) :
    Discipline (Respects (Same (World.valueOf? name))) :=
  .respects fun _ _ _ _ => rfl

theorem callTool_variable (tool : Tool) (args : List String) (environment : Table) :
    Respects (Same (World.valueOf? name)) (callTool tool args environment) := by
  refine Provider.callTool_obeys (variable_discipline name)
    (fun change h => .modify fun world => ?_) tool args environment
  obtain ⟨calls, files, hchange⟩ := h world
  rw [Same, hchange]
  rfl

theorem Provider.builtIn_variable {provider : Provider}
    (h : provider = .simple ∨ ∃ tools : KerberosTools, provider = tools.provider) :
    provider.Obeys (Respects (Same (World.valueOf? name))) := by
  have hP := variable_discipline name
  have hnow : Respects (Same (World.valueOf? name)) now := fun _ => rfl
  rcases h with rfl | ⟨tools, rfl⟩
  · exact simple_obeys_of_now hP hnow
  · exact tools.obeys_of_spawn hP hnow (fun _ => rfl)
      (fun program args additions => spawn_obeys hP
        (fun tool environment => callTool_variable tool args environment) program additions)
      (fun _ _ => rfl)

theorem variable_bookkeeping (h : name ∉ Names.credentialKeys.map Properties.variableName) :
    Runner.Bookkeeping (Same (World.valueOf? name)) where
  logs _ _ := rfl
  exports world key value hkey := by
    show Table.get? _ _ = Table.get? _ _
    refine (Table.get?_insert ..).trans (if_neg fun hname => h ?_)
    exact hname.symm ▸ List.mem_map_of_mem hkey
  tags _ _ := rfl
  tells world announce event _ := by
    cases announce <;> rfl
  moves world announce target _ := by
    cases announce <;> rfl

theorem Runner.variable_entered {runner : Runner} {action : Action} {base : Configuration}
    {world entered : World} {context : Context}
    (hprovider : runner.provider.Obeys (Respects (Same (World.valueOf? name))))
    (hname : name ∉ Names.credentialKeys.map Properties.variableName)
    (hcomes : runner.Comes action base world (.started context entered)) :
    entered.valueOf? name = world.valueOf? name := by
  have hentered := (runStages_started runner action base [] (variable_bookkeeping hname)
    hprovider (Scope.same_inside fun _ _ _ _ => rfl) (Scope.same_outside fun _ _ _ _ => rfl)
    hcomes).1
  exact hentered

end Variable

theorem Context.get?_childEnvironment (context : Context) (environment : Table) :
    (environment.insertAll context.childEnvironment).get? Names.cacheVariable =
      (context.identity.cache.map fun cache => "FILE:" ++ cache.text).or
        (environment.get? Names.cacheVariable) := by
  have hfirst : Names.cacheVariable ≠ Names.userNameVariable := by decide
  have htokens : Names.cacheVariable ≠ Names.tokenFileVariable := by decide
  have hrealms : Names.cacheVariable ≠ Names.realmConfVariable := by decide
  rw [Table.get?_insertAll]
  congr 1
  unfold childEnvironment
  cases context.identity.cache <;> cases context.identity.tokens <;>
    cases context.properties.realmConf? <;>
      simp [List.lookup_cons, beq_false_of_ne, hfirst, htokens, hrealms]

namespace Runner

variable {runner : Runner} {action : Action} {base : Configuration}

theorem identity_of_ambient {world entered : World} {context : Context}
    (hcomes : runner.Comes action base world (.started context entered))
    (hrequest : runner.request action base world = .ambient) :
    context.identity = world.current := by
  cases hcomes with
  | started hprepare hacquire happroach =>
      rename_i plan prepared acquired identity config
      have hproperties := runner.prepare_properties action base _ _ (ending_eq_of_ok hprepare)
        plan rfl
      have hplanned := runner.config_of_prepare action base hprepare
      have hambient : plan.spec.request (plan.scope runner).acquirer.settings = .ambient := by
        rw [← hrequest, Plan.spec, Plan.scope, Properties.request_spec, hproperties, hplanned]
        exact runner.login_plan action _ _
      obtain rfl := runner.approach_gives _ _ _ _ _ (ending_eq_of_ok happroach) context rfl
      rw [← World.current_of_registry (runner.registry_of_prepare action base hprepare)]
      exact (Acquirer.grants_of_acquired hacquire).inherits hambient

/-- A child process of a run under the ambient identity finds the same ticket cache as the launcher
exactly if the value of the variable is faithful. -/
theorem childCache_passedOn {world left entered : World} {identity : Identity} {context : Context}
    {value : String}
    (hprovider : runner.provider = .simple ∨
      ∃ tools : KerberosTools, runner.provider = tools.provider)
    (hvalue : world.environment.get? Names.cacheVariable = some value)
    (hblank : Text.isBlank value = false)
    (hambient : runner.provider.ambient world = .ok (.ok identity) left)
    (hcomes : runner.Comes action base { left with login := identity } (.started context entered))
    (hidentity : context.identity = identity) :
    ∃ child, (entered.environment.insertAll context.childEnvironment).get? Names.cacheVariable =
        some child ∧ CacheName.PassedOn value child := by
  obtain ⟨described, next, hdescribes, hdescribed⟩ := Provider.builtIn_ambient hprovider world
  cases hdescribes.symm.trans hambient
  have hobeys : runner.provider.Obeys (Respects (Same (World.valueOf? Names.cacheVariable))) :=
    Provider.builtIn_variable hprovider
  have hleft : left.valueOf? Names.cacheVariable = world.valueOf? Names.cacheVariable := by
    have h := hobeys.ambient world
    rwa [after_eq_of_ok hambient] at h
  have hentered : entered.environment.get? Names.cacheVariable = some value := by
    have h := variable_entered hobeys (by decide) hcomes
    exact (h.trans hleft).trans hvalue
  rw [context.get?_childEnvironment, hidentity, hdescribed.cache, Environment.get?_of_text hvalue,
    hentered]
  cases hunmarked : Text.isBlank (Provider.unmarked value) with
  | true =>
      rw [Provider.variablePath?_of_blank hunmarked]
      exact ⟨value, rfl, CacheName.passedOn_left hblank hunmarked⟩
  | false =>
      rw [Provider.variablePath?_of_not_blank hunmarked]
      exact ⟨_, rfl, CacheName.passedOn_written hunmarked⟩

/-- A keyring of the launcher is a file with its name to the child process. -/
theorem childCache_passedOn_keyring :
    let runner : Runner := ⟨.simple, default, ⟨none⟩, .ofList [], true⟩
    let action : Action := ⟨"etl", false, fun _ _ => return .error "reached"⟩
    let value := "KEYRING:persistent:1000"
    let world := World.start (.ofWorkingDir ["work"]) (.ofList [(Names.cacheVariable, value)])
      "root" default default default
    ∃ identity left context entered,
      runner.provider.ambient world = .ok (.ok identity) left ∧
      runner.Comes action .empty { left with login := identity } (.started context entered) ∧
      (entered.environment.insertAll context.childEnvironment).get? Names.cacheVariable =
        some ("FILE:" ++ value) ∧
      CacheName.ofText value = ⟨.keyring, "persistent:1000"⟩ ∧
      CacheName.ofText ("FILE:" ++ value) = ⟨.file, value⟩ := by
  intro runner action value world
  let identity : Identity := ⟨"root", .ambient, Provider.variablePath? (some (.text value)),
    Provider.variablePath? none, world.clock⟩
  let launched : World := { after now world with login := identity }
  have hambient : runner.provider.ambient world = .ok (.ok identity) (after now world) := rfl
  have hobeys : runner.provider.Obeys (Returns (Same World.standing)) := Provider.simple_obeys
  have hbody (context : Context) (args : List String) :
      Respects Aside (action.body context args) :=
    .pure _
  have hended : ending (runner.run action .empty []) launched =
      .ok (.error (.execution "reached")) := by
    decide +kernel
  obtain ⟨fate, hcomes⟩ := runner.comes action .empty hobeys launched
  have hfate := (runner.run_of_comes action .empty [] hobeys hbody hcomes).1
  obtain ⟨context, entered, rfl, -⟩ :=
    Fate.ending_eq_execution_iff.1 (hfate.symm.trans hended)
  have hrequest : runner.request action .empty launched = .ambient := by decide +kernel
  have hidentity : context.identity = identity := identity_of_ambient hcomes hrequest
  have hvalue : world.environment.get? Names.cacheVariable = some value := by decide
  have hblank : Text.isBlank value = false := by decide
  obtain ⟨child, hchild, hpassed⟩ :=
    childCache_passedOn (.inl rfl) hvalue hblank hambient hcomes hidentity
  have hname : CacheName.ofText value = ⟨.keyring, "persistent:1000"⟩ := by decide
  have hunfaithful : ¬ CacheName.Faithful value := by
    intro h
    have hkind := h.kind
    rw [hname] at hkind
    cases hkind
  have hplain : Provider.unmarked value = value := Provider.unmarked_of_not_marked (by decide)
  rw [hpassed.astray hunfaithful, hplain] at hchild
  exact ⟨identity, _, context, entered, hambient, hcomes, hchild, hname, CacheName.ofText_file _⟩

end Runner

end ActionLauncher

import ActionLauncher.Acquirer
import ActionLauncher.Proofs.LaunchOutcome
import ActionLauncher.Provider.Kerberos
import ActionLauncher.Provider.Scripted
import ActionLauncher.Provider.Simple

namespace ActionLauncher

open Launch

/-- What authenticating a principal has nothing to do with. -/
structure Standing where
  login : Identity
  guest : Option Identity
  events : List Event
  stages : Tracker
  outputs : OutputSheet

namespace World

def standing (world : World) : Standing :=
  ⟨world.login, world.guest, world.events, world.stages, world.outputs⟩

/-- The two identities that the current one is chosen from. -/
def registry (world : World) : Identity × Option Identity :=
  (world.login, world.guest)

theorem registry_of_standing {world next : World} (h : Same standing world next) :
    Same registry world next := by
  have hlogin := congrArg Standing.login h
  have hguest := congrArg Standing.guest h
  exact Prod.ext hlogin hguest

theorem login_of_registry {world next : World} (h : Same registry world next) :
    next.login = world.login :=
  congrArg Prod.fst h

theorem guest_of_registry {world next : World} (h : Same registry world next) :
    next.guest = world.guest :=
  congrArg Prod.snd h

theorem current_of_registry {world next : World} (h : Same registry world next) :
    next.current = world.current := by
  rw [current, current, login_of_registry h, guest_of_registry h]

end World

namespace Provider

/-- Every way to authenticate a principal is a computation with the property `P`. -/
structure Obeys (P : {α : Type} → Launch α → Prop) (provider : Provider) : Prop where
  ambient : P provider.ambient
  fromKeytab : ∀ principal path settings, P (provider.fromKeytab principal path settings)
  fromTicketCache : ∀ principal path settings,
    P (provider.fromTicketCache principal path settings)
  release : ∀ identity, P (provider.release identity)

theorem Obeys.mono {P Q : {α : Type} → Launch α → Prop} {provider : Provider}
    (hPQ : ∀ {α : Type} (x : Launch α), P x → Q x) (h : provider.Obeys P) :
    provider.Obeys Q where
  ambient := hPQ _ h.ambient
  fromKeytab principal path settings := hPQ _ (h.fromKeytab principal path settings)
  fromTicketCache principal path settings := hPQ _ (h.fromTicketCache principal path settings)
  release identity := hPQ _ (h.release identity)

/-- Authenticating a principal leaves both identities of the registry as they are. -/
def KeepsRegistry (provider : Provider) : Prop :=
  provider.Obeys (Launch.Respects (Same World.registry))

theorem keepsRegistry_of_standing {provider : Provider}
    (h : provider.Obeys (Launch.Returns (Same World.standing))) : provider.KeepsRegistry :=
  h.mono fun _ hx => hx.respects.mono fun _ _ => World.registry_of_standing

theorem standing_discipline : Discipline (Launch.Returns (Same World.standing)) :=
  .returns fun _ _ _ => .modify fun _ => rfl

section Obeys

variable {P : {α : Type} → Launch α → Prop} (hP : Discipline P) (hnow : P now)

include hP hnow

theorem newIdentity_obeys (principal : String) (source : Source) :
    P (newIdentity principal source) :=
  hP.bind hnow fun _ => hP.pure _

theorem ambientIdentity_obeys : P ambientIdentity :=
  hP.bind hP.get fun _ => hP.bind (newIdentity_obeys hP hnow _ _) fun _ => hP.pure _

theorem simple_obeys_of_now : simple.Obeys P where
  ambient := hP.bind (ambientIdentity_obeys hP hnow) fun _ => hP.pure _
  fromKeytab principal path settings := by
    refine hP.bind hP.get fun world => ?_
    split
    · exact hP.bind (newIdentity_obeys hP hnow _ _) fun _ => hP.pure _
    · exact hP.pure _
  fromTicketCache principal path settings := by
    refine hP.bind hP.get fun world => ?_
    dsimp only
    split
    · exact hP.bind (newIdentity_obeys hP hnow _ _) fun _ => hP.pure _
    · exact hP.pure _
  release _ := hP.pure _

end Obeys

theorem standing_now : Launch.Returns (Same World.standing) now :=
  .modifyGet fun _ => rfl

/-- A tool changes nothing but the files and the record of the calls. -/
theorem callTool_obeys {P : {α : Type} → Launch α → Prop} (hP : Discipline P)
    (hmodify : ∀ change : World → World,
      (∀ world, ∃ calls files, change world = { world with toolCalls := calls, files := files }) →
        P (modify change))
    (tool : Tool) (args : List String) (environment : Table) :
    P (callTool tool args environment) := by
  refine hP.bind (hmodify _ fun world => ⟨_, world.files, rfl⟩) fun _ => ?_
  split
  · split
    · exact hP.pure _
    · refine hP.bind (hmodify _ fun world => ⟨world.toolCalls, ?_⟩) fun _ => hP.pure _
      split
      · exact ⟨_, rfl⟩
      · exact ⟨world.files, rfl⟩
  · exact hP.pure _

section Spawn

variable {P : {α : Type} → Launch α → Prop} (hP : Discipline P) {args : List String}
  (hcall : ∀ tool environment, P (callTool tool args environment))

include hP hcall

theorem runProgram_obeys (program : Program) (environment : Table) :
    P (runProgram program args environment) := by
  unfold runProgram
  split
  · exact hcall _ _
  · exact hP.bind hP.get fun _ => hP.pure _
  · exact hP.bind hP.get fun _ => hP.pure _

theorem spawn_obeys (program : Path) (additions : List (String × String)) :
    P (spawn program args additions) := by
  unfold spawn
  split
  · exact hP.pure _
  · refine hP.bind hP.get fun world => ?_
    dsimp only
    split
    · exact hP.pure _
    · split
      · exact hP.pure _
      · exact hP.bind (runProgram_obeys hP hcall _ _) fun _ => hP.pure _

end Spawn

theorem standing_callTool (tool : Tool) (args : List String) (environment : Table) :
    Launch.Returns (Same World.standing) (callTool tool args environment) := by
  refine callTool_obeys standing_discipline (fun change h => .modify fun world => ?_) tool args
    environment
  obtain ⟨calls, files, hchange⟩ := h world
  rw [Same, hchange]
  rfl

theorem standing_runProgram (program : Program) (args : List String) (environment : Table) :
    Launch.Returns (Same World.standing) (runProgram program args environment) :=
  runProgram_obeys standing_discipline
    (fun tool environment => standing_callTool tool args environment) program environment

theorem standing_spawn (program : Path) (args : List String) (additions : List (String × String)) :
    Launch.Returns (Same World.standing) (spawn program args additions) :=
  spawn_obeys standing_discipline (fun tool environment => standing_callTool tool args environment)
    program additions

theorem simple_obeys : simple.Obeys (Launch.Returns (Same World.standing)) :=
  simple_obeys_of_now standing_discipline standing_now

end Provider

namespace ProviderScript

theorem standing_reply (request : LoginRequest) (answer : Option (Except SecurityError Identity))
    (madeUp : Identity) :
    Launch.Returns (Same World.standing) (reply request answer madeUp) :=
  .bind (.modify fun _ => rfl) fun _ => .pure _

theorem provider_obeys (script : ProviderScript) :
    script.provider.Obeys (Launch.Returns (Same World.standing)) where
  ambient := standing_reply _ _ _
  fromKeytab _ _ _ := standing_reply _ _ _
  fromTicketCache _ _ _ := standing_reply _ _ _
  release _ := .bind (.modify fun _ => rfl) fun _ => .pure _

end ProviderScript

namespace KerberosTools

open Provider

variable {P : {α : Type} → Launch α → Prop}

theorem runTool_obeys (hP : Discipline P) {program : Path} {args : List String}
    {settings : LoginSettings} (hspawn : P (spawn program args (toolVariables settings)))
    (principal : String) : P (runTool principal program args settings) := by
  refine hP.bind hspawn fun spawned => ?_
  split
  · exact hP.pure _
  · split
    · exact hP.pure _
    · exact hP.pure _

theorem askPrincipal_obeys (hP : Discipline P) (tools : KerberosTools) {principal : String}
    {cache : Path} {settings : LoginSettings}
    (hlist : ∀ klist, P (runTool principal klist ["-c", cacheName cache] settings)) :
    P (tools.askPrincipal principal cache settings) := by
  unfold askPrincipal
  split
  · exact hP.pure _
  · refine hP.bind (hlist _) fun listed => ?_
    split
    · exact hP.pure _
    · split
      · exact hP.pure _
      · exact hP.pure _

theorem fromTicketCache_obeys (hP : Discipline P) (tools : KerberosTools) {principal : String}
    {cache : Path} {settings : LoginSettings}
    (hvalid : ∀ klist, P (runTool principal klist ["-s", "-c", cacheName cache] settings))
    (hlist : ∀ klist, P (runTool principal klist ["-c", cacheName cache] settings))
    (hnew : ∀ owner, P (newIdentity owner .ticketCache)) :
    P (tools.fromTicketCache principal cache settings) := by
  refine hP.bind hP.get fun world => ?_
  split
  · exact hP.pure _
  · split
    · exact hP.pure _
    · refine hP.bind (hvalid _) fun valid => ?_
      split
      · exact hP.pure _
      · refine hP.bind (askPrincipal_obeys hP tools hlist) fun asked => ?_
        split
        · exact hP.pure _
        · dsimp only
          split
          · exact hP.bind (hP.log _ _ _) fun _ => hP.bind (hnew _) fun _ => hP.pure _
          · exact hP.bind (hnew _) fun _ => hP.pure _

theorem fromKeytab_obeys (hP : Discipline P) (tools : KerberosTools) {principal : String}
    {settings : LoginSettings} (hid : P freshId)
    (hrun : ∀ kinit args, P (runTool principal kinit args settings))
    (hnew : P (newIdentity principal .keytab)) (keytab : Path) :
    P (tools.fromKeytab principal keytab settings) := by
  refine hP.bind hP.get fun world => ?_
  split
  · exact hP.pure _
  · split
    · exact hP.pure _
    · refine hP.bind hid fun id => hP.bind (hrun _ _) fun ran => ?_
      split
      · exact hP.pure _
      · exact hP.bind hnew fun _ => hP.pure _

/-- The provider is as well-behaved as the programs that it starts. -/
theorem obeys_of_spawn (hP : Discipline P) (hnow : P now) (hid : P freshId)
    (hspawn : ∀ program args additions, P (spawn program args additions))
    (hfiles : ∀ files : FileTree, P (modify fun world => { world with files := files }))
    (tools : KerberosTools) : tools.provider.Obeys P where
  ambient := by
    refine hP.bind (ambientIdentity_obeys hP hnow) fun identity => ?_
    split
    · exact hP.pure _
    · refine hP.bind hP.get fun world => ?_
      split
      · exact hP.pure _
      · refine hP.bind (askPrincipal_obeys hP tools
          fun _ => runTool_obeys hP (hspawn _ _ _) _) fun asked => ?_
        split
        · exact hP.pure _
        · exact hP.pure _
  fromKeytab _ keytab _ :=
    fromKeytab_obeys hP tools hid (fun _ _ => runTool_obeys hP (hspawn _ _ _) _)
      (newIdentity_obeys hP hnow _ _) keytab
  fromTicketCache _ _ _ :=
    fromTicketCache_obeys hP tools (fun _ => runTool_obeys hP (hspawn _ _ _) _)
      (fun _ => runTool_obeys hP (hspawn _ _ _) _) fun _ => newIdentity_obeys hP hnow _ _
  release identity := by
    show P (tools.release identity)
    unfold release
    split
    · exact hP.pure _
    · split
      · exact hP.pure _
      · refine hP.bind hP.get fun world => ?_
        split
        · exact hP.bind (hfiles _) fun _ => hP.pure _
        · exact hP.pure _
        · exact hP.pure _

theorem provider_obeys (tools : KerberosTools) :
    tools.provider.Obeys (Launch.Returns (Same World.standing)) :=
  obeys_of_spawn standing_discipline standing_now (.modifyGet fun _ => rfl) standing_spawn
    (fun _ => .modify fun _ => rfl) tools

end KerberosTools

theorem Provider.builtIn_obeys {provider : Provider}
    (h : provider = .simple ∨ ∃ tools : KerberosTools, provider = tools.provider) :
    provider.Obeys (Launch.Returns (Same World.standing)) := by
  rcases h with rfl | ⟨tools, rfl⟩
  · exact simple_obeys
  · exact tools.provider_obeys

theorem PrincipalSpec.source_cases (spec : PrincipalSpec) :
    (∃ cache, spec.ticketCache = some cache) ∨ spec.usesAmbient = true ∨
      (spec.ticketCache = none ∧ spec.principal.isEmpty = false ∧
        ∃ keytab, spec.keytab = some keytab) := by
  obtain ⟨principal, ticketCache, keytab⟩ := spec
  cases ticketCache with
  | some cache => exact .inl ⟨cache, rfl⟩
  | none =>
      right
      cases keytab with
      | none => exact .inl (by simp [usesAmbient])
      | some keytab =>
          cases hprincipal : principal.isEmpty with
          | true => exact .inl (by simp [usesAmbient, hprincipal])
          | false => exact .inr ⟨rfl, rfl, keytab, rfl⟩

namespace Acquirer

variable {P : {α : Type} → Launch α → Prop}

theorem fallBack_obeys (hP : Discipline P) (spec : PrincipalSpec)
    (config : Option Configuration) : P (fallBack spec config) := by
  have hcurrent := hP.bind (hP.log .warn
    "Ticket cache or keytab must be provided. Falling back to the current identity" [])
    fun _ => hP.bind hP.get fun world => hP.pure (⟨.ok world.current, config⟩ : Acquisition)
  unfold fallBack
  dsimp only
  split
  · exact hP.bind (hP.log _ _ _) fun _ => hcurrent
  · exact hcurrent

theorem acquire_of_ticketCache (acquirer : Acquirer) {spec : PrincipalSpec} {cache : Path}
    (h : spec.ticketCache = some cache) (config : Configuration) :
    acquirer.acquire spec (some config) =
      acquirer.fromTicketCache spec.principal cache config := by
  unfold acquire
  rw [h]

theorem acquire_of_keytab (acquirer : Acquirer) {spec : PrincipalSpec} {keytab : Path}
    (hcache : spec.ticketCache = none) (hkeytab : spec.keytab = some keytab)
    (hprincipal : spec.principal.isEmpty = false) (config : Option Configuration) :
    acquirer.acquire spec config = acquirer.fromKeytab spec.principal keytab config := by
  unfold acquire
  rw [hcache, hkeytab]
  simp [hprincipal]

theorem acquire_of_usesAmbient (acquirer : Acquirer) {spec : PrincipalSpec}
    (h : spec.usesAmbient = true) (config : Option Configuration) :
    acquirer.acquire spec config = fallBack spec config := by
  obtain ⟨principal, ticketCache, keytab⟩ := spec
  rw [PrincipalSpec.usesAmbient, Bool.and_eq_true, Option.isNone_iff_eq_none, Bool.or_eq_true,
    Option.isNone_iff_eq_none] at h
  obtain ⟨hcache, hlogin⟩ := h
  dsimp only at hcache hlogin
  subst hcache
  unfold acquire
  cases keytab with
  | none => rfl
  | some keytab =>
      have hprincipal : principal.isEmpty = true := hlogin.resolve_left (by simp)
      simp [hprincipal]

theorem fallBack_eq (spec : PrincipalSpec) (config : Option Configuration) (world : World) :
    ∃ records, fallBack spec config world =
      .ok ⟨.ok world.current, config⟩ { world with records := records } := by
  unfold fallBack
  split
  · exact ⟨_, rfl⟩
  · exact ⟨_, rfl⟩

theorem acquire_obeys (hP : Discipline P) (acquirer : Acquirer) (h : acquirer.provider.Obeys P)
    (spec : PrincipalSpec) (config : Option Configuration) : P (acquirer.acquire spec config) := by
  unfold acquire
  split
  · unfold fromTicketCache
    split
    · exact hP.pure _
    · exact hP.bind (h.fromTicketCache _ _ _) fun _ => hP.pure _
  · split
    · split
      · exact fallBack_obeys hP _ _
      · exact hP.bind (h.fromKeytab _ _ _) fun _ => hP.pure _
    · exact fallBack_obeys hP _ _

theorem release_obeys (hP : Discipline P) (acquirer : Acquirer) (h : acquirer.provider.Obeys P)
    (identity : Identity) : P (acquirer.release identity) := by
  refine hP.bind (h.release identity) fun released => ?_
  cases released with
  | ok _ => exact hP.pure _
  | error _ => exact hP.log _ _ _

end Acquirer

end ActionLauncher

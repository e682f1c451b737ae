import ActionLauncher.Proofs.ProviderConduct
import ActionLauncher.Proofs.ScopeRun

/-!
Scopes inside scopes.  A body that leaves both identities to the scopes that it enters is a tree;
whatever fails or panics in it, each of its scopes gives both identities back.
-/

namespace ActionLauncher

open Launch

/-- A scope with what it is entered for, under a provider that leaves the registry alone. -/
structure Visit where
  scope : Scope
  spec : PrincipalSpec
  config : Configuration
  keeps : scope.acquirer.provider.KeepsRegistry

/-- Enters the scope with a body in two parts: what it does when it is called, and the computation
that the call returns. -/
def Visit.run {α β : Type} (visit : Visit) (call : Identity → Configuration → Launch β)
    (inner : Identity → Configuration → β → Launch α) : Launch (Except SecurityError α) :=
  visit.scope.enter visit.spec visit.config fun identity config =>
    inner identity config <$> call identity config

/-- What a body does with the registry, in order: nothing by itself, but it may enter scopes with
trees of their own, one for the call of the body and one for what the call returns.  It sees how
each scope ended, a panic included, and goes on, passes the panic on or starts one itself. -/
inductive ScopeTree : Type → Type 1
  | value {α : Type} (a : α) : ScopeTree α
  | panic {α : Type} (cause : Panic) : ScopeTree α
  | act {α β : Type} (x : Launch β) (keeps : Respects (Same World.registry) x)
      (next : β → ScopeTree α) : ScopeTree α
  | enter {α β γ : Type} (visit : Visit) (call : Identity → Configuration → ScopeTree γ)
      (inner : Identity → Configuration → γ → ScopeTree β)
      (next : Except Panic (Except SecurityError β) → ScopeTree α) : ScopeTree α

def ScopeTree.run {α : Type} : ScopeTree α → Launch α
  | value a => pure a
  | panic cause => throw cause
  | act x _ next => do (next (← x)).run
  | enter visit call inner next => do
      let ending ← settle (visit.run (fun identity config => (call identity config).run)
        fun identity config c => (inner identity config c).run)
      (next ending).run

namespace Scope

variable {α : Type}

theorem release_obeys {P : {α : Type} → Launch α → Prop} (hP : Discipline P) (scope : Scope)
    (h : scope.acquirer.provider.Obeys P) (identity inherited : Identity) :
    P (scope.release identity inherited) := by
  unfold release
  split
  · exact hP.pure _
  · exact Acquirer.release_obeys hP _ h _

theorem finish_respects {R : World → World → Prop} [IsPreorder World R]
    (hR : Discipline (Respects R)) (scope : Scope)
    (h : scope.acquirer.provider.Obeys (Respects R)) (identity inherited : Identity)
    (result : Except Panic α) : Respects R (scope.finish identity inherited result) := by
  refine .bind (release_obeys hR scope h identity inherited) fun _ => ?_
  cases result with
  | ok a => exact .pure a
  | error panic => exact .bind (hR.log _ _ _) fun _ => .throw panic

theorem registry_discipline : Discipline (Respects (Same World.registry)) :=
  .respects fun _ _ _ _ => rfl

section Registry

variable (scope : Scope) (identity : Identity) {world acquired called left : World}
  (hacquired : Same World.registry world acquired)
  (hcalled : Same World.registry (scope.entered identity acquired) called)

include hacquired hcalled

theorem guest_called : called.guest = world.guest := by
  have hentered : (scope.entered identity acquired).guest = acquired.guest := by
    unfold entered
    cases scope.method <;> rfl
  exact ((World.guest_of_registry hcalled).trans hentered).trans
    (World.guest_of_registry hacquired)

theorem login_called (hmethod : scope.method = .impersonation) : called.login = world.login := by
  rw [entered, hmethod] at hcalled
  exact (World.login_of_registry hcalled).trans (World.login_of_registry hacquired)

theorem registry_abandoned :
    Same World.registry world (scope.abandoned world.login called) := by
  have hguest := guest_called scope identity hacquired hcalled
  cases hmethod : scope.method with
  | impersonation =>
      rw [abandoned, hmethod]
      exact Prod.ext (login_called scope identity hacquired hcalled hmethod) hguest
  | login =>
      simp only [abandoned, outside, hmethod]
      exact Prod.ext rfl hguest

/-- The two identities that the run started with are put back over whatever the body left of the
one that the method switches; the other one has not changed. -/
theorem registry_outside (hleft : Same World.registry (scope.bound identity called) left) :
    Same World.registry world (scope.outside world.login called.guest left) := by
  have hguest := guest_called scope identity hacquired hcalled
  cases hmethod : scope.method with
  | impersonation =>
      have hlogin := login_called scope identity hacquired hcalled hmethod
      rw [bound, hmethod] at hleft
      rw [outside, hmethod]
      exact Prod.ext ((World.login_of_registry hleft).trans hlogin) hguest
  | login =>
      rw [bound, hmethod] at hleft
      rw [outside, hmethod]
      exact Prod.ext rfl ((World.guest_of_registry hleft).trans hguest)

end Registry

section Split

variable {R : World → World → Prop} [IsPreorder World R] (hR : Discipline (Respects R))
  (scope : Scope) (h : scope.acquirer.provider.Obeys (Respects R)) {spec : PrincipalSpec}
  {config : Configuration} {world acquired : World} {identity : Identity}
  {next : Option Configuration}

include hR h

theorem enter_outside
    (hacquired : scope.acquirer.acquire spec (some config) world =
      .ok ⟨.ok identity, next⟩ acquired)
    {body : Identity → Configuration → Launch (Launch α)} {x : Launch α} {called : World}
    (hcall : body identity (next.getD config) (scope.entered identity acquired) = .ok x called) :
    R (scope.outside world.login called.guest (after x (scope.bound identity called)))
      (after (scope.enter spec config body) world) := by
  have hfinish := (finish_respects hR scope h identity world.current
    (ending x (scope.bound identity called))).map (Except.ok : α → Except SecurityError α)
  rw [after_congr (enter_of_returned scope hacquired _ hcall)]
  exact hfinish _

theorem run_outside
    (hacquired : scope.acquirer.acquire spec (some config) world =
      .ok ⟨.ok identity, next⟩ acquired) (body : Identity → Configuration → Launch α) :
    R (scope.outside world.login acquired.guest
        (after (body identity (next.getD config)) (scope.inside identity acquired)))
      (after (scope.run spec config body) world) := by
  have hfinish := (finish_respects hR scope h identity world.current
    (ending (body identity (next.getD config)) (scope.inside identity acquired))).map
    (Except.ok : α → Except SecurityError α)
  rw [after_congr (run_of_acquired scope hacquired body)]
  exact hfinish _

/-- Either the body is not called, or its call panics, or the scope respects `R` up to the call and
again from where the identities are back. -/
theorem enter_split (spec : PrincipalSpec) (config : Configuration)
    (body : Identity → Configuration → Launch (Launch α)) (world : World) :
    R world (after (scope.enter spec config body) world) ∨
      ∃ identity config' acquired, R world acquired ∧
        ((∃ panic called,
            body identity config' (scope.entered identity acquired) = .error panic called ∧
              after (scope.enter spec config body) world = scope.abandoned world.login called) ∨
          ∃ x called,
            body identity config' (scope.entered identity acquired) = .ok x called ∧
              R (scope.outside world.login called.guest (after x (scope.bound identity called)))
                (after (scope.enter spec config body) world)) := by
  have hacquire := Acquirer.acquire_obeys hR _ h spec (some config) world
  cases hresult : scope.acquirer.acquire spec (some config) world with
  | error panic left =>
      left
      rw [after_eq_of_panic hresult] at hacquire
      rw [after_eq_of_panic (enter_of_panic scope hresult body)]
      exact hacquire
  | ok acquisition acquired =>
      rw [after_eq_of_ok hresult] at hacquire
      rcases acquisition with ⟨cause | identity, next⟩
      · left
        rw [after_eq_of_ok (enter_of_refused scope hresult body)]
        exact hacquire
      · right
        refine ⟨identity, next.getD config, acquired, hacquire, ?_⟩
        cases hcall : body identity (next.getD config) (scope.entered identity acquired) with
        | error panic called =>
            exact .inl ⟨panic, called, rfl,
              after_eq_of_panic (enter_of_thrown scope hresult _ hcall)⟩
        | ok x called => exact .inr ⟨x, called, rfl, enter_outside hR scope h hresult hcall⟩

end Split

/-- A scope is as well-behaved as its provider, its two switches and its body. -/
theorem run_respects {R : World → World → Prop} [IsPreorder World R]
    (hR : Discipline (Respects R)) (scope : Scope)
    (h : scope.acquirer.provider.Obeys (Respects R))
    (hinside : ∀ identity world, R world (scope.inside identity world))
    (houtside : ∀ login guest world, R world (scope.outside login guest world))
    (spec : PrincipalSpec) (config : Configuration) {body : Identity → Configuration → Launch α}
    (hbody : ∀ identity config, Respects R (body identity config)) :
    Respects R (scope.run spec config body) := by
  intro world
  rcases enter_split hR scope h spec config (fun identity config => pure (body identity config))
    world with hrun | ⟨identity, config', acquired, hacquired, ⟨_, _, hcall, -⟩ |
      ⟨x, called, hcall, hrun⟩⟩
  · exact hrun
  · cases hcall
  · cases hcall
    calc R world acquired := hacquired
      R _ (scope.inside identity acquired) := hinside identity acquired
      R _ (after (body identity config') (scope.inside identity acquired)) :=
        hbody identity config' _
      R _ (scope.outside world.login _ (after (body identity config')
          (scope.inside identity acquired))) := houtside _ _ _
      R _ (after (scope.run spec config body) world) := hrun

theorem enter_keepsRegistry (scope : Scope) (h : scope.acquirer.provider.KeepsRegistry)
    (spec : PrincipalSpec) (config : Configuration)
    {body : Identity → Configuration → Launch (Launch α)}
    (hcall : ∀ identity config, Respects (Same World.registry) (body identity config))
    (hbody : ∀ identity config, Yields (Respects (Same World.registry)) (body identity config)) :
    Respects (Same World.registry) (scope.enter spec config body) := by
  intro world
  rcases enter_split registry_discipline scope h spec config body world with
    hrun | ⟨identity, config', acquired, hacquired, hbodied⟩
  · exact hrun
  · have hcalled := hcall identity config' (scope.entered identity acquired)
    rcases hbodied with ⟨panic, called, hx, hrun⟩ | ⟨x, called, hx, hrun⟩
    · rw [after_eq_of_panic hx] at hcalled
      rw [hrun]
      exact registry_abandoned scope identity hacquired hcalled
    · rw [after_eq_of_ok hx] at hcalled
      have hleft := hbody identity config' _ x (ending_eq_of_ok hx) (scope.bound identity called)
      exact IsTrans.trans _ _ _ (registry_outside scope identity hacquired hcalled hleft) hrun

theorem enter_restoresLogin (scope : Scope) (h : scope.acquirer.provider.KeepsRegistry)
    (hmethod : scope.method = .login) (spec : PrincipalSpec) (config : Configuration)
    (body : Identity → Configuration → Launch (Launch α)) (world : World) :
    (after (scope.enter spec config body) world).login = world.login := by
  rcases enter_split registry_discipline scope h spec config body world with
    hrun | ⟨identity, config', acquired, -, ⟨panic, called, -, hrun⟩ | ⟨x, called, -, hrun⟩⟩
  · exact World.login_of_registry hrun
  · simp only [hrun, abandoned, outside, hmethod]
  · rw [World.login_of_registry hrun, outside, hmethod]

end Scope

theorem Visit.run_keepsRegistry {α β : Type} (visit : Visit)
    {call : Identity → Configuration → Launch β} {inner : Identity → Configuration → β → Launch α}
    (hcall : ∀ identity config, Respects (Same World.registry) (call identity config))
    (hinner : ∀ identity config b, Respects (Same World.registry) (inner identity config b)) :
    Respects (Same World.registry) (visit.run call inner) := by
  apply Scope.enter_keepsRegistry visit.scope visit.keeps
  · exact fun identity config => (hcall identity config).map _
  · exact fun identity config => .map fun b => hinner identity config b

namespace ScopeTree

variable {α : Type}

theorem run_keepsRegistry (tree : ScopeTree α) : Respects (Same World.registry) tree.run := by
  induction tree with
  | value a => exact .pure a
  | panic cause => exact .throw cause
  | act x keeps next ih => exact .bind keeps fun b => ih b
  | enter visit call inner next ihCall ihInner ihNext =>
      -- The trees inside are the body of the scope: by induction they give both identities back.
      have hscope := visit.run_keepsRegistry ihCall ihInner
      exact .bind hscope.settle fun ending => ihNext ending

def visiting {α β : Type} (visit : Visit) (call : Identity → Configuration → ScopeTree β)
    (inner : Identity → Configuration → β → ScopeTree α) : Launch (Except SecurityError α) :=
  visit.run (fun identity config => (call identity config).run)
    fun identity config c => (inner identity config c).run

/-- Running the tree in some world runs a scope, from the world `start` to the world `stop`. -/
inductive Performs : {α : Type} → ScopeTree α → World → World → World → Prop
  | act {α β : Type} {x : Launch β} {keeps : Respects (Same World.registry) x}
      {next : β → ScopeTree α} {b : β} {world start stop : World}
      (hx : ending x world = .ok b) (h : (next b).Performs (after x world) start stop) :
      (act x keeps next).Performs world start stop
  | scope {α β γ : Type} {visit : Visit} {call : Identity → Configuration → ScopeTree γ}
      {inner : Identity → Configuration → γ → ScopeTree β}
      {next : Except Panic (Except SecurityError β) → ScopeTree α} {world : World} :
      (enter visit call inner next).Performs world world (after (visiting visit call inner) world)
  | call {α β γ : Type} {visit : Visit} {call : Identity → Configuration → ScopeTree γ}
      {inner : Identity → Configuration → γ → ScopeTree β}
      {next : Except Panic (Except SecurityError β) → ScopeTree α}
      {world acquired start stop : World} {identity : Identity} {config : Option Configuration}
      (hacquired : visit.scope.acquirer.acquire visit.spec (some visit.config) world =
        .ok ⟨.ok identity, config⟩ acquired)
      (h : (call identity (config.getD visit.config)).Performs
        (visit.scope.entered identity acquired) start stop) :
      (enter visit call inner next).Performs world start stop
  | inner {α β γ : Type} {visit : Visit} {call : Identity → Configuration → ScopeTree γ}
      {inner : Identity → Configuration → γ → ScopeTree β}
      {next : Except Panic (Except SecurityError β) → ScopeTree α}
      {world acquired called start stop : World} {identity : Identity}
      {config : Option Configuration} {c : γ}
      (hacquired : visit.scope.acquirer.acquire visit.spec (some visit.config) world =
        .ok ⟨.ok identity, config⟩ acquired)
      (hcalled : (call identity (config.getD visit.config)).run
        (visit.scope.entered identity acquired) = .ok c called)
      (h : (inner identity (config.getD visit.config) c).Performs
        (visit.scope.bound identity called) start stop) :
      (enter visit call inner next).Performs world start stop
  | next {α β γ : Type} {visit : Visit} {call : Identity → Configuration → ScopeTree γ}
      {inner : Identity → Configuration → γ → ScopeTree β}
      {next : Except Panic (Except SecurityError β) → ScopeTree α} {world start stop : World}
      (h : (next (ending (visiting visit call inner) world)).Performs
        (after (visiting visit call inner) world) start stop) :
      (enter visit call inner next).Performs world start stop

theorem Performs.keepsRegistry {tree : ScopeTree α} {world start stop : World}
    (h : tree.Performs world start stop) : Same World.registry start stop := by
  induction h with
  | act _ _ ih => exact ih
  | @scope _ _ _ visit call inner _ world =>
      exact visit.run_keepsRegistry
        (fun identity config => (call identity config).run_keepsRegistry)
        (fun identity config c => (inner identity config c).run_keepsRegistry) world
  | call _ _ ih => exact ih
  | inner _ _ _ ih => exact ih
  | next _ ih => exact ih

/-- Every scope that a tree runs ends with the two identities that it started with, whether it ends
with its body, with a panic of the body or with one of its call; and in login mode the login
identity comes back from any body at all. -/
theorem scopes_restore (tree : ScopeTree α) (world : World) :
    (∀ start stop, tree.Performs world start stop →
      stop.login = start.login ∧ stop.guest = start.guest) ∧
    ∀ visit : Visit, visit.scope.method = .login →
      ∀ {β : Type} (body : Identity → Configuration → Launch (Launch β)) (start : World),
        (after (visit.scope.enter visit.spec visit.config body) start).login = start.login := by
  constructor
  · intro start stop h
    have hregistry := h.keepsRegistry
    exact ⟨World.login_of_registry hregistry, World.guest_of_registry hregistry⟩
  · intro visit hmethod β body start
    exact Scope.enter_restoresLogin visit.scope visit.keeps hmethod visit.spec visit.config body
      start

/-- A scope of a provider that makes up its identities. -/
def scriptedVisit (method : AuthenticationMethod) (principal : String) : Visit where
  scope := ⟨⟨ProviderScript.provider ⟨none, none, none, none⟩, .none⟩, method, true⟩
  spec := ⟨principal, none, some ⟨"etl.keytab"⟩⟩
  config := .empty
  keeps := Provider.keepsRegistry_of_standing (ProviderScript.provider_obeys _)

/-- An impersonation whose body panics, in a call inside a login session, which passes the panic
on and never gets to what it would have returned. -/
def panicking : ScopeTree Unit :=
  .enter (scriptedVisit .login "svc")
    (fun _ _ => .enter (scriptedVisit .impersonation "etl")
      (fun _ _ => (.value () : ScopeTree Unit))
      (fun _ _ _ => (.panic (.text "boom") : ScopeTree Unit))
      fun _ => (.panic (.text "boom") : ScopeTree Unit))
    (fun _ _ _ => (.value () : ScopeTree Unit)) fun _ => .value ()

/-- The impersonation ends with the login identity of the session around it and no guest; that
session is dropped while it is logged in and ends with the identity from before; and so does a
session whose body makes someone else the login identity. -/
theorem scopes_restore_panicking :
    let root : Identity := ⟨"root", .ambient, none, none, default⟩
    let world := World.start (.ofWorkingDir []) .empty "root" root default default
    let visit := scriptedVisit .login "svc"
    (∃ start stop, panicking.Performs world start stop ∧
      start.login = ⟨"svc", .keytab, none, none, ProviderScript.stamp⟩ ∧
      stop.login = start.login ∧ stop.guest = start.guest) ∧
    (∃ stop, panicking.Performs world world stop ∧
      (stop.warnings.map fun record => record.message) =
        ["Body panicked inside the identity scope",
          "Login session dropped while logged in, restoring original identity"] ∧
      stop.login = root ∧ stop.guest = none) ∧
    (after (visit.scope.enter visit.spec visit.config fun _ _ => pure do
      discard (swapLogin ⟨"mallory", .ambient, none, none, default⟩)) world).login = root := by
  intro root world visit
  have hinner : ∃ start stop, panicking.Performs world start stop ∧
      start.login = ⟨"svc", .keytab, none, none, ProviderScript.stamp⟩ :=
    ⟨_, _, .call rfl .scope, rfl⟩
  have houter : ∃ stop, panicking.Performs world world stop ∧
      (stop.warnings.map fun record => record.message) =
        ["Body panicked inside the identity scope",
          "Login session dropped while logged in, restoring original identity"] :=
    ⟨_, .scope, by decide +kernel⟩
  obtain ⟨start, stop, hperforms, hstart⟩ := hinner
  obtain ⟨last, hlast, hwarned⟩ := houter
  have hrestore := scopes_restore panicking world
  exact ⟨⟨start, stop, hperforms, hstart, hrestore.1 start stop hperforms⟩,
    ⟨last, hlast, hwarned, hrestore.1 world last hlast⟩, hrestore.2 visit rfl _ world⟩

end ScopeTree

end ActionLauncher

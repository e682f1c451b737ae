import ActionLauncher.Proofs.ScopeTree

namespace ActionLauncher

open Launch

namespace Scope

variable {α β γ : Type}

/-- The identity that is current in the computation that a body returns. -/
def runsAs (scope : Scope) (world : World) (identity : Identity) : Identity :=
  match scope.method with
  | .impersonation => identity
  | .login => world.guest.getD identity

/-- The identity that is current while a body is called. -/
def calledAs (scope : Scope) (world : World) (identity : Identity) : Identity :=
  match scope.method with
  | .impersonation => world.current
  | .login => world.guest.getD identity

theorem getD_eq_self_iff (guest : Option Identity) (identity : Identity) :
    guest.getD identity = identity ↔ ∀ other ∈ guest, other = identity := by
  cases guest <;> simp

theorem runsAs_eq_self_iff (scope : Scope) (world : World) (identity : Identity) :
    scope.runsAs world identity = identity ↔
      scope.method = .impersonation ∨ ∀ guest ∈ world.guest, guest = identity := by
  unfold runsAs
  cases scope.method with
  | impersonation => simp
  | login => simp [getD_eq_self_iff]

theorem calledAs_eq_self_iff (scope : Scope) (world : World) (identity : Identity) :
    scope.calledAs world identity = identity ↔
      (scope.method = .impersonation → world.current = identity) ∧
        (scope.method = .login → ∀ guest ∈ world.guest, guest = identity) := by
  unfold calledAs
  cases scope.method with
  | impersonation => simp
  | login => simp [getD_eq_self_iff]

section Entered

variable (scope : Scope) (identity : Identity) {world acquired called : World}
  (hacquired : Same World.registry world acquired)
  (hcalled : Same World.registry (scope.entered identity acquired) called)

include hacquired hcalled

/-- Until the call writes the registry, it finds the identity of whoever entered the scope or, in
login mode, the acquired one behind that of a guest. -/
theorem current_called : called.current = scope.calledAs world identity := by
  have hguest := guest_called scope identity hacquired hcalled
  cases hmethod : scope.method with
  | impersonation =>
      have hlogin := login_called scope identity hacquired hcalled hmethod
      rw [calledAs, hmethod, World.current, World.current, hguest, hlogin]
  | login =>
      have hlogin := World.login_of_registry hcalled
      rw [entered, hmethod] at hlogin
      rw [calledAs, hmethod, World.current, hguest, hlogin]

theorem current_bound : (scope.bound identity called).current = scope.runsAs world identity := by
  cases hmethod : scope.method with
  | impersonation =>
      rw [bound, runsAs, hmethod]
      rfl
  | login =>
      have hcurrent := current_called scope identity hacquired hcalled
      rw [calledAs, hmethod] at hcurrent
      rw [bound, runsAs, hmethod, hcurrent]

end Entered

theorem bind_current {x : Launch β} (hx : Respects (Same World.registry) x) {world : World}
    {identity : Identity} (hcurrent : world.current = identity) (rest : β → Identity → Launch γ) :
    (do rest (← x) (← get).current : Launch γ) world =
      (do rest (← x) identity : Launch γ) world := by
  have hkept := hx world
  cases hend : x world with
  | error panic left => rw [bind_of_panic hend, bind_of_panic hend]
  | ok b left =>
      rw [after_eq_of_ok hend] at hkept
      rw [bind_of_ok hend, bind_of_ok hend]
      show rest b left.current left = _
      rw [World.current_of_registry hkept, hcurrent]

/-- Wherever a body has left both identities alone so far, asking for the current identity gives
the acquired one in what the call returned, unless a login scope has another guest around it; in the
call itself an impersonation has not begun. -/
theorem current_in_body (scope : Scope) (hprovider : scope.acquirer.provider.KeepsRegistry)
    (spec : PrincipalSpec) (config : Configuration) (call : Identity → Configuration → Launch β)
    (hcall : ∀ identity config, Respects (Same World.registry) (call identity config))
    (prep : Identity → Configuration → β → Launch γ)
    (hprep : ∀ identity config b, Respects (Same World.registry) (prep identity config b))
    (world : World) :
    (∀ rest : Identity → Configuration → γ → Identity → Launch α,
      scope.enter spec config (fun identity config => do
          let b ← call identity config
          return do rest identity config (← prep identity config b) (← get).current) world =
        scope.enter spec config (fun identity config => do
          let b ← call identity config
          return do
            rest identity config (← prep identity config b) (scope.runsAs world identity)) world) ∧
    (∀ rest : Identity → Configuration → β → Identity → Launch (Launch α),
      scope.enter spec config (fun identity config => do
          rest identity config (← call identity config) (← get).current) world =
        scope.enter spec config (fun identity config => do
          rest identity config (← call identity config) (scope.calledAs world identity)) world) ∧
    ∀ identity,
      (scope.runsAs world identity = identity ↔
        scope.method = .impersonation ∨ ∀ guest ∈ world.guest, guest = identity) ∧
      (scope.calledAs world identity = identity ↔
        (scope.method = .impersonation → world.current = identity) ∧
          (scope.method = .login → ∀ guest ∈ world.guest, guest = identity)) := by
  have hkept {identity : Identity} {next : Option Configuration} {acquired : World}
      (hacquired : scope.acquirer.acquire spec (some config) world =
        .ok ⟨.ok identity, next⟩ acquired) : Same World.registry world acquired := by
    have hacquire := Acquirer.acquire_obeys registry_discipline _ hprovider spec (some config) world
    rwa [after_eq_of_ok hacquired] at hacquire
  refine ⟨fun rest => ?_, fun rest => ?_, fun identity =>
    ⟨runsAs_eq_self_iff scope world identity, calledAs_eq_self_iff scope world identity⟩⟩
  · refine enter_congr scope spec config fun identity next acquired hacquired => ?_
    have hcalled := hcall identity (next.getD config) (scope.entered identity acquired)
    cases hend : call identity (next.getD config) (scope.entered identity acquired) with
    | error panic called => exact .thrown (bind_of_panic hend _) (bind_of_panic hend _)
    | ok b called =>
        rw [after_eq_of_ok hend] at hcalled
        refine .returned (bind_of_ok hend _) (bind_of_ok hend _) ?_
        exact bind_current (hprep identity (next.getD config) b)
          (current_bound scope identity (hkept hacquired) hcalled) _
  · refine enter_congr scope spec config fun identity next acquired hacquired => ?_
    apply callsAlike_of_eq
    exact bind_current (hcall identity (next.getD config))
      (current_called scope identity (hkept hacquired) (Std.Refl.refl _)) _

/-- A login session inside an impersonation acquires one identity and asks for the current one,
which is that of the impersonation; and an impersonation asks in the call and later. -/
theorem current_in_body_nested :
    let etl : Identity := ⟨"etl", .keytab, none, none, ProviderScript.stamp⟩
    let svc : Identity := ⟨"svc", .keytab, none, none, ProviderScript.stamp⟩
    let root : Identity := ⟨"root", .ambient, none, none, default⟩
    let world := World.start (.ofWorkingDir []) .empty "root" root default default
    let login := ScopeTree.scriptedVisit .login "svc"
    let impersonation := ScopeTree.scriptedVisit .impersonation "etl"
    ending (login.scope.enter login.spec login.config fun identity _ => do
      Launch.warn "Called"
      return do
        Launch.warn "Asked"
        return (identity, (← get).current)) { world with guest := some etl } =
      .ok (.ok (svc, etl)) ∧
    ending (impersonation.scope.enter impersonation.spec impersonation.config fun identity _ => do
      Launch.warn "Called"
      let caller := (← get).current
      return return (identity, caller)) world = .ok (.ok (etl, root)) ∧
    etl ≠ svc ∧ etl ≠ root := by
  intro etl svc root world login impersonation
  have hwarns (message : String) : Respects (Same World.registry) (Launch.warn message) :=
    registry_discipline.log _ _ _
  have hnested := (current_in_body login.scope login.keeps login.spec login.config
    (fun _ _ => Launch.warn "Called") (fun _ _ => hwarns _) (fun _ _ _ => Launch.warn "Asked")
    (fun _ _ _ => hwarns _) { world with guest := some etl }).1
      fun identity _ _ now => (pure (identity, now) : Launch (Identity × Identity))
  have hcalled := (current_in_body impersonation.scope impersonation.keeps impersonation.spec
    impersonation.config (fun _ _ => Launch.warn "Called") (fun _ _ => hwarns _)
    (fun _ _ _ => Launch.warn "Asked") (fun _ _ _ => hwarns _) world).2.1
      fun identity _ _ now => (pure (pure (identity, now)) : Launch (Launch (Identity × Identity)))
  refine ⟨?_, ?_, by decide, by decide⟩
  · rw [ending_congr hnested]
    rfl
  · rw [ending_congr hcalled]
    rfl

end Scope

end ActionLauncher

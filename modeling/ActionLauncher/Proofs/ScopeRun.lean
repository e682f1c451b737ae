import ActionLauncher.Proofs.LaunchOutcome
import ActionLauncher.Scope

namespace ActionLauncher

open Launch

namespace Session

theorem start_bind {β : Type} (announce : Bool) (f : Session → Launch β) (world : World) :
    (start announce >>= f) world = f ⟨world.login, .notLoggedIn, announce⟩ world := rfl

theorem login_eq (session : Session) (h : session.state ≠ .loggedOut) (identity : Identity)
    (world : World) :
    session.login identity world =
      .ok (true, { session with state := .loggedIn })
        { world with
          login := identity
          events := world.events ++
            if session.announce then [.identitySwitched identity.principal world.login.principal]
            else [] } := by
  unfold login
  rw [if_neg h]
  cases session.announce with
  | true => rfl
  | false => simp [publish, swapLogin]; rfl

theorem logout_eq (session : Session) (h : session.state = .loggedIn) (world : World) :
    session.logout world =
      .ok (true, { session with state := .loggedOut })
        { world with
          login := session.initial
          events := world.events ++
            if session.announce then [.identityRestored session.initial.principal] else [] } := by
  unfold logout
  rw [if_pos h]
  cases session.announce with
  | true => rfl
  | false => simp [publish, swapLogin]; rfl

theorem guard_of_ok {α : Type} (session : Session) {x : Launch α} {world next : World} {a : α}
    (h : x world = .ok a next) : session.guard x world = .ok a next := by
  have hsettled : settle x world = .ok (.ok a) next := by
    rw [settle_eq, ending_eq_of_ok h, after_eq_of_ok h]
  exact bind_of_ok hsettled _

theorem guard_of_panic {α : Type} (session : Session) {x : Launch α} {world next last : World}
    {panic : Panic} (h : x world = .error panic next)
    (hfinish : session.finish next = .ok () last) :
    session.guard x world = .error panic last := by
  have hsettled : settle x world = .ok (.error panic) next := by
    rw [settle_eq, ending_eq_of_panic h, after_eq_of_panic h]
  unfold guard
  rw [bind_of_ok hsettled]
  exact bind_of_ok hfinish _

end Session

namespace Scope

variable {α : Type}

/-- The world in which the body of a scope is called, from the one in which its identity was
acquired.  A login is done by then; an impersonation only begins with what the call returns. -/
def entered (scope : Scope) (identity : Identity) (world : World) : World :=
  match scope.method with
  | .impersonation => world
  | .login =>
      { world with
        login := identity
        events := world.events ++
          if scope.announce then [.identitySwitched identity.principal world.login.principal]
          else [] }

/-- The world in which the computation that the call returns starts, from the one that the call
leaves. -/
def bound (scope : Scope) (identity : Identity) (world : World) : World :=
  match scope.method with
  | .impersonation => { world with guest := some identity }
  | .login => world

/-- The world in which a body starts whose call does nothing. -/
def inside (scope : Scope) (identity : Identity) (world : World) : World :=
  scope.bound identity (scope.entered identity world)

/-- The world that the end of the body leaves, once the identities from before are back. -/
def outside (scope : Scope) (login : Identity) (guest : Option Identity) (world : World) :
    World :=
  match scope.method with
  | .impersonation => { world with guest := guest }
  | .login =>
      { world with
        login := login
        events := world.events ++
          if scope.announce then [.identityRestored login.principal] else [] }

/-- The world that a call leaves behind if it panics: a login session ends on the way out, with a
warning, and nothing is released. -/
def abandoned (scope : Scope) (login : Identity) (world : World) : World :=
  match scope.method with
  | .impersonation => world
  | .login =>
      scope.outside login world.guest (after
        (Launch.warn "Login session dropped while logged in, restoring original identity") world)

section View

variable {γ : Type} {view : World → γ}
  (hview : ∀ world login guest events,
    view { world with login := login, guest := guest, events := events } = view world)

include hview

theorem same_entered (scope : Scope) (identity : Identity) (world : World) :
    Same view world (scope.entered identity world) := by
  unfold entered
  cases scope.method with
  | impersonation => exact Std.Refl.refl world
  | login => exact hview world _ world.guest _

theorem same_bound (scope : Scope) (identity : Identity) (world : World) :
    Same view world (scope.bound identity world) := by
  unfold bound
  cases scope.method with
  | impersonation => exact hview world world.login _ world.events
  | login => exact Std.Refl.refl world

theorem same_inside (scope : Scope) (identity : Identity) (world : World) :
    Same view world (scope.inside identity world) :=
  IsTrans.trans _ _ _ (same_entered hview scope identity world)
    (same_bound hview scope identity _)

theorem same_outside (scope : Scope) (login : Identity) (guest : Option Identity)
    (world : World) : Same view world (scope.outside login guest world) := by
  unfold outside
  cases scope.method with
  | impersonation => exact hview world world.login _ world.events
  | login => exact hview world _ world.guest _

theorem same_abandoned
    (hlogged : ∀ world records, view { world with records := records } = view world)
    (scope : Scope) (login : Identity) (world : World) :
    Same view world (scope.abandoned login world) := by
  unfold abandoned
  cases scope.method with
  | impersonation => exact Std.Refl.refl world
  | login =>
      exact IsTrans.trans _ _ _ (hlogged world _) (same_outside hview scope login world.guest _)

end View

/-- What a scope does once the identities from before are back. -/
def finish (scope : Scope) (identity inherited : Identity) (result : Except Panic α) :
    Launch α := do
  scope.release identity inherited
  resume result

section Call

variable (scope : Scope) (identity inherited login : Identity) {call : Launch (Launch α)}
  {x : Launch α} {panic : Panic} {world left : World}

theorem runAsGuest_of_returned (hmethod : scope.method = .impersonation)
    (hcall : call (scope.entered identity world) = .ok x left) :
    scope.runAsGuest identity inherited call world =
      scope.finish identity inherited (ending x (scope.bound identity left))
        (scope.outside login left.guest (after x (scope.bound identity left))) := by
  have hentered : scope.entered identity world = world := by rw [entered, hmethod]
  have hsettled : settle (asGuest identity x) left =
      .ok (ending x (scope.bound identity left))
        (scope.outside login left.guest (after x (scope.bound identity left))) := by
    rw [settle_eq, ending_asGuest, after_asGuest, bound, outside, hmethod]
  rw [hentered] at hcall
  unfold runAsGuest
  rw [bind_of_ok hcall]
  exact bind_of_ok hsettled _

theorem runAsGuest_of_panic (hmethod : scope.method = .impersonation)
    (hcall : call (scope.entered identity world) = .error panic left) :
    scope.runAsGuest identity inherited call world =
      .error panic (scope.abandoned login left) := by
  rw [entered, hmethod] at hcall
  rw [abandoned, hmethod]
  exact bind_of_panic hcall _

theorem login_entered (hmethod : scope.method = .login) (world : World) :
    Session.login ⟨login, .notLoggedIn, scope.announce⟩ identity world =
      .ok (true, ⟨login, .loggedIn, scope.announce⟩) (scope.entered identity world) := by
  rw [Session.login_eq _ (by simp), entered, hmethod]

theorem logout_outside (hmethod : scope.method = .login) (guest : Option Identity)
    (world : World) :
    Session.logout ⟨login, .loggedIn, scope.announce⟩ world =
      .ok (true, ⟨login, .loggedOut, scope.announce⟩) (scope.outside login guest world) := by
  rw [Session.logout_eq _ rfl, outside, hmethod]

theorem discard_logout (hmethod : scope.method = .login) (guest : Option Identity)
    (world : World) :
    (discard (Session.logout ⟨login, .loggedIn, scope.announce⟩) : Launch Unit) world =
      .ok () (scope.outside login guest world) := by
  show EStateM.map _ _ _ = _
  rw [EStateM.map, logout_outside scope login hmethod guest]

theorem finish_abandoned (hmethod : scope.method = .login) (world : World) :
    Session.finish ⟨login, .loggedIn, scope.announce⟩ world =
      .ok () (scope.abandoned login world) := by
  unfold Session.finish
  rw [if_pos rfl, abandoned, hmethod]
  exact (bind_of_ok rfl _).trans (discard_logout scope login hmethod _ _)

theorem runLoggedIn_of_returned (hmethod : scope.method = .login) (guest : Option Identity)
    (hcall : call (scope.entered identity world) = .ok x left) :
    scope.runLoggedIn ⟨login, .notLoggedIn, scope.announce⟩ identity inherited call world =
      scope.finish identity inherited (ending x (scope.bound identity left))
        (scope.outside login guest (after x (scope.bound identity left))) := by
  have hbound : scope.bound identity left = left := by rw [bound, hmethod]
  rw [hbound]
  unfold runLoggedIn
  rw [bind_of_ok (login_entered scope identity login hmethod world)]
  dsimp only
  rw [bind_of_ok (Session.guard_of_ok _ hcall), bind_of_ok (settle_eq x left)]
  exact bind_of_ok (discard_logout scope login hmethod guest _) _

theorem runLoggedIn_of_panic (hmethod : scope.method = .login)
    (hcall : call (scope.entered identity world) = .error panic left) :
    scope.runLoggedIn ⟨login, .notLoggedIn, scope.announce⟩ identity inherited call world =
      .error panic (scope.abandoned login left) := by
  have hguard := Session.guard_of_panic ⟨login, .loggedIn, scope.announce⟩ hcall
    (finish_abandoned scope login hmethod left)
  unfold runLoggedIn
  rw [bind_of_ok (login_entered scope identity login hmethod world)]
  exact bind_of_panic hguard _

end Call

section Run

variable (scope : Scope) {spec : PrincipalSpec} {config : Configuration} {world acquired : World}
  {identity : Identity} {next : Option Configuration}

/-- A scope that acquires its identity calls the body, runs what the call returns and goes on
outside. -/
theorem enter_of_returned
    (hacquired : scope.acquirer.acquire spec (some config) world =
      .ok ⟨.ok identity, next⟩ acquired)
    (body : Identity → Configuration → Launch (Launch α)) {x : Launch α} {left : World}
    (hcall : body identity (next.getD config) (scope.entered identity acquired) = .ok x left) :
    scope.enter spec config body world =
      (Except.ok <$> scope.finish identity world.current
          (ending x (scope.bound identity left)) : Launch (Except SecurityError α))
        (scope.outside world.login left.guest (after x (scope.bound identity left))) := by
  unfold enter
  rw [get_bind, Session.start_bind, bind_of_ok hacquired]
  dsimp only
  cases hmethod : scope.method with
  | impersonation =>
      exact bind_congr_left (runAsGuest_of_returned scope _ _ _ hmethod hcall) _
  | login =>
      exact bind_congr_left (runLoggedIn_of_returned scope _ _ _ hmethod _ hcall) _

theorem enter_of_thrown
    (hacquired : scope.acquirer.acquire spec (some config) world =
      .ok ⟨.ok identity, next⟩ acquired)
    (body : Identity → Configuration → Launch (Launch α)) {panic : Panic} {left : World}
    (hcall : body identity (next.getD config) (scope.entered identity acquired) =
      .error panic left) :
    scope.enter spec config body world = .error panic (scope.abandoned world.login left) := by
  unfold enter
  rw [get_bind, Session.start_bind, bind_of_ok hacquired]
  dsimp only
  cases hmethod : scope.method with
  | impersonation =>
      exact bind_of_panic (runAsGuest_of_panic scope _ _ world.login hmethod hcall) _
  | login => exact bind_of_panic (runLoggedIn_of_panic scope _ _ _ hmethod hcall) _

theorem enter_of_refused {refused : World} {cause : SecurityError}
    (hrefused : scope.acquirer.acquire spec (some config) world =
      .ok ⟨.error cause, next⟩ refused)
    (body : Identity → Configuration → Launch (Launch α)) :
    scope.enter spec config body world = .ok (.error cause) refused := by
  unfold enter
  rw [get_bind, Session.start_bind, bind_of_ok hrefused]
  rfl

theorem enter_of_panic {left : World} {panic : Panic}
    (hpanic : scope.acquirer.acquire spec (some config) world = .error panic left)
    (body : Identity → Configuration → Launch (Launch α)) :
    scope.enter spec config body world = .error panic left := by
  unfold enter
  rw [get_bind, Session.start_bind]
  exact bind_of_panic hpanic _

/-- Two calls in one world panic alike, or leave one world and return computations that do the same
in it once the scope has bound the identity. -/
inductive CallsAlike (scope : Scope) (identity : Identity) (call other : Launch (Launch α))
    (world : World) : Prop
  | thrown {panic : Panic} {left : World} (hcall : call world = .error panic left)
      (hother : other world = .error panic left)
  | returned {x y : Launch α} {left : World} (hcall : call world = .ok x left)
      (hother : other world = .ok y left)
      (hbody : x (scope.bound identity left) = y (scope.bound identity left))

theorem callsAlike_of_eq {call other : Launch (Launch α)} {world : World}
    (h : call world = other world) : scope.CallsAlike identity call other world := by
  cases hcall : call world with
  | error panic left => exact .thrown hcall (h.symm.trans hcall)
  | ok x left => exact .returned hcall (h.symm.trans hcall) rfl

/-- A run does not depend on what its body does in worlds in which it is not called. -/
theorem enter_congr (spec : PrincipalSpec) (config : Configuration) {world : World}
    {body other : Identity → Configuration → Launch (Launch α)}
    (h : ∀ identity next acquired,
      scope.acquirer.acquire spec (some config) world = .ok ⟨.ok identity, next⟩ acquired →
      scope.CallsAlike identity (body identity (next.getD config))
        (other identity (next.getD config)) (scope.entered identity acquired)) :
    scope.enter spec config body world = scope.enter spec config other world := by
  cases hresult : scope.acquirer.acquire spec (some config) world with
  | error panic next => rw [enter_of_panic scope hresult, enter_of_panic scope hresult]
  | ok acquisition acquired =>
      rcases acquisition with ⟨cause | identity, next⟩
      · rw [enter_of_refused scope hresult, enter_of_refused scope hresult]
      · cases h identity next acquired hresult with
        | thrown hcall hother =>
            rw [enter_of_thrown scope hresult _ hcall, enter_of_thrown scope hresult _ hother]
        | returned hcall hother hbody =>
            rw [enter_of_returned scope hresult _ hcall, enter_of_returned scope hresult _ hother]
            rw [ending_congr hbody, after_congr hbody]

theorem run_of_acquired
    (hacquired : scope.acquirer.acquire spec (some config) world =
      .ok ⟨.ok identity, next⟩ acquired) (body : Identity → Configuration → Launch α) :
    let x := body identity (next.getD config)
    scope.run spec config body world =
      (Except.ok <$> scope.finish identity world.current
          (ending x (scope.inside identity acquired)) : Launch (Except SecurityError α))
        (scope.outside world.login acquired.guest (after x (scope.inside identity acquired))) := by
  intro x
  have hguest : (scope.entered identity acquired).guest = acquired.guest := by
    unfold entered
    cases scope.method <;> rfl
  have hcall : (pure x : Launch (Launch α)) (scope.entered identity acquired) =
      .ok x (scope.entered identity acquired) := rfl
  have hrun := enter_of_returned scope hacquired
    (fun identity config => pure (body identity config))
    hcall
  rw [hguest] at hrun
  exact hrun

theorem run_of_refused {refused : World} {cause : SecurityError}
    (hrefused : scope.acquirer.acquire spec (some config) world =
      .ok ⟨.error cause, next⟩ refused) (body : Identity → Configuration → Launch α) :
    scope.run spec config body world = .ok (.error cause) refused :=
  enter_of_refused scope hrefused _

theorem run_of_panic {left : World} {panic : Panic}
    (hpanic : scope.acquirer.acquire spec (some config) world = .error panic left)
    (body : Identity → Configuration → Launch α) :
    scope.run spec config body world = .error panic left :=
  enter_of_panic scope hpanic _

theorem run_congr (spec : PrincipalSpec) (config : Configuration) {world : World}
    {body other : Identity → Configuration → Launch α}
    (h : ∀ identity next acquired,
      scope.acquirer.acquire spec (some config) world = .ok ⟨.ok identity, next⟩ acquired →
      body identity (next.getD config) (scope.inside identity acquired) =
        other identity (next.getD config) (scope.inside identity acquired)) :
    scope.run spec config body world = scope.run spec config other world :=
  enter_congr scope spec config fun identity next acquired hacquired =>
    .returned rfl rfl (h identity next acquired hacquired)

end Run

end Scope

end ActionLauncher

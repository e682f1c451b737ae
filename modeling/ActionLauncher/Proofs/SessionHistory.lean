import Mathlib.Data.List.Forall2
import ActionLauncher.Proofs.ScopeRun

namespace ActionLauncher

open Launch

/-- What happens to the login identity while a session is open: the session is called, or someone
else sets or swaps the identity. -/
inductive SessionAct
  | login (identity : Identity)
  | logout
  | assign (identity : Identity)
  deriving DecidableEq

/-- Does one thing; the answer is that of the session. -/
def SessionAct.perform (session : Session) : SessionAct → Launch (Bool × Session)
  | login identity => session.login identity
  | logout => session.logout
  | assign identity => do
      discard (swapLogin identity)
      return (true, session)

/-- The ways on for the state of a session. -/
inductive SessionState.Advances : SessionState → SessionState → Prop
  | stays (state : SessionState) : Advances state state
  | logsIn : Advances .notLoggedIn .loggedIn
  | logsOut : Advances .loggedIn .loggedOut

namespace Session

/-- Drops the session at the end of what held it.  A panic that led there goes on. -/
def close {α : Type} (session : Session) (ended : Except Panic α) : Launch α := do
  session.finish
  resume ended

/-- The world once the session has put its first identity back. -/
def restored (session : Session) (world : World) : World :=
  { world with
    login := session.initial
    events := world.events ++
      if session.announce then [.identityRestored session.initial.principal] else [] }

theorem login_refused (session : Session) (h : session.state = .loggedOut) (identity : Identity)
    (world : World) :
    session.login identity world = .ok (false, session)
      (after (warn "Login refused: session already logged out") world) := by
  unfold login
  rw [if_pos h]
  rfl

theorem logout_skipped (session : Session) (h : session.state ≠ .loggedIn) (world : World) :
    session.logout world = .ok (false, session) world := by
  unfold logout
  rw [if_neg h]
  rfl

theorem finish_skipped (session : Session) (h : session.state ≠ .loggedIn) (world : World) :
    session.finish world = .ok () world := by
  unfold finish
  rw [if_neg h]
  rfl

/-- The world that the drop of a session leaves that is still logged in. -/
def dropped (session : Session) (world : World) : World :=
  session.restored
    (after (warn "Login session dropped while logged in, restoring original identity") world)

theorem finish_loggedIn (session : Session) (h : session.state = .loggedIn) (world : World) :
    session.finish world = .ok () (session.dropped world) := by
  unfold finish
  rw [if_pos h]
  show EStateM.map _ session.logout _ = _
  rw [EStateM.map, logout_eq session h]
  rfl

theorem close_skipped {α : Type} (session : Session) (h : session.state ≠ .loggedIn)
    (ended : Except Panic α) (world : World) :
    session.close ended world = resume ended world :=
  bind_of_ok (session.finish_skipped h world) _

theorem close_loggedIn {α : Type} (session : Session) (h : session.state = .loggedIn)
    (ended : Except Panic α) (world : World) :
    session.close ended world = resume ended (session.dropped world) :=
  bind_of_ok (session.finish_loggedIn h world) _

/-- All that one thing done can come to. -/
inductive Steps (session : Session) (world : World) :
    SessionAct → Bool → Session → World → Prop
  | accepted {identity : Identity} (h : session.state ≠ .loggedOut) :
      Steps session world (.login identity) true { session with state := .loggedIn }
        { world with
          login := identity
          events := world.events ++
            if session.announce then [.identitySwitched identity.principal world.login.principal]
            else [] }
  | refused {identity : Identity} (h : session.state = .loggedOut) :
      Steps session world (.login identity) false session
        (after (warn "Login refused: session already logged out") world)
  | restored (h : session.state = .loggedIn) :
      Steps session world .logout true { session with state := .loggedOut }
        (session.restored world)
  | skipped (h : session.state ≠ .loggedIn) : Steps session world .logout false session world
  | assigned {identity : Identity} :
      Steps session world (.assign identity) true session { world with login := identity }

theorem perform_steps (act : SessionAct) (session : Session) (world : World) :
    ∃ answer next left, act.perform session world = .ok (answer, next) left ∧
      Steps session world act answer next left := by
  cases act with
  | login identity =>
      by_cases h : session.state = .loggedOut
      · exact ⟨_, _, _, session.login_refused h identity world, .refused h⟩
      · exact ⟨_, _, _, session.login_eq h identity world, .accepted h⟩
  | logout =>
      by_cases h : session.state = .loggedIn
      · exact ⟨_, _, _, session.logout_eq h world, .restored h⟩
      · exact ⟨_, _, _, session.logout_skipped h world, .skipped h⟩
  | assign identity => exact ⟨_, _, _, rfl, .assigned⟩

theorem steps_of_perform {act : SessionAct} {session next : Session} {world left : World}
    {answer : Bool} (h : act.perform session world = .ok (answer, next) left) :
    Steps session world act answer next left := by
  obtain ⟨answer', next', left', hperform, hsteps⟩ := perform_steps act session world
  cases h.symm.trans hperform
  exact hsteps

theorem Steps.advances {session next : Session} {world left : World} {act : SessionAct}
    {answer : Bool} (h : Steps session world act answer next left) :
    session.state.Advances next.state := by
  cases h with
  | accepted hstate =>
      show session.state.Advances .loggedIn
      cases hsession : session.state with
      | notLoggedIn => exact .logsIn
      | loggedIn => exact .stays _
      | loggedOut => exact absurd hsession hstate
  | restored hstate =>
      show session.state.Advances .loggedOut
      rw [hstate]
      exact .logsOut
  | refused _ | skipped _ | assigned => exact .stays _

/-- A session that has begun in some world, what was done since with the answers to it, and how the
session and the world are now. -/
inductive Lives (announce : Bool) (begun : World) :
    List (SessionAct × Bool) → Session → World → Prop
  | start {session : Session} {world : World}
      (h : Session.start announce begun = .ok session world) :
      Lives announce begun [] session world
  | act {done : List (SessionAct × Bool)} {session next : Session} {world left : World}
      {act : SessionAct} {answer : Bool} (h : Lives announce begun done session world)
      (hact : act.perform session world = .ok (answer, next) left) :
      Lives announce begun (done ++ [(act, answer)]) next left

/-- The identities that the session was logged in with. -/
def accepted (done : List (SessionAct × Bool)) : List Identity :=
  done.filterMap fun
    | (.login identity, true) => some identity
    | _ => none

def assigned (done : List (SessionAct × Bool)) : List Identity :=
  done.filterMap fun
    | (.assign identity, _) => some identity
    | _ => none

/-- A login was accepted, and nobody has called for a logout since. -/
def Pending (done : List (SessionAct × Bool)) : Prop :=
  ∃ front identity back, done = front ++ (.login identity, true) :: back ∧
    ∀ answer, (SessionAct.logout, answer) ∉ back

theorem not_pending_nil : ¬ Pending [] := by
  rintro ⟨front, identity, back, h, -⟩
  simp at h

theorem pending_concat (done : List (SessionAct × Bool)) (act : SessionAct) (answer : Bool) :
    Pending (done ++ [(act, answer)]) ↔
      (∃ identity, act = .login identity ∧ answer = true) ∨ act ≠ .logout ∧ Pending done := by
  constructor
  · rintro ⟨front, identity, back, h, hback⟩
    rcases List.eq_nil_or_concat back with rfl | ⟨rest, last, rfl⟩
    · left
      obtain ⟨-, hlast⟩ := List.append_inj' h rfl
      simp only [List.cons.injEq, Prod.mk.injEq, and_true] at hlast
      exact ⟨identity, hlast⟩
    · right
      rw [List.concat_eq_append, ← List.cons_append, ← List.append_assoc] at h
      obtain ⟨hdone, hlast⟩ := List.append_inj' h rfl
      simp only [List.cons.injEq, and_true] at hlast
      subst hlast
      refine ⟨?_, front, identity, rest, hdone, fun answer hmem => hback answer (by simp [hmem])⟩
      rintro rfl
      exact hback answer (by simp)
  · rintro (⟨identity, rfl, rfl⟩ | ⟨hact, front, identity, back, rfl, hback⟩)
    · exact ⟨done, identity, [], rfl, by simp⟩
    · refine ⟨front, identity, back ++ [(act, answer)], by simp, ?_⟩
      intro answer' hmem
      rcases List.mem_append.1 hmem with hmem | hmem
      · exact hback answer' hmem
      · simp only [List.mem_singleton, Prod.mk.injEq] at hmem
        exact hact hmem.1.symm

/-- An event tells of the switch to an identity. -/
def SwitchesTo (identity : Identity) (event : Event) : Prop :=
  ∃ previous, event = .identitySwitched identity.principal previous

theorem accepted_concat (done : List (SessionAct × Bool)) (entry : SessionAct × Bool) :
    accepted (done ++ [entry]) = accepted done ++ accepted [entry] :=
  List.filterMap_append

/-- Where a session stands after what was done. -/
structure Stands (announce : Bool) (begun : World) (done : List (SessionAct × Bool))
    (session : Session) (world : World) : Prop where
  initial : session.initial = begun.login
  announces : session.announce = announce
  notLoggedIn_iff : session.state = .notLoggedIn ↔ accepted done = []
  loggedIn_iff : session.state = .loggedIn ↔ Pending done
  loggedOut_iff : session.state = .loggedOut ↔ (.logout, true) ∈ done
  count : done.count (.logout, true) = if session.state = .loggedOut then 1 else 0
  events : ∃ switched, List.Forall₂ SwitchesTo (accepted done) switched ∧
    world.events = begun.events ++
      if announce then
        switched ++
          if session.state = .loggedOut then [.identityRestored begun.login.principal] else []
      else []

variable {announce : Bool} {begun world left : World} {done : List (SessionAct × Bool)}
  {session next : Session} {act : SessionAct} {answer : Bool}

theorem Stands.start (h : Session.start announce begun = .ok session world) :
    Stands announce begun [] session world := by
  obtain ⟨rfl, rfl⟩ : (⟨begun.login, .notLoggedIn, announce⟩ : Session) = session ∧
      begun = world := by
    have h : EStateM.Result.ok (⟨begun.login, .notLoggedIn, announce⟩ : Session) begun =
        .ok session world := h
    simpa using h
  constructor
  · rfl
  · rfl
  · simp [accepted]
  · simpa using not_pending_nil
  · simp
  · simp
  · refine ⟨[], .nil, ?_⟩
    cases announce <;> simp

theorem Stands.concat (h : Stands announce begun done session world)
    (hlogin : accepted [(act, answer)] = [])
    (hpending : Pending (done ++ [(act, answer)]) ↔ Pending done)
    (hlogout : (act, answer) ≠ (.logout, true)) (hevents : left.events = world.events) :
    Stands announce begun (done ++ [(act, answer)]) session left := by
  have hmem : (SessionAct.logout, true) ∈ done ++ [(act, answer)] ↔ (.logout, true) ∈ done := by
    simp [hlogout.symm]
  constructor
  · exact h.initial
  · exact h.announces
  · rw [accepted_concat, hlogin, List.append_nil]
    exact h.notLoggedIn_iff
  · rw [hpending]
    exact h.loggedIn_iff
  · rw [hmem]
    exact h.loggedOut_iff
  · have hzero : [(act, answer)].count (.logout, true) = 0 :=
      List.count_eq_zero_of_not_mem (by simpa using hlogout.symm)
    rw [List.count_append, hzero]
    exact h.count
  · rw [accepted_concat, hlogin, List.append_nil, hevents]
    exact h.events

theorem Stands.steps (h : Stands announce begun done session world)
    (hsteps : Steps session world act answer next left) :
    Stands announce begun (done ++ [(act, answer)]) next left := by
  obtain ⟨switched, hswitched, hevents⟩ := h.events
  cases hsteps with
  | accepted hstate =>
      rename_i identity
      have hpending : Pending (done ++ [(.login identity, true)]) :=
        (pending_concat _ _ _).2 (.inl ⟨identity, rfl, rfl⟩)
      have hmem : (SessionAct.logout, true) ∉ done := fun hmem =>
        hstate (h.loggedOut_iff.2 hmem)
      constructor
      · exact h.initial
      · exact h.announces
      · simp [accepted]
      · simpa using hpending
      · simpa using hmem
      · simpa using List.count_eq_zero_of_not_mem hmem
      · refine ⟨switched ++ [.identitySwitched identity.principal world.login.principal],
          ?_, ?_⟩
        · rw [accepted_concat]
          exact List.rel_append hswitched (.cons ⟨_, rfl⟩ .nil)
        · rw [hevents, h.announces, if_neg hstate]
          cases announce <;> simp
  | refused hstate =>
      refine h.concat rfl ?_ (by simp) rfl
      rw [pending_concat]
      simp
  | restored hstate =>
      have hnone : accepted done ≠ [] := fun hnone => by
        rw [← h.notLoggedIn_iff, hstate] at hnone
        cases hnone
      have hpending : ¬ Pending (done ++ [(.logout, true)]) := by
        rw [pending_concat]
        simp
      constructor
      · exact h.initial
      · exact h.announces
      · simpa [accepted_concat, accepted] using hnone
      · simpa using hpending
      · simp
      · rw [List.count_append, h.count, hstate]
        rfl
      · refine ⟨switched, ?_, ?_⟩
        · rw [accepted_concat]
          exact (List.append_nil (accepted done)).symm ▸ hswitched
        · show world.events ++ _ = _
          rw [hevents, h.announces, h.initial, hstate]
          cases announce <;> simp
  | skipped hstate =>
      refine h.concat rfl ?_ (by simp) rfl
      rw [pending_concat]
      have hpending : ¬ Pending done := fun hpending => hstate (h.loggedIn_iff.2 hpending)
      simp [hpending]
  | assigned =>
      refine h.concat rfl ?_ (by simp) rfl
      rw [pending_concat]
      simp

theorem Lives.stands (h : Lives announce begun done session world) :
    Stands announce begun done session world := by
  induction h with
  | start h => exact .start h
  | act _ hact ih => exact ih.steps (steps_of_perform hact)

theorem Lives.begins (h : Lives announce begun done session world) (hdone : done = []) :
    session.state = .notLoggedIn ∧ world = begun := by
  cases h with
  | start h =>
      cases h
      exact ⟨rfl, rfl⟩
  | act _ _ => simp at hdone

/-- What others write once the session has put its first identity back stays. -/
theorem Lives.login_of_restored (h : Lives announce begun done session world)
    {front back : List (SessionAct × Bool)} (hdone : done = front ++ (.logout, true) :: back) :
    world.login = (assigned back).getLastD begun.login := by
  induction h generalizing back with
  | start _ => simp at hdone
  | act hlives hact ih =>
      rename_i before session next world left act answer
      have hsteps := steps_of_perform hact
      have hstands := hlives.stands
      rcases List.eq_nil_or_concat back with rfl | ⟨rest, last, rfl⟩
      · obtain ⟨rfl, hlast⟩ := List.append_inj' hdone rfl
        simp only [List.cons.injEq, Prod.mk.injEq, and_true] at hlast
        obtain ⟨rfl, rfl⟩ := hlast
        cases hsteps
        exact hstands.initial
      · rw [List.concat_eq_append, ← List.cons_append, ← List.append_assoc] at hdone
        obtain ⟨hbefore, hlast⟩ := List.append_inj' hdone rfl
        simp only [List.cons.injEq, and_true] at hlast
        subst hlast
        have hlogin := ih hbefore
        have hstate : session.state = .loggedOut :=
          hstands.loggedOut_iff.2 (by simp [hbefore])
        have hassigned : assigned (rest ++ [(act, answer)]) =
            assigned rest ++ assigned [(act, answer)] := List.filterMap_append
        rw [List.concat_eq_append, hassigned]
        cases hsteps with
        | accepted h => exact absurd hstate h
        | restored h => simp [hstate] at h
        | refused _ =>
            simp only [assigned, List.filterMap_cons, List.filterMap_nil, List.append_nil]
            exact hlogin
        | skipped _ =>
            simp only [assigned, List.filterMap_cons, List.filterMap_nil, List.append_nil]
            exact hlogin
        | assigned => simp [assigned]

/-- The identity that the session found is still to be put back. -/
def Owing (done : List (SessionAct × Bool)) : Prop :=
  accepted done ≠ [] ∧ (.logout, true) ∉ done

instance (done : List (SessionAct × Bool)) : Decidable (Owing done) :=
  inferInstanceAs (Decidable (_ ∧ _))

theorem Stands.owing_iff (h : Stands announce begun done session world) :
    Owing done ↔ session.state = .loggedIn := by
  rw [Owing, Ne, ← h.notLoggedIn_iff, ← h.loggedOut_iff]
  cases session.state <;> simp

theorem Stands.once (h : Stands announce begun done session world) :
    done.count (.logout, true) + (if Owing done then 1 else 0) =
      if accepted done = [] then 0 else 1 := by
  rw [h.count]
  simp only [h.owing_iff, ← h.notLoggedIn_iff]
  cases session.state <;> rfl

theorem Stands.events_close {α : Type} (h : Stands announce begun done session world)
    (ended : Except Panic α) :
    ∃ switched, List.Forall₂ SwitchesTo (accepted done) switched ∧
      (after (session.close ended) world).events = begun.events ++
        if announce then
          switched ++
            if accepted done = [] then [] else [.identityRestored begun.login.principal]
        else [] := by
  obtain ⟨switched, hswitched, hevents⟩ := h.events
  refine ⟨switched, hswitched, ?_⟩
  by_cases hstate : session.state = .loggedIn
  · have hnone : accepted done ≠ [] := (h.owing_iff.2 hstate).1
    rw [after_congr (session.close_loggedIn hstate ended world), after_resume, if_neg hnone]
    show world.events ++ _ = _
    rw [hevents, h.announces, h.initial, hstate]
    cases announce <;> simp
  · rw [after_congr (session.close_skipped hstate ended world), after_resume, hevents]
    simp only [← h.notLoggedIn_iff]
    cases hnext : session.state with
    | notLoggedIn => rfl
    | loggedIn => exact absurd hnext hstate
    | loggedOut => rfl

/-- What is promised of a session that has come this far, whatever was done so far, whatever is
done next, and whether or not a panic leads to its drop. -/
structure Orderly (announce : Bool) (begun : World) (done : List (SessionAct × Bool))
    (session : Session) (world : World) : Prop where
  original : session.initial = begun.login
  begins : done = [] → session.state = .notLoggedIn ∧ world = begun
  goesOn : ∀ act : SessionAct,
    ∃ answer next left, act.perform session world = .ok (answer, next) left
  advances : ∀ {act : SessionAct} {answer : Bool} {next : Session} {left : World},
    act.perform session world = .ok (answer, next) left → session.state.Advances next.state
  logsIn : ∀ {identity : Identity} {answer : Bool} {next : Session} {left : World},
    session.login identity world = .ok (answer, next) left →
      (answer = true ↔ (.logout, true) ∉ done) ∧ left.guest = world.guest ∧
      (answer = true → left.login = identity) ∧
      (answer = false → left.login = world.login ∧ left.events = world.events)
  logsOut : ∀ {answer : Bool} {next : Session} {left : World},
    session.logout world = .ok (answer, next) left →
      (answer = true ↔ Pending done) ∧
      (answer = true → left.login = begun.login) ∧ (answer = false → left = world)
  drops : ∀ {α : Type} (ended : Except Panic α),
    ending (session.close ended) world = ended ∧
      if Owing done then (after (session.close ended) world).login = begun.login
      else after (session.close ended) world = world
  /-- The identity is put back by one logout or else by the drop, never by both. -/
  once : done.count (.logout, true) + (if Owing done then 1 else 0) =
    if accepted done = [] then 0 else 1
  keepsForeign : ∀ {front back : List (SessionAct × Bool)},
    done = front ++ (.logout, true) :: back →
      world.login = (assigned back).getLastD begun.login
  tells : ∀ {α : Type} (ended : Except Panic α),
    ∃ switched, List.Forall₂ SwitchesTo (accepted done) switched ∧
      (after (session.close ended) world).events = begun.events ++
        if announce then
          switched ++
            if accepted done = [] then [] else [.identityRestored begun.login.principal]
        else []

theorem life_orderly (h : Lives announce begun done session world) :
    Orderly announce begun done session world := by
  have hstands := h.stands
  constructor
  case original => exact hstands.initial
  case begins => exact h.begins
  case goesOn =>
    intro act
    obtain ⟨answer, next, left, hact, -⟩ := perform_steps act session world
    exact ⟨answer, next, left, hact⟩
  case advances =>
    intro act answer next left hact
    exact (steps_of_perform hact).advances
  case logsIn =>
    intro identity answer next left hact
    have hsteps : Steps session world (.login identity) answer next left := steps_of_perform hact
    rw [← hstands.loggedOut_iff]
    cases hsteps with
    | accepted hstate => simp [hstate]
    | refused hstate => exact ⟨by simp [hstate], rfl, by simp, fun _ => ⟨rfl, rfl⟩⟩
  case logsOut =>
    intro answer next left hact
    have hsteps : Steps session world .logout answer next left := steps_of_perform hact
    rw [← hstands.loggedIn_iff]
    cases hsteps with
    | restored hstate => exact ⟨by simp [hstate], fun _ => hstands.initial, by simp⟩
    | skipped hstate => simp [hstate]
  case drops =>
    intro α ended
    simp only [hstands.owing_iff]
    split
    · rename_i hstate
      have hclose := session.close_loggedIn hstate ended world
      rw [ending_congr hclose, after_congr hclose, ending_resume, after_resume]
      exact ⟨rfl, hstands.initial⟩
    · rename_i hstate
      have hclose := session.close_skipped hstate ended world
      rw [ending_congr hclose, after_congr hclose, ending_resume, after_resume]
      exact ⟨rfl, rfl⟩
  case once => exact hstands.once
  case keepsForeign => exact h.login_of_restored
  case tells => exact hstands.events_close

/-- Someone writes the login identity before and after the logout; only the second writing
lasts. -/
theorem life_orderly_overwritten :
    let root : Identity := ⟨"root", .ambient, none, none, default⟩
    let etl : Identity := ⟨"etl", .keytab, none, none, default⟩
    let ops : Identity := ⟨"ops", .ambient, none, none, default⟩
    let begun := World.start (.ofWorkingDir []) .empty "root" root default default
    let done : List (SessionAct × Bool) :=
      [(.logout, false), (.login etl, true), (.assign ops, true), (.logout, true),
        (.assign ops, true), (.login etl, false)]
    ∃ session world, Lives true begun done session world ∧
      Orderly true begun done session world ∧ world.login = ops := by
  intro root etl ops begun done
  have hlives : Lives true begun done _ _ :=
    .act (.act (.act (.act (.act (.act (.start rfl) rfl) rfl) rfl) rfl) rfl) rfl
  exact ⟨_, _, hlives, life_orderly hlives, rfl⟩

end Session

end ActionLauncher

import ActionLauncher.Proofs.SessionHistory

/-!
Any number of login sessions in one process, begun and ended in any order.  They restore over each
other, so none of them can tell who is logged in; but what they publish can: the event log, when it
is replayed, leads to the login identity of the process after every call.
-/

namespace ActionLauncher

open Launch

namespace Event

/-- The principal that is logged in once the event has happened, if the event tells. -/
def loginPrincipal? : Event → Option String
  | .identitySwitched principal _ => some principal
  | .identityRestored principal => some principal
  | _ => none

/-- Who is logged in after the events, by what they tell; before them it was the first one. -/
def replay (first : String) (events : List Event) : String :=
  (events.filterMap loginPrincipal?).getLastD first

theorem replay_append (first : String) (before behind : List Event) :
    replay first (before ++ behind) = replay (replay first before) behind := by
  simp only [replay, List.filterMap_append, List.getLastD_eq_getLast?, List.getLast?_append]
  cases (behind.filterMap loginPrincipal?).getLast? <;> rfl

/-- Every switch names the principal as the one before that the events before it lead to. -/
def Faithful (first : String) (events : List Event) : Prop :=
  ∀ before principal previous behind,
    events = before ++ .identitySwitched principal previous :: behind →
      previous = replay first before

theorem Faithful.append {first : String} {events further : List Event}
    (h : Faithful first events) (hfurther : Faithful (replay first events) further) :
    Faithful first (events ++ further) := by
  intro before principal previous behind hsplit
  rcases List.append_eq_append_iff.1 hsplit with ⟨rest, rfl, hrest⟩ | ⟨rest, hevents, hrest⟩
  · rw [replay_append]
    exact hfurther rest principal previous behind hrest
  · cases rest with
    | nil =>
        rw [List.append_nil] at hevents
        subst hevents
        exact hfurther [] principal previous behind hrest.symm
    | cons event rest =>
        obtain ⟨rfl, -⟩ := List.cons.inj hrest
        exact h before principal previous rest hevents

end Event

namespace Session

/-- Between two worlds, what was published replays the login identity. -/
def Replays (world left : World) : Prop :=
  ∃ told, left.events = world.events ++ told ∧
    left.login.principal = Event.replay world.login.principal told ∧
    Event.Faithful world.login.principal told

theorem Replays.trans {world left last : World} (h : Replays world left)
    (hlast : Replays left last) : Replays world last := by
  obtain ⟨told, hevents, hlogin, hfaithful⟩ := h
  obtain ⟨further, hevents', hlogin', hfaithful'⟩ := hlast
  rw [hlogin] at hlogin' hfaithful'
  refine ⟨told ++ further, ?_, ?_, hfaithful.append hfaithful'⟩
  · rw [hevents', hevents, List.append_assoc]
  · rw [hlogin', Event.replay_append]

theorem Replays.of_quiet {world left : World} (hlogin : left.login = world.login)
    (hevents : left.events = world.events) : Replays world left := by
  refine ⟨[], ?_, ?_, ?_⟩
  · rw [hevents, List.append_nil]
  · rw [hlogin]
    rfl
  · intro before principal previous behind h
    simp at h

theorem Replays.of_event {world left : World} {event : Event}
    (hevents : left.events = world.events ++ [event])
    (hlogin : event.loginPrincipal? = some left.login.principal)
    (hprevious : ∀ principal previous, event = .identitySwitched principal previous →
      previous = world.login.principal) : Replays world left := by
  refine ⟨[event], hevents, ?_, ?_⟩
  · simp [Event.replay, hlogin]
  · intro before principal previous behind h
    obtain ⟨rfl, rfl, -⟩ := List.append_eq_singleton_iff.1 h.symm |>.resolve_right (by simp)
    exact hprevious principal previous rfl

theorem Steps.replays {session next : Session} {world left : World} {act : SessionAct}
    {answer : Bool} (h : Steps session world act answer next left)
    (hannounce : session.announce = true) (hact : ∀ identity, act ≠ .assign identity) :
    next.announce = true ∧ Replays world left := by
  cases h with
  | accepted hstate =>
      refine ⟨hannounce, .of_event (by rw [hannounce]; rfl) rfl ?_⟩
      intro principal previous h
      cases h
      rfl
  | refused hstate => exact ⟨hannounce, .of_quiet rfl rfl⟩
  | restored hstate =>
      refine ⟨hannounce, .of_event (by rw [Session.restored, hannounce]; rfl) rfl ?_⟩
      intro principal previous h
      cases h
  | skipped hstate => exact ⟨hannounce, .of_quiet rfl rfl⟩
  | assigned => exact absurd rfl (hact _)

theorem finish_replays (session : Session) (hannounce : session.announce = true) (world : World) :
    ∃ left, session.finish world = .ok () left ∧ Replays world left := by
  by_cases hstate : session.state = .loggedIn
  · refine ⟨session.dropped world, session.finish_loggedIn hstate world, ?_⟩
    refine .of_event (by rw [dropped, restored, hannounce]; rfl) rfl ?_
    intro principal previous h
    cases h
  · exact ⟨world, session.finish_skipped hstate world, .of_quiet rfl rfl⟩

/-- A call by anyone who uses sessions, which are numbered in the order of their begin. -/
inductive Call
  | start
  | login (number : Nat) (identity : Identity)
  | logout (number : Nat)
  | drop (number : Nat)

/-- Does something with one session; nothing happens if there is none of the number. -/
def onNumber (sessions : List (Option Session)) (number : Nat)
    (f : Session → Launch (Option Session)) : Launch (List (Option Session)) :=
  match sessions[number]?.join with
  | none => pure sessions
  | some session => do return sessions.set number (← f session)

/-- Does one call.  A session that was dropped leaves its number unused. -/
def Call.perform (sessions : List (Option Session)) : Call → Launch (List (Option Session))
  | .start => do return sessions ++ [some (← Session.start true)]
  | .login number identity =>
      onNumber sessions number fun session => do return some (← session.login identity).2
  | .logout number =>
      onNumber sessions number fun session => do return some (← session.logout).2
  | .drop number =>
      onNumber sessions number fun session => do
        session.finish
        return none

/-- Every session that is open publishes what it does. -/
def Announce (sessions : List (Option Session)) : Prop :=
  ∀ session, some session ∈ sessions → session.announce = true

theorem onNumber_replays {sessions : List (Option Session)} (h : Announce sessions)
    (number : Nat) {f : Session → Launch (Option Session)}
    (hf : ∀ session world, session.announce = true →
      ∃ next left, f session world = .ok next left ∧
        (∀ other ∈ next, other.announce = true) ∧ Replays world left) (world : World) :
    ∃ next left, onNumber sessions number f world = .ok next left ∧
      Announce next ∧ Replays world left := by
  unfold onNumber
  cases hsession : sessions[number]?.join with
  | none => exact ⟨sessions, world, rfl, h, .of_quiet rfl rfl⟩
  | some session =>
      have hmem : some session ∈ sessions :=
        List.mem_of_getElem? (Option.join_eq_some_iff.1 hsession)
      obtain ⟨next, left, hresult, hnext, hreplays⟩ := hf session world (h session hmem)
      refine ⟨sessions.set number next, left, bind_of_ok hresult _, ?_, hreplays⟩
      intro other hother
      rcases List.mem_or_eq_of_mem_set hother with hother | rfl
      · exact h other hother
      · exact hnext other rfl

theorem Call.perform_replays (call : Call) {sessions : List (Option Session)}
    (h : Announce sessions) (world : World) :
    ∃ next left, call.perform sessions world = .ok next left ∧
      Announce next ∧ Replays world left := by
  cases call with
  | start =>
      refine ⟨_, world, rfl, ?_, .of_quiet rfl rfl⟩
      intro session hsession
      rcases List.mem_append.1 hsession with hsession | hsession
      · exact h session hsession
      · cases List.mem_singleton.1 hsession
        rfl
  | login number identity =>
      refine onNumber_replays h number (fun session world hannounce => ?_) world
      obtain ⟨answer, next, left, hperform, hsteps⟩ :=
        perform_steps (.login identity) session world
      have hnext := hsteps.replays hannounce (by simp)
      exact ⟨some next, left, bind_of_ok hperform _, by simpa using hnext.1, hnext.2⟩
  | logout number =>
      refine onNumber_replays h number (fun session world hannounce => ?_) world
      obtain ⟨answer, next, left, hperform, hsteps⟩ := perform_steps .logout session world
      have hnext := hsteps.replays hannounce (by simp)
      exact ⟨some next, left, bind_of_ok hperform _, by simpa using hnext.1, hnext.2⟩
  | drop number =>
      refine onNumber_replays h number (fun session world hannounce => ?_) world
      obtain ⟨left, hfinish, hreplays⟩ := session.finish_replays hannounce world
      exact ⟨none, left, bind_of_ok hfinish _, by simp, hreplays⟩

theorem calls_replay (calls : List Call) {sessions : List (Option Session)}
    (h : Announce sessions) (world : World) :
    ∃ next left, calls.foldlM Call.perform sessions world = .ok next left ∧
      Replays world left := by
  induction calls generalizing sessions world with
  | nil => exact ⟨sessions, world, rfl, .of_quiet rfl rfl⟩
  | cons call calls ih =>
      obtain ⟨next, left, hcall, hnext, hreplays⟩ := call.perform_replays h world
      obtain ⟨final, last, hcalls, hlast⟩ := ih hnext left
      refine ⟨final, last, ?_, hreplays.trans hlast⟩
      rw [List.foldlM_cons, bind_of_ok hcall]
      exact hcalls

/-- However sessions overlap, the log of what they publish leads to the login identity of the
process: its last event about a login names it, and every switch names the identity before. -/
theorem log_replays (calls : List Call) (world : World) :
    ∃ sessions left told, calls.foldlM Call.perform [] world = .ok sessions left ∧
      left.events = world.events ++ told ∧
      left.login.principal = Event.replay world.login.principal told ∧
      ∀ before principal previous behind,
        told = before ++ .identitySwitched principal previous :: behind →
          previous = Event.replay world.login.principal before := by
  have hnone : Announce [] := by
    intro session hsession
    cases hsession
  obtain ⟨sessions, left, hcalls, told, hevents, hlogin, hfaithful⟩ :=
    calls_replay calls hnone world
  exact ⟨sessions, left, told, hcalls, hevents, hlogin, hfaithful⟩

end Session

end ActionLauncher

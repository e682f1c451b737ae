import ActionLauncher.Proofs.BodyConduct
import ActionLauncher.Proofs.RunOutcome

namespace ActionLauncher

open Launch

namespace Event

def isError : Event → Bool
  | .error .. => true
  | _ => false

/-- No error is told of. -/
def Untroubled (events : List Event) : Prop :=
  ∀ event ∈ events, event.isError = false

theorem untroubled_nil : Untroubled [] := by
  simp [Untroubled]

theorem Untroubled.append {events more : List Event} (h : Untroubled events)
    (hmore : Untroubled more) : Untroubled (events ++ more) := by
  intro event hevent
  rcases List.mem_append.1 hevent with hevent | hevent
  · exact h event hevent
  · exact hmore event hevent

theorem untroubled_told (announce : Bool) {event : Event} (h : event.isError = false) :
    Untroubled (World.told announce event) := by
  cases announce <;> simp [Untroubled, World.told, h]

end Event

open Event

/-- What others do in a run without telling of an error: the stages are left alone. -/
def Quiet (world next : World) : Prop :=
  next.stages = world.stages ∧ ∃ own, next.events = world.events ++ own ∧ Untroubled own

instance : IsPreorder World Quiet where
  refl world := ⟨rfl, [], (List.append_nil _).symm, untroubled_nil⟩
  trans _ _ _ := by
    rintro ⟨hstages, own, hown, hcalm⟩ ⟨hstages', own', hown', hcalm'⟩
    refine ⟨hstages'.trans hstages, own ++ own', ?_, hcalm.append hcalm'⟩
    rw [hown', hown, List.append_assoc]

theorem Quiet.of_eq {world next : World} (hstages : next.stages = world.stages)
    (hevents : next.events = world.events) : Quiet world next :=
  ⟨hstages, [], hevents.trans (List.append_nil _).symm, untroubled_nil⟩

theorem World.quiet_of_standing {world next : World} (h : Same standing world next) :
    Quiet world next :=
  .of_eq (congrArg Standing.stages h) (congrArg Standing.events h)

theorem Quiet.aside {world next : World} (h : Quiet world next) : Aside world next := by
  obtain ⟨hstages, own, hown, -⟩ := h
  exact ⟨hstages, own, hown.symm⟩

theorem quiet_conduct : Conduct Quiet where
  logs _ _ := .of_eq rfl rfl
  notes _ _ := .of_eq rfl rfl
  prints _ _ := .of_eq rfl rfl
  logins _ _ := .of_eq rfl rfl
  sets _ _ _ := .of_eq rfl rfl
  inside scope identity world := by
    unfold Scope.inside Scope.bound Scope.entered
    cases scope.method with
    | impersonation => exact .of_eq rfl rfl
    | login => exact ⟨rfl, _, rfl, untroubled_told _ rfl⟩
  outside scope login guest world := by
    unfold Scope.outside
    cases scope.method with
    | impersonation => exact .of_eq rfl rfl
    | login => exact ⟨rfl, _, rfl, untroubled_told _ rfl⟩

theorem Body.run_quiet (surroundings : Surroundings)
    (hprovider : surroundings.acquirer.provider.Obeys (Respects Quiet)) (body : Body)
    (identity : Identity) (config : Configuration) :
    Respects Quiet (body.run surroundings identity config) :=
  run_respects quiet_conduct surroundings hprovider body identity config

theorem CommandLine.BuiltIn.body_quiet (builtIn : BuiltIn) (context : Context)
    (args : List String) : Respects Quiet (builtIn.body context args) :=
  body_respects quiet_conduct (fun _ _ _ => (Provider.standing_spawn _ _ _).respects.mono
    fun _ _ => World.quiet_of_standing) builtIn context args

theorem Provider.builtIn_quiet {provider : Provider}
    (h : provider = .simple ∨ ∃ tools : KerberosTools, provider = tools.provider) :
    provider.Obeys (Respects Quiet) :=
  (builtIn_obeys h).mono fun _ hx => hx.respects.mono fun _ _ => World.quiet_of_standing

/-- The run has come to a stage, and since the events given it told of no error. -/
def World.CalmAt (world : World) (run : Uuid) (stage : Stage) (events : List Event) : Prop :=
  ∃ told, Untroubled told ∧ world.At run stage (events ++ told)

section CalmAt

variable {world next : World} {run : Uuid} {stage : Stage} {events : List Event}

theorem World.CalmAt.of_quiet (h : world.CalmAt run stage events) (hnext : Quiet world next) :
    next.CalmAt run stage events := by
  obtain ⟨told, hcalm, rfl, rfl, hevents⟩ := h
  obtain ⟨hstages, own, hown, hquiet⟩ := hnext
  refine ⟨told ++ own, hcalm.append hquiet, hstages ▸ rfl, hstages ▸ rfl, ?_⟩
  rw [hown, hevents, List.append_assoc]

end CalmAt

namespace Scope

theorem finish_quiet {α : Type} (scope : Scope)
    (h : scope.acquirer.provider.Obeys (Respects Quiet)) (identity inherited : Identity)
    (result : Except Panic α) (world : World) :
    Quiet world (after (scope.finish identity inherited result) world) ∧
      (ending (scope.finish identity inherited result) world = result ∨
        ∃ panic, ending (scope.finish identity inherited result) world = .error panic) := by
  have hreleased : Quiet world (after (scope.release identity inherited) world) :=
    release_obeys (conduct_discipline quiet_conduct) scope h identity inherited world
  unfold finish
  rw [ending_bind, after_bind]
  cases ending (scope.release identity inherited) world with
  | error panic => exact ⟨hreleased, .inr ⟨panic, rfl⟩⟩
  | ok _ =>
      refine ⟨?_, .inl ?_⟩
      · cases result <;> exact hreleased
      · cases result <;> rfl

end Scope

namespace Runner

variable (runner : Runner) (action : Action) (base : Configuration) (args : List String)

theorem prepare_calm {world : World} {run : Uuid} {events : List Event}
    (hat : world.At run .init events) :
    (∃ plan prepared, (runner.prepare action base).run world = .ok (.ok plan) prepared ∧
      prepared.CalmAt run .credentialsPropagated events) ∨
    ∃ panic left, (runner.prepare action base).run world = .error panic left ∧
      left.CalmAt run .configResolved events := by
  rcases runner.prepare_cases action base hat with
    ⟨plan, prepared, hprepare, -, hprepared⟩ | ⟨panic, left, hprepare, hleft⟩
  · have hlocation : Untroubled (runner.propagator.location?.toList.flatMap fun location =>
        World.told runner.announce (.credentialsPropagated location)) := by
      cases runner.propagator.location? with
      | none => exact untroubled_nil
      | some location => simpa using untroubled_told runner.announce rfl
    refine .inl ⟨plan, prepared, hprepare, _, ?_, hprepared⟩
    exact (untroubled_told _ rfl).append (hlocation.append (untroubled_told _ rfl))
  · exact .inr ⟨panic, left, hprepare, _, untroubled_told _ rfl, hleft⟩

/-- How the stages of a run end where no identity is refused, and at which stage. -/
inductive Unrefused : Stage → Except Panic (Except ActionError Unit) → Prop
  | panicked {stage : Stage} (panic : Panic)
      (h : stage.hasOutcome = true → stage = .succeeded ∨ stage = .failed) :
      Unrefused stage (.error panic)
  | failed (message : String) : Unrefused .failed (.ok (.error (.execution message)))
  | succeeded : Unrefused .succeeded (.ok (.ok ()))

variable {world : World} {ended : Except Panic (Except ActionError Unit)}

theorem Unrefused.outcome {stage : Stage} (h : Unrefused stage ended)
    (hstage : stage.hasOutcome = true) : stage = .succeeded ∨ stage = .failed := by
  cases h with
  | panicked panic h => exact h hstage
  | failed message => exact .inr rfl
  | succeeded => exact .inl rfl

theorem unrefused_endStage (bodyEnd : Except Panic (Except String Unit)) :
    Unrefused (endStage bodyEnd) (bodyEnd.map (Except.mapError ActionError.execution)) := by
  rcases bodyEnd with panic | (message | _)
  · exact .panicked panic fun h => nomatch h
  · exact .failed message
  · exact .succeeded

theorem report_calm {run : Uuid} {stage : Stage} {events : List Event}
    (h : Unrefused stage ended) (hat : world.CalmAt run stage events) :
    ∃ reported final, runner.report action ended world = .ok () reported ∧
      (final = .succeeded ∨ final = .failed) ∧ reported.CalmAt run final events := by
  obtain ⟨told, hcalm, hat⟩ := hat
  cases h with
  | panicked panic hstage =>
      let logged := after (reportError "Action panicked") world
      have hlogged : reportError "Action panicked" world = .ok () logged := rfl
      have hreported : logged.At run stage (events ++ told) := hat.of_standing rfl
      obtain ⟨next, hnext, hthere⟩ := reportFailure_execution runner action
        ("action panicked: " ++ panic.describe) hreported
      rw [List.append_assoc] at hthere
      refine ⟨next, _, (bind_of_ok hlogged _).trans hnext, ?_, _, hcalm.append ?_, hthere⟩
      · split
        · exact hstage ‹_›
        · exact .inr rfl
      · split
        · exact untroubled_nil
        · exact untroubled_told _ rfl
  | failed message =>
      obtain ⟨next, hnext, hthere⟩ := reportFailure_execution runner action message hat
      exact ⟨next, .failed, hnext, .inr rfl, told, hcalm, by simpa [Stage.hasOutcome] using hthere⟩
  | succeeded => exact ⟨world, .succeeded, rfl, .inl rfl, told, hcalm, hat⟩

theorem run_calm {stage : Stage}
    (hended : ending (runner.runStages action base args).run (after start world) = ended)
    (hleft : (after (runner.runStages action base args).run (after start world)).CalmAt
      world.nextId stage world.events)
    (h : Unrefused stage ended) :
    ending (runner.run action base args) world = ended ∧
      ∃ told, (after (runner.run action base args) world).events = world.events ++ told ∧
        Untroubled told := by
  obtain ⟨reported, final, hreport, hfinal, told, hcalm, hat⟩ :=
    runner.report_calm action h hleft
  obtain ⟨written, next, hfinish, -, hnext⟩ :=
    finish_returns runner action (outcome ended) hat hfinal
  have hrun := run_eq_of_finished runner action base args hended rfl hreport hfinish
  have hover : after (runner.run action base args) world = { next with inRun := false } :=
    (after_congr (y := resume ended) hrun).trans (after_resume _ _)
  refine ⟨(ending_congr (y := resume ended) hrun).trans (ending_resume _ _), ?_⟩
  rw [hover]
  have hevents := hnext.events
  simp only [List.append_assoc] at hevents
  refine ⟨_, hevents, hcalm.append ?_⟩
  exact (untroubled_told _ rfl).append ((untroubled_told _ rfl).append
    ((untroubled_told _ rfl).append (untroubled_told _ rfl)))

theorem prepared_calm {plan : Plan} {prepared : World}
    (hprepare : (runner.prepare action base).run (after start world) = .ok (.ok plan) prepared) :
    prepared.CalmAt world.nextId .credentialsPropagated world.events := by
  have hstart : (after start world).At world.nextId .init world.events := ⟨rfl, rfl, rfl⟩
  rcases runner.prepare_calm action base hstart with
    ⟨_, _, hprepare', hprepared⟩ | ⟨_, _, hprepare', -⟩
  · cases hprepare.symm.trans hprepare'
    exact hprepared
  · cases hprepare.symm.trans hprepare'

theorem runStages_of_panic {plan : Plan} {prepared left : World} {panic : Panic}
    (hprepare : (runner.prepare action base).run world = .ok (.ok plan) prepared)
    (hacquire : (plan.scope runner).acquirer.acquire plan.spec (some plan.config) prepared =
      .error panic left) :
    (runner.runStages action base args).run world = .error panic left := by
  unfold runStages
  rw [run_bind_of_ok hprepare]
  exact run_lift_bind_of_panic (Scope.run_of_panic _ hacquire _) _

theorem run_panics {stage : Stage} {panic : Panic} {left : World}
    (hstages : (runner.runStages action base args).run (after start world) = .error panic left)
    (hstage : stage.hasOutcome = false)
    (hleft : left.CalmAt world.nextId stage world.events) :
    (∃ panic, ending (runner.run action base args) world = .error panic) ∧
      ∃ told, (after (runner.run action base args) world).events = world.events ++ told ∧
        Untroubled told := by
  have hunrefused : Unrefused stage (.error panic) := .panicked panic (by simp [hstage])
  rw [← after_eq_of_panic hstages] at hleft
  obtain ⟨hend, htold⟩ :=
    runner.run_calm action base args (ending_eq_of_panic hstages) hleft hunrefused
  exact ⟨⟨panic, hend⟩, htold⟩

theorem runBody_calm (hbody : ∀ context args, Respects Quiet (action.body context args))
    (props : Properties) (identity : Identity) (config : Configuration) {run : Uuid}
    {events : List Event} (hat : world.CalmAt run .credentialsPropagated events) :
    let x := (runner.runBody action args props identity config).run
    ∃ stage, (after x world).CalmAt run stage events ∧ Unrefused stage (ending x world) := by
  intro x
  have haside (context : Context) (args : List String) :
      Respects Aside (action.body context args) :=
    (hbody context args).mono fun _ _ => Quiet.aside
  obtain ⟨told, hcalm, hat⟩ := hat
  obtain ⟨entered, own, happroach, hown, hend, hafter⟩ :=
    runBody_events runner action args haside props identity config hat
  -- The events in between are those that the body published and no others.
  obtain ⟨-, own', hown', hquiet⟩ := hbody (contextOf props identity config) args entered
  obtain rfl := List.append_cancel_left (hown.symm.trans hown')
  generalize ending (action.body _ args) entered = bodyEnd at hend hafter
  refine ⟨endStage bodyEnd, ?_, ?_⟩
  · simp only [List.append_assoc] at hafter
    refine ⟨_, hcalm.append (.append ?_ (hquiet.append ?_)), hafter⟩
    · exact ((untroubled_told _ rfl).append (untroubled_told _ rfl)).append (untroubled_told _ rfl)
    · cases bodyEnd with
      | error panic => exact untroubled_nil
      | ok ended => exact untroubled_told _ rfl
  · rw [hend]
    exact unrefused_endStage bodyEnd

section Provider

variable (hprovider : runner.provider.Obeys (Respects Quiet))

include hprovider

theorem acquired_calm (plan : Plan) {prepared : World} {run : Uuid} {events : List Event}
    (hprepared : prepared.CalmAt run .credentialsPropagated events) :
    (after ((plan.scope runner).acquirer.acquire plan.spec (some plan.config)) prepared).CalmAt run
      .credentialsPropagated events :=
  hprepared.of_quiet (Acquirer.acquire_obeys (conduct_discipline quiet_conduct)
    (plan.scope runner).acquirer hprovider plan.spec (some plan.config) prepared)

theorem runStages_calm {plan : Plan} {prepared acquired : World} {identity : Identity}
    {config : Option Configuration}
    (hbody : ∀ context args, Respects Quiet (action.body context args))
    (hprepare : (runner.prepare action base).run (after start world) = .ok (.ok plan) prepared)
    (hacquire : (plan.scope runner).acquirer.acquire plan.spec (some plan.config) prepared =
      .ok ⟨.ok identity, config⟩ acquired) :
    let x := (runner.runStages action base args).run
    ∃ stage, (after x (after start world)).CalmAt world.nextId stage world.events ∧
      Unrefused stage (ending x (after start world)) := by
  intro x
  let scope := plan.scope runner
  let y := (runner.runBody action args plan.properties identity (config.getD plan.config)).run
  have hacquired := runner.acquired_calm hprovider plan
    (runner.prepared_calm action base hprepare)
  rw [after_eq_of_ok hacquire] at hacquired
  have hinside := hacquired.of_quiet (quiet_conduct.inside scope identity acquired)
  obtain ⟨stage, hleft, hunrefused⟩ := runner.runBody_calm action args hbody plan.properties
    identity (config.getD plan.config) hinside
  let left := scope.outside prepared.login acquired.guest (after y (scope.inside identity acquired))
  have houtside : left.CalmAt world.nextId stage world.events :=
    hleft.of_quiet (quiet_conduct.outside _ _ _ _)
  obtain ⟨hfinished, hfinish⟩ := scope.finish_quiet hprovider identity prepared.current
    (ending y (scope.inside identity acquired)) left
  have hscope := Scope.run_of_acquired scope hacquire fun identity config =>
    (runner.runBody action args plan.properties identity config).run
  obtain ⟨hended, hover⟩ := runStages_of_entered runner action base args hprepare
    ((ending_congr hscope).trans (ending_map _ _ _))
  rw [after_congr hscope, after_map] at hover
  refine ⟨stage, hover ▸ houtside.of_quiet hfinished, ?_⟩
  rw [hended]
  rcases hfinish with hfinish | ⟨panic, hfinish⟩
  · rw [hfinish]
    exact hunrefused
  · rw [hfinish]
    exact .panicked panic hunrefused.outcome

end Provider

/-- What a run tells of an end before its body. -/
structure ReportsAborts (runner : Runner) (action : Action) (base : Configuration)
    (args : List String) (world : World) : Prop where
  /-- A refusal has the one error event, right before the run fails. -/
  refused : ∀ cause, runner.Comes action base world (.refused cause) → ∃ before closing,
    (after (runner.run action base args) world).events = world.events ++ before ++
      [abortEvent action (.security cause) .credentialsPropagated,
        .moved world.nextId .credentialsPropagated .failed] ++ closing ∧
      Untroubled before ∧ Untroubled closing
  started : ∀ context entered, runner.Comes action base world (.started context entered) →
    ∃ told, (after (runner.run action base args) world).events = world.events ++ told ∧
      Untroubled told
  /-- With neither a refusal nor a body some step panicked, and no error is told of. -/
  panicked : (∀ cause, ¬ runner.Comes action base world (.refused cause)) →
    (∀ context entered, ¬ runner.Comes action base world (.started context entered)) →
    (∃ panic, ending (runner.run action base args) world = .error panic) ∧
      ∃ told, (after (runner.run action base args) world).events = world.events ++ told ∧
        Untroubled told

theorem run_reportsAborts (hannounce : runner.announce = true)
    (hprovider : runner.provider.Obeys (Respects Quiet))
    (hbody : ∀ context args, Respects Quiet (action.body context args)) (world : World) :
    runner.ReportsAborts action base args world := by
  have hstart : (after start world).At world.nextId .init world.events := ⟨rfl, rfl, rfl⟩
  constructor
  case refused =>
    intro cause hcomes
    cases hcomes with
    | refused hprepare hacquire =>
        rename_i plan prepared next config
        have hacquired := runner.acquired_calm hprovider plan
          (runner.prepared_calm action base hprepare)
        rw [after_eq_of_ok hacquire] at hacquired
        obtain ⟨told, hcalm, hat⟩ := hacquired
        obtain ⟨written, hfinal⟩ := run_events_of_refused runner action base args hannounce
          hprepare hacquire hat
        refine ⟨told, _, hfinal, hcalm, ?_⟩
        simp [closing, Untroubled, isError, Event.moved]
  case started =>
    intro context entered hcomes
    cases hcomes with
    | started hprepare hacquire happroach =>
        obtain ⟨stage, hleft, hended⟩ := runner.runStages_calm action base args hprovider hbody
          hprepare hacquire
        exact (runner.run_calm action base args rfl hleft hended).2
  case panicked =>
    intro hrefused hstarted
    rcases runner.prepare_calm action base hstart with
      ⟨plan, prepared, hprepare, hprepared⟩ | ⟨panic, left, hprepare, hleft⟩
    · have hacquired := runner.acquired_calm hprovider plan hprepared
      cases hacquire : (plan.scope runner).acquirer.acquire plan.spec (some plan.config)
          prepared with
      | error panic left =>
          rw [after_eq_of_panic hacquire] at hacquired
          have hstages := runner.runStages_of_panic action base args hprepare hacquire
          exact runner.run_panics action base args hstages rfl hacquired
      | ok acquisition acquired =>
          rcases acquisition with ⟨cause | identity, config⟩
          · exact absurd (.refused hprepare hacquire) (hrefused cause)
          · rw [after_eq_of_ok hacquire] at hacquired
            obtain ⟨told, -, hat⟩ := hacquired
            obtain ⟨entered, happroach, -⟩ := approach_returns runner plan.properties identity
              (config.getD plan.config) ((plan.scope runner).inside_at identity hat)
            exact absurd (.started hprepare hacquire happroach) (hstarted _ entered)
    · have hstages := runner.runStages_of_stopped action base args hprepare
      exact runner.run_panics action base args hstages rfl hleft

/-- A login without its keytab, with tokens whose location cannot be exported and without.  The
first run ends in a panic, and without an error event. -/
theorem run_reportsAborts_noKeytab :
    let runner (tokens : Option Path) : Runner := ⟨.simple, default, .ofPath tokens,
      .ofList [(Names.principal, "etl"), (Names.keytab, "etl.keytab")], true⟩
    let action : Action := ⟨"etl", false, fun _ _ => return .ok ()⟩
    let root : Identity := ⟨"root", .ambient, none, none, default⟩
    let world := World.start (.ofWorkingDir []) .empty "root" root default default
    let errors (tokens : Option Path) :=
      (after ((runner tokens).run action .empty []) world).events.filter Event.isError
    (runner (some ⟨"\x00"⟩)).ReportsAborts action .empty [] world ∧
      (runner none).ReportsAborts action .empty [] world ∧
      errors (some ⟨"\x00"⟩) = [] ∧
      errors none = [abortEvent action
        (.security (.authentication "etl" "keytab etl.keytab does not exist"))
        .credentialsPropagated] := by
  intro runner action root world errors
  have hbody (context : Context) (args : List String) :
      Respects Quiet (action.body context args) :=
    .pure _
  have hprovider : Provider.simple.Obeys (Respects Quiet) := Provider.builtIn_quiet (.inl rfl)
  refine ⟨?_, ?_, by decide +kernel, by decide +kernel⟩
  · exact run_reportsAborts (runner (some ⟨"\x00"⟩)) action .empty [] rfl hprovider hbody world
  · exact run_reportsAborts (runner none) action .empty [] rfl hprovider hbody world

end Runner

end ActionLauncher

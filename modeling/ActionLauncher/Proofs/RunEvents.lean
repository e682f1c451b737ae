import ActionLauncher.Proofs.RunStages
import ActionLauncher.Proofs.ScopeTree

namespace ActionLauncher

open Launch

/-- What a body may do as far as the events of its run go: it leaves the stages alone, and what it
publishes comes after what there was. -/
def Aside (world next : World) : Prop :=
  next.stages = world.stages ∧ world.events <+: next.events

instance : IsPreorder World Aside where
  refl _ := ⟨rfl, List.prefix_rfl⟩
  trans _ _ _ first second := ⟨second.1.trans first.1, first.2.trans second.2⟩

theorem World.aside_of_standing {world next : World} (h : Same standing world next) :
    Aside world next := by
  have hstages : next.stages = world.stages := congrArg Standing.stages h
  have hevents : next.events = world.events := congrArg Standing.events h
  exact ⟨hstages, hevents ▸ List.prefix_rfl⟩

namespace Scope

/-- The events with which a scope switches to an identity. -/
def switched (scope : Scope) (identity previous : Identity) : List Event :=
  match scope.method with
  | .impersonation => []
  | .login => World.told scope.announce (.identitySwitched identity.principal previous.principal)

/-- The events with which a scope puts the login identity from before back. -/
def restored (scope : Scope) (previous : Identity) : List Event :=
  match scope.method with
  | .impersonation => []
  | .login => World.told scope.announce (.identityRestored previous.principal)

theorem inside_at (scope : Scope) (identity : Identity) {world : World} {run : Uuid}
    {stage : Stage} {events : List Event} (hat : world.At run stage events) :
    (scope.inside identity world).At run stage
      (events ++ scope.switched identity world.login) := by
  obtain ⟨rfl, rfl, rfl⟩ := hat
  unfold inside bound entered switched
  cases scope.method with
  | impersonation => exact ⟨rfl, rfl, by simp⟩
  | login => exact ⟨rfl, rfl, rfl⟩

theorem outside_at (scope : Scope) (login : Identity) (guest : Option Identity) {world : World}
    {run : Uuid} {stage : Stage} {events : List Event} (hat : world.At run stage events) :
    (scope.outside login guest world).At run stage (events ++ scope.restored login) := by
  obtain ⟨rfl, rfl, rfl⟩ := hat
  unfold outside restored
  cases scope.method with
  | impersonation => exact ⟨rfl, rfl, by simp⟩
  | login => exact ⟨rfl, rfl, rfl⟩

theorem finish_returns {α : Type} (scope : Scope)
    (h : scope.acquirer.provider.Obeys (Returns (Same World.standing)))
    (identity inherited : Identity) (result : Except Panic α) (world : World) :
    ending (scope.finish identity inherited result) world = result ∧
      Same World.standing world (after (scope.finish identity inherited result) world) := by
  obtain ⟨⟨released, hend⟩, hsame⟩ :=
    release_obeys Provider.standing_discipline scope h identity inherited world
  unfold finish
  rw [ending_bind_of_ok hend, after_bind_of_ok hend]
  cases result with
  | ok a => exact ⟨rfl, hsame⟩
  | error panic => exact ⟨rfl, hsame⟩

theorem run_returns {α : Type} (scope : Scope)
    (h : scope.acquirer.provider.Obeys (Returns (Same World.standing))) {spec : PrincipalSpec}
    {config : Configuration} {world acquired : World} {identity : Identity}
    {next : Option Configuration}
    (hacquired : scope.acquirer.acquire spec (some config) world =
      .ok ⟨.ok identity, next⟩ acquired) (body : Identity → Configuration → Launch α) :
    let x := body identity (next.getD config)
    ending (scope.run spec config body) world =
        (ending x (scope.inside identity acquired)).map Except.ok ∧
      Same World.standing
        (scope.outside world.login acquired.guest (after x (scope.inside identity acquired)))
        (after (scope.run spec config body) world) := by
  intro x
  obtain ⟨hend, hsame⟩ := scope.finish_returns h identity world.current
    (ending x (scope.inside identity acquired))
    (scope.outside world.login acquired.guest (after x (scope.inside identity acquired)))
  have hrun := run_of_acquired scope hacquired body
  rw [ending_congr hrun, after_congr hrun, ending_map, after_map, hend]
  exact ⟨rfl, hsame⟩

end Scope

namespace Runner

/-- The stage that a run has come to when its body ended. -/
def endStage : Except Panic (Except String Unit) → Stage
  | .ok ended => outcomeStage ended
  | .error _ => .running

/-- The event of the end of a body, which a panic does not have. -/
def endEvents (announce : Bool) (run : Uuid) : Except Panic (Except String Unit) → List Event
  | .ok ended => World.told announce (.moved run .running (outcomeStage ended))
  | .error _ => []

/-- The event of a failure that a panic leaves to the end of the run. -/
def panicEvents (announce : Bool) (run : Uuid) : Except Panic (Except String Unit) → List Event
  | .ok _ => []
  | .error _ => World.told announce (.moved run .running .failed)

/-- The events between the identity and the body. -/
def approachEvents (announce : Bool) (run : Uuid) : List Event :=
  World.told announce (.moved run .credentialsPropagated .scopeEntered) ++
    World.told announce (.moved run .scopeEntered .loggerInitialized) ++
      World.told announce (.moved run .loggerInitialized .running)

theorem runBody_events (runner : Runner) (action : Action) (args : List String)
    (hbody : ∀ context args, Respects Aside (action.body context args)) (props : Properties)
    (identity : Identity) (config : Configuration) {world : World} {run : Uuid}
    {events : List Event} (hat : world.At run .credentialsPropagated events) :
    let context := contextOf props identity config
    let x := (runner.runBody action args props identity config).run
    ∃ entered own, (runner.approach props identity config).run world = .ok (.ok context) entered ∧
      (after (action.body context args) entered).events = entered.events ++ own ∧
      ending x world = (ending (action.body context args) entered).map
        (Except.mapError ActionError.execution) ∧
      (after x world).At run (endStage (ending (action.body context args) entered))
        (events ++ approachEvents runner.announce run ++ own ++
          endEvents runner.announce run (ending (action.body context args) entered)) := by
  intro context x
  obtain ⟨entered, happroach, -, hentered⟩ := approach_returns runner props identity config hat
  obtain ⟨hstages, own, hown⟩ := hbody context args entered
  refine ⟨entered, own, happroach, hown.symm, ?_⟩
  have hleft : (after (action.body context args) entered).At run .running
      (events ++ approachEvents runner.announce run ++ own) := by
    refine ⟨hstages ▸ hentered.run, hstages ▸ hentered.stage, ?_⟩
    rw [← hown, hentered.events]
    simp [approachEvents]
  have hrun : x world = ((liftM (action.body context args) : ExceptT ActionError Launch _) >>=
      runner.conclude).run entered := by
    show (runner.runBody action args props identity config).run world = _
    unfold runBody
    exact run_bind_of_ok happroach _
  -- A panic skips the end of the body: the run stays in its stage until it is reported.
  cases hend : action.body context args entered with
  | error panic left =>
      have hpanic := hrun.trans (run_lift_bind_of_panic hend _)
      rw [after_eq_of_panic hend] at hleft
      rw [ending_eq_of_panic hpanic, after_eq_of_panic hpanic, ending_eq_of_panic hend]
      exact ⟨rfl, by simpa [endStage, endEvents] using hleft⟩
  | ok ended left =>
      rw [after_eq_of_ok hend] at hleft
      obtain ⟨next, hconclude, -, hnext⟩ := conclude_returns runner ended hleft
      have hok := (hrun.trans (run_lift_bind_of_ok hend _)).trans hconclude
      rw [ending_eq_of_ok hok, after_eq_of_ok hok, ending_eq_of_ok hend]
      exact ⟨rfl, hnext⟩

def finalStage : Except Panic (Except String Unit) → Stage
  | .ok ended => outcomeStage ended
  | .error _ => .failed

/-- How a run went: its identity was refused, or its body ran under an identity, from a login
identity before it, with events of its own, and ended. -/
inductive Course
  | refused (cause : SecurityError)
  | entered (method : AuthenticationMethod) (identity previous : Identity) (own : List Event)
      (ended : Except Panic (Except String Unit))

/-- What a run from some world comes to, read off its steps. -/
inductive Takes (runner : Runner) (action : Action) (base : Configuration) (args : List String)
    (world : World) : Course → Prop
  | refused {plan : Plan} {prepared next : World} {cause : SecurityError}
      {config : Option Configuration}
      (hprepare : (runner.prepare action base).run (after start world) = .ok (.ok plan) prepared)
      (hacquire : (plan.scope runner).acquirer.acquire plan.spec (some plan.config) prepared =
        .ok ⟨.error cause, config⟩ next) :
      Takes runner action base args world (.refused cause)
  | entered {plan : Plan} {prepared acquired entered : World} {identity : Identity}
      {config : Option Configuration} {context : Context} {own : List Event}
      (hprepare : (runner.prepare action base).run (after start world) = .ok (.ok plan) prepared)
      (hacquire : (plan.scope runner).acquirer.acquire plan.spec (some plan.config) prepared =
        .ok ⟨.ok identity, config⟩ acquired)
      (happroach : (runner.approach plan.properties identity (config.getD plan.config)).run
        ((plan.scope runner).inside identity acquired) = .ok (.ok context) entered)
      (hown : (after (action.body context args) entered).events = entered.events ++ own) :
      Takes runner action base args world (.entered plan.method identity world.login own
        (ending (action.body context args) entered))

namespace Course

def result : Course → Except ActionError Unit
  | refused cause => .error (.security cause)
  | entered _ _ _ _ ended => outcome (ended.map (Except.mapError ActionError.execution))

/-- The stage with which the run has its outcome. -/
def final : Course → Stage
  | refused _ => .failed
  | entered _ _ _ _ ended => finalStage ended

/-- The events between the plan of the run and its outcome. -/
def events (action : Action) (run : Uuid) : Course → List Event
  | refused cause =>
      [abortEvent action (.security cause) .credentialsPropagated,
        .moved run .credentialsPropagated .failed]
  | entered method identity previous own ended =>
      let switched := if method = .login then
        [Event.identitySwitched identity.principal previous.principal] else []
      let restored := if method = .login then [Event.identityRestored previous.principal] else []
      switched ++
        [.moved run .credentialsPropagated .scopeEntered,
          .moved run .scopeEntered .loggerInitialized, .moved run .loggerInitialized .running] ++
        own ++
        match ended with
        | .ok (.ok _) => .moved run .running .succeeded :: restored
        | .ok (.error _) => .moved run .running .failed :: restored
        | .error _ => restored ++ [.moved run .running .failed]

end Course

/-- The events on the way to the acquisition. -/
def opening (runner : Runner) (run : Uuid) : List Event :=
  .moved run .init .configResolved ::
    ((runner.propagator.location?.map Event.credentialsPropagated).toList ++
      [.moved run .configResolved .credentialsPropagated])

def closing (runner : Runner) (action : Action) (run : Uuid) (course : Course) (count : UInt64)
    (written : Bool) : List Event :=
  [.moved run course.final .outputsFlushed,
    .outputsFlushed run count (runner.properties.outputPath?.map Path.text) written,
    .moved run .outputsFlushed .done,
    .actionFinished run action.name course.result.isOk (Int32.ofNat (exitCode course.result))]

section Run

variable (runner : Runner) (action : Action) (base : Configuration) (args : List String)

theorem runStages_of_refused {world prepared next : World} {plan : Plan} {cause : SecurityError}
    {config : Option Configuration}
    (hprepare : (runner.prepare action base).run world = .ok (.ok plan) prepared)
    (hacquire : (plan.scope runner).acquirer.acquire plan.spec (some plan.config) prepared =
      .ok ⟨.error cause, config⟩ next) :
    (runner.runStages action base args).run world = .ok (.error (.security cause)) next := by
  unfold runStages
  rw [run_bind_of_ok hprepare,
    run_lift_bind_of_ok (Scope.run_of_refused (plan.scope runner) hacquire _)]
  rfl

theorem runStages_of_entered {world prepared : World} {plan : Plan}
    {ended : Except Panic (Except ActionError Unit)}
    (hprepare : (runner.prepare action base).run world = .ok (.ok plan) prepared) :
    let scope := (plan.scope runner).run plan.spec plan.config fun identity config =>
      (runner.runBody action args plan.properties identity config).run
    let x := (runner.runStages action base args).run
    ending scope prepared = ended.map Except.ok →
      ending x world = ended ∧ after x world = after scope prepared := by
  intro scope x hscope
  cases ended with
  | error panic =>
      have hpanic : x world = .error panic (after scope prepared) := by
        show (runner.runStages action base args).run world = _
        unfold runStages
        rw [run_bind_of_ok hprepare]
        exact run_lift_bind_of_panic (eq_panic_of_ending hscope) _
      exact ⟨ending_eq_of_panic hpanic, after_eq_of_panic hpanic⟩
  | ok outcome =>
      have hok : x world = .ok outcome (after scope prepared) := by
        show (runner.runStages action base args).run world = _
        unfold runStages
        rw [run_bind_of_ok hprepare, run_lift_bind_of_ok (eq_ok_of_ending hscope)]
        cases outcome <;> rfl
      exact ⟨ending_eq_of_ok hok, after_eq_of_ok hok⟩

theorem runStages_of_acquired
    (hprovider : runner.provider.Obeys (Returns (Same World.standing)))
    (hbody : ∀ context args, Respects Aside (action.body context args))
    {world prepared acquired : World} {plan : Plan} {identity : Identity}
    {config : Option Configuration} {run : Uuid} {events : List Event}
    (hprepare : (runner.prepare action base).run world = .ok (.ok plan) prepared)
    (hacquire : (plan.scope runner).acquirer.acquire plan.spec (some plan.config) prepared =
      .ok ⟨.ok identity, config⟩ acquired)
    (hat : acquired.At run .credentialsPropagated events) :
    let scope := plan.scope runner
    let context := contextOf plan.properties identity (config.getD plan.config)
    let x := (runner.runStages action base args).run
    ∃ entered own, (runner.approach plan.properties identity (config.getD plan.config)).run
        (scope.inside identity acquired) = .ok (.ok context) entered ∧
      (after (action.body context args) entered).events = entered.events ++ own ∧
      ending x world = (ending (action.body context args) entered).map
        (Except.mapError ActionError.execution) ∧
      (after x world).At run (endStage (ending (action.body context args) entered))
        (events ++ scope.switched identity acquired.login ++ approachEvents runner.announce run ++
          own ++ endEvents runner.announce run (ending (action.body context args) entered) ++
          scope.restored prepared.login) := by
  intro scope context x
  obtain ⟨entered, own, happroach, hown, hend, hafter⟩ := runBody_events runner action args hbody
    plan.properties identity (config.getD plan.config) (scope.inside_at identity hat)
  obtain ⟨hscope, hsame⟩ := scope.run_returns hprovider hacquire fun identity config =>
    (runner.runBody action args plan.properties identity config).run
  have hleft := (scope.outside_at prepared.login acquired.guest hafter).of_standing hsame
  rw [hend] at hscope
  obtain ⟨hended, hover⟩ := runStages_of_entered runner action base args hprepare hscope
  refine ⟨entered, own, happroach, hown, hended, ?_⟩
  rw [hover]
  exact hleft

theorem run_eq_of_finished {world left reported next : World}
    {ended : Except Panic (Except ActionError Unit)}
    (hended : ending (runner.runStages action base args).run (after start world) = ended)
    (hleft : after (runner.runStages action base args).run (after start world) = left)
    (hreport : runner.report action ended left = .ok () reported)
    (hfinish : runner.finish action (outcome ended) reported = .ok () next) :
    runner.run action base args world = resume ended { next with inRun := false } := by
  have hstart : start world = .ok () (after start world) := rfl
  have hstages := settle_eq (runner.runStages action base args).run (after start world)
  rw [hended, hleft] at hstages
  unfold Runner.run
  rw [bind_of_ok hstart, bind_of_ok hstages, bind_of_ok hreport, bind_of_ok hfinish]
  rfl

theorem run_of_reported {world left reported : World}
    {ended : Except Panic (Except ActionError Unit)} {run : Uuid} {stage : Stage}
    {events : List Event}
    (hended : ending (runner.runStages action base args).run (after start world) = ended)
    (hleft : after (runner.runStages action base args).run (after start world) = left)
    (hreport : runner.report action ended left = .ok () reported)
    (hat : reported.At run stage events) (houtcome : stage = .succeeded ∨ stage = .failed) :
    let final := after (runner.run action base args) world
    ∃ written, final.events = events ++
        World.told runner.announce (.moved run stage .outputsFlushed) ++
        World.told runner.announce (.outputsFlushed run (UInt64.ofNat final.outputs.size)
          (runner.properties.outputPath?.map Path.text) written) ++
        World.told runner.announce (.moved run .outputsFlushed .done) ++
        World.told runner.announce (.actionFinished run action.name (outcome ended).isOk
          (Int32.ofNat (exitCode (outcome ended)))) := by
  intro final
  obtain ⟨written, next, hfinish, houtputs, hnext⟩ :=
    finish_returns runner action (outcome ended) hat houtcome
  have hrun := run_eq_of_finished runner action base args hended hleft hreport hfinish
  have hfinal : final = { next with inRun := false } :=
    (after_congr (y := resume ended) hrun).trans (after_resume _ _)
  refine ⟨written, ?_⟩
  rw [hfinal]
  show next.events = _
  rw [hnext.events, houtputs]

theorem report_panic (panic : Panic) {world : World} {run : Uuid} {stage : Stage}
    {events : List Event} (hat : world.At run stage events) (houtcome : stage.hasOutcome = false) :
    ∃ reported, runner.report action (.error panic) world = .ok () reported ∧
      reported.At run .failed
        (events ++ World.told runner.announce (.moved run stage .failed)) := by
  let logged := after (reportError "Action panicked") world
  have hlogged : reportError "Action panicked" world = .ok () logged := rfl
  have hreported : logged.At run stage events := hat.of_standing rfl
  obtain ⟨next, hnext, hthere⟩ := reportFailure_execution runner action
    ("action panicked: " ++ panic.describe) hreported
  refine ⟨next, ?_, by simpa [houtcome] using hthere⟩
  show (reportError "Action panicked" >>= fun _ => runner.reportFailure action
    (.execution ("action panicked: " ++ panic.describe))) world = _
  rw [bind_of_ok hlogged]
  exact hnext

theorem report_returns (ended : Except Panic (Except String Unit)) {world : World} {run : Uuid}
    {events : List Event} (hat : world.At run (endStage ended) events) :
    ∃ reported, runner.report action (ended.map (Except.mapError ActionError.execution)) world =
        .ok () reported ∧
      reported.At run (finalStage ended) (events ++ panicEvents runner.announce run ended) := by
  cases ended with
  | error panic => exact report_panic runner action panic hat rfl
  | ok ended =>
      cases ended with
      | ok _ => exact ⟨world, rfl, by simpa [endStage, finalStage, panicEvents] using hat⟩
      | error message => exact reportFailure_execution runner action message hat

section Announced

variable (hannounce : runner.announce = true)

include hannounce

theorem opening_eq (events : List Event) (run : Uuid) :
    events ++ World.told runner.announce (.moved run .init .configResolved) ++
        (runner.propagator.location?.toList.flatMap fun location =>
          World.told runner.announce (.credentialsPropagated location)) ++
        World.told runner.announce (.moved run .configResolved .credentialsPropagated) =
      events ++ runner.opening run := by
  rw [hannounce]
  cases hlocation : runner.propagator.location? <;> simp [World.told, opening, hlocation]

theorem entered_eq (plan : Plan) (identity previous : Identity) (own : List Event)
    (ended : Except Panic (Except String Unit)) (run : Uuid) :
    (plan.scope runner).switched identity previous ++ approachEvents runner.announce run ++ own ++
        endEvents runner.announce run ended ++ (plan.scope runner).restored previous ++
        panicEvents runner.announce run ended =
      (Course.entered plan.method identity previous own ended).events action run := by
  have hscope : (plan.scope runner).announce = true := hannounce
  have hmethod : (plan.scope runner).method = plan.method := rfl
  unfold Scope.switched Scope.restored
  rw [hscope, hannounce, hmethod]
  rcases ended with panic | (message | _) <;> cases plan.method <;>
    simp [Course.events, approachEvents, endEvents, panicEvents, outcomeStage, World.told]

theorem run_events_of_refused {world prepared next : World} {plan : Plan} {cause : SecurityError}
    {config : Option Configuration} {events : List Event}
    (hprepare : (runner.prepare action base).run (after start world) = .ok (.ok plan) prepared)
    (hacquire : (plan.scope runner).acquirer.acquire plan.spec (some plan.config) prepared =
      .ok ⟨.error cause, config⟩ next)
    (hat : next.At world.nextId .credentialsPropagated events) :
    let final := after (runner.run action base args) world
    let course := Course.refused cause
    ∃ written, final.events = events ++ course.events action world.nextId ++
      runner.closing action world.nextId course (UInt64.ofNat final.outputs.size) written := by
  intro final course
  have hstages := runStages_of_refused runner action base args hprepare hacquire
  obtain ⟨reported, hreport, hreported⟩ :=
    reportFailure_abort runner action (show (ActionError.security cause).isExecution = false
      from rfl) hat rfl
  obtain ⟨written, hfinal⟩ := run_of_reported runner action base args (ending_eq_of_ok hstages)
    (after_eq_of_ok hstages) hreport hreported (.inr rfl)
  refine ⟨written, ?_⟩
  rw [hfinal]
  simp [World.told, hannounce, closing, course, Course.events, Course.final, Course.result,
    outcome, final]

theorem run_events_of_acquired
    (hprovider : runner.provider.Obeys (Returns (Same World.standing)))
    (hbody : ∀ context args, Respects Aside (action.body context args))
    {world prepared acquired : World} {plan : Plan} {identity : Identity}
    {config : Option Configuration} {events : List Event}
    (hprepare : (runner.prepare action base).run (after start world) = .ok (.ok plan) prepared)
    (hacquire : (plan.scope runner).acquirer.acquire plan.spec (some plan.config) prepared =
      .ok ⟨.ok identity, config⟩ acquired)
    (hlogin : acquired.login = world.login ∧ prepared.login = world.login)
    (hat : acquired.At world.nextId .credentialsPropagated events) :
    let final := after (runner.run action base args) world
    ∃ course written, runner.Takes action base args world course ∧
      final.events = events ++ course.events action world.nextId ++
        runner.closing action world.nextId course (UInt64.ofNat final.outputs.size) written := by
  intro final
  obtain ⟨entered, own, happroach, hown, hended, hleft⟩ := runStages_of_acquired runner action
    base args hprovider hbody hprepare hacquire hat
  generalize hbodyEnd : ending (action.body (contextOf plan.properties identity
    (config.getD plan.config)) args) entered = ended at hended hleft
  rw [hlogin.1, hlogin.2] at hleft
  obtain ⟨reported, hreport, hreported⟩ := report_returns runner action ended hleft
  have houtcome : finalStage ended = .succeeded ∨ finalStage ended = .failed := by
    rcases ended with panic | (message | _)
    · exact .inr rfl
    · exact .inr rfl
    · exact .inl rfl
  obtain ⟨written, hfinal⟩ := run_of_reported runner action base args hended rfl hreport hreported
    houtcome
  refine ⟨.entered plan.method identity world.login own ended, written,
    hbodyEnd ▸ .entered hprepare hacquire happroach hown, ?_⟩
  rw [← entered_eq runner action hannounce, hfinal]
  simp [World.told, hannounce, closing, Course.final, Course.result, final]

end Announced

/-- All the events of a run with a bus, in order. -/
theorem run_events (hannounce : runner.announce = true)
    (hprovider : runner.provider = .simple ∨
      ∃ tools : KerberosTools, runner.provider = tools.provider)
    (htoken : ∀ path ∈ runner.propagator.tokenFile, '\x00' ∉ path.display.toList)
    (hbody : ∀ context args, Respects Aside (action.body context args)) (world : World) :
    let final := after (runner.run action base args) world
    ∃ course written, runner.Takes action base args world course ∧
      final.events = world.events ++ runner.opening world.nextId ++
        course.events action world.nextId ++
          runner.closing action world.nextId course (UInt64.ofNat final.outputs.size) written := by
  intro final
  have hreturns := Provider.builtIn_obeys hprovider
  have hstart : (after start world).At world.nextId .init world.events := ⟨rfl, rfl, rfl⟩
  obtain ⟨plan, prepared, hprepare, hregistry, hprepared⟩ :=
    prepare_returns runner action base htoken hstart
  rw [opening_eq runner hannounce] at hprepared
  obtain ⟨⟨acquisition, hend⟩, hacquired⟩ := Acquirer.acquire_obeys Provider.standing_discipline
    (plan.scope runner).acquirer hreturns plan.spec (some plan.config) prepared
  have hacquire := eq_ok_of_ending hend
  have hat := hprepared.of_standing hacquired
  -- From here on the two ways of a run have nothing in common but their flush.
  rcases acquisition with ⟨cause | identity, config⟩
  · obtain ⟨written, hfinal⟩ := run_events_of_refused runner action base args hannounce hprepare
      hacquire hat
    exact ⟨.refused cause, written, .refused hprepare hacquire, hfinal⟩
  · have hprior : prepared.login = world.login := World.login_of_registry hregistry
    have hlogin := (World.login_of_registry (World.registry_of_standing hacquired)).trans hprior
    exact run_events_of_acquired runner action base args hannounce hreturns hbody hprepare hacquire
      ⟨hlogin, hprior⟩ hat

end Run

/-- A run with tokens and in login mode, whose body sets an output and panics. -/
theorem run_events_panicking :
    let runner : Runner := ⟨.simple, default, .ofPath (some ⟨"tokens"⟩),
      .ofList [(Names.authenticationMethod, "LOGIN")], true⟩
    let action : Action := ⟨"etl", false, fun _ _ => do
      setOutput "rows" "1"
      throw (.text "boom")⟩
    let root : Identity := ⟨"root", .ambient, none, none, default⟩
    let world := World.start (.ofWorkingDir []) .empty "root" root default default
    let final := after (runner.run action .empty []) world
    final.events.length = 13 ∧ ∃ course written, runner.Takes action .empty [] world course ∧
      final.events = world.events ++ runner.opening world.nextId ++
        course.events action world.nextId ++
          runner.closing action world.nextId course (UInt64.ofNat final.outputs.size) written := by
  intro runner action root world final
  have htoken : ∀ path ∈ runner.propagator.tokenFile, '\x00' ∉ path.display.toList := by
    rintro path ⟨rfl⟩
    decide
  have hbody (context : Context) (args : List String) :
      Respects Aside (action.body context args) :=
    .bind (.modify fun _ => ⟨rfl, List.prefix_rfl⟩) fun _ => .throw _
  exact ⟨by decide +kernel, run_events runner action .empty [] rfl (.inl rfl) htoken hbody world⟩

end Runner

end ActionLauncher

import ActionLauncher.Proofs.ProviderConduct
import ActionLauncher.Runner

namespace ActionLauncher

open Launch

section Steps

variable {ε α β : Type}

theorem run_bind_of_ok {x : ExceptT ε Launch α} {world next : World} {a : α}
    (h : x.run world = .ok (.ok a) next) (f : α → ExceptT ε Launch β) :
    (x >>= f).run world = (f a).run next := by
  rw [ExceptT.run_bind]
  exact bind_of_ok h _

theorem run_lift_bind_of_ok {x : Launch α} {world next : World} {a : α}
    (h : x world = .ok a next) (f : α → ExceptT ε Launch β) :
    ((liftM x : ExceptT ε Launch α) >>= f).run world = (f a).run next := by
  refine run_bind_of_ok ?_ f
  show EStateM.map _ x world = _
  rw [EStateM.map, h]

theorem run_lift_bind_of_panic {x : Launch α} {world next : World} {panic : Panic}
    (h : x world = .error panic next) (f : α → ExceptT ε Launch β) :
    ((liftM x : ExceptT ε Launch α) >>= f).run world = .error panic next := by
  rw [ExceptT.run_bind]
  refine bind_of_panic ?_ _
  show EStateM.map _ x world = _
  rw [EStateM.map, h]

theorem run_lift_bind_congr {x y : Launch α} {world other : World} (h : x world = y other)
    (f : α → ExceptT ε Launch β) :
    ((liftM x : ExceptT ε Launch α) >>= f).run world =
      ((liftM y : ExceptT ε Launch α) >>= f).run other := by
  have hlift : (liftM x : ExceptT ε Launch α).run world =
      (liftM y : ExceptT ε Launch α).run other := by
    show EStateM.map _ x world = EStateM.map _ y other
    rw [EStateM.map, EStateM.map, h]
  rw [ExceptT.run_bind, ExceptT.run_bind]
  exact bind_congr_left hlift _

theorem run_get_bind (f : World → ExceptT ε Launch β) (world : World) :
    ((get : ExceptT ε Launch World) >>= f).run world = (f world).run world :=
  run_bind_of_ok rfl f

theorem run_modify_bind (g : World → World) (f : Unit → ExceptT ε Launch β) (world : World) :
    ((modify g : ExceptT ε Launch Unit) >>= f).run world = (f ()).run (g world) :=
  run_bind_of_ok rfl f

end Steps

def Event.moved (run : Uuid) (source target : Stage) : Event :=
  .stageChanged run source.name target.name

namespace World

/-- The world once the run has moved to another stage. -/
def moved (announce : Bool) (target : Stage) (world : World) : World :=
  { world with
    stages := { world.stages with
      current := target, history := world.stages.history ++ [target] }
    events := world.events ++ if announce then
      [.moved world.stages.run world.stages.current target] else [] }

theorem registry_moved (announce : Bool) (target : Stage) (world : World) :
    Same registry world (world.moved announce target) :=
  rfl

/-- The run has come to a stage, and so much was published. -/
structure At (world : World) (run : Uuid) (stage : Stage) (events : List Event) : Prop where
  run : world.stages.run = run
  stage : world.stages.current = stage
  events : world.events = events

/-- An event where events are announced. -/
def told (announce : Bool) (event : Event) : List Event :=
  if announce then [event] else []

/-- The world once an event was published. -/
def published (announce : Bool) (event : Event) (world : World) : World :=
  { world with events := world.events ++ told announce event }

theorem At.published {world : World} {run : Uuid} {stage : Stage} {events : List Event}
    (h : world.At run stage events) (announce : Bool) (event : Event) :
    (world.published announce event).At run stage (events ++ told announce event) := by
  obtain ⟨rfl, rfl, rfl⟩ := h
  exact ⟨rfl, rfl, rfl⟩

theorem At.moved {world : World} {run : Uuid} {stage : Stage} {events : List Event}
    (h : world.At run stage events) (announce : Bool) (target : Stage) :
    (world.moved announce target).At run target
      (events ++ told announce (.moved run stage target)) := by
  obtain ⟨rfl, rfl, rfl⟩ := h
  exact ⟨rfl, rfl, rfl⟩

theorem At.of_standing {world next : World} {run : Uuid} {stage : Stage} {events : List Event}
    (h : world.At run stage events) (hnext : Same standing world next) :
    next.At run stage events := by
  have hstages : next.stages = world.stages := congrArg Standing.stages hnext
  have hevents : next.events = world.events := congrArg Standing.events hnext
  exact ⟨hstages ▸ h.run, hstages ▸ h.stage, hevents.trans h.events⟩

end World

theorem Launch.publish_eq (announce : Bool) (event : Event) (world : World) :
    publish announce event world = .ok () (world.published announce event) := by
  cases announce with
  | true => rfl
  | false => simp [publish, World.published, World.told]; rfl

namespace Runner

theorem advance_eq {announce : Bool} {target : Stage} {world : World}
    (h : world.stages.current.allows target = true) :
    advance announce target world = .ok (.ok ()) (world.moved announce target) := by
  have hadvance := Tracker.advance_eq_ok_iff.mpr ⟨h, rfl, rfl⟩
  unfold advance
  rw [get_bind, hadvance]
  cases announce with
  | true => rfl
  | false => simp [publish, World.moved]; rfl

theorem reach_eq {announce : Bool} {target : Stage} {world : World}
    (h : world.stages.current.allows target = true) :
    (reach announce target).run world = .ok (.ok ()) (world.moved announce target) := by
  show (advance announce target >>= fun moved =>
    pure (moved.mapError ActionError.transition)) world = _
  rw [bind_of_ok (advance_eq h)]
  rfl

theorem fail_eq {announce : Bool} {world : World} (h : world.stages.current.hasOutcome = false) :
    fail announce world = .ok () (world.moved announce .failed) := by
  have hallows : world.stages.current.allows .failed = true := by
    simp [Stage.allows, h]
  have hadvance := Tracker.advance_eq_ok_iff.mpr ⟨hallows, rfl, rfl⟩
  unfold fail
  rw [get_bind, Tracker.fail?, if_neg (by simp [h]), hadvance]
  cases announce with
  | true => rfl
  | false => simp [publish, World.moved, Except.toOption]; rfl

theorem fail_of_hasOutcome {announce : Bool} {world : World}
    (h : world.stages.current.hasOutcome = true) : fail announce world = .ok () world := by
  unfold fail
  rw [get_bind, Tracker.fail?, if_pos h]
  rfl

theorem variableFault?_credentialKey {key value : String} (hkey : key ∈ Names.credentialKeys)
    (hvalue : '\x00' ∉ value.toList) :
    variableFault? (Properties.variableName key) value = none := by
  have hnames : ∀ key ∈ Names.credentialKeys,
      (Properties.variableName key).toList.contains '\x00' = false ∧
        (Properties.variableName key).isEmpty = false ∧
          (Properties.variableName key).toList.contains '=' = false := by decide
  obtain ⟨hnul, hempty, hequals⟩ := hnames key hkey
  have hcontains : value.toList.contains '\x00' = false := by simpa using hvalue
  unfold variableFault?
  rw [hnul, hempty, hequals, hcontains]
  rfl

theorem exportProperty_eq {key value : String} (hkey : key ∈ Names.credentialKeys)
    (hvalue : '\x00' ∉ value.toList) (props : Properties) (world : World) :
    exportProperty props key value world = .ok (props.insert key value)
      { world with environment :=
          world.environment.insert (Properties.variableName key) value } := by
  unfold exportProperty
  rw [variableFault?_credentialKey hkey hvalue]
  rfl

theorem propagate_returns (propagator : Propagator)
    (h : ∀ path ∈ propagator.tokenFile, '\x00' ∉ path.display.toList) (props : Properties)
    (config : Configuration) (world : World) :
    ∃ props' config' next,
      propagator.propagate props config world = .ok (propagator.location?, props', config') next ∧
        Same World.standing world next := by
  unfold Propagator.propagate
  cases hlocation : propagator.location? with
  | none => exact ⟨props, config, world, rfl, rfl⟩
  | some location =>
      have hvalue : '\x00' ∉ location.toList := by
        rw [Propagator.location?, Option.map_eq_some_iff] at hlocation
        obtain ⟨path, hpath, rfl⟩ := hlocation
        exact h path hpath
      have hfold : Names.credentialKeys.foldlM
          (fun props key => exportProperty props key location) props world =
            .ok ((props.insert Names.jobCredentials location).insert Names.tezCredentials location)
              { world with environment :=
                  (world.environment.insert (Properties.variableName Names.jobCredentials)
                    location).insert (Properties.variableName Names.tezCredentials) location } := by
        rw [Names.credentialKeys, List.foldlM_cons,
          bind_of_ok (exportProperty_eq (by simp [Names.credentialKeys]) hvalue props world),
          List.foldlM_cons,
          bind_of_ok (exportProperty_eq (by simp [Names.credentialKeys]) hvalue _ _)]
        rfl
      refine ⟨_, _, _, bind_of_ok hfold _, rfl⟩

theorem method_returns (props : Properties) : Returns (Same World.standing) (method props) := by
  unfold method
  split
  · exact .pure _
  · split
    · exact .pure _
    · exact .bind (.modify fun _ => rfl) fun _ => .pure _

theorem warnings_return (messages : List String) (world : World) :
    ∃ next, (messages.forM fun message =>
        (liftM (warn message) : ExceptT ActionError Launch Unit)).run world = .ok (.ok ()) next ∧
      Same World.standing world next := by
  induction messages generalizing world with
  | nil => exact ⟨world, rfl, rfl⟩
  | cons message rest ih =>
      obtain ⟨next, hrest, hsame⟩ := ih (after (warn message) world)
      refine ⟨next, ?_, hsame⟩
      exact (run_lift_bind_of_ok rfl fun _ => rest.forM _).trans hrest

theorem plan_returns (announce : Bool) (props : Properties) (config : Configuration)
    {world : World} {run : Uuid} {events : List Event}
    (hat : world.At run .configResolved events) :
    ∃ plan prepared,
      ExceptT.run (do
        reach announce .credentialsPropagated
        let method ← (method props : Launch _)
        return ⟨props, config, method⟩ : ExceptT ActionError Launch Plan) world =
          .ok (.ok plan) prepared ∧
      Same World.registry world prepared ∧
      prepared.At run .credentialsPropagated (events ++
        World.told announce (.moved run .configResolved .credentialsPropagated)) := by
  have hmoved := hat.moved announce .credentialsPropagated
  obtain ⟨⟨found, hfound⟩, hsame⟩ :=
    method_returns props (world.moved announce .credentialsPropagated)
  have hregistry := IsTrans.trans _ _ _
    (World.registry_moved announce .credentialsPropagated world)
    (World.registry_of_standing hsame)
  refine ⟨⟨props, config, found⟩, _, ?_, hregistry, hmoved.of_standing hsame⟩
  rw [run_bind_of_ok (reach_eq (by rw [hat.stage]; rfl)),
    run_lift_bind_of_ok (eq_ok_of_ending hfound)]
  rfl

theorem prepare_returns (runner : Runner) (action : Action) (base : Configuration)
    (h : ∀ path ∈ runner.propagator.tokenFile, '\x00' ∉ path.display.toList) {world : World}
    {run : Uuid} {events : List Event} (hat : world.At run .init events) :
    ∃ plan prepared, (runner.prepare action base).run world = .ok (.ok plan) prepared ∧
      Same World.registry world prepared ∧
      prepared.At run .credentialsPropagated (events ++
        World.told runner.announce (.moved run .init .configResolved) ++
        (runner.propagator.location?.toList.flatMap fun location =>
          World.told runner.announce (.credentialsPropagated location)) ++
        World.told runner.announce (.moved run .configResolved .credentialsPropagated)) := by
  unfold prepare
  rw [run_get_bind]
  dsimp only
  obtain ⟨warned, hwarned, hsame⟩ := warnings_return
    (runner.resolver.resolve world.files base runner.properties.confDir?).warnings world
  rw [run_bind_of_ok hwarned]
  have hinit := hat.of_standing hsame
  rw [run_bind_of_ok (reach_eq (by rw [hinit.stage]; rfl))]
  obtain ⟨props, config, exported, hpropagate, hexported⟩ := propagate_returns runner.propagator h
    runner.properties _ (warned.moved runner.announce .configResolved)
  rw [run_lift_bind_of_ok hpropagate]
  have hregistry : Same World.registry world exported :=
    IsTrans.trans _ _ _ (World.registry_of_standing hsame)
      (IsTrans.trans _ _ _ (World.registry_moved runner.announce .configResolved warned)
        (World.registry_of_standing hexported))
  have hat' := (hinit.moved runner.announce .configResolved).of_standing hexported
  dsimp only
  -- Only a run with tokens publishes their location before it moves on.
  cases runner.propagator.location? with
  | none =>
      obtain ⟨plan, prepared, hplan, hkept, hthere⟩ :=
        plan_returns runner.announce (withDebug props action) config hat'
      refine ⟨plan, prepared, hplan, IsTrans.trans _ _ _ hregistry hkept, ?_⟩
      simpa using hthere
  | some location =>
      obtain ⟨plan, prepared, hplan, hkept, hthere⟩ :=
        plan_returns runner.announce (withDebug props action) config
          (hat'.published runner.announce (.credentialsPropagated location))
      refine ⟨plan, prepared, ?_, IsTrans.trans _ _ _ hregistry hkept, ?_⟩
      · dsimp only
        rw [run_lift_bind_of_ok (publish_eq _ _ _)]
        exact hplan
      · simpa using hthere

/-- What an action sees of a run under an identity. -/
def contextOf (props : Properties) (identity : Identity) (config : Configuration) : Context :=
  ⟨config, identity, props, .ofIds props.workflowId? (config.nonBlank? Names.workflowName)
    props.actionId? (some identity.principal)⟩

theorem approach_returns (runner : Runner) (props : Properties) (identity : Identity)
    (config : Configuration) {world : World} {run : Uuid} {events : List Event}
    (hat : world.At run .credentialsPropagated events) :
    ∃ entered, (runner.approach props identity config).run world =
        .ok (.ok (contextOf props identity config)) entered ∧
      Same World.registry world entered ∧
      entered.At run .running (events ++
        World.told runner.announce (.moved run .credentialsPropagated .scopeEntered) ++
        World.told runner.announce (.moved run .scopeEntered .loggerInitialized) ++
        World.told runner.announce (.moved run .loggerInitialized .running)) := by
  have hscope := hat.moved runner.announce .scopeEntered
  let tags := (contextOf props identity config).diagnostics.tags
  let tagged : World := { world.moved runner.announce .scopeEntered with span := tags }
  have htagged : tagged.At run .scopeEntered (events ++
      World.told runner.announce (.moved run .credentialsPropagated .scopeEntered)) :=
    ⟨hscope.run, hscope.stage, hscope.events⟩
  have hlogger := htagged.moved runner.announce .loggerInitialized
  have hrunning := hlogger.moved runner.announce .running
  refine ⟨_, ?_, ?_, hrunning⟩
  · unfold approach
    rw [run_bind_of_ok (reach_eq (by rw [hat.stage]; rfl))]
    dsimp only
    rw [run_modify_bind]
    show ((reach runner.announce .loggerInitialized >>= _ :
      ExceptT ActionError Launch Context).run tagged) = _
    rw [run_bind_of_ok (reach_eq (by rw [htagged.stage]; rfl)),
      run_bind_of_ok (reach_eq (by rw [hlogger.stage]; rfl))]
    rfl
  · rfl

/-- The stage that the end of a body leads to. -/
def outcomeStage : Except String Unit → Stage
  | .ok _ => .succeeded
  | .error _ => .failed

theorem conclude_returns (runner : Runner) (ended : Except String Unit) {world : World}
    {run : Uuid} {events : List Event} (hat : world.At run .running events) :
    ∃ next, (runner.conclude ended).run world =
        .ok (ended.mapError ActionError.execution) next ∧
      Same World.registry world next ∧
      next.At run (outcomeStage ended)
        (events ++ World.told runner.announce (.moved run .running (outcomeStage ended))) := by
  cases ended with
  | ok _ =>
      exact ⟨_, reach_eq (by rw [hat.stage]; rfl), rfl, hat.moved runner.announce .succeeded⟩
  | error message =>
      have hlogged : reportError "Action failed" world =
          .ok () (after (reportError "Action failed") world) := rfl
      have hreported := hat.of_standing
        (show Same World.standing world (after (reportError "Action failed") world) from rfl)
      refine ⟨_, ?_, ?_, hreported.moved runner.announce .failed⟩
      · unfold conclude
        dsimp only
        rw [run_lift_bind_of_ok hlogged,
          run_lift_bind_of_ok (fail_eq (by rw [hreported.stage]; rfl))]
        rfl
      · rfl

/-- A run that has its outcome keeps it, and one whose body panicked fails. -/
theorem reportFailure_execution (runner : Runner) (action : Action) (message : String)
    {world : World} {run : Uuid} {stage : Stage} {events : List Event}
    (hat : world.At run stage events) :
    ∃ next, runner.reportFailure action (.execution message) world = .ok () next ∧
      next.At run (if stage.hasOutcome then stage else .failed) (events ++
        if stage.hasOutcome then []
        else World.told runner.announce (.moved run stage .failed)) := by
  have hskip : runner.reportFailure action (.execution message) = fail runner.announce := rfl
  rw [hskip]
  cases houtcome : stage.hasOutcome with
  | true =>
      refine ⟨world, fail_of_hasOutcome (by rw [hat.stage]; exact houtcome), ?_⟩
      simpa using hat
  | false =>
      refine ⟨_, fail_eq (by rw [hat.stage]; exact houtcome), ?_⟩
      simpa using hat.moved runner.announce .failed

/-- The event of a run that ends before its body. -/
def abortEvent (action : Action) (e : ActionError) (stage : Stage) : Event :=
  .error e.message (some (action.name ++ " aborted at " ++ stage.name))

theorem reportFailure_abort (runner : Runner) (action : Action) {e : ActionError}
    (he : e.isExecution = false) {world : World} {run : Uuid} {stage : Stage} {events : List Event}
    (hat : world.At run stage events) (houtcome : stage.hasOutcome = false) :
    ∃ next, runner.reportFailure action e world = .ok () next ∧
      next.At run .failed (events ++ World.told runner.announce (abortEvent action e stage) ++
        World.told runner.announce (.moved run stage .failed)) := by
  let logged := after (reportError "Action aborted before its body ran") world
  have hlogged : reportError "Action aborted before its body ran" world = .ok () logged := rfl
  have hreported : logged.At run stage events := hat.of_standing rfl
  have hpublished := hreported.published runner.announce (abortEvent action e stage)
  refine ⟨_, ?_, hpublished.moved runner.announce .failed⟩
  unfold reportFailure
  dsimp only
  rw [if_pos (by simp [he]), bind_of_ok hlogged, get_bind, hreported.stage,
    bind_of_ok (publish_eq _ _ _)]
  exact fail_eq ((congrArg Stage.hasOutcome hpublished.stage).trans houtcome)

theorem flush_returns (path : Option Path) : Returns (Same World.standing) (flush path) := by
  refine .bind .get fun world => ?_
  dsimp only
  split
  · exact .pure _
  · refine .bind (.modifyGet fun _ => rfl) fun time => .bind .get fun current => ?_
    split
    · exact .bind (.modify fun _ => rfl) fun _ => .pure _
    · exact .bind (.modify fun _ => rfl) fun _ => .pure _

theorem finish_returns (runner : Runner) (action : Action) (result : Except ActionError Unit)
    {world : World} {run : Uuid} {stage : Stage} {events : List Event}
    (hat : world.At run stage events) (houtcome : stage = .succeeded ∨ stage = .failed) :
    ∃ written next, runner.finish action result world = .ok () next ∧
      next.outputs = world.outputs ∧ next.At run .done (events ++
        World.told runner.announce (.moved run stage .outputsFlushed) ++
        World.told runner.announce (.outputsFlushed run (UInt64.ofNat world.outputs.size)
          (runner.properties.outputPath?.map Path.text) written) ++
        World.told runner.announce (.moved run .outputsFlushed .done) ++
        World.told runner.announce (.actionFinished run action.name result.isOk
          (Int32.ofNat (exitCode result)))) := by
  obtain ⟨⟨written, hwritten⟩, hsame⟩ := flush_returns runner.properties.outputPath? world
  let flushed := after (flush runner.properties.outputPath?) world
  let moved := flushed.moved runner.announce .outputsFlushed
  let told := moved.published runner.announce (.outputsFlushed run
    (UInt64.ofNat world.outputs.size) (runner.properties.outputPath?.map Path.text) written)
  let done := told.moved runner.announce .done
  let report := Event.actionFinished run action.name result.isOk (Int32.ofNat (exitCode result))
  have hflushed : flushed.At run stage events := hat.of_standing hsame
  have hmoved := hflushed.moved runner.announce .outputsFlushed
  have htold : told.At run .outputsFlushed _ := hmoved.published runner.announce _
  have hdone : done.At run .done _ := htold.moved runner.announce .done
  have hsheet : moved.outputs = world.outputs := congrArg Standing.outputs hsame
  refine ⟨written, done.published runner.announce report, ?_, hsheet, hdone.published _ _⟩
  have hallows : flushed.stages.current.allows .outputsFlushed = true := by
    rw [hflushed.stage]
    rcases houtcome with rfl | rfl <;> rfl
  have hends : told.stages.current.allows .done = true := by
    rw [htold.stage]
    rfl
  unfold finish
  dsimp only
  rw [bind_of_ok (eq_ok_of_ending hwritten), bind_of_ok (advance_eq hallows)]
  dsimp only
  rw [get_bind, get_bind, hmoved.run, hsheet, bind_of_ok (publish_eq _ _ _),
    bind_of_ok (advance_eq hends)]
  cases result <;> exact publish_eq _ _ _

end Runner

end ActionLauncher

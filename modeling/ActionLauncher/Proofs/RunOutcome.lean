import ActionLauncher.Proofs.RunPreparation
import ActionLauncher.Proofs.StageHistory

namespace ActionLauncher

open Launch

namespace Runner

/-- How far a run comes: a step before the acquisition panics, or the identity is refused, or the
body starts, with its context and in some world. -/
inductive Fate
  | stopped (panic : Panic)
  | refused (cause : SecurityError)
  | started (context : Context) (entered : World)

/-- How far the run from some world comes, read off its steps. -/
inductive Comes (runner : Runner) (action : Action) (base : Configuration) (world : World) :
    Fate → Prop
  | stopped {panic : Panic} {left : World}
      (hprepare : (runner.prepare action base).run (after start world) = .error panic left) :
      Comes runner action base world (.stopped panic)
  | refused {plan : Plan} {prepared next : World} {cause : SecurityError}
      {config : Option Configuration}
      (hprepare : (runner.prepare action base).run (after start world) = .ok (.ok plan) prepared)
      (hacquire : (plan.scope runner).acquirer.acquire plan.spec (some plan.config) prepared =
        .ok ⟨.error cause, config⟩ next) :
      Comes runner action base world (.refused cause)
  | started {plan : Plan} {prepared acquired entered : World} {identity : Identity}
      {config : Option Configuration} {context : Context}
      (hprepare : (runner.prepare action base).run (after start world) = .ok (.ok plan) prepared)
      (hacquire : (plan.scope runner).acquirer.acquire plan.spec (some plan.config) prepared =
        .ok ⟨.ok identity, config⟩ acquired)
      (happroach : (runner.approach plan.properties identity (config.getD plan.config)).run
        ((plan.scope runner).inside identity acquired) = .ok (.ok context) entered) :
      Comes runner action base world (.started context entered)

/-- The run settles its plan and acquires its identity. -/
def Acquires (runner : Runner) (action : Action) (base : Configuration) (world : World) : Prop :=
  ∃ plan prepared identity config acquired,
    (runner.prepare action base).run (after start world) = .ok (.ok plan) prepared ∧
    (plan.scope runner).acquirer.acquire plan.spec (some plan.config) prepared =
      .ok ⟨.ok identity, config⟩ acquired

def Fate.ending (action : Action) (args : List String) :
    Fate → Except Panic (Except ActionError Unit)
  | stopped panic => .error panic
  | refused cause => .ok (.error (.security cause))
  | started context entered =>
      (Launch.ending (action.body context args) entered).map (Except.mapError .execution)

/-- The stage with which a run has its outcome. -/
def resultStage : Except ActionError Unit → Stage
  | .ok _ => .succeeded
  | .error _ => .failed

/-- The exit code that belongs to an end: a panic counts as a failure of the body. -/
def code : Except Panic (Except ActionError Unit) → Nat
  | .ok (.ok _) => 0
  | .ok (.error (.security _)) => 2
  | .ok (.error _) | .error _ => 1

theorem exitCode_outcome (ended : Except Panic (Except ActionError Unit)) :
    exitCode (outcome ended) = code ended := by
  rcases ended with panic | (cause | _)
  · rfl
  · cases cause <;> rfl
  · rfl

section Run

variable (runner : Runner) (action : Action) (base : Configuration) (args : List String)
variable {world : World} {fate : Fate}

theorem Comes.unique {other : Fate} (h : runner.Comes action base world fate)
    (hother : runner.Comes action base world other) : other = fate := by
  cases h with
  | stopped hprepare =>
      cases hother with
      | stopped hprepare' => cases hprepare.symm.trans hprepare'; rfl
      | refused hprepare' => cases hprepare.symm.trans hprepare'
      | started hprepare' => cases hprepare.symm.trans hprepare'
  | refused hprepare hacquire =>
      cases hother with
      | stopped hprepare' => cases hprepare.symm.trans hprepare'
      | refused hprepare' hacquire' =>
          cases hprepare.symm.trans hprepare'
          cases hacquire.symm.trans hacquire'
          rfl
      | started hprepare' hacquire' =>
          cases hprepare.symm.trans hprepare'
          cases hacquire.symm.trans hacquire'
  | started hprepare hacquire happroach =>
      cases hother with
      | stopped hprepare' => cases hprepare.symm.trans hprepare'
      | refused hprepare' hacquire' =>
          cases hprepare.symm.trans hprepare'
          cases hacquire.symm.trans hacquire'
      | started hprepare' hacquire' happroach' =>
          cases hprepare.symm.trans hprepare'
          cases hacquire.symm.trans hacquire'
          cases happroach.symm.trans happroach'
          rfl

theorem runStages_of_stopped {panic : Panic} {left : World}
    (hprepare : (runner.prepare action base).run world = .error panic left) :
    (runner.runStages action base args).run world = .error panic left := by
  unfold runStages
  rw [ExceptT.run_bind]
  exact bind_of_panic hprepare _

section Acquired

variable (hprovider : runner.provider.Obeys (Returns (Same World.standing)))

include hprovider

theorem acquired_at {plan : Plan} {prepared next : World} {acquisition : Acquisition}
    (hprepare : (runner.prepare action base).run (after start world) = .ok (.ok plan) prepared)
    (hacquire : (plan.scope runner).acquirer.acquire plan.spec (some plan.config) prepared =
      .ok acquisition next) :
    ∃ told, next.At world.nextId .credentialsPropagated told := by
  have hstart : (after start world).At world.nextId .init world.events := ⟨rfl, rfl, rfl⟩
  rcases runner.prepare_cases action base hstart with
    ⟨plan', prepared', hprepare', -, hprepared⟩ | ⟨panic, left, hprepare', -⟩
  · cases hprepare.symm.trans hprepare'
    have hsame := (Acquirer.acquire_obeys Provider.standing_discipline
      (plan.scope runner).acquirer hprovider plan.spec (some plan.config) prepared).2
    rw [after_eq_of_ok hacquire] at hsame
    exact ⟨_, hprepared.of_standing hsame⟩
  · cases hprepare.symm.trans hprepare'

theorem comes_of_acquired {plan : Plan} {prepared acquired : World} {identity : Identity}
    {config : Option Configuration}
    (hprepare : (runner.prepare action base).run (after start world) = .ok (.ok plan) prepared)
    (hacquire : (plan.scope runner).acquirer.acquire plan.spec (some plan.config) prepared =
      .ok ⟨.ok identity, config⟩ acquired) :
    ∃ entered, runner.Comes action base world
      (.started (contextOf plan.properties identity (config.getD plan.config)) entered) := by
  obtain ⟨told, hat⟩ := runner.acquired_at action base hprovider hprepare hacquire
  obtain ⟨entered, happroach, -, -⟩ := runner.approach_returns plan.properties identity
    (config.getD plan.config) ((plan.scope runner).inside_at identity hat)
  exact ⟨entered, .started hprepare hacquire happroach⟩

theorem comes (world : World) : ∃ fate, runner.Comes action base world fate := by
  have hstart : (after start world).At world.nextId .init world.events := ⟨rfl, rfl, rfl⟩
  rcases runner.prepare_cases action base hstart with
    ⟨plan, prepared, hprepare, -⟩ | ⟨panic, left, hprepare, -⟩
  · obtain ⟨⟨acquisition, hend⟩, -⟩ := Acquirer.acquire_obeys Provider.standing_discipline
      (plan.scope runner).acquirer hprovider plan.spec (some plan.config) prepared
    have hacquire := eq_ok_of_ending hend
    rcases acquisition with ⟨cause | identity, config⟩
    · exact ⟨_, .refused hprepare hacquire⟩
    · obtain ⟨entered, hcomes⟩ := runner.comes_of_acquired action base hprovider hprepare hacquire
      exact ⟨_, hcomes⟩
  · exact ⟨_, .stopped hprepare⟩

theorem started_iff_acquires :
    (∃ context entered, runner.Comes action base world (.started context entered)) ↔
      runner.Acquires action base world := by
  constructor
  · rintro ⟨context, entered, hcomes⟩
    cases hcomes with
    | started hprepare hacquire happroach => exact ⟨_, _, _, _, _, hprepare, hacquire⟩
  · rintro ⟨plan, prepared, identity, config, acquired, hprepare, hacquire⟩
    exact ⟨_, runner.comes_of_acquired action base hprovider hprepare hacquire⟩

theorem properties_of_started {context : Context} {entered : World}
    (h : runner.Comes action base world (.started context entered)) :
    context.properties = runner.ownProperties action := by
  cases h with
  | started hprepare hacquire happroach =>
      rename_i plan prepared acquired identity config
      obtain ⟨told, hat⟩ := runner.acquired_at action base hprovider hprepare hacquire
      obtain ⟨entered', happroach', -, -⟩ := runner.approach_returns plan.properties identity
        (config.getD plan.config) ((plan.scope runner).inside_at identity hat)
      cases happroach.symm.trans happroach'
      exact runner.prepare_properties action base _ _ (ending_eq_of_ok hprepare) plan rfl

end Acquired

section Body

variable {body : Context → List String → Launch (Except String Unit)}

theorem runBody_congr {props : Properties} {identity : Identity} {config : Configuration}
    {context : Context} {entered : World}
    (happroach : (runner.approach props identity config).run world = .ok (.ok context) entered)
    (h : body context args entered = action.body context args entered) :
    (runner.runBody { action with body := body } args props identity config).run world =
      (runner.runBody action args props identity config).run world := by
  unfold runBody
  rw [run_bind_of_ok happroach, run_bind_of_ok happroach]
  exact run_lift_bind_congr h _

/-- The world and the arguments with which a body starts are all that counts of it. -/
def Fate.Agrees (action : Action) (args : List String)
    (body : Context → List String → Launch (Except String Unit)) : Fate → Prop
  | stopped _ | refused _ => True
  | started context entered => body context args entered = action.body context args entered

theorem runStages_congr (h : runner.Comes action base world fate)
    (hagrees : fate.Agrees action args body) :
    (runner.runStages { action with body := body } base args).run (after start world) =
      (runner.runStages action base args).run (after start world) := by
  have hprepares : runner.prepare { action with body := body } base =
      runner.prepare action base := rfl
  cases h with
  | stopped hprepare =>
      rw [runner.runStages_of_stopped action base args hprepare]
      exact runner.runStages_of_stopped _ base args (hprepares ▸ hprepare)
  | refused hprepare hacquire =>
      rw [runner.runStages_of_refused action base args hprepare hacquire]
      exact runner.runStages_of_refused _ base args (hprepares ▸ hprepare) hacquire
  | started hprepare hacquire happroach =>
      rename_i plan prepared acquired entered identity config context
      have hinner := runner.runBody_congr action args happroach hagrees
      have hscope : (plan.scope runner).run plan.spec plan.config (fun identity config =>
          (runner.runBody { action with body := body } args plan.properties identity config).run)
            prepared = (plan.scope runner).run plan.spec plan.config (fun identity config =>
              (runner.runBody action args plan.properties identity config).run) prepared := by
        refine (plan.scope runner).run_congr _ _ fun identity' config' acquired' hacquire' => ?_
        cases hacquire.symm.trans hacquire'
        exact hinner
      unfold runStages
      rw [hprepares, run_bind_of_ok hprepare, run_bind_of_ok hprepare]
      exact run_lift_bind_congr hscope _

theorem run_congr (h : runner.Comes action base world fate)
    (hagrees : fate.Agrees action args body) :
    runner.run { action with body := body } base args world =
      runner.run action base args world := by
  have hstart : start world = .ok () (after start world) := rfl
  have hstages := runner.runStages_congr action base args h hagrees
  have hsettled : settle (runner.runStages { action with body := body } base args).run
      (after start world) = settle (runner.runStages action base args).run (after start world) := by
    rw [settle, settle, hstages]
  unfold Runner.run
  rw [bind_of_ok hstart, bind_of_ok hstart]
  exact bind_congr_left hsettled _

end Body

theorem resultStage_of_body (ended : Except Panic (Except String Unit)) :
    finalStage ended =
      resultStage (outcome (ended.map (Except.mapError ActionError.execution))) := by
  rcases ended with panic | (message | _) <;> rfl

variable (hprovider : runner.provider.Obeys (Returns (Same World.standing)))
variable (hbody : ∀ context args, Respects Aside (action.body context args))

include hprovider hbody

/-- However far a run comes, its stages end accordingly, and their end is reported. -/
theorem reported_of_comes (h : runner.Comes action base world fate) :
    let stages := (runner.runStages action base args).run
    Launch.ending stages (after start world) = fate.ending action args ∧
      ∃ reported told, runner.report action (fate.ending action args)
          (after stages (after start world)) = .ok () reported ∧
        reported.At world.nextId (resultStage (outcome (fate.ending action args))) told := by
  intro stages
  have hstart : (after start world).At world.nextId .init world.events := ⟨rfl, rfl, rfl⟩
  cases h with
  | stopped hprepare =>
      have hstages := runner.runStages_of_stopped action base args hprepare
      rcases runner.prepare_cases action base hstart with
        ⟨plan, prepared, hprepare', -⟩ | ⟨panic, left, hprepare', hleft⟩
      · cases hprepare.symm.trans hprepare'
      · cases hprepare.symm.trans hprepare'
        obtain ⟨reported, hreport, hreported⟩ := report_panic runner action _ hleft rfl
        rw [ending_eq_of_panic hstages, after_eq_of_panic hstages]
        exact ⟨rfl, reported, _, hreport, hreported⟩
  | refused hprepare hacquire =>
      have hstages := runner.runStages_of_refused action base args hprepare hacquire
      obtain ⟨told, hat⟩ := runner.acquired_at action base hprovider hprepare hacquire
      obtain ⟨reported, hreport, hreported⟩ := reportFailure_abort runner action
        (show (ActionError.security _).isExecution = false from rfl) hat rfl
      rw [ending_eq_of_ok hstages, after_eq_of_ok hstages]
      exact ⟨rfl, reported, _, hreport, hreported⟩
  | started hprepare hacquire happroach =>
      obtain ⟨told, hat⟩ := runner.acquired_at action base hprovider hprepare hacquire
      obtain ⟨entered, own, happroach', -, hended, hleft⟩ := runStages_of_acquired runner action
        base args hprovider hbody hprepare hacquire hat
      cases happroach.symm.trans happroach'
      obtain ⟨reported, hreport, hreported⟩ := report_returns runner action _ hleft
      rw [resultStage_of_body] at hreported
      exact ⟨hended, reported, _, hreport, hreported⟩

theorem run_of_comes (h : runner.Comes action base world fate) :
    let ended := fate.ending action args
    let x := runner.run action base args
    Launch.ending x world = ended ∧
      (runner.announce = true → (after x world).events.getLast? =
        some (.actionFinished world.nextId action.name (outcome ended).isOk
          (Int32.ofNat (code ended)))) ∧
      (.succeeded ∈ (after x world).stages.history ↔ resultStage (outcome ended) = .succeeded) := by
  intro ended x
  obtain ⟨hended, reported, told, hreport, hreported⟩ :=
    runner.reported_of_comes action base args hprovider hbody h
  have houtcome : resultStage (outcome ended) = .succeeded ∨
      resultStage (outcome ended) = .failed := by
    cases outcome ended with
    | ok _ => exact .inl rfl
    | error _ => exact .inr rfl
  obtain ⟨written, next, hfinish, -, hnext⟩ :=
    finish_returns runner action (outcome ended) hreported houtcome
  have hrun := run_eq_of_finished runner action base args hended rfl hreport hfinish
  have hfinal : after x world = { next with inRun := false } :=
    (after_congr (y := resume ended) hrun).trans (after_resume _ _)
  refine ⟨(ending_congr (y := resume ended) hrun).trans (ending_resume _ _), ?_, ?_⟩
  · intro hannounce
    rw [hfinal]
    show next.events.getLast? = _
    rw [hnext.events, hannounce, exitCode_outcome]
    simp [World.told]
  · -- The stages of the run lead by moves to the one with its outcome, and by moves on to its end.
    have hsettled : (after start world).stages.Settled := Tracker.settled_start _
    have hstages := runner.runStages_onward action hbody hprovider base args (after start world)
    have hthere := report_respects onward_bookkeeping runner action ended
      (after (runner.runStages action base args).run (after start world))
    have hover := runner.finish_onward action (outcome ended) reported
    rw [after_eq_of_ok hreport] at hthere
    rw [after_eq_of_ok hfinish] at hover
    have hcurrent := hreported.stage
    rw [← hcurrent] at houtcome
    rw [hfinal, ← hcurrent]
    exact ((hsettled.reaches hstages).reaches hthere).succeeded_iff houtcome hover

end Run

/-- A run tells of its body as it went. -/
structure Faithful (runner : Runner) (action : Action) (base : Configuration)
    (args : List String) (world : World) : Prop where
  /-- All that counts of the body is one call, in the world in which it starts. -/
  startsOnce : ∀ context entered, runner.Comes action base world (.started context entered) →
    ∀ body : Context → List String → Launch (Except String Unit),
      body context args entered = action.body context args entered →
      runner.run { action with body := body } base args world =
        runner.run action base args world
  /-- Without its identity a run is the same whatever its body. -/
  startsNot : ¬ runner.Acquires action base world →
    ∀ body : Context → List String → Launch (Except String Unit),
      runner.run { action with body := body } base args world =
        runner.run action base args world
  starts : (∃ context entered, runner.Comes action base world (.started context entered)) ↔
    runner.Acquires action base world
  succeeds : ending (runner.run action base args) world = .ok (.ok ()) ↔
    ∃ context entered, runner.Comes action base world (.started context entered) ∧
      ending (action.body context args) entered = .ok (.ok ())
  fails : ∀ message,
    ending (runner.run action base args) world = .ok (.error (.execution message)) ↔
      ∃ context entered, runner.Comes action base world (.started context entered) ∧
        ending (action.body context args) entered = .ok (.error message)
  refuses : ∀ cause,
    ending (runner.run action base args) world = .ok (.error (.security cause)) ↔
      runner.Comes action base world (.refused cause)
  panics : ∀ panic, ending (runner.run action base args) world = .error panic ↔
    runner.Comes action base world (.stopped panic) ∨
      ∃ context entered, runner.Comes action base world (.started context entered) ∧
        ending (action.body context args) entered = .error panic
  exits : ∀ result, ending (runner.run action base args) world = .ok result →
    exitCode result = code (ending (runner.run action base args) world)
  tells : runner.announce = true → ∃ success,
    (after (runner.run action base args) world).events.getLast? =
      some (.actionFinished world.nextId action.name success
        (Int32.ofNat (code (ending (runner.run action base args) world)))) ∧
    (success = true ↔ ending (runner.run action base args) world = .ok (.ok ()))
  records : .succeeded ∈ (after (runner.run action base args) world).stages.history ↔
    ending (runner.run action base args) world = .ok (.ok ())
  /-- The properties that a body sees come from the runner's own, whatever ran before. -/
  keepsProperties : ∀ context entered,
    runner.Comes action base world (.started context entered) →
      context.properties = runner.ownProperties action

section Fate

variable {action : Action} {args : List String} {fate : Fate}

theorem Fate.exists_started_iff {context : Context} {entered : World}
    {P : Context → World → Prop} :
    (∃ context' entered', started context entered = started context' entered' ∧
      P context' entered') ↔ P context entered := by
  constructor
  · rintro ⟨context', entered', heq, h⟩
    cases heq
    exact h
  · exact fun h => ⟨context, entered, rfl, h⟩

theorem map_execution_injective :
    Function.Injective fun ended : Except Panic (Except String Unit) =>
      ended.map (Except.mapError ActionError.execution) := by
  rintro (panic | (message | _)) (panic' | (message' | _)) h <;> cases h <;> rfl

theorem Fate.ending_eq_ok_iff :
    fate.ending action args = .ok (.ok ()) ↔
      ∃ context entered, fate = .started context entered ∧
        Launch.ending (action.body context args) entered = .ok (.ok ()) := by
  cases fate with
  | stopped panic => simp [ending]
  | refused cause => simp [ending]
  | started context entered =>
      rw [exists_started_iff]
      exact map_execution_injective.eq_iff (b := .ok (.ok ()))

theorem Fate.ending_eq_execution_iff {message : String} :
    fate.ending action args = .ok (.error (.execution message)) ↔
      ∃ context entered, fate = .started context entered ∧
        Launch.ending (action.body context args) entered = .ok (.error message) := by
  cases fate with
  | stopped panic => simp [ending]
  | refused cause => simp [ending]
  | started context entered =>
      rw [exists_started_iff]
      exact map_execution_injective.eq_iff (b := .ok (.error message))

theorem Fate.ending_eq_security_iff {cause : SecurityError} :
    fate.ending action args = .ok (.error (.security cause)) ↔ fate = .refused cause := by
  cases fate with
  | stopped panic => simp [ending]
  | refused cause => simp [ending]
  | started context entered =>
      -- What a body ends with is never an error of the acquisition.
      constructor
      · intro h
        rw [ending] at h
        generalize Launch.ending (action.body context args) entered = ended at h
        rcases ended with panic | (message | _) <;> cases h
      · intro h
        cases h

theorem Fate.ending_eq_panic_iff {panic : Panic} :
    fate.ending action args = .error panic ↔ fate = .stopped panic ∨
      ∃ context entered, fate = .started context entered ∧
        Launch.ending (action.body context args) entered = .error panic := by
  cases fate with
  | stopped panic => simp [ending]
  | refused cause => simp [ending]
  | started context entered =>
      rw [exists_started_iff, or_iff_right (by simp)]
      exact map_execution_injective.eq_iff (b := .error panic)

end Fate

theorem resultStage_eq_succeeded_iff {ended : Except Panic (Except ActionError Unit)} :
    resultStage (outcome ended) = .succeeded ↔ ended = .ok (.ok ()) := by
  rcases ended with panic | (cause | _) <;> simp [outcome, resultStage]

/-- Whatever its body does, a run tells of it as it went. -/
theorem run_faithful (runner : Runner) (action : Action) (base : Configuration)
    (args : List String) (hprovider : runner.provider = .simple ∨
      ∃ tools : KerberosTools, runner.provider = tools.provider)
    (hbody : ∀ context args, Respects Aside (action.body context args)) (world : World) :
    runner.Faithful action base args world := by
  have hreturns := Provider.builtIn_obeys hprovider
  obtain ⟨fate, hcomes⟩ := runner.comes action base hreturns world
  obtain ⟨hended, hlast, hhistory⟩ :=
    runner.run_of_comes action base args hreturns hbody hcomes
  have hfate (other : Fate) : runner.Comes action base world other ↔ fate = other :=
    ⟨fun hother => hother.unique runner action base hcomes, fun heq => heq ▸ hcomes⟩
  refine ⟨?startsOnce, ?startsNot, runner.started_iff_acquires action base hreturns, ?succeeds,
    ?fails, ?refuses, ?panics, ?exits, ?tells, ?records,
    fun context entered => runner.properties_of_started action base hreturns⟩
  case startsOnce =>
    intro context entered hstarted body hagrees
    exact runner.run_congr action base args hstarted hagrees
  case startsNot =>
    intro hacquires body
    refine runner.run_congr action base args hcomes ?_
    cases fate with
    | stopped panic => trivial
    | refused cause => trivial
    | started context entered =>
        exact absurd ((runner.started_iff_acquires action base hreturns).1 ⟨_, _, hcomes⟩) hacquires
  case succeeds =>
    simp only [hfate]
    rw [hended]
    exact Fate.ending_eq_ok_iff
  case fails =>
    intro message
    simp only [hfate]
    rw [hended]
    exact Fate.ending_eq_execution_iff
  case refuses =>
    intro cause
    rw [hended, hfate]
    exact Fate.ending_eq_security_iff
  case panics =>
    intro panic
    simp only [hfate]
    rw [hended]
    exact Fate.ending_eq_panic_iff
  case exits =>
    intro result hresult
    rw [hresult, ← exitCode_outcome]
    rfl
  case tells =>
    intro hannounce
    refine ⟨_, hended ▸ hlast hannounce, ?_⟩
    rw [hended, ← resultStage_eq_succeeded_iff]
    cases outcome (fate.ending action args) with
    | ok _ => simp [Except.isOk, Except.toBool, resultStage]
    | error _ => simp [Except.isOk, Except.toBool, resultStage]
  case records =>
    rw [hended]
    exact hhistory.trans resultStage_eq_succeeded_iff

/-- A run whose body fails, with tokens whose location cannot be exported and without. -/
theorem run_faithful_failing :
    let runner (tokens : Option Path) : Runner :=
      ⟨.simple, default, .ofPath tokens, .ofList [], true⟩
    let action : Action := ⟨"etl", false, fun _ _ => return .error "boom"⟩
    let root : Identity := ⟨"root", .ambient, none, none, default⟩
    let world := World.start (.ofWorkingDir []) .empty "root" root default default
    let final := after ((runner none).run action .empty []) world
    (runner none).Faithful action .empty [] world ∧
      (runner (some ⟨"\x00"⟩)).Faithful action .empty [] world ∧
      final.stages.history.contains .failed = true := by
  intro runner action root world final
  have hbody (context : Context) (args : List String) :
      Respects Aside (action.body context args) :=
    .pure _
  exact ⟨run_faithful (runner none) action .empty [] (.inl rfl) hbody world,
    run_faithful (runner (some ⟨"\x00"⟩)) action .empty [] (.inl rfl) hbody world,
    by decide +kernel⟩

end Runner

end ActionLauncher

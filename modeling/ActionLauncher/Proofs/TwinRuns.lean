import ActionLauncher.Proofs.Alongside
import ActionLauncher.Proofs.OutputDelivery

/-!
Two runs that differ in the destination of their output properties, or in whether it can be
written.  They go alongside each other up to the flush; and the flush, which one of them may fail
at, changes nothing but the files and what is told of the flush itself.
-/

namespace ActionLauncher

open Launch

namespace Properties

/-- The same properties but for the destination of the output properties. -/
def Twin (props other : Properties) : Prop :=
  other.erase Names.outputProperties = props.erase Names.outputProperties

variable {props other : Properties}

theorem Twin.get? (h : props.Twin other) {key : String} (hkey : key ≠ Names.outputProperties) :
    other.get? key = props.get? key := by
  have hraw : other.raw? key = props.raw? key := by
    have herased := congrArg (fun p : Properties => p.table.get? key) h
    have hother : (other.erase Names.outputProperties).table.get? key = other.raw? key :=
      Table.get?_erase other.table hkey
    have hprops : (props.erase Names.outputProperties).table.get? key = props.raw? key :=
      Table.get?_erase props.table hkey
    exact hother.symm.trans (herased.trans hprops)
  rw [Properties.get?, Properties.get?, hraw]

theorem Twin.insert (h : props.Twin other) {key : String} (hkey : key ≠ Names.outputProperties)
    (value : String) : (props.insert key value).Twin (other.insert key value) := by
  have hcommutes (p : Properties) : (p.insert key value).erase Names.outputProperties =
      (p.erase Names.outputProperties).insert key value :=
    congrArg Properties.mk (Table.erase_insert p.table hkey value)
  rw [Twin, hcommutes, hcommutes, h]

theorem Twin.path? (h : props.Twin other) {key : String} (hkey : key ≠ Names.outputProperties) :
    other.path? key = props.path? key := by
  rw [Properties.path?, Properties.path?, h.get? hkey]

theorem Twin.settings (h : props.Twin other) :
    LoginSettings.ofProperties other = LoginSettings.ofProperties props := by
  rw [LoginSettings.ofProperties, LoginSettings.ofProperties, realmConf?, realmConf?, realmDebug,
    realmDebug, h.path? (by decide), h.get? (by decide)]

end Properties

/-- The same context but for the destination of the output properties. -/
def Context.Twin (context other : Context) : Prop :=
  ∃ props, context.properties.Twin props ∧ other = { context with properties := props }

namespace Runner

/-- The same plan but for the destination of the output properties. -/
def Plan.Twin (plan other : Plan) : Prop :=
  ∃ props, plan.properties.Twin props ∧ other = { plan with properties := props }

section Companion

variable {R : World → World → Prop} (hR : Companion R)

include hR

theorem advance_alongside (announce : Bool) (target : Stage) :
    Alongside Eq R (advance announce target) (advance announce target) := by
  intro world other h
  have hstages := hR.stages h
  cases hallows : world.stages.current.allows target with
  | true =>
      exact alongside_of_ok (advance_eq hallows) (advance_eq (hstages ▸ hallows)) rfl
        (hR.moves announce target h)
  | false =>
      have hother : advance announce target other =
          .ok (.error ⟨world.stages.current, target⟩) other := by
        rw [← hstages]
        exact advance_refused (hstages ▸ hallows)
      exact alongside_of_ok (advance_refused hallows) hother rfl h

theorem fail_alongside (announce : Bool) : Alongside Eq R (fail announce) (fail announce) := by
  intro world other h
  have hstages := hR.stages h
  cases houtcome : world.stages.current.hasOutcome with
  | true =>
      exact alongside_of_ok (fail_of_hasOutcome houtcome)
        (fail_of_hasOutcome (hstages ▸ houtcome)) rfl h
  | false =>
      exact alongside_of_ok (fail_eq houtcome) (fail_eq (hstages ▸ houtcome)) rfl
        (hR.moves announce .failed h)

theorem reach_alongside (announce : Bool) (target : Stage) :
    Alongside (Alike Eq) R (reach announce target).run (reach announce target).run :=
  .bind_eq (advance_alongside hR announce target) fun _ => .pure (alike_eq_iff.2 rfl)

theorem reportFailure_alongside (runner : Runner) (action : Action) (e : ActionError) :
    Alongside Eq R (runner.reportFailure action e) (runner.reportFailure action e) := by
  unfold reportFailure
  dsimp only
  split
  · refine .bind_eq (hR.log _ _ _) fun _ => .bind .get fun world other h => ?_
    rw [hR.stages h]
    exact .bind_eq (hR.publish _ _) fun _ => fail_alongside hR _
  · exact fail_alongside hR _

theorem report_alongside (runner : Runner) (action : Action)
    (ended : Except Panic (Except ActionError Unit)) :
    Alongside Eq R (runner.report action ended) (runner.report action ended) := by
  rcases ended with panic | (e | _)
  · exact .bind_eq (hR.log _ _ _) fun _ => reportFailure_alongside hR runner action _
  · exact reportFailure_alongside hR runner action e
  · exact .pure rfl

end Companion

variable {F : FileTree → FileTree → Prop}

theorem credentialKey_ne {key : String} (hkey : key ∈ Names.credentialKeys) :
    key ≠ Names.outputProperties := by
  have hkeys : ∀ key ∈ Names.credentialKeys, key ≠ Names.outputProperties := by decide
  exact hkeys key hkey

theorem exportProperty_alongside {props other : Properties} (h : props.Twin other) {key : String}
    (hkey : key ≠ Names.outputProperties) (value : String) :
    Alongside Properties.Twin (World.Beside F) (exportProperty props key value)
      (exportProperty other key value) := by
  unfold exportProperty
  dsimp only
  split
  · exact .throw _
  · refine .bind_eq (.modify ?_) fun _ => .pure (h.insert hkey value)
    rintro world _ ⟨files, hfiles, rfl⟩
    exact ⟨files, hfiles, rfl⟩

theorem propagate_alongside (propagator : Propagator) {props other : Properties}
    (h : props.Twin other) (config : Configuration) :
    Alongside (fun found twin => found.1 = twin.1 ∧ found.2.1.Twin twin.2.1 ∧
        found.2.2 = twin.2.2) (World.Beside F)
      (propagator.propagate props config) (propagator.propagate other config) := by
  unfold Propagator.propagate
  split
  · exact .pure ⟨rfl, h, rfl⟩
  · rename_i location _
    have hexports := Alongside.foldlM (fun props other h key hkey =>
      exportProperty_alongside (F := F) h (credentialKey_ne hkey) location) h
    exact .bind hexports fun props other h => .pure ⟨rfl, h, rfl⟩

theorem method_alongside {props other : Properties} (h : props.Twin other) :
    Alongside Eq (World.Beside F) (method props) (method other) := by
  have hname := h.get? (show Names.authenticationMethod ≠ Names.outputProperties by decide)
  unfold method
  rw [hname]
  split
  · exact .pure rfl
  · split
    · exact .pure rfl
    · exact .bind_eq ((World.beside_companion F).log _ _ _) fun _ => .pure rfl

theorem propertyOrConfig_twin {props other : Properties} (h : props.Twin other)
    (config : Configuration) {key : String} (hkey : key ≠ Names.outputProperties) :
    propertyOrConfig? other config key = propertyOrConfig? props config key := by
  rw [propertyOrConfig?, propertyOrConfig?, h.get? hkey]

theorem withDebug_twin {props other : Properties} (h : props.Twin other) (action : Action) :
    (withDebug props action).Twin (withDebug other action) := by
  have hkey : Names.realmDebug ≠ Names.outputProperties := by decide
  unfold withDebug
  rw [h.get? hkey]
  split
  · exact h
  · exact h.insert hkey _

theorem warnings_alongside (messages : List String) :
    Alongside (Alike Eq) (World.Beside F)
      (messages.forM fun message =>
        (liftM (warn message) : ExceptT ActionError Launch Unit)).run
      (messages.forM fun message =>
        (liftM (warn message) : ExceptT ActionError Launch Unit)).run := by
  induction messages with
  | nil => exact .run_pure rfl
  | cons message rest ih =>
      exact .run_bind ((World.beside_companion F).log _ _ _).run_lift fun _ _ _ => ih

/-- The runner differs from another one in the destination only, and nothing that it does before
the flush depends on that, or on what `F` leaves open of the files. -/
structure Twins (F : FileTree → FileTree → Prop) (runner : Runner) (properties : Properties)
    (action : Action) (base : Configuration) : Prop where
  properties : runner.properties.Twin properties
  resolver : ∀ {files other : FileTree}, F files other →
    runner.resolver.resolve other base runner.properties.confDir? =
      runner.resolver.resolve files base runner.properties.confDir?
  provider : runner.provider.Overlooks F
  body : ∀ {context other : Context} (args : List String), context.Twin other →
    Alongside Eq (World.Beside F) (action.body context args) (action.body other args)

section Twins

variable {runner : Runner} {properties : Properties} {action : Action} {base : Configuration}
variable (h : runner.Twins F properties action base)

include h

theorem prepare_alongside :
    Alongside (Alike Plan.Twin) (World.Beside F) (runner.prepare action base).run
      ({ runner with properties := properties }.prepare action base).run := by
  have hconf : properties.confDir? = runner.properties.confDir? := h.properties.path? (by decide)
  have hplan {props other : Properties} (htwin : props.Twin other) (config : Configuration) :
      Alongside (Alike Plan.Twin) (World.Beside F)
        (do
          reach runner.announce .credentialsPropagated
          let method ← (method props : Launch _)
          return ⟨props, config, method⟩ : ExceptT ActionError Launch Plan).run
        (do
          reach runner.announce .credentialsPropagated
          let method ← (method other : Launch _)
          return ⟨other, config, method⟩ : ExceptT ActionError Launch Plan).run := by
    refine .run_bind (reach_alongside (World.beside_companion F) _ _) fun _ _ _ => ?_
    refine .run_bind (method_alongside htwin).run_lift ?_
    rintro method _ rfl
    exact .run_pure ⟨other, htwin, rfl⟩
  have hget : Alongside (Alike (World.Beside F)) (World.Beside F)
      (get : ExceptT ActionError Launch World).run
      (get : ExceptT ActionError Launch World).run :=
    fun world other hworld => ⟨.ok (.ok hworld), hworld⟩
  unfold prepare
  refine .run_bind hget ?_
  rintro world _ ⟨files, hfiles, rfl⟩
  dsimp only
  rw [hconf, h.resolver hfiles]
  refine .run_bind (warnings_alongside _) fun _ _ _ => ?_
  refine .run_bind (reach_alongside (World.beside_companion F) _ _) fun _ _ _ => ?_
  refine .run_bind (propagate_alongside _ h.properties _).run_lift ?_
  rintro ⟨location, props, config⟩ ⟨_, other, _⟩ ⟨rfl, htwin, rfl⟩
  have hdebug : (withDebug props action).Twin (withDebug other action) :=
    withDebug_twin htwin action
  dsimp only
  cases location with
  | none => exact hplan hdebug _
  | some location =>
      exact .run_bind ((World.beside_companion F).publish _ _).run_lift fun _ _ _ =>
        hplan hdebug _

omit h in
theorem approach_alongside (runner : Runner) {props other : Properties} (htwin : props.Twin other)
    (properties : Properties) (identity : Identity) (config : Configuration) :
    Alongside (Alike Context.Twin) (World.Beside F) (runner.approach props identity config).run
      ({ runner with properties := properties }.approach other identity config).run := by
  have htag (span : List (String × String)) : Alongside (Alike Eq) (World.Beside F)
      (modify fun world => { world with span := span } : ExceptT ActionError Launch Unit).run
      (modify fun world => { world with span := span } : ExceptT ActionError Launch Unit).run := by
    rintro world _ ⟨files, hfiles, rfl⟩
    exact ⟨.ok (.ok rfl), files, hfiles, rfl⟩
  have hreach (target : Stage) := reach_alongside (World.beside_companion F) runner.announce target
  have hworkflow : other.workflowId? = props.workflowId? := htwin.get? (by decide)
  have haction : other.actionId? = props.actionId? := htwin.get? (by decide)
  unfold approach
  rw [hworkflow, haction]
  refine .run_bind (hreach _) fun _ _ _ => .run_bind (htag _) fun _ _ _ => ?_
  refine .run_bind (hreach _) fun _ _ _ => .run_bind (hreach _) fun _ _ _ => ?_
  exact .run_pure ⟨other, htwin, rfl⟩

omit h in
theorem conclude_alongside (runner : Runner) (ended : Except String Unit) :
    Alongside (Alike Eq) (World.Beside F) (runner.conclude ended).run
      (runner.conclude ended).run := by
  cases ended with
  | ok _ => exact reach_alongside (World.beside_companion F) _ _
  | error message =>
      refine .run_bind ((World.beside_companion F).log _ _ _).run_lift fun _ _ _ => ?_
      exact .run_bind (fail_alongside (World.beside_companion F) _).run_lift fun _ _ _ =>
        .run_throw _

theorem runBody_alongside (args : List String) {props other : Properties}
    (htwin : props.Twin other) (identity : Identity) (config : Configuration) :
    Alongside (Alike Eq) (World.Beside F) (runner.runBody action args props identity config).run
      ({ runner with properties := properties }.runBody action args other identity config).run := by
  refine .run_bind (approach_alongside runner htwin properties identity config) ?_
  intro context twin hcontext
  refine .run_bind (h.body args hcontext).run_lift ?_
  rintro ended _ rfl
  exact conclude_alongside runner ended

/-- Up to the flush the runs go alongside each other. -/
theorem runStages_alongside (args : List String) :
    Alongside (Alike Eq) (World.Beside F) (runner.runStages action base args).run
      ({ runner with properties := properties }.runStages action base args).run := by
  refine .run_bind (prepare_alongside h) ?_
  rintro plan _ ⟨other, htwin, rfl⟩
  have hscope : Plan.scope { plan with properties := other }
      { runner with properties := properties } = plan.scope runner := by
    rw [Plan.scope, Plan.scope, htwin.settings]
  have hspec : Plan.spec { plan with properties := other } = plan.spec := by
    have hcache := htwin.get? (show Names.ticketCache ≠ Names.outputProperties by decide)
    rw [Plan.spec, Plan.spec, spec, spec, propertyOrConfig_twin htwin _ (by decide),
      propertyOrConfig_twin htwin _ (by decide), hcache]
  rw [hscope, hspec]
  refine .run_bind ((plan.scope runner).run_alongside h.provider _ _ fun identity config =>
    runBody_alongside h args htwin identity config).run_lift ?_
  intro first second hended
  cases hended with
  | error cause => exact .run_throw _
  | ok hended =>
      obtain rfl := alike_eq_iff.1 hended
      rename_i ended
      cases ended with
      | error e => exact .run_throw e
      | ok _ => exact .run_pure rfl

end Twins

end Runner

namespace World

/-- The events besides those of flushes. -/
def otherEvents (world : World) : List Event :=
  world.events.filter fun event => !event.isFlush

/-- The same world but for files, log records and the events of flushes. -/
def Parted (world other : World) : Prop :=
  ∃ files records events, (events.filter fun event => !event.isFlush) = world.otherEvents ∧
    other = { world with files := files, records := records, events := events }

theorem Parted.of_beside {F : FileTree → FileTree → Prop} {world other : World}
    (h : Beside F world other) : Parted world other := by
  obtain ⟨files, -, rfl⟩ := h
  exact ⟨files, world.records, world.events, rfl, rfl⟩

theorem Parted.outside {world other : World} (h : Parted world other) :
    Parted { world with inRun := false } { other with inRun := false } := by
  obtain ⟨files, records, events, hevents, rfl⟩ := h
  exact ⟨files, records, events, hevents, rfl⟩

theorem Parted.append {world : World} {events added further : List Event}
    (h : (events.filter fun event => !event.isFlush) = world.otherEvents)
    (hadded : (further.filter fun event => !event.isFlush) =
      added.filter fun event => !event.isFlush) :
    ((events ++ further).filter fun event => !event.isFlush) =
      (world.events ++ added).filter fun event => !event.isFlush := by
  rw [List.filter_append, List.filter_append, h, hadded, otherEvents]

theorem parted_companion : Companion Parted where
  stages := by
    rintro world _ ⟨files, records, events, hevents, rfl⟩
    rfl
  logs := by
    rintro world _ level message fields ⟨files, records, events, hevents, rfl⟩
    exact ⟨files, _, events, hevents, rfl⟩
  tells := by
    rintro world _ announce event ⟨files, records, events, hevents, rfl⟩
    exact ⟨files, records, _, Parted.append hevents rfl, rfl⟩
  moves := by
    rintro world _ announce target ⟨files, records, events, hevents, rfl⟩
    exact ⟨files, records, _, Parted.append hevents rfl, rfl⟩

end World

namespace Runner

theorem flush_alongside (path other : Option Path) :
    Alongside (fun _ _ => True) World.Parted (flush path) (flush other) := by
  rintro world _ ⟨files, records, events, hevents, rfl⟩
  obtain ⟨written, left, logged, -, hworld⟩ := flush_flushes path world
  obtain ⟨written', left', logged', -, hother⟩ := flush_flushes other
    { world with files := files, records := records, events := events }
  exact alongside_of_ok hworld hother trivial ⟨left', logged', events, hevents, rfl⟩

section Finish

variable (runner : Runner) (properties : Properties) (action : Action)
  (result : Except ActionError Unit)

theorem tell_alongside (written written' : Bool) :
    Alongside Eq World.Parted (runner.tell action result written)
      ({ runner with properties := properties }.tell action result written') := by
  have hflush {event event' : Event} (h : event.isFlush = true) (h' : event'.isFlush = true) :
      Alongside Eq World.Parted (publish runner.announce event)
        (publish runner.announce event') := by
    rintro world _ ⟨files, records, events, hevents, rfl⟩
    refine alongside_of_ok (publish_eq _ _ _) (publish_eq _ _ _) rfl
      ⟨files, records, _, World.Parted.append hevents ?_, rfl⟩
    rw [World.filter_told (by simp [h']), World.filter_told (by simp [h])]
  unfold tell
  refine .bind .get fun world other hworld => .bind .get fun world' other' _ => ?_
  rw [World.parted_companion.stages hworld]
  refine .bind_eq (hflush rfl rfl) fun _ => ?_
  refine .bind_eq (advance_alongside World.parted_companion _ _) fun moved => ?_
  cases moved with
  | ok _ => exact World.parted_companion.publish _ _
  | error _ =>
      exact .bind_eq (World.parted_companion.log _ _ _) fun _ =>
        World.parted_companion.publish _ _

theorem finish_alongside :
    Alongside Eq World.Parted (runner.finish action result)
      ({ runner with properties := properties }.finish action result) := by
  rw [finish_eq, finish_eq]
  refine .bind (flush_alongside _ _) fun written written' _ => ?_
  refine .bind_eq (advance_alongside World.parted_companion _ _) fun moved => ?_
  cases moved with
  | ok _ => exact tell_alongside runner properties action result written written'
  | error _ =>
      exact .bind_eq (World.parted_companion.log _ _ _) fun _ =>
        tell_alongside runner properties action result written written'

end Finish

/-- What two runs have in common that differ in nothing but the destination of their output
properties, or in whether it can be written. -/
structure Agree (x y : Launch (Except ActionError Unit)) (world other : World) : Prop where
  ends : ending y other = ending x world
  exits : (ending y other).map exitCode = (ending x world).map exitCode
  login : (after y other).login = (after x world).login
  tells : (after y other).otherEvents = (after x world).otherEvents

variable {F : FileTree → FileTree → Prop}

theorem run_agrees {runner : Runner} {properties : Properties} {action : Action}
    {base : Configuration} (h : runner.Twins F properties action base) (args : List String)
    {world other : World} (hworld : World.Beside F world other) :
    Agree (runner.run action base args)
      ({ runner with properties := properties }.run action base args) world other := by
  let twin : Runner := { runner with properties := properties }
  have hstart : World.Beside F (after start world) (after start other) := by
    obtain ⟨files, hfiles, rfl⟩ := hworld
    exact ⟨files, hfiles, rfl⟩
  obtain ⟨hended, hleft⟩ := runStages_alongside h args _ _ hstart
  generalize hends : ending (runner.runStages action base args).run (after start world) = ended
    at hended
  have htwin : ending (twin.runStages action base args).run (after start other) = ended :=
    (alike_eq_iff.1 (hended.imp fun _ _ => alike_eq_iff.1)).symm
  have hx := runner.run_eq action base args hends
  have hy := twin.run_eq action base args htwin
  obtain ⟨-, hreported⟩ := report_alongside (World.beside_companion F) runner action ended _ _ hleft
  obtain ⟨-, hfinished⟩ :=
    finish_alongside runner properties action (outcome ended) _ _ (.of_beside hreported)
  have hxend := (ending_congr hx).trans (ending_resume _ _)
  have hyend := (ending_congr hy).trans (ending_resume _ _)
  have hparted : World.Parted (after (runner.run action base args) world)
      (after (twin.run action base args) other) := by
    rw [(after_congr hx).trans (after_resume _ _), (after_congr hy).trans (after_resume _ _)]
    exact hfinished.outside
  obtain ⟨files, records, events, hevents, hafter⟩ := hparted
  constructor
  case ends => rw [hxend, hyend]
  case exits => rw [hxend, hyend]
  case login => rw [hafter]
  case tells =>
    rw [hafter]
    exact hevents

/-- What becomes of the output properties that the body of a run sets, and that what becomes of
them changes nothing else. -/
structure DeliversOutputs (runner : Runner) (action : Action) (base : Configuration)
    (args : List String) (world : World) : Prop where
  started : ∀ {sets : List (String × String)} {context : Context} {entered : World},
    runner.Comes action base world (.started context entered) →
      SetsOutputs sets (action.body context args) entered →
        ∃ written, runner.Delivers sets
          (after (runner.runStages action base args).run (after start world))
          (after (runner.run action base args) world) written
  unstarted : (∀ context entered, ¬ runner.Comes action base world (.started context entered)) →
    runner.Delivers [] (after (runner.runStages action base args).run (after start world))
      (after (runner.run action base args) world) false
  masks : ∀ {F : FileTree → FileTree → Prop} {properties : Properties} {other : World},
    runner.Twins F properties action base → World.Beside F world other →
      Agree (runner.run action base args)
        ({ runner with properties := properties }.run action base args) world other

/-- Whatever a body sets is delivered, however the body ends, and a run that cannot deliver it goes
on as if it could. -/
theorem run_deliversOutputs (runner : Runner) (action : Action) (base : Configuration)
    (args : List String) (hprovider : runner.provider.Obeys (Respects (Same World.outputs)))
    (world : World) : runner.DeliversOutputs action base args world := by
  constructor
  case started =>
    intro sets context entered hcomes hsets
    exact runner.delivers_started action base args hprovider hcomes hsets
  case unstarted =>
    intro hnever
    obtain ⟨written, hdelivers⟩ := runner.delivers_unstarted action base args hprovider hnever
    have hwritten : written = false := by
      rw [← Bool.not_eq_true, hdelivers.written_iff]
      exact fun h => h.1 rfl
    exact hwritten ▸ hdelivers
  case masks =>
    intro F properties other htwins hworld
    exact run_agrees htwins args hworld

theorem simple_overlooks {F : FileTree → FileTree → Prop}
    (hF : ∀ {files other : FileTree}, F files other → other.isFile = files.isFile) :
    Provider.simple.Overlooks F := by
  have hnew (principal : String) (source : Source) : Alongside Eq (World.Beside F)
      (newIdentity principal source) (newIdentity principal source) := by
    refine .bind_eq (.modifyGet ?_) fun _ => .pure rfl
    rintro world _ ⟨files, hfiles, rfl⟩
    exact ⟨rfl, files, hfiles, rfl⟩
  constructor
  case ambient =>
    refine .bind_eq (.bind .get ?_) fun _ => .pure rfl
    rintro world _ ⟨files, hfiles, rfl⟩
    exact .bind_eq (hnew _ _) fun _ => .pure rfl
  case fromKeytab =>
    intro principal path settings
    refine .bind .get ?_
    rintro world _ ⟨files, hfiles, rfl⟩
    dsimp only
    rw [hF hfiles]
    split
    · exact .bind_eq (hnew _ _) fun _ => .pure rfl
    · exact .pure rfl
  case fromTicketCache =>
    intro principal path settings
    refine .bind .get ?_
    rintro world _ ⟨files, hfiles, rfl⟩
    dsimp only
    rw [hF hfiles]
    split
    · exact .bind_eq (hnew _ _) fun _ => .pure rfl
    · exact .pure rfl
  case release =>
    intro identity
    exact .pure rfl

/-- A body that sets two properties, one of them twice, and panics: in one world their destination
can be written, in the other the directory of it is missing. -/
theorem run_deliversOutputs_panicking :
    let destination : Path := ⟨"out/data.properties"⟩
    let runner : Runner := ⟨.simple, ⟨none, ⟨[]⟩⟩, ⟨none⟩,
      .ofList [(Names.outputProperties, destination.text)], true⟩
    let sets := [("rows", "1"), ("note", "a b"), ("rows", "2")]
    let action : Action := ⟨"etl", false, fun _ _ => do
      setOutput "rows" "1"
      setOutput "note" "a b"
      setOutput "rows" "2"
      throw (.text "boom")⟩
    let root : Identity := ⟨"root", .ambient, none, none, default⟩
    let furnished : FileTree := ⟨[], [(["out"], .directory)]⟩
    let bare : FileTree := ⟨[], []⟩
    let world := World.start furnished .empty "root" root default default
    let other : World := { world with files := bare }
    let final := after (runner.run action .empty []) world
    (∃ written, runner.Delivers sets
      (after (runner.runStages action .empty []).run (after start world)) final written) ∧
      final.files.isFile destination = true ∧
      Agree (runner.run action .empty []) (runner.run action .empty []) world other ∧
      (after (runner.run action .empty []) other).files.isFile destination = false := by
  intro destination runner sets action root furnished bare world other final
  have hprovider : runner.provider.Obeys (Respects (Same World.outputs)) :=
    Provider.simple_obeys.mono fun _ h => h.outputs
  have hdelivers := run_deliversOutputs runner action .empty [] hprovider world
  have hacquires : runner.Acquires action .empty world := ⟨_, _, _, _, _, rfl, rfl⟩
  obtain ⟨context, entered, hcomes⟩ :=
    (runner.started_iff_acquires action .empty Provider.simple_obeys).2 hacquires
  have hfiles : bare.isFile = furnished.isFile := by
    funext path
    rw [FileTree.isFile_of_directories (by simp [bare]),
      FileTree.isFile_of_directories (by simp [furnished])]
  have hset (key value : String) : Alongside Eq (World.Beside fun files other =>
      other.isFile = files.isFile) (setOutput key value) (setOutput key value) := by
    refine .modify ?_
    rintro world _ ⟨files, hfiles, rfl⟩
    exact ⟨files, hfiles, rfl⟩
  have htwins : runner.Twins (fun files other => other.isFile = files.isFile) runner.properties
      action .empty := by
    constructor
    case properties => rfl
    case resolver =>
      intro files other h
      rfl
    case provider => exact simple_overlooks id
    case body =>
      intro context other args _
      exact .bind_eq (hset _ _) fun _ => .bind_eq (hset _ _) fun _ => .bind_eq (hset _ _)
        fun _ => .throw _
  refine ⟨hdelivers.started hcomes rfl, ?_, ?_, ?_⟩
  · decide +kernel
  · exact hdelivers.masks htwins ⟨bare, hfiles, rfl⟩
  · decide +kernel

end Runner

end ActionLauncher

import ActionLauncher.Proofs.FileChange
import ActionLauncher.Proofs.RunOutcome
import ActionLauncher.Proofs.SheetRoundTrip

namespace ActionLauncher

open Launch

namespace World

/-- Between the two worlds these output properties were set, in this order, and no others. -/
def OutputsSet (sets : List (String × String)) (world next : World) : Prop :=
  next.outputs = sets.foldl (fun sheet set => sheet.insert set.1 set.2) world.outputs

/-- Between the two worlds nothing was done to the output properties but setting some. -/
def OutputsGrow (world next : World) : Prop :=
  ∃ sets, OutputsSet sets world next

theorem outputsGrow_of_same {world next : World} (h : next.outputs = world.outputs) :
    OutputsGrow world next :=
  ⟨[], h⟩

instance : IsPreorder World OutputsGrow where
  refl _ := outputsGrow_of_same rfl
  trans := by
    rintro world next last ⟨sets, hnext⟩ ⟨further, hlast⟩
    refine ⟨sets ++ further, ?_⟩
    rw [OutputsSet, hlast, hnext, List.foldl_append]

end World

/-- The computation sets these output properties, in this order, and no others. -/
def Launch.SetsOutputs {α : Type} (sets : List (String × String)) (x : Launch α)
    (world : World) : Prop :=
  World.OutputsSet sets world (after x world)

theorem outputsGrow_conduct : Conduct World.OutputsGrow where
  logs _ _ := World.outputsGrow_of_same rfl
  notes _ _ := World.outputsGrow_of_same rfl
  prints _ _ := World.outputsGrow_of_same rfl
  logins _ _ := World.outputsGrow_of_same rfl
  sets _ key value := ⟨[(key, value)], rfl⟩
  inside scope identity world :=
    World.outputsGrow_of_same (scope.same_inside (fun _ _ _ _ => rfl) identity world)
  outside scope login guest world :=
    World.outputsGrow_of_same (scope.same_outside (fun _ _ _ _ => rfl) login guest world)

theorem Launch.Returns.outputs {α : Type} {x : Launch α} (h : Returns (Same World.standing) x) :
    Respects (Same World.outputs) x :=
  fun world => congrArg Standing.outputs (h world).2

theorem Body.run_setsOutputs (surroundings : Surroundings)
    (hprovider : surroundings.acquirer.provider.Obeys (Returns (Same World.standing)))
    (body : Body) (identity : Identity) (config : Configuration) (world : World) :
    ∃ sets, SetsOutputs sets (body.run surroundings identity config) world :=
  run_respects outputsGrow_conduct surroundings
    (hprovider.mono fun _ h => h.outputs.mono fun _ _ => World.outputsGrow_of_same)
    body identity config world

theorem CommandLine.BuiltIn.body_setsOutputs (builtIn : BuiltIn) (context : Context)
    (args : List String) (world : World) :
    ∃ sets, SetsOutputs sets (builtIn.body context args) world :=
  body_respects outputsGrow_conduct (fun _ _ _ => (Provider.standing_spawn _ _ _).outputs.mono
    fun _ _ => World.outputsGrow_of_same) builtIn context args world

namespace Runner

section Split

variable (runner : Runner) (action : Action) (base : Configuration) (args : List String)
variable {world : World}

theorem after_runStages {prepared : World} {plan : Plan}
    (hprepare : (runner.prepare action base).run world = .ok (.ok plan) prepared) :
    after (runner.runStages action base args).run world =
      after ((plan.scope runner).run plan.spec plan.config fun identity config =>
        (runner.runBody action args plan.properties identity config).run) prepared := by
  unfold runStages
  rw [after_congr (run_bind_of_ok hprepare _)]
  generalize hscope : (plan.scope runner).run plan.spec plan.config (fun identity config =>
    (runner.runBody action args plan.properties identity config).run) = scope
  cases hended : scope prepared with
  | error panic left =>
      rw [after_eq_of_panic hended]
      exact after_eq_of_panic (run_lift_bind_of_panic hended _)
  | ok ended left =>
      rw [after_eq_of_ok hended, after_congr (run_lift_bind_of_ok hended _)]
      rcases ended with cause | (e | _) <;> rfl

variable {R : World → World → Prop} [IsPreorder World R] (hR : Bookkeeping R)

include hR

theorem runBody_entered {props : Properties} {identity : Identity} {config : Configuration}
    {context : Context} {entered : World}
    (happroach : (runner.approach props identity config).run world = .ok (.ok context) entered) :
    R (after (action.body context args) entered)
      (after (runner.runBody action args props identity config).run world) := by
  rw [runBody, after_congr (run_bind_of_ok happroach _)]
  cases hended : action.body context args entered with
  | error panic left =>
      rw [after_eq_of_panic hended, after_eq_of_panic (run_lift_bind_of_panic hended _)]
      exact Std.Refl.refl left
  | ok ended left =>
      rw [after_eq_of_ok hended, after_congr (run_lift_bind_of_ok hended _)]
      exact conclude_respects hR runner ended left

theorem runBody_unentered {props : Properties} {identity : Identity} {config : Configuration}
    (h : ∀ context entered,
      (runner.approach props identity config).run world ≠ .ok (.ok context) entered) :
    R world (after (runner.runBody action args props identity config).run world) := by
  have happroached := approach_respects hR runner props identity config world
  rw [runBody, ExceptT.run_bind]
  cases happroach : (runner.approach props identity config).run world with
  | error panic left =>
      rw [after_eq_of_panic happroach] at happroached
      rwa [after_eq_of_panic (bind_of_panic happroach _)]
  | ok approached entered =>
      rw [after_eq_of_ok happroach] at happroached
      rw [after_congr (bind_of_ok happroach _)]
      cases approached with
      | error e => exact happroached
      | ok context => exact absurd happroach (h context entered)

variable (hprovider : runner.provider.Obeys (Respects R))
variable (hinside : ∀ (scope : Scope) identity world, R world (scope.inside identity world))
variable (houtside : ∀ (scope : Scope) login guest world,
  R world (scope.outside login guest world))

include hprovider houtside

/-- Once its identity is acquired, a run goes on after its body with nothing but bookkeeping. -/
theorem runStages_acquired {prepared acquired : World} {plan : Plan} {identity : Identity}
    {config : Option Configuration}
    (hprepare : (runner.prepare action base).run world = .ok (.ok plan) prepared)
    (hacquire : (plan.scope runner).acquirer.acquire plan.spec (some plan.config) prepared =
      .ok ⟨.ok identity, config⟩ acquired) :
    R (after (runner.runBody action args plan.properties identity (config.getD plan.config)).run
        ((plan.scope runner).inside identity acquired))
      (after (runner.runStages action base args).run world) := by
  rw [after_runStages runner action base args hprepare]
  exact IsTrans.trans _ _ _ (houtside (plan.scope runner) prepared.login acquired.guest _)
    (Scope.run_outside (bookkeeping_discipline hR) _ hprovider hacquire _)

include hinside

theorem runStages_started {context : Context} {entered : World}
    (h : runner.Comes action base world (.started context entered)) :
    R (after start world) entered ∧
      R (after (action.body context args) entered)
        (after (runner.runStages action base args).run (after start world)) := by
  cases h with
  | started hprepare hacquire happroach =>
      rename_i plan prepared acquired identity config
      have hprepared := prepare_respects hR runner action base (after start world)
      have hacquired := Acquirer.acquire_obeys (bookkeeping_discipline hR)
        (plan.scope runner).acquirer hprovider plan.spec (some plan.config) prepared
      have hswitched := hinside (plan.scope runner) identity acquired
      have hentered := approach_respects hR runner plan.properties identity
        (config.getD plan.config) ((plan.scope runner).inside identity acquired)
      rw [after_eq_of_ok hprepare] at hprepared
      rw [after_eq_of_ok hacquire] at hacquired
      rw [after_eq_of_ok happroach] at hentered
      constructor
      · exact IsTrans.trans _ _ _ (IsTrans.trans _ _ _ hprepared hacquired)
          (IsTrans.trans _ _ _ hswitched hentered)
      · exact IsTrans.trans _ _ _ (runBody_entered runner action args hR happroach)
          (runStages_acquired runner action base args hR hprovider houtside hprepare hacquire)

theorem runStages_unstarted
    (h : ∀ context entered, ¬ runner.Comes action base world (.started context entered)) :
    R (after start world)
      (after (runner.runStages action base args).run (after start world)) := by
  have hprepared := prepare_respects hR runner action base (after start world)
  cases hprepare : (runner.prepare action base).run (after start world) with
  | error panic left =>
      rw [after_eq_of_panic hprepare] at hprepared
      rwa [after_eq_of_panic (runStages_of_stopped runner action base args hprepare)]
  | ok planned prepared =>
      rw [after_eq_of_ok hprepare] at hprepared
      cases planned with
      | error e =>
          have hstages : (runner.runStages action base args).run (after start world) =
              .ok (.error e) prepared := by
            unfold runStages
            rw [ExceptT.run_bind]
            exact bind_of_ok hprepare _
          rwa [after_eq_of_ok hstages]
      | ok plan =>
          refine IsTrans.trans _ _ _ hprepared ?_
          have hacquired := Acquirer.acquire_obeys (bookkeeping_discipline hR)
            (plan.scope runner).acquirer hprovider plan.spec (some plan.config) prepared
          cases hacquire : (plan.scope runner).acquirer.acquire plan.spec (some plan.config)
              prepared with
          | error panic left =>
              rw [after_eq_of_panic hacquire] at hacquired
              rwa [after_runStages runner action base args hprepare,
                after_eq_of_panic (Scope.run_of_panic _ hacquire _)]
          | ok acquisition acquired =>
              rw [after_eq_of_ok hacquire] at hacquired
              rcases acquisition with ⟨cause | identity, config⟩
              · rwa [after_eq_of_ok (runStages_of_refused runner action base args hprepare
                  hacquire)]
              · have hunentered := runBody_unentered runner action args hR
                  fun context entered happroach =>
                    h context entered (.started hprepare hacquire happroach)
                exact IsTrans.trans _ _ _
                  (IsTrans.trans _ _ _ hacquired (hinside (plan.scope runner) identity acquired))
                  (IsTrans.trans _ _ _ hunentered (runStages_acquired runner action base args hR
                    hprovider houtside hprepare hacquire))

end Split

/-- What a flush from some world comes to: whether the sheet was written, and the files then. -/
inductive Flushes (path : Option Path) (world : World) : Bool → FileTree → Prop
  | nothing (hsize : world.outputs.size = 0) : Flushes path world false world.files
  | written {destination : Path} {files : FileTree} (hsize : world.outputs.size ≠ 0)
      (hpath : path = some destination)
      (hwrite : world.files.writeText destination (world.outputs.render world.clock.longDate) =
        .ok files) : Flushes path world true files
  | unwritten (hsize : world.outputs.size ≠ 0)
      (hwrite : ∀ destination, path = some destination → ∀ files,
        world.files.writeText destination (world.outputs.render world.clock.longDate) ≠
          .ok files) : Flushes path world false world.files

section Flush

variable {path : Option Path} {world : World}

theorem flush_of_empty (hsize : world.outputs.size = 0) : flush path world = .ok false world := by
  unfold flush
  rw [get_bind]
  dsimp only
  rw [if_pos hsize]
  rfl

theorem flush_of_written {files : FileTree} (hsize : world.outputs.size ≠ 0)
    (hwrites : world.outputs.writeTo? world.clock.longDate world.files path = .ok files) :
    flush path world = .ok true { world with files := files, clock := world.clock.next } := by
  have hnow : now world = .ok world.clock { world with clock := world.clock.next } := rfl
  unfold flush
  rw [get_bind]
  dsimp only
  rw [if_neg hsize, bind_of_ok hnow, get_bind]
  dsimp only
  rw [hwrites]
  rfl

theorem flush_of_unwritten {e : OutputError} (hsize : world.outputs.size ≠ 0)
    (hfails : world.outputs.writeTo? world.clock.longDate world.files path = .error e) :
    flush path world = .ok false (after (reportError "Output properties not written")
      { world with clock := world.clock.next }) := by
  have hnow : now world = .ok world.clock { world with clock := world.clock.next } := rfl
  unfold flush
  rw [get_bind]
  dsimp only
  rw [if_neg hsize, bind_of_ok hnow, get_bind]
  dsimp only
  rw [hfails]
  rfl

end Flush

/-- A flush moves the clock on if there is a sheet, and otherwise changes nothing but files and log
records. -/
theorem flush_flushes (path : Option Path) (world : World) :
    ∃ written files records, Flushes path world written files ∧
      flush path world = .ok written { world with
        files := files
        records := records
        clock := if world.outputs.size = 0 then world.clock else world.clock.next } := by
  by_cases hsize : world.outputs.size = 0
  · refine ⟨false, world.files, world.records, .nothing hsize, ?_⟩
    rw [if_pos hsize]
    exact flush_of_empty hsize
  · rw [if_neg hsize]
    cases path with
    | none => exact ⟨false, world.files, _, .unwritten hsize nofun, flush_of_unwritten hsize rfl⟩
    | some destination =>
        have hwrites : world.outputs.writeTo? world.clock.longDate world.files
            (some destination) = (world.files.writeText destination
              (world.outputs.render world.clock.longDate)).mapError
                (OutputError.unwritable destination) := rfl
        cases hwrite : world.files.writeText destination
            (world.outputs.render world.clock.longDate) with
        | error e =>
            rw [hwrite] at hwrites
            refine ⟨false, world.files, _, .unwritten hsize ?_, flush_of_unwritten hsize hwrites⟩
            rintro _ ⟨⟩ files hfiles
            rw [hwrite] at hfiles
            cases hfiles
        | ok files =>
            rw [hwrite] at hwrites
            exact ⟨true, files, world.records, .written hsize rfl hwrite,
              flush_of_written hsize hwrites⟩

/-- What the flush is about, and what stays of it. -/
structure Delivery where
  files : FileTree
  clock : Time.Timestamp
  outputs : OutputSheet
  flushes : List Event
  run : Uuid

end Runner

namespace World

def delivery (world : World) : Runner.Delivery :=
  ⟨world.files, world.clock, world.outputs, world.events.filter Event.isFlush, world.stages.run⟩

theorem filter_told {p : Event → Bool} {event : Event} (h : p event = false) (announce : Bool) :
    (told announce event).filter p = [] := by
  cases announce <;> simp [told, h]

theorem filter_told_of_flush {event : Event} (h : event.isFlush = true) (announce : Bool) :
    (told announce event).filter Event.isFlush = told announce event := by
  cases announce <;> simp [told, h]

theorem flushes_append {events : List Event} {event : Event} (h : event.isFlush = false)
    (announce : Bool) :
    (events ++ told announce event).filter Event.isFlush = events.filter Event.isFlush := by
  rw [List.filter_append, filter_told h, List.append_nil]

end World

namespace Runner

theorem delivery_bookkeeping : Bookkeeping (Same World.delivery) where
  logs _ _ := rfl
  exports _ _ _ _ := rfl
  tags _ _ := rfl
  tells world announce event h := by
    show World.delivery _ = World.delivery _
    rw [World.delivery, World.delivery, World.published, World.flushes_append h]
  moves world announce target _ := by
    show World.delivery _ = World.delivery _
    have hmoved : (Event.moved world.stages.run world.stages.current target).isFlush = false := rfl
    rw [World.delivery, World.delivery, World.moved]
    exact congrArg (Delivery.mk _ _ _ · _) (World.flushes_append hmoved announce)

theorem advance_goesOn (announce : Bool) (target : Stage) (good bad : Launch Unit)
    (world : World) :
    ∃ moved, Same World.delivery world moved ∧
      ((do
        match ← advance announce target with
        | .ok _ => good
        | .error _ => bad : Launch Unit) world = good moved ∨
      (do
        match ← advance announce target with
        | .ok _ => good
        | .error _ => bad : Launch Unit) world = bad moved) := by
  cases hallows : world.stages.current.allows target with
  | true =>
      exact ⟨world.moved announce target, delivery_bookkeeping.moves world announce target hallows,
        .inl (bind_of_ok (advance_eq hallows) _)⟩
  | false => exact ⟨world, rfl, .inr (bind_of_ok (advance_refused hallows) _)⟩

section Finish

variable (runner : Runner) (action : Action) (result : Except ActionError Unit)

/-- The event that tells of the flush of the sheet that there is. -/
def flushEvent (world : World) (written : Bool) : Event :=
  .outputsFlushed world.stages.run (UInt64.ofNat world.outputs.size)
    (runner.properties.outputPath?.map Path.text) written

/-- What the end of a run tells once the sheet is flushed. -/
def tell (written : Bool) : Launch Unit := do
  let run := (← get).stages.run
  publish runner.announce (.outputsFlushed run (UInt64.ofNat (← get).outputs.size)
    (runner.properties.outputPath?.map Path.text) written)
  let finished := publish runner.announce
    (.actionFinished run action.name result.isOk (Int32.ofNat (exitCode result)))
  match ← advance runner.announce .done with
  | .ok _ => finished
  | .error _ => do
      Launch.warn "Unexpected lifecycle stage at completion"
      finished

theorem finish_eq : runner.finish action result = (do
    let written ← flush runner.properties.outputPath?
    match ← advance runner.announce .outputsFlushed with
    | .ok _ => runner.tell action result written
    | .error _ => do
        Launch.warn "Unexpected lifecycle stage at flush"
        runner.tell action result written) := by
  unfold finish
  cases result <;> rfl

theorem tell_tells (written : Bool) (world : World) :
    Same World.delivery (world.published runner.announce (runner.flushEvent world written))
      (after (runner.tell action result written) world) := by
  have hfinished (run : Uuid) : Respects (Same World.delivery) (publish runner.announce
      (.actionFinished run action.name result.isOk (Int32.ofNat (exitCode result)))) :=
    publish_respects delivery_bookkeeping _ rfl
  unfold tell
  rw [after_congr (get_bind _ _), after_congr (get_bind _ _),
    after_congr (bind_of_ok (publish_eq _ _ _) _)]
  exact moved_obeys (bookkeeping_discipline delivery_bookkeeping)
    (advance_respects delivery_bookkeeping _ _) (hfinished _)
    (.bind (log_respects delivery_bookkeeping _ _ _) fun _ => hfinished _) _

theorem finish_flushes (world : World) :
    let final := after (runner.finish action result) world
    ∃ written, Flushes runner.properties.outputPath? world written final.files ∧
      final.outputs = world.outputs ∧
      final.events.filter Event.isFlush = world.events.filter Event.isFlush ++
        World.told runner.announce (runner.flushEvent world written) := by
  intro final
  obtain ⟨written, files, records, hflushes, hflush⟩ :=
    flush_flushes runner.properties.outputPath? world
  generalize hflushed : { world with
    files := files
    records := records
    clock := if world.outputs.size = 0 then world.clock else world.clock.next } = flushed at hflush
  have hstages : flushed.stages = world.stages := hflushed ▸ rfl
  have houtputs : flushed.outputs = world.outputs := hflushed ▸ rfl
  have hevents : flushed.events = world.events := hflushed ▸ rfl
  have hfiles : flushed.files = files := hflushed ▸ rfl
  obtain ⟨there, hthere, hfinal⟩ : ∃ there, Same World.delivery flushed there ∧
      final = after (runner.tell action result written) there := by
    have hfinish : runner.finish action result world = _ :=
      (congrFun (finish_eq runner action result) world).trans (bind_of_ok hflush _)
    let bad : Launch Unit := do
      Launch.warn "Unexpected lifecycle stage at flush"
      runner.tell action result written
    obtain ⟨moved, hmoved, hgoes | hgoes⟩ := advance_goesOn runner.announce .outputsFlushed
      (runner.tell action result written) bad flushed
    · exact ⟨moved, hmoved, after_congr (hfinish.trans hgoes)⟩
    · refine ⟨after (warn "Unexpected lifecycle stage at flush") moved, hmoved,
        after_congr (hfinish.trans (hgoes.trans ?_))⟩
      exact bind_of_ok rfl _
  have htells := runner.tell_tells action result written there
  rw [← hfinal] at htells
  have hsheet : there.outputs = world.outputs :=
    (congrArg Delivery.outputs hthere).trans houtputs
  have hevent : runner.flushEvent there written = runner.flushEvent world written := by
    have hrun : there.stages.run = world.stages.run :=
      (congrArg Delivery.run hthere).trans (congrArg Tracker.run hstages)
    rw [flushEvent, flushEvent, hrun, hsheet]
  refine ⟨written, ?_, (congrArg Delivery.outputs htells).trans hsheet, ?_⟩
  · rw [show final.files = flushed.files from
      (congrArg Delivery.files htells).trans (congrArg Delivery.files hthere), hfiles]
    exact hflushes
  · calc final.events.filter Event.isFlush
      _ = (there.events ++
            World.told runner.announce (runner.flushEvent there written)).filter Event.isFlush :=
          congrArg Delivery.flushes htells
      _ = there.events.filter Event.isFlush ++
            World.told runner.announce (runner.flushEvent there written) := by
          rw [List.filter_append, World.filter_told_of_flush rfl]
      _ = flushed.events.filter Event.isFlush ++
            World.told runner.announce (runner.flushEvent there written) :=
          congrArg (· ++ _) (congrArg Delivery.flushes hthere)
      _ = world.events.filter Event.isFlush ++
            World.told runner.announce (runner.flushEvent world written) := by
          rw [hevents, hevent]

end Finish

/-- The run has delivered the output properties, from the world that its stages left: they are on
the sheet in the order in which the keys were first set, with the values set last, and the sheet is
written if there is one, a destination, and nothing in the way of it. -/
structure Delivers (runner : Runner) (sets : List (String × String)) (left final : World)
    (written : Bool) : Prop where
  keys : final.outputs.table.keys = (sets.map Prod.fst).eraseDups
  values : ∀ key, final.outputs.table.get? key = sets.reverse.lookup key
  written_iff : written = true ↔ sets ≠ [] ∧ ∃ path files,
    runner.properties.outputPath? = some path ∧
      left.files.writeText path (final.outputs.render left.clock.longDate) = .ok files
  stores : written = true → ∃ path, runner.properties.outputPath? = some path ∧
    left.files.writeText path (final.outputs.render left.clock.longDate) = .ok final.files ∧
    final.files.stat path =
      .ok (.file (final.outputs.render left.clock.longDate).toUTF8.toList none)
  /-- Whoever reads the file by the rules of property files gets every key that was set, in the
  order of the first settings, with its last value, and nothing else. -/
  reads : written = true → ∃ path text entries, runner.properties.outputPath? = some path ∧
    final.files.stat path = .ok (.file text.toUTF8.toList none) ∧
    PropertyFile.read text = some entries ∧
    entries.map Prod.fst = (sets.map Prod.fst).eraseDups ∧
    ∀ key value, (key, value) ∈ entries ↔ sets.reverse.lookup key = some value
  spares : written = false → final.files = left.files
  holds_iff : ∀ path, runner.properties.outputPath? = some path →
    left.files.stat path ≠
      .ok (.file (final.outputs.render left.clock.longDate).toUTF8.toList none) →
    (final.files.stat path =
      .ok (.file (final.outputs.render left.clock.longDate).toUTF8.toList none) ↔ written = true)
  tells : runner.announce = true →
    final.events.filter Event.isFlush = left.events.filter Event.isFlush ++
      [.outputsFlushed left.stages.run (UInt64.ofNat (sets.map Prod.fst).eraseDups.length)
        (runner.properties.outputPath?.map Path.text) written]

theorem size_ofSets (sets : List (String × String)) :
    (OutputSheet.ofSets sets).size = (sets.map Prod.fst).eraseDups.length := by
  rw [OutputSheet.size, OutputSheet.table_ofSets, ← Table.keys_ofList]
  exact (List.length_map Prod.fst).symm

theorem size_ofSets_eq_zero_iff (sets : List (String × String)) :
    (OutputSheet.ofSets sets).size = 0 ↔ sets = [] := by
  rw [size_ofSets]
  cases sets with
  | nil => simp
  | cons set sets => simp [List.eraseDups_cons]

section Delivery

variable {runner : Runner} {sets : List (String × String)} {path : Option Path}
  {written : Bool} {files : FileTree}

theorem Flushes.of_same {world next : World} (hsame : Same World.delivery world next)
    (h : Flushes path next written files) : Flushes path world written files := by
  have hfiles : next.files = world.files := congrArg Delivery.files hsame
  have hclock : next.clock = world.clock := congrArg Delivery.clock hsame
  have houtputs : next.outputs = world.outputs := congrArg Delivery.outputs hsame
  cases h with
  | nothing hsize =>
      rw [houtputs] at hsize
      rw [hfiles]
      exact .nothing hsize
  | written hsize hpath hwrite =>
      rw [houtputs] at hsize
      rw [houtputs, hclock, hfiles] at hwrite
      exact .written hsize hpath hwrite
  | unwritten hsize hwrite =>
      rw [houtputs] at hsize
      rw [houtputs, hclock, hfiles] at hwrite
      rw [hfiles]
      exact .unwritten hsize hwrite

theorem Flushes.delivers {left final : World}
    (h : Flushes runner.properties.outputPath? left written files) (hfiles : final.files = files)
    (hsheet : left.outputs = .ofSets sets) (hkept : final.outputs = left.outputs)
    (htells : final.events.filter Event.isFlush = left.events.filter Event.isFlush ++
      World.told runner.announce (runner.flushEvent left written)) :
    runner.Delivers sets left final written := by
  have hsize : left.outputs.size = 0 ↔ sets = [] := by
    rw [hsheet, size_ofSets_eq_zero_iff]
  have htable : final.outputs.table = .ofList sets := by
    rw [hkept, hsheet, OutputSheet.table_ofSets]
  have hstores : written = true → ∃ path, runner.properties.outputPath? = some path ∧
      left.files.writeText path (final.outputs.render left.clock.longDate) = .ok final.files ∧
      final.files.stat path =
        .ok (.file (final.outputs.render left.clock.longDate).toUTF8.toList none) := by
    rw [hkept]
    rintro rfl
    cases h with
    | written hsome hpath hwrite =>
        rw [← hfiles] at hwrite
        exact ⟨_, hpath, hwrite, FileTree.stat_writeText hwrite⟩
  have hspares : written = false → final.files = left.files := by
    rintro rfl
    cases h with
    | nothing _ | unwritten _ _ => exact hfiles
  constructor
  case keys => rw [htable, Table.keys_ofList]
  case values =>
    intro key
    rw [htable, Table.get?_ofList]
  case written_iff =>
    rw [hkept, ne_eq, ← hsize]
    cases h with
    | nothing hnone => simp [hnone]
    | written hsome hpath hwrite => simp [hsome, hpath, hwrite]
    | unwritten hsome hwrite =>
        simp only [Bool.false_eq_true, false_iff]
        rintro ⟨-, destination, files, hpath, hwritten⟩
        exact hwrite destination hpath files hwritten
  case stores => exact hstores
  case reads =>
    intro hwritten
    obtain ⟨path, hpath, -, hholds⟩ := hstores hwritten
    obtain ⟨entries, hread, -, hkeys, hvalues⟩ :=
      OutputSheet.read_render_ofSets sets left.clock
    rw [hkept, hsheet] at hholds
    exact ⟨path, _, entries, hpath, hholds, hread, hkeys, hvalues⟩
  case spares => exact hspares
  case holds_iff =>
    intro path hpath hbefore
    constructor
    · intro hafter
      by_contra hwritten
      rw [hspares (Bool.not_eq_true _ ▸ hwritten)] at hafter
      exact hbefore hafter
    · intro hwritten
      obtain ⟨destination, hdestination, -, hholds⟩ := hstores hwritten
      cases hpath.symm.trans hdestination
      exact hholds
  case tells =>
    intro hannounce
    rw [htells, hannounce, flushEvent, hsheet, size_ofSets]
    rfl

variable (runner : Runner) (action : Action) (base : Configuration) (args : List String)
variable {world : World}

theorem run_eq {ended : Except Panic (Except ActionError Unit)}
    (hended : ending (runner.runStages action base args).run (after start world) = ended) :
    runner.run action base args world = resume ended
      { after (runner.finish action (outcome ended)) (after (runner.report action ended)
          (after (runner.runStages action base args).run (after start world)))
        with inRun := false } := by
  obtain ⟨⟨_, hreport⟩, -⟩ := report_ends runner action ended
    (after (runner.runStages action base args).run (after start world))
  obtain ⟨⟨_, hfinish⟩, -⟩ := finish_ends runner action (outcome ended) (after
    (runner.report action ended) (after (runner.runStages action base args).run
      (after start world)))
  exact run_eq_of_finished runner action base args hended rfl (eq_ok_of_ending hreport)
    (eq_ok_of_ending hfinish)

theorem delivers_of_outputs
    (h : (after (runner.runStages action base args).run (after start world)).outputs =
      .ofSets sets) :
    ∃ written, runner.Delivers sets
      (after (runner.runStages action base args).run (after start world))
      (after (runner.run action base args) world) written := by
  let left := after (runner.runStages action base args).run (after start world)
  let ended := ending (runner.runStages action base args).run (after start world)
  let reported := after (runner.report action ended) left
  have hreported : Same World.delivery left reported :=
    report_respects delivery_bookkeeping runner action ended left
  obtain ⟨written, hflushes, houtputs, hevents⟩ :=
    finish_flushes runner action (outcome ended) reported
  have hrun : after (runner.run action base args) world = after (resume ended) _ :=
    after_congr (runner.run_eq action base args rfl)
  have hfinal : Same World.delivery (after (runner.finish action (outcome ended)) reported)
      (after (runner.run action base args) world) := by
    show World.delivery _ = World.delivery _
    rw [hrun, after_resume]
    rfl
  refine ⟨written, (hflushes.of_same hreported).delivers (congrArg Delivery.files hfinal) h ?_ ?_⟩
  · exact (congrArg Delivery.outputs hfinal).trans
      (houtputs.trans (congrArg Delivery.outputs hreported))
  · have hevent : runner.flushEvent reported written = runner.flushEvent left written := by
      rw [flushEvent, flushEvent,
        show reported.stages.run = left.stages.run from congrArg Delivery.run hreported,
        show reported.outputs = left.outputs from congrArg Delivery.outputs hreported]
    calc (after (runner.run action base args) world).events.filter Event.isFlush
      _ = (after (runner.finish action (outcome ended)) reported).events.filter Event.isFlush :=
          congrArg Delivery.flushes hfinal
      _ = reported.events.filter Event.isFlush ++
            World.told runner.announce (runner.flushEvent reported written) := hevents
      _ = left.events.filter Event.isFlush ++
            World.told runner.announce (runner.flushEvent left written) := by
          rw [hevent, show reported.events.filter Event.isFlush =
            left.events.filter Event.isFlush from congrArg Delivery.flushes hreported]

theorem outputs_bookkeeping : Bookkeeping (Same World.outputs) where
  logs _ _ := rfl
  exports _ _ _ _ := rfl
  tags _ _ := rfl
  tells _ _ _ _ := rfl
  moves _ _ _ _ := rfl

variable (hprovider : runner.provider.Obeys (Respects (Same World.outputs)))

include hprovider

theorem delivers_started {context : Context} {entered : World}
    (h : runner.Comes action base world (.started context entered))
    (hsets : SetsOutputs sets (action.body context args) entered) :
    ∃ written, runner.Delivers sets
      (after (runner.runStages action base args).run (after start world))
      (after (runner.run action base args) world) written := by
  obtain ⟨hentered, hleft⟩ := runStages_started runner action base args outputs_bookkeeping
    hprovider (Scope.same_inside fun _ _ _ _ => rfl) (Scope.same_outside fun _ _ _ _ => rfl) h
  have hempty : entered.outputs = .empty := hentered
  refine runner.delivers_of_outputs action base args (hleft.trans ?_)
  rw [hsets, hempty]
  rfl

theorem delivers_unstarted
    (h : ∀ context entered, ¬ runner.Comes action base world (.started context entered)) :
    ∃ written, runner.Delivers []
      (after (runner.runStages action base args).run (after start world))
      (after (runner.run action base args) world) written := by
  have hleft := runStages_unstarted runner action base args outputs_bookkeeping
    hprovider (Scope.same_inside fun _ _ _ _ => rfl) (Scope.same_outside fun _ _ _ _ => rfl) h
  exact runner.delivers_of_outputs action base args hleft

end Delivery

end Runner

end ActionLauncher

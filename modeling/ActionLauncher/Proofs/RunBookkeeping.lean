import ActionLauncher.Proofs.RunStages
import ActionLauncher.Proofs.ScopeTree

/-!
What the launcher itself does to the world in a run.  Between the provider, the body and the flush
it logs, exports the location of the tokens, tags, publishes and moves from stage to stage; so a
relation that these five keep is kept by all of that.
-/

namespace ActionLauncher

open Launch

def Event.isFlush : Event → Bool
  | .outputsFlushed .. => true
  | _ => false

namespace Launch

variable {α β ε : Type} {R : World → World → Prop} [IsPreorder World R]

theorem Respects.run_bind {x : ExceptT ε Launch α} {f : α → ExceptT ε Launch β}
    (hx : Respects R x.run) (hf : ∀ a, Respects R (f a).run) : Respects R (x >>= f).run := by
  rw [ExceptT.run_bind]
  refine .bind hx fun result => ?_
  cases result with
  | ok a => exact hf a
  | error e => exact .pure _

theorem Respects.run_pure (a : α) : Respects R (pure a : ExceptT ε Launch α).run :=
  .pure _

theorem Respects.run_throw (e : ε) : Respects R (throw e : ExceptT ε Launch α).run :=
  .pure _

omit [IsPreorder World R] in
theorem Respects.run_lift {x : Launch α} (hx : Respects R x) :
    Respects R (liftM x : ExceptT ε Launch α).run :=
  hx.map Except.ok

theorem Respects.run_get : Respects R (get : ExceptT ε Launch World).run :=
  fun world => Std.Refl.refl world

theorem Respects.foldlM {f : β → α → Launch β} {list : List α}
    (hf : ∀ b, ∀ a ∈ list, Respects R (f b a)) (b : β) : Respects R (list.foldlM f b) := by
  induction list generalizing b with
  | nil => exact .pure b
  | cons a rest ih =>
      rw [List.foldlM_cons]
      exact .bind (hf b a List.mem_cons_self) fun b =>
        ih (fun b a ha => hf b a (List.mem_cons_of_mem _ ha)) b

end Launch

namespace Runner

section Obeys

variable {P : {α : Type} → Launch α → Prop} (hP : Discipline P) (runner : Runner) (action : Action)

include hP

theorem moved_obeys {announce : Bool} {target : Stage} {good bad : Launch Unit}
    (hadvance : P (advance announce target)) (hgood : P good) (hbad : P bad) :
    P (do
      match ← advance announce target with
      | .ok _ => good
      | .error _ => bad) := by
  refine hP.bind hadvance fun moved => ?_
  cases moved with
  | ok _ => exact hgood
  | error _ => exact hbad

theorem report_obeys
    (hpublish : ∀ event : Event, event.isFlush = false → P (publish runner.announce event))
    (hfail : P (fail runner.announce)) (ended : Except Panic (Except ActionError Unit)) :
    P (runner.report action ended) := by
  have hfailure (e : ActionError) : P (runner.reportFailure action e) := by
    unfold reportFailure
    dsimp only
    split
    · exact hP.bind (hP.log _ _ _) fun _ => hP.bind hP.get fun _ =>
        hP.bind (hpublish _ rfl) fun _ => hfail
    · exact hfail
  rcases ended with panic | (e | _)
  · exact hP.bind (hP.log _ _ _) fun _ => hfailure _
  · exact hfailure e
  · exact hP.pure _

theorem finish_obeys (hflush : P (flush runner.properties.outputPath?))
    (hadvance : ∀ target, P (advance runner.announce target))
    (hpublish : ∀ event, P (publish runner.announce event)) (result : Except ActionError Unit) :
    P (runner.finish action result) := by
  have htell (flushed : World → World → Event) (finished : World → Event) : P (do
      let world ← get
      let world' ← get
      publish runner.announce (flushed world world')
      match ← advance runner.announce .done with
      | .ok _ => publish runner.announce (finished world)
      | .error _ => do
          warn "Unexpected lifecycle stage at completion"
          publish runner.announce (finished world)) :=
    hP.bind hP.get fun _ => hP.bind hP.get fun _ => hP.bind (hpublish _) fun _ =>
      moved_obeys hP (hadvance _) (hpublish _) (hP.bind (hP.log _ _ _) fun _ => hpublish _)
  exact hP.bind hflush fun written =>
    moved_obeys hP (hadvance _) (htell _ _) (hP.bind (hP.log _ _ _) fun _ => htell _ _)

end Obeys

/-- The relation is kept by everything that the launcher does on its own. -/
structure Bookkeeping (R : World → World → Prop) : Prop where
  logs : ∀ (world : World) (records : List Record), R world { world with records := records }
  exports : ∀ (world : World) (key value : String), key ∈ Names.credentialKeys →
    R world { world with
      environment := world.environment.insert (Properties.variableName key) value }
  tags : ∀ (world : World) (span : List (String × String)), R world { world with span := span }
  tells : ∀ (world : World) (announce : Bool) (event : Event), event.isFlush = false →
    R world (world.published announce event)
  moves : ∀ (world : World) (announce : Bool) (target : Stage),
    world.stages.current.allows target = true → R world (world.moved announce target)

theorem advance_refused {announce : Bool} {target : Stage} {world : World}
    (h : world.stages.current.allows target = false) :
    advance announce target world = .ok (.error ⟨world.stages.current, target⟩) world := by
  unfold advance
  rw [get_bind, Tracker.advance, Stage.check, h]
  rfl

variable {R : World → World → Prop} [IsPreorder World R]

theorem advance_respects (hR : Bookkeeping R) (announce : Bool) (target : Stage) :
    Respects R (advance announce target) := by
  intro world
  cases hallows : world.stages.current.allows target with
  | true =>
      rw [after_eq_of_ok (advance_eq hallows)]
      exact hR.moves world announce target hallows
  | false =>
      rw [after_eq_of_ok (advance_refused hallows)]
      exact Std.Refl.refl world

theorem fail_respects (hR : Bookkeeping R) (announce : Bool) : Respects R (fail announce) := by
  intro world
  cases houtcome : world.stages.current.hasOutcome with
  | true =>
      rw [after_eq_of_ok (fail_of_hasOutcome houtcome)]
      exact Std.Refl.refl world
  | false =>
      rw [after_eq_of_ok (fail_eq houtcome)]
      exact hR.moves world announce .failed (by simp [Stage.allows, houtcome])

omit [IsPreorder World R] in
theorem publish_respects (hR : Bookkeeping R) (announce : Bool) {event : Event}
    (hevent : event.isFlush = false) : Respects R (publish announce event) := by
  intro world
  rw [after_eq_of_ok (publish_eq announce event world)]
  exact hR.tells world announce event hevent

omit [IsPreorder World R] in
theorem log_respects (hR : Bookkeeping R) (level : Level) (message : String)
    (fields : List (String × String)) : Respects R (log level message fields) :=
  fun world => hR.logs world _

theorem bookkeeping_discipline (hR : Bookkeeping R) : Discipline (Respects R) :=
  .respects (log_respects hR)

theorem reach_respects (hR : Bookkeeping R) (announce : Bool) (target : Stage) :
    Respects R (reach announce target).run :=
  .bind (advance_respects hR announce target) fun _ => .pure _

theorem propagate_respects (hR : Bookkeeping R) (propagator : Propagator) (props : Properties)
    (config : Configuration) : Respects R (propagator.propagate props config) := by
  unfold Propagator.propagate
  split
  · exact .pure _
  · refine .bind (.foldlM (fun props key hkey => ?_) _) fun _ => .pure _
    unfold exportProperty
    dsimp only
    split
    · exact .throw _
    · exact .bind (fun world => hR.exports world key _ hkey) fun _ => .pure _

theorem method_respects (hR : Bookkeeping R) (props : Properties) : Respects R (method props) := by
  unfold method
  split
  · exact .pure _
  · split
    · exact .pure _
    · exact .bind (log_respects hR _ _ _) fun _ => .pure _

theorem prepare_respects (hR : Bookkeeping R) (runner : Runner) (action : Action)
    (base : Configuration) : Respects R (runner.prepare action base).run := by
  have hwarnings (messages : List String) : Respects R (messages.forM fun message =>
      (liftM (warn message) : ExceptT ActionError Launch Unit)).run := by
    induction messages with
    | nil => exact .run_pure _
    | cons message rest ih => exact .run_bind (log_respects hR _ _ _).run_lift fun _ => ih
  have hplan (props : Properties) (config : Configuration) : Respects R (do
      reach runner.announce .credentialsPropagated
      let method ← (method props : Launch _)
      return ⟨props, config, method⟩ : ExceptT ActionError Launch Plan).run :=
    .run_bind (reach_respects hR _ _) fun _ =>
      .run_bind (method_respects hR _).run_lift fun _ => .run_pure _
  unfold prepare
  refine .run_bind .run_get fun world => ?_
  refine .run_bind (hwarnings _) fun _ => .run_bind (reach_respects hR _ _) fun _ => ?_
  refine .run_bind (propagate_respects hR _ _ _).run_lift fun found => ?_
  obtain ⟨location, props, config⟩ := found
  cases location with
  | none => exact hplan _ _
  | some location =>
      exact .run_bind (publish_respects hR _ rfl).run_lift fun _ => hplan _ _

theorem approach_respects (hR : Bookkeeping R) (runner : Runner) (props : Properties)
    (identity : Identity) (config : Configuration) :
    Respects R (runner.approach props identity config).run := by
  have htag (span : List (String × String)) :
      Respects R (modify fun world => { world with span := span } :
        ExceptT ActionError Launch Unit).run :=
    fun world => hR.tags world span
  unfold approach
  refine .run_bind (reach_respects hR _ _) fun _ => .run_bind (htag _) fun _ => ?_
  exact .run_bind (reach_respects hR _ _) fun _ => .run_bind (reach_respects hR _ _) fun _ =>
    .run_pure _

theorem conclude_respects (hR : Bookkeeping R) (runner : Runner) (ended : Except String Unit) :
    Respects R (runner.conclude ended).run := by
  cases ended with
  | ok _ => exact reach_respects hR _ _
  | error message =>
      refine .run_bind (log_respects hR _ _ _).run_lift fun _ => ?_
      exact .run_bind (fail_respects hR _).run_lift fun _ => .run_throw _

theorem report_respects (hR : Bookkeeping R) (runner : Runner) (action : Action)
    (ended : Except Panic (Except ActionError Unit)) : Respects R (runner.report action ended) :=
  report_obeys (bookkeeping_discipline hR) runner action
    (fun _ hevent => publish_respects hR _ hevent) (fail_respects hR _) ended

section Ends

abbrev Ends {α : Type} (x : Launch α) : Prop :=
  Returns (Same fun _ : World => ()) x

theorem publish_ends (announce : Bool) (event : Event) : Ends (publish announce event) := by
  intro world
  exact ⟨⟨(), ending_eq_of_ok (publish_eq announce event world)⟩, rfl⟩

theorem advance_ends (announce : Bool) (target : Stage) : Ends (advance announce target) := by
  intro world
  cases hallows : world.stages.current.allows target with
  | true => exact ⟨⟨_, ending_eq_of_ok (advance_eq hallows)⟩, rfl⟩
  | false => exact ⟨⟨_, ending_eq_of_ok (advance_refused hallows)⟩, rfl⟩

theorem fail_ends (announce : Bool) : Ends (fail announce) := by
  intro world
  cases houtcome : world.stages.current.hasOutcome with
  | true => exact ⟨⟨_, ending_eq_of_ok (fail_of_hasOutcome houtcome)⟩, rfl⟩
  | false => exact ⟨⟨_, ending_eq_of_ok (fail_eq houtcome)⟩, rfl⟩

theorem ends_discipline : Discipline Ends :=
  .returns fun _ _ _ => .modify fun _ => rfl

theorem report_ends (runner : Runner) (action : Action)
    (ended : Except Panic (Except ActionError Unit)) : Ends (runner.report action ended) :=
  report_obeys ends_discipline runner action (fun _ _ => publish_ends _ _) (fail_ends _) ended

theorem finish_ends (runner : Runner) (action : Action) (result : Except ActionError Unit) :
    Ends (runner.finish action result) :=
  finish_obeys ends_discipline runner action (fun world => ⟨(flush_returns _ world).1, rfl⟩)
    (advance_ends _) (publish_ends _) result

end Ends

end Runner

end ActionLauncher

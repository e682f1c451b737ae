import Mathlib.Logic.Relation
import ActionLauncher.Proofs.BodyConduct
import ActionLauncher.Proofs.RunBookkeeping

namespace ActionLauncher

open Launch

namespace Tracker

/-- One tracker comes from another by a move that runs make. -/
def Moves (tracker next : Tracker) : Prop :=
  ∃ target, tracker.current.allows target = true ∧
    next = { tracker with current := target, history := tracker.history ++ [target] }

/-- The history holds the current stage, no stage without outcome follows an outcome, and there is
one outcome at most. -/
structure Settled (tracker : Tracker) : Prop where
  current_mem : tracker.current ∈ tracker.history
  stays : ∀ stage ∈ tracker.history, stage.hasOutcome = true → tracker.current.hasOutcome = true
  one : .succeeded ∈ tracker.history → .failed ∉ tracker.history

theorem settled_start (run : Uuid) : (start run).Settled where
  current_mem := by simp [start]
  stays := by simp [start]
  one := by simp [start]

theorem hasOutcome_of_allows {source target : Stage} (h : source.allows target = true)
    (hsource : source.hasOutcome = true) :
    target.hasOutcome = true ∧ target ≠ .succeeded ∧ target ≠ .failed := by
  cases source <;> cases target <;> simp_all [Stage.allows, Stage.next?, Stage.hasOutcome]

variable {tracker next : Tracker}

theorem Settled.moves (h : tracker.Settled) (hmoves : tracker.Moves next) : next.Settled := by
  obtain ⟨target, hallows, rfl⟩ := hmoves
  have hafter {stage : Stage} (hmem : stage ∈ tracker.history) (hstage : stage.hasOutcome = true) :=
    hasOutcome_of_allows hallows (h.stays stage hmem hstage)
  refine ⟨by simp, ?_, ?_⟩
  · intro stage hmem hstage
    rcases List.mem_append.1 hmem with hmem | hmem
    · exact (hafter hmem hstage).1
    · rw [← List.mem_singleton.1 hmem]
      exact hstage
  · -- An outcome in the history keeps the move from being another one.
    intro hsucceeded hfailed
    rcases List.mem_append.1 hsucceeded with hmem | hmem <;>
      rcases List.mem_append.1 hfailed with hmem' | hmem'
    · exact h.one hmem hmem'
    · exact (hafter hmem rfl).2.2 (List.mem_singleton.1 hmem').symm
    · exact (hafter hmem' rfl).2.1 (List.mem_singleton.1 hmem).symm
    · exact absurd ((List.mem_singleton.1 hmem).trans (List.mem_singleton.1 hmem').symm) (by decide)

theorem Settled.reaches (h : tracker.Settled)
    (hreaches : Relation.ReflTransGen Moves tracker next) : next.Settled := by
  induction hreaches with
  | refl => exact h
  | tail _ hmoves ih => exact ih.moves hmoves

theorem history_extends (hreaches : Relation.ReflTransGen Moves tracker next) :
    tracker.history <+: next.history := by
  induction hreaches with
  | refl => exact List.prefix_rfl
  | tail _ hmoves ih =>
      obtain ⟨target, -, rfl⟩ := hmoves
      exact ih.trans (List.prefix_append _ _)

theorem Settled.succeeded_iff (h : tracker.Settled)
    (houtcome : tracker.current = .succeeded ∨ tracker.current = .failed)
    (hreaches : Relation.ReflTransGen Moves tracker next) :
    .succeeded ∈ next.history ↔ tracker.current = .succeeded := by
  have hcurrent : tracker.current ∈ next.history :=
    (history_extends hreaches).subset h.current_mem
  constructor
  · intro hmem
    refine houtcome.resolve_right fun hfailed => (h.reaches hreaches).one hmem ?_
    rwa [← hfailed]
  · intro hsucceeded
    rwa [← hsucceeded]

end Tracker

/-- The stages have changed by moves that runs make. -/
def World.Onward (world next : World) : Prop :=
  Relation.ReflTransGen Tracker.Moves world.stages next.stages

instance : IsPreorder World World.Onward where
  refl _ := .refl
  trans _ _ _ := .trans

theorem World.onward_of_stages {world next : World} (h : next.stages = world.stages) :
    world.Onward next := by
  rw [Onward, h]

namespace Launch

variable {α : Type}

theorem Returns.onward {x : Launch α} (h : Returns (Same World.standing) x) :
    Respects World.Onward x :=
  h.respects.mono fun _ _ hsame => World.onward_of_stages (congrArg Standing.stages hsame)

theorem Respects.onward {x : Launch α} (h : Respects Aside x) : Respects World.Onward x :=
  h.mono fun _ _ haside => World.onward_of_stages haside.1

theorem publish_onward (announce : Bool) (event : Event) :
    Respects World.Onward (publish announce event) := by
  intro world
  rw [after_eq_of_ok (publish_eq announce event world)]
  exact .refl

end Launch

namespace Runner

theorem onward_bookkeeping : Bookkeeping World.Onward where
  logs _ _ := .refl
  exports _ _ _ _ := .refl
  tags _ _ := .refl
  tells _ _ _ _ := .refl
  moves _ _ target hallows := .single ⟨target, hallows, rfl⟩

section Run

variable (runner : Runner) (action : Action)
variable (hbody : ∀ context args, Respects Aside (action.body context args))

include hbody

theorem runBody_onward (args : List String) (props : Properties) (identity : Identity)
    (config : Configuration) :
    Respects World.Onward (runner.runBody action args props identity config).run :=
  .run_bind (approach_respects onward_bookkeeping _ _ _ _) fun context =>
    .run_bind (hbody context args).onward.run_lift fun ended =>
      conclude_respects onward_bookkeeping runner ended

theorem runStages_onward (hprovider : runner.provider.Obeys (Returns (Same World.standing)))
    (base : Configuration) (args : List String) :
    Respects World.Onward (runner.runStages action base args).run := by
  have hobeys : runner.provider.Obeys (Respects World.Onward) :=
    hprovider.mono fun _ hx => hx.onward
  have hscope (plan : Plan) : Respects World.Onward
      ((plan.scope runner).run plan.spec plan.config fun identity config =>
        (runner.runBody action args plan.properties identity config).run) :=
    Scope.run_respects (bookkeeping_discipline onward_bookkeeping) _ hobeys
      (fun identity world => World.onward_of_stages (Scope.inside_aside _ identity world).1)
      (fun login guest world =>
        World.onward_of_stages (Scope.outside_aside _ login guest world).1) _ _
      fun identity config => runBody_onward runner action hbody args _ identity config
  refine .run_bind (prepare_respects onward_bookkeeping _ _ _) fun plan => ?_
  refine .run_bind (hscope plan).run_lift fun ended => ?_
  rcases ended with cause | (e | _)
  · exact .run_throw _
  · exact .run_throw _
  · exact .run_pure _

end Run

theorem finish_onward (runner : Runner) (action : Action) (result : Except ActionError Unit) :
    Respects World.Onward (runner.finish action result) :=
  finish_obeys (bookkeeping_discipline onward_bookkeeping) runner action (flush_returns _).onward
    (advance_respects onward_bookkeeping _) (publish_onward _) result

end Runner

end ActionLauncher

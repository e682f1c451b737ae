import Mathlib.Data.List.Chain
import Mathlib.Data.List.Nodup
import ActionLauncher.Proofs.StageHistory

namespace ActionLauncher

open Launch

namespace Stage

variable {source target : Stage}

theorem allows_iff : source.allows target = true ↔
    source.next? = some target ∨ (source.hasOutcome = false ∧ target = .failed) := by
  simp [allows]

theorem allows_failed : source.allows .failed = !source.hasOutcome := by
  cases source <;> rfl

/-- How far a stage is on the way of a run; both outcomes are equally far. -/
def rank : Stage → Nat
  | .init => 0
  | .configResolved => 1
  | .credentialsPropagated => 2
  | .scopeEntered => 3
  | .loggerInitialized => 4
  | .running => 5
  | .succeeded | .failed => 6
  | .outputsFlushed => 7
  | .done => 8

theorem hasOutcome_iff : source.hasOutcome = true ↔ 6 ≤ source.rank := by
  cases source <;> decide

theorem rank_lt_of_allows (h : source.allows target = true) : source.rank < target.rank := by
  rcases allows_iff.1 h with hnext | ⟨houtcome, rfl⟩
  · cases source <;> cases hnext <;> decide
  · have hrank : ¬ 6 ≤ source.rank := by
      rw [← hasOutcome_iff, houtcome]
      decide
    show source.rank < 6
    omega

theorem isOutcome_of_allows (h : source.allows target = true) (hsource : source.hasOutcome = false)
    (htarget : target.hasOutcome = true) : target = .succeeded ∨ target = .failed := by
  rcases allows_iff.1 h with hnext | ⟨-, rfl⟩
  · left
    cases source <;> cases hnext <;> simp_all [hasOutcome]
  · exact .inr rfl

end Stage

namespace Tracker

/-- What can be asked of a tracker. -/
inductive Call
  | advance (target : Stage)
  | fail

def Call.perform : Call → Launch (Except TransitionError Unit)
  | advance target => Runner.advance true target
  | fail => do
      Runner.fail true
      return .ok ()

def performAll (calls : List Call) : Launch Unit :=
  calls.forM fun call => discard call.perform

theorem Call.perform_ends (call : Call) : Runner.Ends call.perform := by
  cases call with
  | advance target => exact Runner.advance_ends true target
  | fail => exact .bind (Runner.fail_ends true) fun _ => .pure _

theorem after_performAll_cons (call : Call) (rest : List Call) (world : World) :
    after (performAll (call :: rest)) world =
      after (performAll rest) (after call.perform world) := by
  obtain ⟨⟨result, hend⟩, -⟩ := call.perform_ends world
  have hdiscarded : ending (discard call.perform : Launch Unit) world = .ok () := by
    show ending ((fun _ => ()) <$> call.perform) world = _
    rw [ending_map, hend]
    rfl
  have hleft : after (discard call.perform : Launch Unit) world = after call.perform world :=
    after_map _ _ _
  show after (discard call.perform >>= fun _ => performAll rest) world = _
  rw [after_bind_of_ok hdiscarded, hleft]

theorem Call.perform_cases (call : Call) (world : World) :
    after call.perform world = world ∨
      ∃ target, world.stages.current.allows target = true ∧
        after call.perform world = world.moved true target := by
  cases call with
  | advance target =>
      cases hallows : world.stages.current.allows target with
      | true => exact .inr ⟨target, hallows, after_eq_of_ok (Runner.advance_eq hallows)⟩
      | false => exact .inl (after_eq_of_ok (Runner.advance_refused hallows))
  | fail =>
      have hperform : after (perform .fail) world = after (Runner.fail true) world := by
        obtain ⟨⟨_, hend⟩, -⟩ := Runner.fail_ends true world
        exact after_bind_of_ok hend _
      rw [hperform]
      cases houtcome : world.stages.current.hasOutcome with
      | true => exact .inl (after_eq_of_ok (Runner.fail_of_hasOutcome houtcome))
      | false =>
          refine .inr ⟨.failed, ?_, after_eq_of_ok (Runner.fail_eq houtcome)⟩
          rw [Stage.allows_failed, houtcome]
          rfl

/-- The moves from each stage of a history to the next one. -/
def moves (run : Uuid) (history : List Stage) : List Event :=
  (history.zip history.tail).map fun (source, target) => .moved run source target

theorem moves_concat (run : Uuid) (front : List Stage) (source target : Stage) :
    moves run (front ++ [source] ++ [target]) =
      moves run (front ++ [source]) ++ [.moved run source target] := by
  induction front with
  | nil => rfl
  | cons stage rest ih =>
      cases rest with
      | nil => rfl
      | cons next rest =>
          simp only [moves, List.cons_append, List.tail_cons, List.zip_cons_cons,
            List.map_cons] at ih ⊢
          rw [ih]

end Tracker

namespace World

/-- The stages of a run, with what was published since its tracker was new. -/
structure Chronicled (told : List Event) (run : Uuid) (world : World) : Prop where
  owner : world.stages.run = run
  starts : world.stages.history.head? = some .init
  current : world.stages.history.getLast? = some world.stages.current
  allowed : world.stages.history.IsChain fun source target => source.allows target = true
  events : world.events = told ++ Tracker.moves run world.stages.history
  outcome : world.stages.current.hasOutcome = true ↔
    .succeeded ∈ world.stages.history ∨ .failed ∈ world.stages.history

variable {told : List Event} {run : Uuid} {world : World} {target : Stage}

theorem chronicled_start (run : Uuid) (world : World) :
    Chronicled world.events run { world with stages := .start run } where
  owner := rfl
  starts := rfl
  current := rfl
  allowed := by simp [Tracker.start]
  events := by simp [Tracker.start, Tracker.moves]
  outcome := by simp [Tracker.start, Stage.hasOutcome]

theorem Chronicled.moved (h : world.Chronicled told run)
    (hallows : world.stages.current.allows target = true) :
    (world.moved true target).Chronicled told run := by
  obtain ⟨front, hfront⟩ := List.getLast?_eq_some_iff.1 h.current
  constructor
  · exact h.owner
  · show (world.stages.history ++ [target]).head? = some .init
    rw [List.head?_append, h.starts]
    rfl
  · show (world.stages.history ++ [target]).getLast? = some target
    rw [List.getLast?_concat]
  · show (world.stages.history ++ [target]).IsChain _
    rw [List.isChain_append]
    refine ⟨h.allowed, by simp, ?_⟩
    intro source hsource next hnext
    rw [h.current, Option.mem_some_iff] at hsource
    rw [List.head?_cons, Option.mem_some_iff] at hnext
    rw [← hsource, ← hnext]
    exact hallows
  · show world.events ++ [Event.moved world.stages.run world.stages.current target] =
      told ++ Tracker.moves run (world.stages.history ++ [target])
    rw [h.events, h.owner, hfront, Tracker.moves_concat, List.append_assoc]
  · show target.hasOutcome = true ↔
      .succeeded ∈ world.stages.history ++ [target] ∨ .failed ∈ world.stages.history ++ [target]
    simp only [List.mem_append, List.mem_singleton]
    constructor
    · intro htarget
      cases houtcome : world.stages.current.hasOutcome with
      | true => exact (h.outcome.1 houtcome).imp .inl .inl
      | false =>
          have heither := Stage.isOutcome_of_allows hallows houtcome htarget
          exact heither.imp (fun heq => .inr heq.symm) fun heq => .inr heq.symm
    · rintro ((hmem | rfl) | (hmem | rfl))
      · exact (Tracker.hasOutcome_of_allows hallows (h.outcome.2 (.inl hmem))).1
      · rfl
      · exact (Tracker.hasOutcome_of_allows hallows (h.outcome.2 (.inr hmem))).1
      · rfl

theorem Chronicled.perform (h : world.Chronicled told run) (call : Tracker.Call) :
    (after call.perform world).Chronicled told run := by
  rcases call.perform_cases world with hsame | ⟨target, hallows, hmoved⟩
  · rw [hsame]
    exact h
  · rw [hmoved]
    exact h.moved hallows

theorem Chronicled.performAll (h : world.Chronicled told run) (calls : List Tracker.Call) :
    (after (Tracker.performAll calls) world).Chronicled told run := by
  induction calls generalizing world with
  | nil => exact h
  | cons call rest ih =>
      rw [Tracker.after_performAll_cons]
      exact ih (h.perform call)

theorem Chronicled.nodup_rank (h : world.Chronicled told run) :
    (world.stages.history.map Stage.rank).Nodup := by
  have hranks : (world.stages.history.map Stage.rank).IsChain (· < ·) := by
    rw [List.isChain_map]
    exact h.allowed.imp fun _ _ => Stage.rank_lt_of_allows
  exact hranks.pairwise.imp Nat.ne_of_lt

theorem Chronicled.eq_of_rank (h : world.Chronicled told run) {stage other : Stage}
    (hstage : stage ∈ world.stages.history) (hother : other ∈ world.stages.history)
    (hrank : stage.rank = other.rank) : stage = other :=
  List.inj_on_of_nodup_map h.nodup_rank hstage hother hrank

theorem onward_performAll (calls : List Tracker.Call) (world : World) :
    world.Onward (after (Tracker.performAll calls) world) := by
  induction calls generalizing world with
  | nil => exact .refl
  | cons call rest ih =>
      rw [Tracker.after_performAll_cons]
      refine IsTrans.trans _ _ _ ?_ (ih _)
      rcases call.perform_cases world with hsame | ⟨target, hallows, hmoved⟩
      · rw [hsame]
        exact .refl
      · rw [hmoved]
        exact .single ⟨target, hallows, rfl⟩

/-- The record of a run, and what every further call does to it. -/
structure Tracks (told : List Event) (run : Uuid) (world : World) : Prop
    extends Chronicled told run world where
  nodup : world.stages.history.Nodup
  follows : ∀ target, world.stages.current.allows target = true →
    Runner.advance true target world = .ok (.ok ()) (world.moved true target)
  refuses : ∀ target, world.stages.current.allows target = false →
    Runner.advance true target world = .ok (.error ⟨world.stages.current, target⟩) world
  fails : Runner.fail true world =
    .ok () (if world.stages.current.hasOutcome then world else world.moved true .failed)
  /-- A run that has no outcome is never refused its failure. -/
  mayFail : world.stages.current.hasOutcome = false →
    world.stages.current.allows .failed = true
  one : .succeeded ∈ world.stages.history → .failed ∉ world.stages.history
  stays : ∀ outcome ∈ [Stage.succeeded, .failed], outcome ∈ world.stages.history →
    ∀ calls, ∀ stage ∈ [Stage.succeeded, .failed],
      stage ∈ (after (Tracker.performAll calls) world).stages.history ↔ stage = outcome

/-- Whatever was asked of a new tracker, it has kept its record. -/
theorem performAll_tracks (calls : List Tracker.Call) (run : Uuid) (world : World) :
    Tracks world.events run
      (after (Tracker.performAll calls) { world with stages := .start run }) := by
  have hchronicle := (chronicled_start run world).performAll calls
  generalize after (Tracker.performAll calls) { world with stages := .start run } = reached
    at hchronicle ⊢
  have hrank : ∀ stage ∈ [Stage.succeeded, .failed], stage.rank = 6 := by decide
  have hnodup : reached.stages.history.Nodup := .of_map Stage.rank hchronicle.nodup_rank
  refine ⟨hchronicle, hnodup, ?follows, ?refuses, ?fails, ?mayFail, ?one, ?stays⟩
  case follows =>
    intro target hallows
    exact Runner.advance_eq hallows
  case refuses =>
    intro target hallows
    exact Runner.advance_refused hallows
  case fails =>
    cases houtcome : reached.stages.current.hasOutcome with
    | true => exact Runner.fail_of_hasOutcome houtcome
    | false => exact Runner.fail_eq houtcome
  case mayFail =>
    intro houtcome
    rw [Stage.allows_failed, houtcome]
    rfl
  case one =>
    intro hsucceeded hfailed
    exact absurd (hchronicle.eq_of_rank hsucceeded hfailed rfl) (by decide)
  case stays =>
    intro outcome houtcome hmem calls stage hstage
    have hlater := hchronicle.performAll calls
    have hkept := (Tracker.history_extends (onward_performAll calls reached)).subset hmem
    constructor
    · intro hthere
      apply hlater.eq_of_rank hthere hkept
      rw [hrank stage hstage, hrank outcome houtcome]
    · rintro rfl
      exact hkept

end World

end ActionLauncher

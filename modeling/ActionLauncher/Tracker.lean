import ActionLauncher.Event
import ActionLauncher.Stage

namespace ActionLauncher

/-- The current stage of a run, and all stages so far, the oldest first. -/
structure Tracker where
  run : Uuid
  current : Stage
  history : List Stage
  deriving Inhabited

namespace Tracker

def start (run : Uuid) : Tracker :=
  ⟨run, .init, [.init]⟩

/-- Moves to another stage, if runs make that move; the event tells of it. -/
def advance (tracker : Tracker) (target : Stage) : Except TransitionError (Tracker × Event) :=
  match tracker.current.check target with
  | .error e => .error e
  | .ok _ =>
      .ok ({ tracker with current := target, history := tracker.history ++ [target] },
        .stageChanged tracker.run tracker.current.name target.name)

theorem advance_eq_ok_iff {tracker next : Tracker} {target : Stage} {event : Event} :
    tracker.advance target = .ok (next, event) ↔
      tracker.current.allows target = true ∧
        next = { tracker with current := target, history := tracker.history ++ [target] } ∧
        event = .stageChanged tracker.run tracker.current.name target.name := by
  unfold advance Stage.check
  cases tracker.current.allows target with
  | true => simp [eq_comm]
  | false => simp

/-- Moves to failure, unless the run has its outcome. -/
def fail? (tracker : Tracker) : Option (Tracker × Event) :=
  if tracker.current.hasOutcome then none else (tracker.advance .failed).toOption

end Tracker

end ActionLauncher

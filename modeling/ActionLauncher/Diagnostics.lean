import ActionLauncher.Text.Split

namespace ActionLauncher

/-- The tags of a run, as far as they are known. -/
structure Diagnostics where
  workflowId : Option String
  workflowName : Option String
  actionId : Option String
  actionName : Option String
  userName : Option String
  deriving DecidableEq, Repr

namespace Diagnostics

/-- The name of an action from its id: what follows the workflow id and one separating
character. -/
def actionName? (actionId workflowId : Option String) : Option String := do
  let rest ← Text.Chars.after? (← workflowId).toList (← actionId).toList
  match rest with
  | [] => none
  | _ :: name => some (String.ofList name)

def ofIds (workflowId workflowName actionId userName : Option String) : Diagnostics where
  workflowId := workflowId
  workflowName := workflowName
  actionId := actionId
  actionName := actionName? actionId workflowId
  userName := userName

def tags (d : Diagnostics) : List (String × String) :=
  [("oozie.job.id", d.workflowId), ("oozie.job.name", d.workflowName),
    ("oozie.action.id", d.actionId), ("oozie.action.name", d.actionName),
    ("user.name", d.userName)].filterMap fun (tag, value) => value.map fun v => (tag, v)

end Diagnostics

end ActionLauncher

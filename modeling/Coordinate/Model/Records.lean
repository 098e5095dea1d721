import Coordinate.Model.ExecutionResources

/-! # Decoded configuration records

The records that the readers of `db.py` build from a row, with the fields that some modelled
function reads.
-/

namespace Coordinate

structure Workspace where
  id : String
  path : String
  harnessRoot : String
  defaultBus : Option String := none
  defaultDestination : Option String := none
  baseBranch : Option String := none
  branchNamespace : Option String := none
  agentsJson : Json := .obj []
  agentRegistryRevision : Nat := 0
deriving DecidableEq, Repr

structure WorkspaceHostProfile where
  workspaceId : String
  hostId : String
  workspacePath : String
  harnessRoot : Option String := none
  worktreeRoots : List String := []
deriving DecidableEq, Repr

/-- A row of `tasks`. -/
structure TaskMirror where
  workspaceId : String
  taskId : String
  phase : Option String := none
  owner : Option String := none
  branch : Option String := none
  pr : Option String := none
  lastEventId : Option String := none
  payloadJson : JsonText := .value (.obj [])
deriving DecidableEq, Repr

namespace TaskMirror

def sameTask (a b : TaskMirror) : Bool := a.workspaceId = b.workspaceId && a.taskId = b.taskId

/-- `idx_tasks_workspace_branch`, which leaves out the closed tasks. -/
def sameBranch (a b : TaskMirror) : Bool :=
  a.workspaceId = b.workspaceId && a.branch.isSome && a.branch = b.branch &&
    a.phase ≠ some "closed" && b.phase ≠ some "closed"

/-- `idx_tasks_workspace_pr`. -/
def samePr (a b : TaskMirror) : Bool :=
  a.workspaceId = b.workspaceId && a.pr.isSome && a.pr = b.pr

end TaskMirror

end Coordinate

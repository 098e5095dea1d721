import Coordinate.Model.Store

/-! # Writing the task mirror

`upsert_task_mirror` replaces all columns of a task. The unique indexes of `schema.py` on the branch and
on the pull request may refuse the new row.
-/

namespace Coordinate

/-- The columns that `upsert_task_mirror` writes. -/
structure MirrorColumns where
  phase : Option String
  owner : Option String
  branch : Option String
  pr : Option String
  lastEventId : Option String
  payload : Json
deriving DecidableEq, Repr

inductive MirrorStatus where
  | created
  | updated
  | unchanged
deriving DecidableEq, Repr

def MirrorColumns.toRow (columns : MirrorColumns) (workspaceId taskId : String) : TaskMirror where
  workspaceId
  taskId
  phase := columns.phase
  owner := columns.owner
  branch := columns.branch
  pr := columns.pr
  lastEventId := columns.lastEventId
  payloadJson := .dumps columns.payload

def isTask (workspaceId taskId : String) (row : TaskMirror) : Bool :=
  row.workspaceId = workspaceId && row.taskId = taskId

def findTask (db : Db) (workspaceId taskId : String) : Option TaskMirror :=
  db.tasks.find? (isTask workspaceId taskId)

/-- `INSERT ... ON CONFLICT(workspace_id, task_id) DO UPDATE`. -/
def putTask (row : TaskMirror) (tasks : Table taskSchema) : Option (Table taskSchema) :=
  if (tasks.find? (isTask row.workspaceId row.taskId)).isSome then
    tasks.update? (isTask row.workspaceId row.taskId) fun _ => row
  else tasks.insert? row

/-- The error of the index that refuses a row. -/
def refusal (db : Db) (row : TaskMirror) : Exn :=
  if db.tasks.any (fun other => !isTask row.workspaceId row.taskId other && row.sameBranch other) then
    .unique "tasks.workspace_id, tasks.branch"
  else .unique "tasks.workspace_id, tasks.pr"

def writeTask (row : TaskMirror) : DbTxn Unit := do
  let refused ← Txn.read (refusal · row)
  tryCatch
    (replaceTable (fun db => putTask row db.tasks) (fun db tasks => { db with tasks })
      fun _ _ _ => .of_eq rfl rfl rfl rfl rfl)
    fun _ => throw refused

/-- `upsert_task_mirror(..., commit=False)`. -/
def upsertTaskMirror (workspaceId taskId : String) (columns : MirrorColumns) :
    DbTxn (TaskMirror × MirrorStatus) := do
  let row := columns.toRow workspaceId taskId
  let existing ← Txn.read (findTask · workspaceId taskId)
  if existing = some row then return (row, .unchanged)
  else
    writeTask row
    return (row, if existing.isNone then .created else .updated)

/-- `row_to_dict` of a task. -/
structure TaskDict where
  row : TaskMirror
  payload : Json
deriving DecidableEq, Repr

def TaskMirror.toDict (row : TaskMirror) : Except Exn TaskDict := do
  let payload ← decodeColumn row.payloadJson
  return ⟨row, payload⟩

/-- `read_task_mirror`. -/
def readTaskMirror (db : Db) (workspaceId taskId : String) : Except Exn (Option TaskDict) :=
  match findTask db workspaceId taskId with
  | none => return none
  | some row => some <$> row.toDict

end Coordinate

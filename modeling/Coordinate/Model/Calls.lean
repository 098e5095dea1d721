import Coordinate.Library.Program
import Coordinate.Model.TaskMirrors

/-! # Calls that share the database

A call outside a transaction is a program of statements, each of which is atomic and commits on its own;
other calls come in between. The row that `upsert_task_mirror` selects again after its commit is the one
that it has written.
-/

namespace Coordinate

/-- What a statement of a call does. -/
inductive DbStatement where
  | read
  /-- the row of a task is read, to be written later -/
  | task (workspaceId taskId : String)
  | append (event : NewEvent)
  | mirror (row : TaskMirror)
  | transaction

/-- A call on its own connection to the shared database. -/
abbrev DbCall (α : Type) : Type := Program DbStatement (Work Db) Exn α

namespace DbCall

/-- A query. -/
def query {α : Type} (f : Db → α) : DbCall α :=
  Program.statement .read fun w => (.ok (f w.store), w)

/-- A query whose answer may raise. -/
def queryOrRaise {α : Type} (f : Db → Except Exn α) : DbCall α := do
  let answer ← query f
  orRaise id answer

/-- A reading of the clock. -/
def clock {α : Type} (f : Nat → α) : DbCall α :=
  Program.statement .read fun w => (.ok (f w.tick), { w with tick := w.tick + 1 })

def requireWorkspace (workspaceId : String) : DbCall Workspace :=
  queryOrRaise fun db => match getWorkspace db workspaceId with
    | some workspace => .ok workspace
    | none => .error (Exn.value s!"unknown workspace: {workspaceId}")

/-- The row of a task, which the call changes later. -/
def readTask (workspaceId taskId : String) : DbCall (Option TaskMirror) :=
  Program.statement (.task workspaceId taskId) fun w => (.ok (findTask w.store workspaceId taskId), w)

/-- One writing statement, or one transaction: what it has written is taken back when it raises. -/
def execute {α : Type} (tag : DbStatement) (body : DbTxn α) : DbCall α :=
  Program.statement tag fun w =>
    match body.run w with
    | .ok a after => (.ok a, after)
    | .error e after => (.error e, { after with store := w.store })

/-- A transaction whose exception is caught after the rollback. -/
def attempt {α : Type} (body : DbTxn α) : DbCall (Except Exn α) :=
  Program.statement .transaction fun w =>
    match body.run w with
    | .ok a after => (.ok (.ok a), after)
    | .error e after => (.ok (.error e), { after with store := w.store })

/-- `append_event`. -/
def recordEvent [Platform] (event : NewEvent) : DbCall AppendEventResult :=
  execute (.append event) (appendEvent event)

/-- `upsert_task_mirror`, which looks at the row before it writes. -/
def upsertMirror (workspaceId taskId : String) (columns : MirrorColumns) :
    DbCall (TaskMirror × MirrorStatus) := do
  let row := columns.toRow workspaceId taskId
  let existing ← query (findTask · workspaceId taskId)
  if existing = some row then return (row, .unchanged)
  else
    execute (.mirror row) (writeTask row)
    return (row, if existing.isNone then .created else .updated)

/-- Time passes. -/
def wait (readings : Nat) (w : Work Db) : Option (Work Db) :=
  some { w with tick := w.tick + readings }

end DbCall

end Coordinate

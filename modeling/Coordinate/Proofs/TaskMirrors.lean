import Coordinate.Model.TaskMirrors
import Coordinate.Proofs.Statements

/-! # What an upsert of the task mirror does -/

namespace Coordinate

section Rows

variable {tasks later : Table taskSchema} {row other : TaskMirror} {workspaceId taskId : String}

theorem isTask_iff : isTask workspaceId taskId row = true ↔
    row.workspaceId = workspaceId ∧ row.taskId = taskId := by
  simp [isTask]

/-- A task has one row. -/
theorem task_unique (left : row ∈ tasks) (right : other ∈ tasks)
    (first : isTask workspaceId taskId row = true) (second : isTask workspaceId taskId other = true) :
    row = other := by
  obtain ⟨rfl, rfl⟩ := isTask_iff.mp first
  obtain ⟨workspace, task⟩ := isTask_iff.mp second
  refine Table.eq_of_clash left right ?_
  simp [taskSchema, TaskMirror.sameTask, workspace, task]

theorem find?_isTask : tasks.find? (isTask workspaceId taskId) = some row ↔
    row ∈ tasks ∧ isTask workspaceId taskId row = true := by
  constructor
  · exact Table.find?_some
  · rintro ⟨member, own⟩
    refine Table.find?_eq_some_of_mem member own fun other otherMember otherOwn => ?_
    rw [task_unique otherMember member otherOwn own]
    simp [taskSchema, TaskMirror.sameTask]

theorem findTask_eq_some {db : Db} : findTask db workspaceId taskId = some row ↔
    row ∈ db.tasks ∧ isTask workspaceId taskId row = true := find?_isTask

/-- The upsert puts the row in the place of the row of its task, if there is one. -/
theorem mem_putTask (put : putTask row tasks = some later) : other ∈ later ↔ other = row ∨
    (other ∈ tasks ∧ isTask row.workspaceId row.taskId other = false) := by
  have own : isTask row.workspaceId row.taskId row = true := isTask_iff.mpr ⟨rfl, rfl⟩
  unfold putTask at put
  split at put
  · rename_i present
    obtain ⟨old, found⟩ := Option.isSome_iff_exists.mp present
    obtain ⟨oldMember, oldOwn⟩ := find?_isTask.mp found
    rw [Table.mem_update? put]
    constructor
    · rintro ⟨before, member, rfl⟩
      by_cases own : isTask row.workspaceId row.taskId before = true
      · exact .inl (if_pos own)
      · rw [if_neg own]
        exact .inr ⟨member, by simpa using own⟩
    · rintro (rfl | ⟨member, apart⟩)
      · exact ⟨old, oldMember, (if_pos oldOwn).symm⟩
      · exact ⟨other, member, (if_neg (by rw [apart]; exact Bool.false_ne_true)).symm⟩
  · rename_i absent
    rw [Table.mem_insert? put]
    constructor
    · rintro (member | rfl)
      · refine .inr ⟨member, ?_⟩
        by_contra own
        have found := find?_isTask.mpr ⟨member, by simpa using own⟩
        exact absent (by rw [found]; rfl)
      · exact .inl rfl
    · rintro (rfl | ⟨member, -⟩)
      · exact .inr rfl
      · exact .inl member

theorem find?_putTask (put : putTask row tasks = some later) :
    later.find? (isTask row.workspaceId row.taskId) = some row :=
  find?_isTask.mpr ⟨(mem_putTask put).mpr (.inl rfl), isTask_iff.mpr ⟨rfl, rfl⟩⟩

/-- The rows of the other tasks stay. -/
theorem find?_putTask_other (put : putTask row tasks = some later)
    (apart : isTask workspaceId taskId row = false) :
    later.find? (isTask workspaceId taskId) = tasks.find? (isTask workspaceId taskId) := by
  ext other
  rw [find?_isTask, find?_isTask, mem_putTask put]
  constructor
  · rintro ⟨rfl | ⟨member, -⟩, own⟩
    · rw [apart] at own
      cases own
    · exact ⟨member, own⟩
  · rintro ⟨member, own⟩
    refine ⟨.inr ⟨member, ?_⟩, own⟩
    obtain ⟨rfl, rfl⟩ := isTask_iff.mp own
    rw [← apart]
    simp only [isTask, eq_comm]

/-- No other task holds the branch or the pull request of a row. -/
def Accepts (tasks : Table taskSchema) (row : TaskMirror) : Prop :=
  ∀ other ∈ tasks, isTask row.workspaceId row.taskId other = false →
    row.sameBranch other = false ∧ row.samePr other = false

theorem Accepts.apart (accepts : Accepts tasks row) (member : other ∈ tasks)
    (apart : isTask row.workspaceId row.taskId other = false) : taskSchema.clash row other = false := by
  obtain ⟨branch, pr⟩ := accepts other member apart
  have task : row.sameTask other = false := by
    rw [← apart]
    simp only [TaskMirror.sameTask, isTask, eq_comm]
  simp [taskSchema, branch, pr, task]

/-- The indexes take a row that they accept. -/
theorem exists_putTask (accepts : Accepts tasks row) : ∃ later, putTask row tasks = some later := by
  unfold putTask
  split
  · refine Table.exists_update? (fun _ _ _ => rfl) fun a left b right free => ?_
    by_cases ownA : isTask row.workspaceId row.taskId a = true
    · by_cases ownB : isTask row.workspaceId row.taskId b = true
      · obtain ⟨workspaceA, taskA⟩ := isTask_iff.mp ownA
        obtain ⟨workspaceB, taskB⟩ := isTask_iff.mp ownB
        have clash : taskSchema.clash a b = true := by
          simp [taskSchema, TaskMirror.sameTask, workspaceA, workspaceB, taskA, taskB]
        rw [clash] at free
        cases free
      · rw [if_pos ownA, if_neg ownB]
        exact accepts.apart right (by simpa using ownB)
    · by_cases ownB : isTask row.workspaceId row.taskId b = true
      · rw [if_neg ownA, if_pos ownB, taskSchema.clash_symm]
        exact accepts.apart left (by simpa using ownA)
      · rw [if_neg ownA, if_neg ownB]
        exact free
  · rename_i absent
    refine Table.exists_insert? rfl fun other member => ?_
    rw [taskSchema.clash_symm]
    refine accepts.apart member ?_
    by_contra own
    have found := find?_isTask.mpr ⟨member, by simpa using own⟩
    exact absent (by rw [found]; rfl)

end Rows

section Upsert

variable {w w' : Work Db} {workspaceId taskId : String} {columns : MirrorColumns}

theorem keeps_writeTask {τ : Type} {part : Db → τ} (row : TaskMirror)
    (same : ∀ (db : Db) (tasks : Table taskSchema), part { db with tasks } = part db) :
    Txn.Keeps part (writeTask row) :=
  Txn.keeps_bind (Txn.keeps_read _) fun _ =>
    Txn.keeps_tryCatch (keeps_replaceTable same) fun _ => Txn.keeps_throw _

theorem keeps_upsertTaskMirror {τ : Type} {part : Db → τ}
    (same : ∀ (db : Db) (tasks : Table taskSchema), part { db with tasks } = part db) :
    Txn.Keeps part (upsertTaskMirror workspaceId taskId columns) := by
  refine Txn.keeps_bind (Txn.keeps_read _) fun existing => ?_
  split
  · exact Txn.keeps_pure _
  · exact Txn.keeps_bind (keeps_writeTask _ same) fun _ => Txn.keeps_pure _

theorem writeTask_run (row : TaskMirror) : (writeTask row).run w =
    match putTask row w.store.tasks with
    | some tasks => .ok () { w with store := { w.store with tasks } }
    | none => .error (refusal w.store row) w := by
  unfold writeTask replaceTable
  rw [Txn.bind_run, Txn.read_run]
  dsimp only
  rw [Txn.tryCatch_run, Txn.write_run]
  cases putTask row w.store.tasks <;> rfl

end Upsert

end Coordinate

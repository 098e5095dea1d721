import Coordinate.Model.TaskDependencies

/-! # Fingerprints of the states of a task

`compute_task_item_fingerprint` of `split_operations.py` for a task that is there or is not. The tuples that
the projection of the source knows do not occur in decoded JSON.
-/

namespace Coordinate.TaskFingerprint

open TaskDependencies (projectChecklistItem)

/-- `project_checklist_item_for_fingerprint`. -/
def projectChecklistItemForFingerprint (item : Option Json) (taskId : String) : Json :=
  match item with
  | none => .obj [("state", .str "absent"),
      ("target", .obj [("kind", .str "checklist_task"), ("id", .str taskId)])]
  | some item => projectChecklistItem item

/-- `compute_task_item_fingerprint`. -/
def computeTaskItemFingerprint [Platform] (item : Option Json) (taskId : String) : String :=
  sha256 (projectChecklistItemForFingerprint item taskId).text

/-- The fingerprint that a dependency edit returns is that of a task that is there. -/
theorem computeTaskItemFingerprint_some [Platform] (item : Json) (taskId : String) :
    computeTaskItemFingerprint (some item) taskId = TaskDependencies.computeTaskItemFingerprint item := rfl

end Coordinate.TaskFingerprint

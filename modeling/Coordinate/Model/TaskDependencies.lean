import Coordinate.Model.ChecklistItems
import Coordinate.Model.ChecklistWriters

/-! # Dependency edits

`apply_dependency_mutation` of `task_dependencies.py`, which goes through the pipeline of `checklist_io.py`,
with the fingerprints of `split_operations.py` that it returns. Together with `add-item` and `update-item`
of the harness it is what changes the dependencies of an item. Taking the lock, reading and replacing the
file are one step here, and the write does not fail.
-/

namespace Coordinate.TaskDependencies

open Coordinate.Checklist Coordinate.ChecklistWriters

section Fingerprints

/-- `_FINGERPRINT_EXCLUDED_KEYS`. -/
def fingerprintExcludedKeys : List String :=
  ["updated_at", "split_operation", "completion_receipt", "verification", "artifact_path"]

mutual

/-- `_project_value`; the hash orders the keys. -/
def projectValue : Json → Json
  | .arr items => .arr (projectItems items)
  | .obj fields => .obj (projectFields fields)
  | .null => .null
  | .bool value => .bool value
  | .int value => .int value
  | .str value => .str value

def projectItems : List Json → List Json
  | [] => []
  | item :: rest => projectValue item :: projectItems rest

def projectFields : List (String × Json) → List (String × Json)
  | [] => []
  | (key, value) :: rest =>
    if fingerprintExcludedKeys.contains key then projectFields rest
    else (key, projectValue value) :: projectFields rest

end

/-- `project_checklist_item_for_fingerprint` of an item that is there. -/
def projectChecklistItem (item : Json) : Json :=
  let projected := fingerprintExcludedKeys.foldl Json.erase item
  projectValue (if (projected.get "workflow").isObj then projected.eraseIn "workflow" "updated_at"
    else projected)

/-- `compute_task_item_fingerprint`. -/
def computeTaskItemFingerprint [Platform] (item : Json) : String :=
  sha256 (projectChecklistItem item).text

end Fingerprints

section Requests

/-- A `DependencyUpdateError`. -/
def refusal (message reason : String) : Exn := Exn.dependency ⟨message, reason⟩

structure DependencyRequest where
  workspacePath : String
  harnessRoot : String
  workspaceId : String
  taskId : String
  add : List String := []
  remove : List String := []
  allowRuntimeCopy : Bool := false

inductive RequestAction where
  | add
  | remove
deriving DecidableEq, Repr

inductive RequestOutcome where
  | applied
  | alreadySatisfied
deriving DecidableEq, Repr

structure DependencyRequestOutcome where
  dependency : String
  action : RequestAction
  outcome : RequestOutcome
deriving DecidableEq, Repr

structure DependencyMutationResult where
  workspaceId : String
  taskId : String
  beforeFingerprint : String
  afterFingerprint : String
  changed : Bool
  outcomes : List DependencyRequestOutcome
  dependencies : List Json
deriving DecidableEq, Repr

/-- `_validate_dependency_inputs`. -/
def validateDependencyInputs (taskId : String) (add remove : List String) :
    Except Exn (List String × List String) := do
  raiseIf (Text.isBlank taskId) (refusal "task_id is required" "invalid_input")
  raiseIf ((add ++ remove).any Text.isBlank)
    (refusal "dependency ids must be non-empty strings" "invalid_input")
  raiseIf (add = [] ∧ remove = [])
    (refusal "update-dependencies requires at least one --add or --remove" "invalid_input")
  let adds := add.eraseDups
  let removes := remove.eraseDups
  match (adds.filter removes.contains).insertionSort (· ≤ ·) with
  | [] => return (adds, removes)
  | dependency :: _ => throw (refusal
      (s!"dependency {Text.repr dependency} appears in both --add and --remove; " ++
        "refusing ambiguous input") "overlap")

/-- `_require_absolute_path`. -/
def requireAbsolutePath (value label : String) : Except Exn Path.Pure := do
  let path := Path.Pure.parse value
  raiseIf (path.root = "") (refusal
    (s!"{label} must be an absolute path, got {Text.repr value}; refusing to interpret it relative to " ++
      "the process working directory") "relative_path")
  return path

/-- `_refuse_runtime_copy_guard` of the two paths of a workspace. -/
def refuseRuntimeCopyGuard (paths : List Path.Pure) (allowRuntimeCopy : Bool) : Except Exn Unit :=
  let isRuntime := fun path : Path.Pure => Text.startsWith path.text "/opt/" || path.text = "/opt"
  raiseIf (¬ allowRuntimeCopy ∧ paths.any isRuntime) (refusal
    ("refusing to update dependencies inside an /opt runtime deployment copy; run against the " ++
      "coding-host git checkout. Use --allow-runtime-copy only for explicit repair.") "runtime_copy")

end Requests

section Mutation

/-- The list of an item with what has been reported of it. -/
abbrev Progress : Type := List Json × List DependencyRequestOutcome

/-- One of the removals of the callback. -/
def removeDependency (progress : Progress) (dependency : String) : Progress :=
  if progress.1.contains (.str dependency) then
    (progress.1.filter (· ≠ .str dependency), progress.2 ++ [⟨dependency, .remove, .applied⟩])
  else (progress.1, progress.2 ++ [⟨dependency, .remove, .alreadySatisfied⟩])

/-- One of the additions of the callback. -/
def addDependency (taskId : String) (itemIds : List Json) (progress : Progress) (dependency : String) :
    Except Exn Progress := do
  raiseIf (dependency = taskId) (refusal
    s!"task {Text.repr taskId} cannot depend on itself; nothing written" "self_dependency")
  raiseIf (¬ itemIds.contains (.str dependency)) (refusal
    s!"dependency {Text.repr dependency} does not exist in the checklist; nothing written"
    "dependency_not_found")
  if progress.1.contains (.str dependency) then
    return (progress.1, progress.2 ++ [⟨dependency, .add, .alreadySatisfied⟩])
  else return (progress.1 ++ [.str dependency], progress.2 ++ [⟨dependency, .add, .applied⟩])

/-- What the callback leaves in the names of the function around it. -/
structure Snapshot where
  before : String
  after : String
  outcomes : List DependencyRequestOutcome
  dependencies : List Json

def Snapshot.changed (snapshot : Snapshot) : Bool :=
  snapshot.outcomes.any fun outcome => outcome.outcome = .applied

/-- The callback of `apply_dependency_mutation`. -/
def updateDependencies [Platform] (taskId : String) (adds removes : List String) (candidate : Json) :
    Except Exn (Json × Snapshot) := do
  let items := match candidate.get "items" with
    | .arr items => items
    | _ => []
  match items.find? fun item => item.isObj && item.get "id" = .str taskId with
  | none => throw (refusal
      s!"target task {Text.repr taskId} does not exist in the checklist; nothing written"
      "target_not_found")
  | some target => do
    let itemIds := (items.filter fun item => item.isObj && (item.get "id").truthy).map (·.get "id")
    let removed := removes.foldl removeDependency (dependenciesOf target, [])
    let (updated, outcomes) ← adds.foldlM (addDependency taskId itemIds) removed
    let changed := outcomes.any fun outcome => outcome.outcome = .applied
    let edited := if changed then target.set "dependencies" (.arr updated) else target
    return (putItem candidate taskId edited,
      ⟨computeTaskItemFingerprint target, computeTaskItemFingerprint edited, outcomes, updated⟩)

/-- `resolve_checklist` of `checklist_io.py`, for a mutation. -/
def resolveManaged (root : String) (files : Files) : Except Refusal Kind :=
  match files.new, files.legacy with
  | some _, some _ => throw (.checklist
      ("dual checklist authority: both harness-checklist.json and mvp-checklist.json exist under " ++
        root ++ "; refusing to pick either. Keep exactly one authority before mutating.") "dual_authority")
  | some _, none => return .new
  | none, some _ => return .legacy
  | none, none => throw (.checklist
      ("no checklist found: neither harness-checklist.json nor mvp-checklist.json exists under " ++ root ++
        ". Initialize the harness first (workspace init-harness).") "checklist_missing")

variable [Platform] [Scripting]

/-- `mutate_checklist` of `checklist_io.py`: the files afterwards, with the checklist that it has read. -/
def mutateManaged (root : String) (callback : Callback) (files : Files) :
    StateT Nat (Except Refusal) (Files × Json) := do
  let kind ← orRaise id (resolveManaged root files)
  let text := (files.file kind).getD .blank
  let candidate ← managedCandidate root callback kind text
  let current ← orRaise id (loadText (pathUnder root kind) text)
  return (match candidate with
    | some candidate => files.replace kind candidate
    | none => files, current)

/-- `apply_dependency_mutation`, with the files afterwards. -/
def applyDependencyMutation (request : DependencyRequest) (files : Files) :
    StateT Nat (Except Refusal) (Files × DependencyMutationResult) := do
  let (adds, removes) ← orRaise Refusal.raised
    (validateDependencyInputs request.taskId request.add request.remove)
  let workspacePath ← orRaise Refusal.raised (requireAbsolutePath request.workspacePath "workspace_path")
  let harnessRoot ← orRaise Refusal.raised (requireAbsolutePath request.harnessRoot "harness_root")
  orRaise Refusal.raised (refuseRuntimeCopyGuard [workspacePath, harnessRoot] request.allowRuntimeCopy)
  let callback := fun candidate => orRaise Refusal.raised
    (updateDependencies request.taskId adds removes candidate)
  let (files, current) ← mutateManaged harnessRoot.text
    (fun candidate => (fun made => (made.1, made.2.changed)) <$> callback candidate) files
  -- the callback has run once, on the checklist that the pipeline has read
  let (_, snapshot) ← orRaise id (callback current)
  return (files, {
    workspaceId := request.workspaceId
    taskId := request.taskId
    beforeFingerprint := snapshot.before
    afterFingerprint := snapshot.after
    changed := snapshot.changed
    outcomes := snapshot.outcomes
    dependencies := snapshot.dependencies })

end Mutation

section Edits

variable [Platform] [Scripting]

/-- A call of one of the three programs. -/
inductive Edit where
  | mutation (request : DependencyRequest)
  | addItem (site : Site) (arguments : AddArguments)
  | updateItem (site : Site) (arguments : UpdateArguments)

namespace Edit

/-- The item whose dependencies change. -/
def target : Edit → String
  | mutation request => request.taskId
  | addItem _ arguments => Text.strip arguments.itemId
  | updateItem _ arguments => Text.strip arguments.itemId

/-- The items that it is to depend on. -/
def adds : Edit → List String
  | mutation request => request.add
  | addItem _ arguments => arguments.dependency
  | updateItem _ arguments => arguments.addDependency

/-- The files and the clock after an edit that succeeds. -/
def perform (files : Files) (tick : Nat) : Edit → Option (Files × Nat)
  | mutation request =>
    match applyDependencyMutation request files tick with
    | .ok ((files, _), tick) => some (files, tick)
    | .error _ => none
  | addItem site arguments => (Checklist.addItem site arguments files tick).toOption
  | updateItem site arguments => (Checklist.updateItem site arguments files tick).toOption

end Edit

/-- Successful edits of one harness, one after the other. -/
def edits : Machine Checklist.State Edit where
  step s edit := (edit.perform s.files s.tick).map fun (files, tick) => ⟨files, tick⟩

end Edits

end Coordinate.TaskDependencies

import Coordinate.Model.AgentReport
import Coordinate.Model.Checklist
import Coordinate.Model.TaskMirrors

/-! # Reconciling the task mirrors with the checklist

`reconcile_workspace` of `reconcile.py`, with the projections of `task_projection.py` and
`split_operations.py`. What the harness adapter reads before the first statement is an argument, and so is the
table `split_operations`, which nothing here writes.
-/

namespace Coordinate.MirrorReconcile

open Coordinate.Checklist (typeName isIn reprTexts)

section Encoding

mutual

/-- `json.dumps(value, ensure_ascii=False)` of a value whose keys are in order. -/
def spaced : Json → List Char
  | .arr [] => "[]".toList
  | .arr (item :: rest) => '[' :: spaced item ++ spacedItems rest
  | .obj [] => "\x7b\x7d".toList
  | .obj ((key, value) :: rest) =>
    '\x7b' :: Json.renderStr key ++ [':', ' '] ++ spaced value ++ spacedFields rest
  | other => other.render

def spacedItems : List Json → List Char
  | [] => [']']
  | item :: rest => [',', ' '] ++ spaced item ++ spacedItems rest

def spacedFields : List (String × Json) → List Char
  | [] => ['\x7d']
  | (key, value) :: rest =>
    [',', ' '] ++ Json.renderStr key ++ [':', ' '] ++ spaced value ++ spacedFields rest

end

end Encoding

variable [Platform]

/-- A row of `split_operations`. -/
structure SplitOperationRow where
  operationId : String
  operationKind : String
  workspaceId : String
  targetKind : String
  targetId : String
  status : String
deriving DecidableEq, Repr

section SplitOperations

/-- `TASK_MIRROR_SPLIT_OPERATION_KEYS`. -/
def taskMirrorSplitOperationKeys : List String :=
  ["contract_version", "operation_id", "operation_kind", "input_fingerprint", "before_fingerprint",
    "after_fingerprint"]

/-- `SPLIT_OPERATION_ENVELOPE_KEYS`. -/
def splitOperationEnvelopeKeys : List String :=
  ["contract_version", "operation_id", "operation_kind", "workspace_id", "target_kind", "target_id",
    "source_kind", "source_id", "input_fingerprint", "before_fingerprint", "after_fingerprint",
    "files_applied_at"]

/-- `sorted(_KNOWN_OPERATION_KINDS)`. -/
def knownOperationKinds : List String := ["issue.materialize", "task.adopt", "task.create"]

def sortedTexts (texts : List String) : String :=
  reprTexts (texts.insertionSort (· ≤ ·))

/-- `validate_uuid`; a line feed that the pattern lets pass is refused by `uuid.UUID`. -/
def validateUuid (value : Json) : Except Exn Unit :=
  match value with
  | .str text => do
    let lowered := AgentReport.lowerText text
    raiseIf (¬ Text.matchUuid lowered)
      (Exn.value s!"operation id must be a lowercase RFC 4122 UUID, got {Text.repr text}")
    raiseIf (¬ Text.uuidShape lowered.toList)
      (Exn.value s!"operation id is not a valid UUID: {Text.repr text}")
  | _ => throw (Exn.value "operation id must be a string")

/-- `validate_sha256`. -/
def validateSha256 (value : Json) : Except Exn Unit := do
  let valid : Bool := match value with
    | .str text => decide (Text.isHexDigest text)
    | _ => false
  raiseIf (¬ valid) (Exn.value
    s!"fingerprint must be a lowercase 64-character SHA-256 hex string, got {value.pyRepr}")

/-- `validate_task_mirror_split_operation`. -/
def validateTaskMirrorSplitOperation (value : Json) (source : String) : Except Exn Unit := do
  raiseIf (¬ value.isObj)
    (Exn.value s!"{source} split_operation must be a dict, got {typeName value}")
  raiseIf (¬ value.hasExactlyKeys taskMirrorSplitOperationKeys)
    (Exn.value (s!"{source} split_operation must have exactly keys " ++
      s!"{sortedTexts taskMirrorSplitOperationKeys}, got {sortedTexts value.keys}"))
  let version := value.get "contract_version"
  raiseIf (¬ version.pyEq (.int 1))
    (Exn.value s!"{source} split_operation contract_version must be 1, got {version.pyRepr}")
  let kind := value.get "operation_kind"
  let known ← isIn kind knownOperationKinds
  raiseIf (¬ known) (Exn.value (s!"{source} split_operation operation_kind must be one of " ++
    s!"{reprTexts knownOperationKinds}, got {kind.pyRepr}"))
  validateUuid (value.get "operation_id")
  ["input_fingerprint", "before_fingerprint", "after_fingerprint"].forM fun key =>
    validateSha256 (value.get key)

/-- `project_task_mirror_split_operation`. -/
def projectTaskMirrorSplitOperation (value : Json) (source : String) : Except Exn Json := do
  raiseIf (¬ value.isObj)
    (Exn.value s!"{source} split_operation must be a dict, got {typeName value}")
  raiseIf (¬ value.hasExactlyKeys splitOperationEnvelopeKeys)
    (Exn.value (s!"{source} split_operation envelope must have exactly keys " ++
      s!"{sortedTexts splitOperationEnvelopeKeys}, got {sortedTexts value.keys}"))
  let metadata := Json.obj (taskMirrorSplitOperationKeys.map fun key => (key, value.get key))
  validateTaskMirrorSplitOperation metadata source
  return metadata

end SplitOperations

section Merge

/-- What a mirror is to hold; the columns are not bound yet. -/
structure MirrorValues where
  taskId : String
  phase : Json
  owner : Json
  branch : Json
  pr : Json
  payload : Json
deriving DecidableEq, Repr

omit [Platform] in
/-- `task_mirror_from_item`. -/
def taskMirrorFromItem (taskId : String) (item : Json) : MirrorValues :=
  let workflow := item.get "workflow"
  let artifacts := item.get "artifacts"
  { taskId
    phase := (workflow.get "status").orElse (item.get "status")
    owner := item.get "owner"
    branch := (workflow.get "branch").orElse (artifacts.get "branch")
    pr := (artifacts.get "pr").orElse (artifacts.get "pull_request")
    payload := item }

/-- A `SplitOperationError` becomes a conflict of the task. -/
def splitConflict (taskId : Json) : Exn → Exn
  | .value message => .value s!"task {taskId.pyRepr} {message}"
  | other => other

/-- `_project_split_operation_metadata`. -/
def projectSplitOperationMetadata (item : Json) : Except Exn (Option Json) :=
  match item.field? "split_operation" with
  | none => return none
  | some envelope =>
    some <$> orRaise (splitConflict (item.get "id")) (projectTaskMirrorSplitOperation envelope "checklist item")

/-- The check of an adopted task against its recorded operation. -/
def checkAdoption (operations : List SplitOperationRow) (workspaceId taskId : String)
    (projected : Option Json) : Except Exn Unit :=
  match projected with
  | none => return
  | some metadata =>
    let recorded := operations.find? fun row => .str row.operationId = metadata.get "operation_id"
    raiseIf (metadata.get "operation_kind" = .str "task.adopt" ∧
      recorded.map (fun row => (row.operationKind, row.workspaceId, row.targetKind, row.targetId, row.status)) ≠
        some ("task.adopt", workspaceId, "checklist_task", taskId, "record_applied"))
      (Exn.value (s!"task {taskId} has a file-pending or conflicting task.adopt envelope; complete " ++
        "the explicit task adopt-record recovery before reconcile can project it"))

/-- `_stored_split_operation_metadata`. -/
def storedSplitOperationMetadata (payload item : Json) (projected : Option Json) :
    Except Exn (Option Json) :=
  match payload.field? "split_operation" with
  | none => return none
  | some stored =>
    if stored.isObj && stored.hasExactlyKeys taskMirrorSplitOperationKeys then do
      orRaise (splitConflict (item.get "id")) (validateTaskMirrorSplitOperation stored "stored task mirror")
      return some stored
    else if projected.isSome && stored.isObj && stored.hasExactlyKeys splitOperationEnvelopeKeys &&
        stored.pyEq (item.get "split_operation") then
      return projected
    else throw (Exn.value ("task " ++ (item.get "id").pyRepr ++ " stored task mirror split_operation is neither " ++
      "the exact six-key metadata nor a complete envelope matching the checklist item; refusing to " ++
      "overwrite registered operation identity"))

omit [Platform] in
/-- The branch or the pull request: a value of the coordinator stands, and no other may be supplied. -/
def mergeBinding (taskId field : String) (trusted : Option String) (supplied : Json) : Except Exn Json := do
  raiseIf (trusted.getD "" ≠ "" ∧ supplied.truthy ∧ supplied ≠ Json.ofOption trusted)
    (Exn.value (s!"task {taskId} harness {field} {supplied.pyRepr} conflicts with coordinator value " ++
      (Json.ofOption trusted).pyRepr))
  return if supplied = .null then Json.ofOption trusted else supplied

omit [Platform] in
/-- Publish metadata that the coordinator has recorded. -/
def isPublished (metadata : Json) : Bool := metadata.isObj && metadata.truthy

omit [Platform] in
/-- The payload of an item over the stored one, whose publish metadata stay. -/
def overlay (existing item : Json) (operation : Option Json) : Json :=
  let publish := existing.get "publish_metadata"
  let merged := existing.update item
  let merged := match operation with
    | some metadata => merged.set "split_operation" metadata
    | none => merged
  if isPublished publish then merged.set "publish_metadata" publish else merged

omit [Platform] in
/-- `json.loads(existing["payload_json"])`, or an empty object where it does not parse. -/
def decodedPayload (stored : JsonText) : Json :=
  match stored.loads with
  | .ok value => value
  | .error _ => .obj []

/-- The payload of a mirror that exists. -/
def mergePayload (taskId : String) (stored : JsonText) (item : Json) (projected : Option Json) :
    Except Exn Json := do
  let existing := decodedPayload stored
  if !existing.isObj then return item
  let publish := existing.get "publish_metadata"
  let supplied := item.get "publish_metadata"
  raiseIf (isPublished publish ∧ supplied ≠ .null ∧ ¬ supplied.pyEq publish)
    (Exn.value s!"task {taskId} harness publish_metadata conflicts with coordinator value")
  let operation ← storedSplitOperationMetadata existing item projected
  raiseIf (∃ old ∈ operation, ∃ new ∈ projected, ¬ old.pyEq new)
    (Exn.value (s!"task {taskId} split_operation metadata in the stored task mirror conflicts with the " ++
      "checklist item; refusing to overwrite registered operation identity"))
  return overlay existing item (operation.or projected)

/-- The mirror of an item, merged with the row that there is. -/
def mergeMirror (operations : List SplitOperationRow) (workspaceId taskId : String) (item : Json)
    (existing : Option TaskMirror) : Except Exn MirrorValues := do
  let mirror := taskMirrorFromItem taskId item
  let projected ← projectSplitOperationMetadata item
  checkAdoption operations workspaceId taskId projected
  match existing with
  | some row => do
    let branch ← mergeBinding taskId "branch" row.branch mirror.branch
    let pr ← mergeBinding taskId "pr" row.pr mirror.pr
    let payload ← mergePayload taskId row.payloadJson item projected
    return { mirror with branch, pr, payload }
  | none =>
    match projected with
    | some metadata => return { mirror with payload := item.set "split_operation" metadata }
    | none => return mirror

end Merge

section Upsert

omit [Platform] in
/-- The text that SQLite stores for a bound value; it cannot bind lists, objects and large numbers. -/
def bindText (value : Json) : Except Exn (Option String) :=
  match value with
  | .null => return none
  | .str text => return some text
  | .bool value => return some (if value then "1" else "0")
  | .int value => do
    raiseIf (value < -2 ^ 63 ∨ 2 ^ 63 ≤ value)
      (Exn.overflow "Python int too large to convert to SQLite INTEGER")
    return some (toString value)
  | other => throw (Exn.operational s!"Error binding parameter: type '{typeName other}' is not supported")

/-- What `_reconcile_item` is going to do: the merged mirror, the action, and the row to write. -/
structure ItemPlan where
  mirror : MirrorValues
  action : MirrorStatus
  row : TaskMirror
deriving DecidableEq, Repr

omit [Platform] in
/-- Whether a row holds the values; `_json_dumps` orders the keys of a payload. -/
def holds (row : TaskMirror) (mirror : MirrorValues) : Bool :=
  Json.ofOption row.phase = mirror.phase && Json.ofOption row.owner = mirror.owner &&
    Json.ofOption row.branch = mirror.branch && Json.ofOption row.pr = mirror.pr &&
    row.payloadJson = .dumps mirror.payload.reload

omit [Platform] in
/-- The row of a mirror, which keeps the event pointer. -/
def bindRow (workspaceId : String) (mirror : MirrorValues) (lastEventId : Option String) :
    Except Exn TaskMirror := do
  let phase ← bindText mirror.phase
  let owner ← bindText mirror.owner
  let branch ← bindText mirror.branch
  let pr ← bindText mirror.pr
  return ⟨workspaceId, mirror.taskId, phase, owner, branch, pr, lastEventId, .dumps mirror.payload.reload⟩

/-- The merge of an item and the comparison of `upsert_task_mirror`. -/
def planItem (operations : List SplitOperationRow) (workspaceId taskId : String) (item : Json) (db : Db) :
    Except Exn ItemPlan := do
  let existing := findTask db workspaceId taskId
  let mirror ← mergeMirror operations workspaceId taskId item existing
  match existing with
  | some row =>
    if holds row mirror then return ⟨mirror, .unchanged, row⟩
    else do
      let new ← bindRow workspaceId mirror row.lastEventId
      return ⟨mirror, .updated, new⟩
  | none => do
    let new ← bindRow workspaceId mirror none
    return ⟨mirror, .created, new⟩

omit [Platform] in
def MirrorStatus.text : MirrorStatus → String
  | .created => "created"
  | .updated => "updated"
  | .unchanged => "unchanged"

omit [Platform] in
def mirrorEvent (workspaceId : String) (plan : ItemPlan) : NewEvent where
  workspaceId := some workspaceId
  eventType := "task_mirror." ++ MirrorStatus.text plan.action
  actor := "reconciler"
  target := none
  taskId := some plan.mirror.taskId
  idempotencyKey := none
  payload := .obj [("phase", plan.mirror.phase), ("owner", plan.mirror.owner),
    ("branch", plan.mirror.branch), ("pr", plan.mirror.pr)]

/-- The merged mirror, the action, and whether an event was appended. -/
structure ItemOutcome where
  mirror : MirrorValues
  action : MirrorStatus
  eventCreated : Bool
deriving DecidableEq, Repr

/-- `_reconcile_item(..., commit=True)`, which commits the row and the event one after the other. -/
def reconcileItem (operations : List SplitOperationRow) (workspaceId taskId : String) (item : Json) :
    DbTx ItemOutcome := do
  let planned ← Tx.query (planItem operations workspaceId taskId item)
  let plan ← orRaise id planned
  if plan.action = .unchanged then return ⟨plan.mirror, .unchanged, false⟩
  else do
    Tx.within (writeTask plan.row)
    Tx.commit
    let event ← appendEventAndCommit (mirrorEvent workspaceId plan)
    return ⟨plan.mirror, plan.action, event.created⟩

/-- `_reconcile_item(..., commit=False)`. -/
def reconcileItemInside (operations : List SplitOperationRow) (workspaceId taskId : String) (item : Json) :
    DbTxn ItemOutcome := do
  let planned ← Txn.read (planItem operations workspaceId taskId item)
  let plan ← orRaise id planned
  if plan.action = .unchanged then return ⟨plan.mirror, .unchanged, false⟩
  else do
    writeTask plan.row
    let event ← appendEvent (mirrorEvent workspaceId plan)
    return ⟨plan.mirror, plan.action, event.created⟩

end Upsert

section Reconcile

/-- What the harness adapter reads. -/
structure Reading where
  state : Json
  checklist : Json
deriving DecidableEq

/-- The counts, and the mirrors with their actions. -/
structure Tally where
  created : Nat := 0
  updated : Nat := 0
  unchanged : Nat := 0
  eventsCreated : Nat := 0
  tasks : List (MirrorValues × MirrorStatus) := []
deriving DecidableEq, Repr

structure ReconcileResult where
  workspaceId : String
  project : Json
  tally : Tally
  scope : Option String
deriving DecidableEq, Repr

omit [Platform] in
def Tally.add (tally : Tally) (outcome : ItemOutcome) : Tally where
  created := tally.created + if outcome.action = .created then 1 else 0
  updated := tally.updated + if outcome.action = .updated then 1 else 0
  unchanged := tally.unchanged + if outcome.action = .unchanged then 1 else 0
  eventsCreated := tally.eventsCreated + if outcome.eventCreated then 1 else 0
  tasks := tally.tasks ++ [(outcome.mirror, outcome.action)]

/-- `_state_fingerprint({"state": state, "items": items})`. -/
def stateFingerprint (state : Json) (items : List Json) : String :=
  let value := Json.obj [("state", state), ("items", .arr items)]
  String.ofList ((Platform.sha256 (spaced value.sortKeys)).toList.take 16)

/-- The event of a completed run; a targeted one has the task in its key and in its payload. -/
def summaryEvent (workspaceId : String) (reading : Reading) (items : List Json) (task : Option String)
    (tally : Tally) : NewEvent where
  workspaceId := some workspaceId
  eventType := "reconciliation.completed"
  actor := "reconciler"
  target := none
  taskId := none
  idempotencyKey := some (match task with
    | none => s!"{workspaceId}:reconcile:{stateFingerprint reading.state items}"
    | some taskId => s!"{workspaceId}:reconcile:{taskId}:{stateFingerprint reading.state items}")
  payload := .obj ([("project", (reading.state.get "project").orElse (reading.checklist.get "project")),
    ("created", .int tally.created), ("updated", .int tally.updated), ("unchanged", .int tally.unchanged)] ++
      match task with
      | none => []
      | some taskId => [("task_id", .str taskId)])

omit [Platform] in
/-- `checklist.get("items", [])`. -/
def itemsOf (checklist : Json) : Except Exn (List Json) :=
  match checklist.field? "items" with
  | none => return []
  | some (.arr items) => return items
  | some _ => throw (Exn.value "checklist must contain an items array")

omit [Platform] in
/-- The identifier of an item that is not skipped; a checklist that is read has texts for identifiers. -/
def identifier? (item : Json) : Option String :=
  match item.get "id" with
  | .str taskId => if taskId = "" then none else some taskId
  | _ => none

/-- The loop of a full run. -/
def reconcileItems (operations : List SplitOperationRow) (workspaceId : String) (tally : Tally) :
    List Json → DbTx Tally
  | [] => return tally
  | item :: rest =>
    match identifier? item with
    | none => reconcileItems operations workspaceId tally rest
    | some taskId => do
      let outcome ← reconcileItem operations workspaceId taskId item
      reconcileItems operations workspaceId (tally.add outcome) rest

omit [Platform] in
def resultOf (workspaceId : String) (reading : Reading) (tally : Tally) (created : Bool)
    (task : Option String) : ReconcileResult where
  workspaceId
  project := (reading.state.get "project").orElse (reading.checklist.get "project")
  tally := { tally with eventsCreated := tally.eventsCreated + if created then 1 else 0 }
  scope := task

def reconcileAll (operations : List SplitOperationRow) (workspaceId : String) (reading : Reading)
    (items : List Json) : DbTx ReconcileResult := do
  let tally ← reconcileItems operations workspaceId {} items
  let summary ← appendEventAndCommit (summaryEvent workspaceId reading items none tally)
  return resultOf workspaceId reading tally summary.created none

/-- The body of the savepoint `targeted_reconcile`. -/
def reconcileTargetInside (operations : List SplitOperationRow) (workspaceId taskId : String)
    (reading : Reading) (target : Json) : DbTxn ReconcileResult := do
  let outcome ← reconcileItemInside operations workspaceId taskId target
  let tally := ({} : Tally).add outcome
  let summary ← appendEvent (summaryEvent workspaceId reading [target] (some taskId) tally)
  return resultOf workspaceId reading tally summary.created (some taskId)

def reconcileTarget (operations : List SplitOperationRow) (workspaceId taskId : String)
    (reading : Reading) (items : List Json) : DbTx ReconcileResult :=
  match items.filter fun item => item.isObj && item.get "id" = .str taskId with
  | [] => throw (Exn.value
      s!"task {Text.repr taskId} not found in checklist for workspace {Text.repr workspaceId}")
  | [target] =>
    tryCatch (do
      let result ← Tx.savepoint (reconcileTargetInside operations workspaceId taskId reading target)
      Tx.commit
      return result) fun e => do
        Tx.commit
        throw e
  | matched => throw (Exn.value
      s!"task {Text.repr taskId} appears {matched.length} times in checklist; refusing to pick one")

/-- `reconcile_workspace`, from what its adapter has read. -/
def reconcileWorkspace (operations : List SplitOperationRow) (workspaceId : String)
    (read : Except Exn Reading) (task : Option String) : DbTx ReconcileResult := do
  let reading ← orRaise id read
  let items ← orRaise id (itemsOf reading.checklist)
  match task with
  | none => reconcileAll operations workspaceId reading items
  | some taskId => reconcileTarget operations workspaceId taskId reading items

end Reconcile

end Coordinate.MirrorReconcile

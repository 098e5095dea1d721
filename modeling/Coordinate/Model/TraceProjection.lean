import Mathlib.Data.List.Sort
import Coordinate.Model.AgentReport
import Coordinate.Model.MergeGate

/-! # The trace of a task or of a job

`trace_projection.py`: a read-only projection of stored rows into metadata and locators. Its next gate
comes from `list_pending_actions` of `operator.py`. A projection is the dictionary that the source builds.
-/

namespace Coordinate.Trace

section Rows

/-- The columns of `workspaces` that the projection reads. -/
structure WorkspaceName where
  id : String
  name : String
deriving DecidableEq, Repr

/-- A row of `tasks` with its time. -/
structure MirrorRow where
  task : TaskMirror
  updatedAt : Nat
deriving DecidableEq, Repr

/-- The columns of `jobs` that the projection reads; the workspace is null once its row is deleted. -/
structure JobRecord where
  id : String
  workspaceId : Option String
  taskId : Option String
  runnerProfileId : Option String
  assignedAgent : Option String
  status : JobStatus
  attemptCount : Nat
  terminalSessionId : Option String
  payloadJson : JsonText
  resultJson : Option JsonText
  progressJson : Option JsonText
  createdAt : Nat
  completedAt : Option Nat
  lastActivityAt : Option Nat
  recoverable : Bool
  updatedAt : Nat
deriving DecidableEq, Repr

/-- The tables that the projection reads, each in the order of its rows. -/
structure Snapshot where
  workspaces : List WorkspaceName
  tasks : List MirrorRow
  jobs : List JobRecord
  leases : List LeaseRow
  events : List EventRow
  deliveries : List DeliveryRow
deriving DecidableEq, Repr

end Rows

section Reading

/-- `_decode`. -/
def decode : JsonText → Json
  | .value (.obj fields) => .obj fields
  | _ => .obj []

def decodeNullable : Option JsonText → Json
  | some text => decode text
  | none => .obj []

/-- `json_extract(payload_json, path) = ?`, which fails on a text that is no JSON. -/
def hasField (key value : String) (row : EventRow) : Except Exn Bool :=
  match row.payloadJson with
  | .value payload => return payload.get key = .str value
  | _ => throw (Exn.operational "malformed JSON")

/-- The rows with the value under the key. -/
def withField (key value : String) : List EventRow → Except Exn (List EventRow)
  | [] => return []
  | row :: rest => do
    let own ← hasField key value row
    let others ← withField key value rest
    return if own then row :: others else others

/-- `ORDER BY created_at DESC, rowid DESC LIMIT 1`. -/
def newest (rows : List EventRow) : Option EventRow :=
  rows.foldl MergeGate.newer none

def stamp (time : Nat) : Json := .str (Calendar.isoformat time)

def nullableStamp : Option Nat → Json
  | some time => stamp time
  | none => .null

def state (name : String) : Json := .obj [("state", .str name)]

def isText : Json → Bool
  | .str text => text ≠ ""
  | _ => false

end Reading

section Pending

variable [Platform]

structure PendingAction where
  taskId : String
  phase : String
  owner : Option String
  action : String
  reason : String
  latestEventType : Option String
  latestEventSummary : Json
deriving DecidableEq, Repr

def relevantEventTypes : List String :=
  ["agent.reported", "plan.review_requested", "plan.approved", "plan.rejected", "closeout.requested",
    "review.completed", "review.rejected", "task.done"]

def eventsOf (db : Snapshot) (workspaceId taskId : String) (eventTypes : List String) : List EventRow :=
  db.events.filter fun row =>
    row.workspaceId = some workspaceId && row.taskId = some taskId && eventTypes.contains row.eventType

/-- `_has_task_done_event`. -/
def hasTaskDoneEvent (db : Snapshot) (workspaceId taskId : String) : Bool :=
  !(eventsOf db workspaceId taskId ["task.done"]).isEmpty

/-- `_latest_relevant_event`. -/
def latestRelevantEvent (db : Snapshot) (workspaceId taskId : String) : Except Exn (Option EventDict) :=
  match newest (eventsOf db workspaceId taskId relevantEventTypes) with
  | none => return none
  | some row => some <$> row.toDict

/-- `_event_summary`. -/
def eventSummary : Option EventDict → Json
  | none => .null
  | some event =>
    if event.payload.isObj then
      (((event.payload.get "summary").orElse (event.payload.get "result_summary")).orElse
        (event.payload.get "reason")).orElse (event.payload.get "action")
    else .null

/-- The decision of a review, `(latest_decision or "").lower()`. -/
def isApproval (decision : Json) : Except Exn Bool :=
  match decision.orElse (.str "") with
  | .str text => return ["approve", "approved"].contains (AgentReport.lowerText text)
  | _ => throw (Exn.type "object has no attribute 'lower'")

def isIn (names : List String) (phase : Option String) : Bool :=
  phase.any names.contains

/-- A text column that is null or empty. -/
def isMissing (column : Option String) : Bool := column.getD "" = ""

/-- `_infer_action`. -/
def inferAction (phase owner latestType : Option String) (latestAction latestDecision : Json) :
    Except Exn (Option String) := do
  if latestType = some "task.done" then return none
  if latestType = some "plan.review_requested" && isIn ["planned", "ready"] phase then
    return some "approve_plan"
  if latestType = some "plan.rejected" then return none
  if latestType = some "plan.approved" then
    return if isIn ["planned", "ready"] phase && isMissing owner then some "handoff" else none
  if isIn ["closeout.requested", "review.rejected"] latestType then return none
  if latestType = some "review.completed" then
    let approved ← isApproval latestDecision
    return if approved then some "mark_done" else none
  if isIn ["implementing", "running", "accepted", "awaiting_operator"] phase &&
      latestType = some "agent.reported" && latestAction = .str "done" then
    return some "review_code"
  if phase = some "ready" && isMissing owner then return some "handoff"
  return none

def textOrNone (column : Option String) : String := column.getD "None"

/-- `_reason_for`. -/
def reasonFor (phase latestType : Option String) (action : String) : String :=
  if action = "mark_done" then
    s!"review approved → operator should mark-done (phase={textOrNone phase})"
  else if action = "approve_plan" then
    "plan.review_requested pending → operator should approve or reject plan " ++
      s!"(phase={textOrNone phase})"
  else if action = "review_code" then
    "agent.reported done → operator should review code and closeout " ++
      s!"(phase={textOrNone phase})"
  else if action = "handoff" then
    s!"task ready with no owner → operator should handoff (phase={textOrNone phase})"
  else
    s!"operator action required (phase={textOrNone phase}, event={textOrNone latestType})"

/-- `latest.get("payload") or \{}`, of which the caller reads fields. -/
def payloadOfLatest : Option EventDict → Except Exn Json
  | none => return .obj []
  | some event => do
    let payload := event.payload.orElse (.obj [])
    raiseIf (¬ payload.isObj) (Exn.type "object has no attribute 'get'")
    return payload

/-- The action that the latest event of an open task calls for. -/
def actionOn (task : TaskMirror) (latest : Option EventDict) : Except Exn (Option PendingAction) := do
  let payload ← payloadOfLatest latest
  let latestType := latest.map (·.row.eventType)
  let action ← inferAction task.phase task.owner latestType (payload.get "action")
    (payload.get "decision")
  return action.map fun action =>
    ⟨task.taskId, if isMissing task.phase then "unknown" else task.phase.getD "", task.owner, action,
      reasonFor task.phase latestType action, latestType, eventSummary latest⟩

/-- What one mirror of the list asks of the operator. -/
def pendingAction (db : Snapshot) (workspaceId : String) (row : MirrorRow) :
    Except Exn (Option PendingAction) := do
  let task ← row.task.toDict
  if isIn ["done", "closed", "released"] task.row.phase then return none
  if hasTaskDoneEvent db workspaceId task.row.taskId then return none
  let latest ← latestRelevantEvent db workspaceId task.row.taskId
  actionOn task.row latest

/-- `list_task_mirrors`: without a workspace, those of all workspaces. -/
def listTaskMirrors (db : Snapshot) (workspaceId : String) : List MirrorRow :=
  if workspaceId = "" then
    db.tasks.insertionSort fun a b => a.task.workspaceId < b.task.workspaceId ∨
      a.task.workspaceId = b.task.workspaceId ∧ a.task.taskId ≤ b.task.taskId
  else
    (db.tasks.filter (·.task.workspaceId = workspaceId)).insertionSort fun a b =>
      a.task.taskId ≤ b.task.taskId

def collectPending (db : Snapshot) (workspaceId : String) :
    List MirrorRow → Except Exn (List PendingAction)
  | [] => return []
  | row :: rest => do
    let own ← pendingAction db workspaceId row
    let others ← collectPending db workspaceId rest
    return own.toList ++ others

/-- `list_pending_actions`. -/
def listPendingActions (db : Snapshot) (workspaceId : String) : Except Exn (List PendingAction) :=
  collectPending db workspaceId (listTaskMirrors db workspaceId)

end Pending

section Execution

def executorProjection (binding : Json) : Json :=
  if binding.isObj && (binding.get "provider").truthy then
    .obj [("state", .str "present"), ("source", .str "stored_snapshot"),
      ("provider", binding.get "provider"), ("adapter", binding.get "adapter"),
      ("executor_definition_id", binding.get "executor_definition_id")]
  else state "unknown"

def contextProjection (ctx : Json) : Json :=
  if ctx.isObj && (ctx.get "host_id").truthy then
    .obj [("state", .str "present"), ("host_id", ctx.get "host_id"),
      ("worktree_path", ctx.get "worktree_path"), ("branch", ctx.get "branch"),
      ("session_scope_id", ctx.get "session_scope_id")]
  else state "unknown"

/-- A place that names a session. -/
structure SessionSource where
  source : String
  sessionId : Json
deriving DecidableEq, Repr

def SessionSource.toDict (found : SessionSource) : Json :=
  .obj [("source", .str found.source), ("session_id", found.sessionId)]

/-- A session id in a stored result, which counts where it is a text that is not blank. -/
def resultSource (source : String) (candidate : Json) : List SessionSource :=
  match candidate with
  | .str text => if Text.strip text = "" then [] else [⟨source, .str (Text.strip text)⟩]
  | _ => []

/-- The sources of `_session_projection` that name a session. -/
def sessionSources (job : JobRecord) (progressSessionId : Json) : List SessionSource :=
  let result := decodeNullable job.resultJson
  let sources : List SessionSource :=
    [⟨"jobs.terminal_session_id", Json.ofOption job.terminalSessionId⟩,
      ⟨"jobs.progress_json.session_id", (decodeNullable job.progressJson).get "session_id"⟩,
      ⟨"job.progress.session_id", progressSessionId⟩] ++
      resultSource "jobs.result_json.timeout.session_id" (result.getIn "timeout" "session_id") ++
      resultSource "jobs.result_json.session_id" (result.get "session_id")
  sources.filter (·.sessionId.truthy)

/-- Whether a decoded value can be put into a set. -/
def isHashable : Json → Bool
  | .arr _ | .obj _ => false
  | _ => true

/-- `_session_projection`. -/
def sessionProjection (job : JobRecord) (progressSessionId : Json) : Except Exn Json := do
  let sources := sessionSources job progressSessionId
  let unknown := Json.obj [("state", .str "unknown"), ("sources", .arr (sources.map (·.toDict)))]
  match sources with
  | [] => return unknown
  | first :: rest => do
    raiseIf (sources.any fun found => !isHashable found.sessionId) (Exn.type "unhashable type")
    return if rest.any (fun found => !Json.pyEq found.sessionId first.sessionId) then unknown
      else .obj [("state", .str "present"), ("source", .str first.source),
        ("session_id", first.sessionId)]

/-- `_current_attempt_claim`. -/
def currentAttemptClaim (db : Snapshot) (jobId : String) (attempt : Nat) : Option EventRow :=
  if attempt = 0 then none
  else db.events.find? (·.idempotencyKey = s!"runtime:job:{jobId}:claimed:{attempt}")

/-- `_latest_job_progress`. -/
def latestJobProgress (db : Snapshot) (jobId : String) : Except Exn (Option EventRow) :=
  newest <$> withField "job_id" jobId (db.events.filter (·.eventType = "job.progress"))

def payloadOfRow (row : EventRow) : Json := decode row.payloadJson

/-- `_progress_session_id`. -/
def progressSessionId (latest : Option EventRow) : Json :=
  match latest with
  | some event => (payloadOfRow event).get "session_id"
  | none => .null

def entry (name : String) (value : Json) : List (String × Json) :=
  if value = .null then [] else [(name, value)]

/-- `_progress_projection`, of the latest progress. -/
def progressProjection (db : Snapshot) (job : JobRecord) (latest : Option EventRow) : Json :=
  match latest with
  | none => state "unavailable"
  | some event =>
    let claim := currentAttemptClaim db job.id job.attemptCount
    if claim.any (fun claim => event.createdAt < claim.createdAt) then
      .obj [("state", .str "stale"),
        ("reason", .str "latest job.progress predates the exact current-attempt claim"),
        ("attempt_token", .int job.attemptCount)]
    else
      let payload := payloadOfRow event
      let evidence := entry "stage" (payload.get "stage") ++
        entry "session_id" (payload.get "session_id") ++
        entry "last_activity_at" (payload.get "last_activity_at")
      if evidence = [] then state "unavailable"
      else .obj ([("state", .str "present"), ("source", .str "job.progress")] ++ evidence)

/-- The state of a lease, whose time is compared with the text of the projection's time. -/
def leaseState (generatedAt : String) (lease : LeaseRow) : String :=
  if lease.status = .active && Calendar.isoformat lease.expiresAt ≤ generatedAt then "stale"
  else "present"

def leaseDict (generatedAt : String) (lease : LeaseRow) : Json :=
  .obj [("state", .str (leaseState generatedAt lease)), ("lease_id", .str lease.leaseId),
    ("attempt_token", .int lease.attemptToken), ("status", .str lease.status.text),
    ("expires_at", stamp lease.expiresAt), ("host_id", .str lease.hostId),
    ("resource_kind", .str lease.resourceKind), ("resource_key", .str lease.resourceKey)]

/-- `_leases_projection`. -/
def leasesProjection (db : Snapshot) (job : JobRecord) (generatedAt : String) : Json :=
  let rows := (db.leases.filter (·.jobId = job.id)).insertionSort (·.attemptToken ≤ ·.attemptToken)
  let typed := (decode job.payloadJson).get "executor_binding" ≠ .null
  if rows = [] then
    .obj [("state", .str (if 0 < job.attemptCount ∧ typed ∧ job.status = .running then "missing"
        else "unavailable")),
      ("leases", .arr [])]
  else
    let current := (rows.filter fun lease => lease.status = .active &&
      lease.attemptToken = job.attemptCount && leaseState generatedAt lease = "present").getLast?
    .obj [("state", .str "present"),
      ("current_lease_id", Json.ofOption (current.map (·.leaseId))),
      ("leases", .arr (rows.map (leaseDict generatedAt)))]

def terminalEventTypes : List String := ["job.completed", "job.failed", "job.timed_out"]

/-- `ORDER BY created_at DESC, id DESC`. -/
def laterDelivery (a b : DeliveryRow) : Prop :=
  b.createdAt < a.createdAt ∨ b.createdAt = a.createdAt ∧ b.id ≤ a.id

instance : DecidableRel laterDelivery := fun _ _ => inferInstanceAs (Decidable (_ ∨ _))

def deliveryDict (row : DeliveryRow) : Json :=
  .obj [("state", .str (if row.status = "failed" then "failed" else "present")),
    ("delivery_id", .str row.id), ("platform", .str row.platform),
    ("destination", .str row.destination), ("status", .str row.status),
    ("platform_message_id", Json.ofOption row.platformMessageId)]

/-- `_delivery_projection`. -/
def deliveryProjection (db : Snapshot) (jobId : String) : Except Exn Json := do
  let events ← withField "job_id" jobId (db.events.filter (terminalEventTypes.contains ·.eventType))
  let rows := db.deliveries.flatMap fun row =>
    (events.filter fun event => row.eventId = some event.id).map fun _ => row
  return if rows = [] then .obj [("state", .str "unavailable"), ("deliveries", .arr [])]
    else .obj [("state", .str "present"),
      ("deliveries", .arr ((rows.insertionSort laterDelivery).map deliveryDict))]

def jobDict (job : JobRecord) : Json :=
  .obj [("state", .str "present"), ("job_id", .str job.id), ("status", .str job.status.text),
    ("attempt_count", .int job.attemptCount), ("assigned_agent", Json.ofOption job.assignedAgent),
    ("runner_profile_id", Json.ofOption job.runnerProfileId), ("created_at", stamp job.createdAt),
    ("updated_at", stamp job.updatedAt), ("last_activity_at", nullableStamp job.lastActivityAt)]

/-- `_execution_projection`. -/
def executionProjection (db : Snapshot) (job : JobRecord) (generatedAt : String) :
    Except Exn (List (String × Json)) := do
  let payload := decode job.payloadJson
  let latest ← latestJobProgress db job.id
  let session ← sessionProjection job (progressSessionId latest)
  let delivery ← deliveryProjection db job.id
  return [("job", jobDict job),
    ("outcome", .obj [("state", .str (if job.status = .failed then "failed" else "present")),
      ("status", .str job.status.text)]),
    ("executor", executorProjection (payload.get "executor_binding")),
    ("execution_context", contextProjection (payload.get "execution_context")),
    ("provider_session", session),
    ("last_progress", progressProjection db job latest),
    ("attempt_leases", leasesProjection db job generatedAt),
    ("delivery", delivery)]

end Execution

section Tasks

/-- `_plan_locator`. -/
def planLocator (payload : Json) : Json :=
  let candidates := [("plan_doc", payload.get "plan_doc"), ("plan_path", payload.get "plan_path"),
    ("artifacts.plan", payload.getIn "artifacts" "plan")]
  match candidates.find? fun candidate => isText candidate.2 with
  | some (source, value) =>
    .obj [("state", .str "present"), ("source", .str source), ("plan_path", value)]
  | none => state "missing"

/-- What the projection says of a task. -/
inductive TaskEvidence where
  | unavailable
  | missing (taskId : String)
  | unknown (taskId : Option String)
  | present (taskId : String) (phase owner branch pr : Option String) (locator : Json)
    (updatedAt : Nat)
deriving DecidableEq, Repr

namespace TaskEvidence

def toDict : TaskEvidence → Json
  | unavailable => state "unavailable"
  | missing taskId => .obj [("state", .str "missing"), ("task_id", .str taskId)]
  | unknown taskId => .obj [("state", .str "unknown"), ("task_id", Json.ofOption taskId)]
  | present taskId phase owner branch pr locator updatedAt =>
    .obj [("state", .str "present"), ("task_id", .str taskId), ("phase", Json.ofOption phase),
      ("owner", Json.ofOption owner), ("branch", Json.ofOption branch), ("pr", Json.ofOption pr),
      ("plan_locator", locator),
      ("mirror", .obj [("source", .str "task_mirror"), ("harness_refreshed", .bool false),
        ("may_be_stale", .bool true), ("mirror_updated_at", stamp updatedAt)])]

/-- `task.get("task_id")`. -/
def taskId? : TaskEvidence → Option String
  | unavailable => none
  | missing taskId => some taskId
  | unknown taskId => taskId
  | present taskId .. => some taskId

/-- `task.get("pr")`. -/
def pr? : TaskEvidence → Option String
  | present _ _ _ _ pr .. => pr
  | _ => none

end TaskEvidence

/-- `_task_projection`. -/
def taskProjection (db : Snapshot) (workspaceId : String) : Option String → TaskEvidence
  | none => .unavailable
  | some taskId =>
    match db.tasks.find? fun row => row.task.workspaceId = workspaceId && row.task.taskId = taskId with
    | none => .missing taskId
    | some row => .present taskId row.task.phase row.task.owner row.task.branch row.task.pr
      (planLocator (decode row.task.payloadJson)) row.updatedAt

/-- `_workspace_projection`. -/
def workspaceProjection (db : Snapshot) (workspaceId : String) : Except Exn WorkspaceName :=
  match db.workspaces.find? (·.id = workspaceId) with
  | some row => return row
  | none => throw (Exn.value s!"unknown workspace: {workspaceId}")

def workspaceDict : Option WorkspaceName → Json
  | some row =>
    .obj [("state", .str "present"), ("workspace_id", .str row.id), ("name", .str row.name)]
  | none => state "unknown"

end Tasks

section Forge

def ciEventTypes : List String := ["ci.passed", "ci.failed", "ci.pending"]

def prReviewEventTypes : List String :=
  ["pr_review.approved", "pr_review.changes_requested", "pr_review.required"]

/-- `event_type.split(".", 1)[1]` of a type with a dot. -/
def afterDot (eventType : String) : String :=
  String.ofList ((eventType.toList.dropWhile (· ≠ '.')).drop 1)

/-- `_ci_evidence`. -/
def ciEvidence : Option EventRow → Json
  | none => state "unavailable"
  | some row =>
    let outcome := afterDot row.eventType
    .obj [("state", .str (if outcome = "failed" then "failed" else "present")),
      ("status", .str outcome), ("event_type", .str row.eventType),
      ("created_at", stamp row.createdAt), ("pr", (payloadOfRow row).get "pr"),
      ("head_sha", (payloadOfRow row).get "head_sha")]

/-- The heads of CI and of the review are both known, of one pull request, and differ. -/
def headsDiffer (ci review : Json) : Bool :=
  match ci.get "head_sha", review.get "head_sha" with
  | .str ciHead, .str reviewHead => Json.pyEq (ci.get "pr") (review.get "pr") && ciHead ≠ reviewHead
  | _, _ => false

/-- `_review_evidence`. -/
def reviewEvidence (review ci : Option EventRow) (taskPr : String) : Json :=
  match review with
  | none => state "unavailable"
  | some row =>
    let payload := payloadOfRow row
    let decision := afterDot row.eventType
    if payload.get "pr" ≠ .str taskPr then
      .obj [("state", .str "unavailable"),
        ("reason", .str "pr_review event is for a different PR than the task's current PR"),
        ("review_decision", .str decision), ("created_at", stamp row.createdAt),
        ("pr", payload.get "pr")]
    else if ci.any fun ciRow => headsDiffer (payloadOfRow ciRow) payload then
      .obj [("state", .str "stale"), ("reason", .str "same-PR CI and PR-review head_sha mismatch"),
        ("review_decision", .str decision), ("created_at", stamp row.createdAt),
        ("pr", payload.get "pr"), ("head_sha", payload.get "head_sha")]
    else
      .obj [("state", .str "present"), ("event_type", .str row.eventType),
        ("review_decision", .str decision), ("created_at", stamp row.createdAt),
        ("pr", payload.get "pr"), ("head_sha", payload.get "head_sha")]

/-- `_result_review_evidence`. -/
def resultReviewEvidence : Option EventRow → Json
  | none => state "unavailable"
  | some row =>
    .obj [("state", .str "present"), ("event_type", .str row.eventType),
      ("decision", (payloadOfRow row).get "decision"), ("reviewer", (payloadOfRow row).get "reviewer"),
      ("created_at", stamp row.createdAt)]

/-- `_forge_projection` of a task with a pull request. -/
def forgeOfPr (db : Snapshot) (workspaceId taskId pr : String) : Except Exn Json := do
  let ciRows ← withField "pr" pr (eventsOf db workspaceId taskId ciEventTypes)
  let ci := newest ciRows
  let review := newest (eventsOf db workspaceId taskId prReviewEventTypes)
  let resultReview := newest (eventsOf db workspaceId taskId ["review.completed", "review.rejected"])
  return .obj [("state", .str "present"), ("pr", .str pr), ("ci", ciEvidence ci),
    ("pr_review", reviewEvidence review ci pr), ("result_review", resultReviewEvidence resultReview)]

/-- `_forge_projection`; a task with a pull request has a workspace and an id. -/
def forgeProjection (db : Snapshot) (workspace : Option WorkspaceName) (task : TaskEvidence) :
    Except Exn Json :=
  match task.pr?.filter (· ≠ ""), workspace, task.taskId? with
  | some pr, some workspace, some taskId => forgeOfPr db workspace.id taskId pr
  | _, _, _ => return state "unavailable"

end Forge

section Assembly

variable [Platform]

def gateDict (source action : String) : Json :=
  .obj [("state", .str "present"), ("source", .str source), ("action", .str action)]

/-- The gate that the lifecycle of a job has next. -/
def lifecycleGate : Option JobRecord → Json
  | none => state "unknown"
  | some job =>
    match job.status with
    | .pending => gateDict "job_lifecycle" "claim"
    | .running => gateDict "job_lifecycle" "progress-or-result"
    | .timedOut => if job.recoverable then gateDict "job_lifecycle" "recover" else state "unknown"
    | .done => gateDict "job_lifecycle" "operator-review"
    | _ => state "unknown"

/-- `_next_gate`. -/
def nextGate (db : Snapshot) (workspace : Option WorkspaceName) (task : TaskEvidence)
    (selected : Option JobRecord) : Except Exn Json :=
  match workspace, task.taskId? with
  | some workspace, some taskId => do
    let pending ← listPendingActions db workspace.id
    match pending.find? (·.taskId = taskId) with
    | some action => return gateDict "operator.pending" action.action
    | none => return lifecycleGate selected
  | _, _ => return lifecycleGate selected

inductive Selection where
  | exact (jobId : String)
  | current (jobId : String)
  | ambiguous (candidates : List String)
  | latest (jobId : String)
  | none
deriving DecidableEq, Repr

def Selection.toDict : Selection → Json
  | exact jobId => .obj [("kind", .str "exact"), ("job_id", .str jobId)]
  | current jobId => .obj [("kind", .str "current"), ("job_id", .str jobId)]
  | ambiguous candidates =>
    .obj [("kind", .str "ambiguous"), ("candidate_job_ids", .arr (candidates.map .str))]
  | latest jobId => .obj [("kind", .str "latest"), ("job_id", .str jobId)]
  | none => .obj [("kind", .str "none")]

/-- `_task_selection`. -/
def taskSelection (live : List JobRecord) (terminal : Option JobRecord) : Selection :=
  match live, terminal with
  | [job], _ => .current job.id
  | _ :: _ :: _, _ => .ambiguous (live.map (·.id))
  | [], some job => .latest job.id
  | [], none => .none

/-- The row of `selection.get("job_id")`. -/
def Selection.row (selection : Selection) (rows : List JobRecord) : Option JobRecord :=
  match selection with
  | current jobId | latest jobId | exact jobId => rows.find? (·.id = jobId)
  | _ => .none

/-- `_job_summary`. -/
def jobSummary (job : JobRecord) : Json :=
  .obj [("job_id", .str job.id), ("state", .str "present"), ("status", .str job.status.text),
    ("attempt_count", .int job.attemptCount), ("created_at", stamp job.createdAt),
    ("completed_at", nullableStamp job.completedAt)]

/-- What the two queries have found out before the sections are built. -/
structure Findings where
  query : Json
  queriedJob : Json
  generatedAt : String
  workspace : Option WorkspaceName
  task : TaskEvidence
  total : Nat
  historyLimit : Nat
  summaries : List Json
  selection : Selection
  selected : Option JobRecord
  orphan : Bool

def diagnostics (findings : Findings) : List Json :=
  (if findings.orphan then
    [.obj [("classification", .str "orphan_workspace"), ("component", .str "workspace"),
      ("reason", .str "job.workspace_id is NULL (workspace row deleted)"),
      ("locator", .obj [("job_id", findings.queriedJob)])]]
  else []) ++
  match findings.selection with
  | .ambiguous candidates =>
    [.obj [("classification", .str "ambiguous_current_job"), ("component", .str "job"),
      ("reason", .str "multiple live jobs; use the exact job query"),
      ("locator", .obj [("candidate_job_ids", .arr (candidates.map .str))])]]
  | _ => []

/-- The sections about the selected job. -/
def selectedExecution (db : Snapshot) (generatedAt : String) :
    Option JobRecord → Except Exn (List (String × Json))
  | some job => executionProjection db job generatedAt
  | none => return []

/-- `_assemble`. -/
def assemble (db : Snapshot) (findings : Findings) : Except Exn Json := do
  let execution ← selectedExecution db findings.generatedAt findings.selected
  let gate ← nextGate db findings.workspace findings.task findings.selected
  let forge ← forgeProjection db findings.workspace findings.task
  return .obj [("contract_version", .int 1), ("query", findings.query),
    ("generated_at", .str findings.generatedAt), ("workspace", workspaceDict findings.workspace),
    ("task", findings.task.toDict),
    ("jobs", .obj [("total", .int findings.total), ("history_limit", .int findings.historyLimit),
      ("history_truncated", .bool (findings.historyLimit < findings.total)),
      ("summaries", .arr findings.summaries)]),
    ("execution", .obj (("selection", findings.selection.toDict) :: execution)),
    ("next_gate", gate), ("diagnostics", .arr (diagnostics findings)), ("forge", forge)]

/-- `_normalize_history_limit`. -/
def normalizeHistoryLimit : Json → Except Exn Nat
  | .null => return 20
  | .int limit =>
    if 1 ≤ limit ∧ limit ≤ 100 then return limit.toNat
    else throw (Exn.value "history_limit must be between 1 and 100")
  | _ => throw (Exn.value "history_limit must be an integer")

/-- `now or utc_now()`. -/
def generatedAt (now : Option String) (current : Nat) : String :=
  if isMissing now then Calendar.isoformat current else now.getD ""

/-- `ORDER BY created_at DESC, id DESC`. -/
def laterJob (a b : JobRecord) : Prop :=
  b.createdAt < a.createdAt ∨ b.createdAt = a.createdAt ∧ b.id ≤ a.id

instance : DecidableRel laterJob := fun _ _ => inferInstanceAs (Decidable (_ ∨ _))

def isLive (job : JobRecord) : Bool :=
  job.status = .pending || job.status = .running || (job.status = .timedOut && job.recoverable)

def isTerminal (job : JobRecord) : Bool :=
  job.status = .done || job.status = .failed || job.status = .cancelled ||
    (job.status = .timedOut && !job.recoverable)

/-- The jobs of a task, latest first. -/
def jobsOfTask (db : Snapshot) (workspaceId taskId : String) : List JobRecord :=
  (db.jobs.filter fun job => job.workspaceId = some workspaceId && job.taskId = some taskId).insertionSort
    laterJob

/-- `build_task_trace`. -/
def buildTaskTrace (db : Snapshot) (current : Nat) (workspaceId taskId : String) (historyLimit : Json)
    (now : Option String) : Except Exn Json := do
  let limit ← normalizeHistoryLimit historyLimit
  let workspace ← workspaceProjection db workspaceId
  let task := taskProjection db workspaceId (some taskId)
  raiseIf (task = .missing taskId)
    (Exn.value s!"unknown task: {taskId} in workspace {workspaceId}")
  let jobs := jobsOfTask db workspaceId taskId
  let live := (jobs.filter isLive).take 100
  let terminal := if live = [] then (jobs.filter isTerminal).head? else none
  let selection := taskSelection live terminal
  assemble db
    { query := .obj [("kind", .str "task"), ("workspace_id", .str workspaceId),
        ("task_id", .str taskId), ("history_limit", .int limit)]
      queriedJob := .null
      generatedAt := generatedAt now current
      workspace := some workspace
      task
      total := jobs.length
      historyLimit := limit
      summaries := (jobs.take limit).map jobSummary
      selection
      selected := selection.row (live ++ terminal.toList)
      orphan := false }

/-- The workspace and the task of a job; a job without its workspace is an orphan. -/
def jobOwner (db : Snapshot) (job : JobRecord) : Except Exn (Option WorkspaceName × TaskEvidence) :=
  match job.workspaceId with
  | none => return (none, .unknown job.taskId)
  | some workspaceId => do
    let workspace ← workspaceProjection db workspaceId
    return (some workspace, taskProjection db workspaceId job.taskId)

/-- `build_job_trace`. -/
def buildJobTrace (db : Snapshot) (current : Nat) (jobId : String) (workspaceId : Option String)
    (now : Option String) : Except Exn Json := do
  match db.jobs.find? (·.id = jobId) with
  | none => throw (Exn.value s!"unknown job: {jobId}")
  | some job => do
    raiseIf (workspaceId.isSome ∧ job.workspaceId ≠ workspaceId)
      (Exn.value s!"job {jobId} does not belong to workspace {workspaceId.getD default}")
    let (workspace, task) ← jobOwner db job
    assemble db
      { query := .obj ([("kind", .str "job"), ("job_id", .str jobId)] ++
          (workspaceId.map fun id => ("workspace_id", Json.str id)).toList)
        queriedJob := .str jobId
        generatedAt := generatedAt now current
        workspace
        task
        total := 1
        historyLimit := 1
        summaries := [jobSummary job]
        selection := .exact jobId
        selected := some job
        orphan := job.workspaceId.isNone }

end Assembly

end Coordinate.Trace

import Coordinate.Model.TerminalReport

/-! # Creation, cancellation and retry of jobs

`create_job` (`job_repository.py`), `cancel_job` and `retry_job` (`jobs.py`). The reads of a
cancellation precede the statement that opens its transaction.
-/

namespace Coordinate

variable [Platform]

/-- The arguments of `create_job`. -/
structure NewJob where
  workspaceId : String
  taskId : Option String
  runnerProfileId : String
  assignedAgent : Option String := none
  promptPath : Option String := none
  branch : Option String := none
  worktreePath : Option String := none
  terminalSessionId : Option String := none
  logsPath : Option String := none
  timeoutSeconds : Option Int := none
  payload : Json
  jobId : Option String := none
  authoritativeWorktreePath : Bool := false

/-- `value or None`. -/
def nonEmpty (value : Option String) : Option String :=
  value.filter (· ≠ "")

/-- The row that `create_job` inserts. -/
def NewJob.row (job : NewJob) (workspacePath jobId : String) (createdAt : Nat) : JobRow :=
  let absolute (path : String) : String := Platform.absolutePath path (some workspacePath)
  { id := jobId
    workspaceId := job.workspaceId
    taskId := job.taskId
    runnerProfileId := job.runnerProfileId
    assignedAgent := (nonEmpty job.assignedAgent).getD job.runnerProfileId
    status := .pending
    promptPath := (nonEmpty job.promptPath).map absolute
    branch := job.branch
    worktreePath := (nonEmpty job.worktreePath).map fun path =>
      if job.authoritativeWorktreePath then path else absolute path
    terminalSessionId := job.terminalSessionId
    logsPath := (nonEmpty job.logsPath).map absolute
    timeoutSeconds := job.timeoutSeconds
    payloadJson := .dumps job.payload
    createdAt
    updatedAt := createdAt }

/-- `create_job`. -/
def createJob (job : NewJob) : DbTxn JobRow := do
  let workspace ← Txn.read (getWorkspace · job.workspaceId)
  match workspace with
  | none => throw (Exn.value s!"unknown workspace: {job.workspaceId}")
  | some workspace =>
    let runner ← Txn.read fun db => db.runnerProfiles.find? (·.id = job.runnerProfileId)
    raiseIf runner.isNone (Exn.value s!"unknown runner profile: {job.runnerProfileId}")
    let createdAt ← utcNow
    let jobId ← match nonEmpty job.jobId with
      | some jobId => pure jobId
      | none => newUuid
    let row := job.row workspace.path jobId createdAt
    insertJob row
    readOrRaise (getJob · jobId)

/-- The `result_json` of a cancelled job. -/
def cancelledResult (job : JobRow) (reason : Option String) : Except Exn Json := do
  let stored ← match job.resultJson with
    | none | some .blank => pure (Json.obj [])
    | some text => decodeColumn text
  let result := if stored.isObj then stored else .obj []
  return result.update (.obj [("cancelled", .bool true), ("cancel_reason", .ofOption reason),
    ("previous_status", .str job.status.text)])

/-- The columns of a job that is cancelled. -/
def cancelledJob (result : Json) (current : Nat) (row : JobRow) : JobRow :=
  { row with
    status := .cancelled
    resultJson := some (.dumps result)
    completedAt := some current
    updatedAt := current }

/-- `mark_job_cancelled(..., commit=False)`. -/
def markJobCancelled (jobId : String) (reason : Option String) : DbTx JobRow := do
  let found ← Tx.query (getJob · jobId)
  let job ← orRaise id found
  match job.status with
  | .cancelled => return job
  | .done | .failed =>
    throw (Exn.value s!"job {jobId} is {job.status.text}; completed jobs cannot be cancelled")
  | _ =>
    let result ← orRaise id (cancelledResult job reason)
    let current ← Tx.clock now
    Tx.within do
      let _ ← updateJobs (·.id = jobId) (cancelledJob result current)
      readOrRaise (getJob · jobId)

structure CancelJobResult where
  job : JobDict
  event : EventDict
  eventCreated : Bool
deriving DecidableEq, Repr

def cancelledEvent (job : JobRow) (jobId : String) (reason : Option String) (actor : String) :
    NewEvent where
  workspaceId := some job.workspaceId
  eventType := "job.cancelled"
  actor := actor
  target := none
  taskId := job.taskId
  idempotencyKey := some s!"job:{jobId}:cancelled"
  payload := .obj [("job_id", .str jobId), ("status", .str "cancelled"),
    ("previous_status", .str job.status.text), ("reason", .ofOption reason)]

/-- The `with conn` block of `cancel_job`. -/
def cancelJobBlock (jobId : String) (reason : Option String) (actor : String) :
    DbTx (JobRow × AppendEventResult) := do
  let found ← Tx.query (getJob · jobId)
  let job ← orRaise id found
  raiseIf (job.status = .done ∨ job.status = .failed)
    (Exn.job s!"job {jobId} is {job.status.text}; completed jobs cannot be cancelled")
  let lease ← Tx.query fun db => db.leases.find? fun lease =>
    lease.jobId = jobId && lease.attemptToken = job.attemptCount && lease.status = .active
  match lease with
  | some lease =>
    releaseAttemptLeaseOutside lease.leaseId jobId lease.attemptToken lease.agentId "job_cancelled"
  | none => pure ()
  let cancelled ← markJobCancelled jobId reason
  let event ← Tx.within (appendEvent (cancelledEvent job jobId reason actor))
  return (cancelled, event)

/-- `cancel_job`. -/
def cancelJob (jobId : String) (reason : Option String) (actor : String) :
    DbTx CancelJobResult := do
  let (cancelled, event) ← Tx.withConnection (cancelJobBlock jobId reason actor)
  let job ← orRaise id cancelled.toDict
  let eventDict ← orRaise id event.row.toDict
  return ⟨job, eventDict, event.created⟩

/-- `_job_payload` of `jobs.py`: a payload must be a JSON object. -/
def objectPayload (job : JobRow) : Except Exn Json := do
  let value ← decodeColumn job.payloadJson
  raiseIf (¬ value.isObj) (Exn.job s!"job {job.id} payload_json must decode to an object")
  return value

/-- `is_routed_job`. -/
def isRoutedJob (payload : Json) : Bool :=
  payload.get "routing_request" ≠ .null || payload.get "routing_decision" ≠ .null

/-- The payload of a retry, without the result path and the old context. -/
def retryPayload (payload : Json) (jobId : String) (reason : Option String) : Json :=
  let copied := ((payload.erase "result_path").erase "execution_context").set "retry_of_job_id"
    (.str jobId)
  match nonEmpty reason with
  | none => copied
  | some reason => copied.set "retry_reason" (.str reason)

structure RetryJobResult where
  sourceJob : JobDict
  retryJob : JobDict
  event : EventDict
deriving DecidableEq, Repr

/-- Whether the stored worktree of a job is a host-native sibling, which is kept verbatim. -/
def isHostNativeWorktree (db : Db) (source : JobRow) : Bool :=
  match nonEmpty source.worktreePath, getWorkspace db source.workspaceId with
  | some path, some workspace => classifyWorktreeRawPath workspace.path path = .hostNative
  | _, _ => false

/-- `retry_job`: the new job and its event are two transactions. -/
def retryJob (jobId : String) (reason : Option String) (actor : String) : DbTx RetryJobResult := do
  let found ← Tx.query (getJob · jobId)
  let source ← orRaise id found
  raiseIf (source.status ≠ .failed ∧ source.status ≠ .cancelled) (Exn.job
    s!"job {jobId} is {source.status.text}; only failed or cancelled jobs can be retried")
  let payload ← orRaise id (objectPayload source)
  raiseIf (isRoutedJob payload) (Exn.job "routed_runtime_retry_requires_explicit_resubmission")
  let authoritativeWorktreePath ← Tx.query (isHostNativeWorktree · source)
  -- the assigned agent is not passed on, so the runner profile takes its place
  let retry ← Tx.within (createJob
    { workspaceId := source.workspaceId, taskId := source.taskId,
      runnerProfileId := source.runnerProfileId, promptPath := source.promptPath,
      branch := source.branch, worktreePath := source.worktreePath,
      timeoutSeconds := source.timeoutSeconds, payload := retryPayload payload jobId reason,
      authoritativeWorktreePath })
  Tx.commit
  let event ← appendEventAndCommit
    { workspaceId := some source.workspaceId, eventType := "job.retry_requested", actor,
      target := none, taskId := source.taskId, idempotencyKey := none
      payload := .obj [("source_job_id", .str jobId), ("retry_job_id", .str retry.id),
        ("source_status", .str source.status.text),
        ("runner_profile_id", .str source.runnerProfileId), ("reason", .ofOption reason)] }
  let sourceJob ← orRaise id source.toDict
  let retryJob ← orRaise id retry.toDict
  let eventDict ← orRaise id event.row.toDict
  return ⟨sourceJob, retryJob, eventDict⟩

end Coordinate

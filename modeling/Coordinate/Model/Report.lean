import Coordinate.Model.Submit

/-! # Progress and results of a running job

`record_job_progress`, `report_job_result`, the replay of an immutable result and the late result
of a timed-out legacy attempt (`runtime.py`).
-/

namespace Coordinate

variable [Platform]

structure RuntimeProgressResult where
  job : JobDict
  event : EventDict
  eventCreated : Bool
deriving DecidableEq, Repr

structure RuntimeReportResult where
  job : JobDict
  event : EventDict
  eventCreated : Bool
  delivery : Option DeliveryDict
  deliveryCreated : Bool
deriving DecidableEq, Repr

/-- The mutation authority of a call on the current attempt, inside its transaction. -/
def requireAuthority (job : JobRow) (suppliedAttemptToken : Option Int) (agentId : String)
    (leaseId : Option String) : DbTxn Unit := do
  let checkedAt ← utcNow
  let _ ← readOrRaise fun db => orRaise Exn.runtimeLease (requireMutationAuthority db checkedAt
    job.attemptCount suppliedAttemptToken job.id agentId leaseId)

/-- `AND attempt_count = ?`, when the caller has supplied a token. -/
def matchesToken (token : Option Int) (job : JobRow) : Bool :=
  token.all fun supplied => (job.attemptCount : Int) = supplied

section Progress

/-- `_bounded_progress`. -/
def boundedProgress (stage summary sessionId : Option String) : Json :=
  let bounded (name : String) (limit : Nat) (value : Option String) : List (String × Json) :=
    match nonEmpty value with
    | none => []
    | some text => [(name, .str (Text.takePrefix (Text.strip text) limit))]
  .obj (bounded "stage" 80 stage ++ bounded "summary" 1000 summary ++
    bounded "session_id" 200 sessionId)

/-- The arguments of `record_job_progress`. -/
structure ProgressReport where
  jobId : String
  agentId : String
  stage : Option String := none
  summary : Option String := none
  sessionId : Option String := none
  actor : Option String := none
  attemptToken : Option Int := none
  leaseId : Option String := none
deriving DecidableEq, Repr

def wrongAssignment (job : JobRow) : Exn :=
  runtimeFailure s!"job {job.id} is assigned to {job.assignedAgent}"

/-- The checks of a progress report against a job row. -/
def checkProgressJob (db : Db) (report : ProgressReport) : Except Exn JobRow := do
  let job ← getJob db report.jobId
  raiseIf (job.assignedAgent ≠ report.agentId) (wrongAssignment job)
  raiseIf (job.status ≠ .running) (runtimeFailure
    s!"job {job.id} is {job.status.text}; only running jobs can record progress")
  return job

def staleProgress (job : JobRow) (token : Option Int) : Exn :=
  runtimeFailure (s!"job {job.id} progress rejected: CAS failed — not running as attempt " ++
    s!"{token.getD 0} (status={job.status.text} attempt_count={job.attemptCount}; " ++
    "stale attempt or reclaimed)")

/-- The columns that a progress report writes. -/
def progressedJob (report : ProgressReport) (progress : Json) (current : Nat) (row : JobRow) :
    JobRow :=
  { row with
    lastActivityAt := some current
    progressJson := some (.dumps progress)
    terminalSessionId := (nonEmpty report.sessionId).or row.terminalSessionId
    updatedAt := current }

/-- The body of `record_job_progress`; `job` is the row read before the transaction. -/
def recordJobProgressBody (report : ProgressReport) (job : JobRow) (progress : Json)
    (current : Nat) : DbTxn AppendEventResult := do
  let stored ← readOrRaise (checkProgressJob · report)
  requireAuthority stored report.attemptToken report.agentId report.leaseId
  let matched ← updateJobs
    (fun row => row.id = report.jobId && row.status = .running &&
      matchesToken report.attemptToken row)
    (progressedJob report progress current)
  raiseIf (report.attemptToken.isSome ∧ matched = 0) (staleProgress stored report.attemptToken)
  appendEvent
    { workspaceId := some job.workspaceId, eventType := "job.progress",
      actor := actorOr report.actor report.agentId, target := some report.agentId,
      taskId := job.taskId
      idempotencyKey := some
        s!"runtime:job:{report.jobId}:progress:{Calendar.isoformat current}"
      payload := (Json.obj [("job_id", .str report.jobId), ("agent_id", .str report.agentId),
        ("last_activity_at", .str (Calendar.isoformat current))]).update progress }

/-- `record_job_progress`. -/
def recordJobProgress (report : ProgressReport) : DbTx RuntimeProgressResult := do
  let checked ← Tx.query (checkProgressJob · report)
  let job ← orRaise id checked
  let current ← Tx.clock now
  let event ← Tx.atomically Exn.nestedBegin (recordJobProgressBody report job
    (boundedProgress report.stage report.summary report.sessionId) current)
  let stored ← Tx.query (getJob · report.jobId)
  let stored ← orRaise id stored
  let jobDict ← orRaise id stored.toDict
  let eventDict ← orRaise id event.row.toDict
  return ⟨jobDict, eventDict, event.created⟩

end Progress

section Result

/-- The arguments of `report_job_result`; `status` is a text that the call checks. -/
structure ResultReport where
  jobId : String
  agentId : String
  status : String
  result : Json
  actor : Option String := none
  attemptToken : Option Int := none
  leaseId : Option String := none
deriving DecidableEq, Repr

/-- `_stable_result_key`. -/
def stableResultKey (result : Json) : String :=
  Text.takePrefix (sha256 (result.orElse (.obj [])).text) 16

/-- The event of a submitted result that is not applied. -/
def replayedResultEvent (job : JobRow) (report : ResultReport) (result : Json) (reason : String) :
    NewEvent where
  workspaceId := some job.workspaceId
  eventType := "job.result_replayed"
  actor := actorOr report.actor report.agentId
  target := some report.agentId
  taskId := job.taskId
  idempotencyKey := some
    s!"runtime:job:{report.jobId}:result-replayed:{report.status}:{stableResultKey result}"
  payload := .obj [("job_id", .str report.jobId), ("agent_id", .str report.agentId),
    ("status", .str job.status.text), ("submitted_status", .str report.status),
    ("submitted_result", result), ("applied", .bool false), ("reason", .str reason)]

/-- `_replay_terminal_result`. -/
def replayTerminalResult (job : JobRow) (report : ResultReport) (result : Json) (reason : String) :
    DbTx RuntimeReportResult := do
  let event ← appendEventAndCommit (replayedResultEvent job report result reason)
  let jobDict ← orRaise id job.toDict
  let eventDict ← orRaise id event.row.toDict
  return ⟨jobDict, eventDict, event.created, none, false⟩

/-- The columns that a terminal update writes. -/
def terminalJob (status : ReportStatus) (result : Json) (recoverable : Bool) (current : Nat)
    (row : JobRow) : JobRow :=
  { row with
    status := status.jobStatus
    resultJson := some (.dumps result)
    completedAt := some current
    lastActivityAt := some current
    recoverable
    updatedAt := current }

/-- The `recoverable` column of a terminal update. -/
def recoverableFlag (status : ReportStatus) (result : Json) : Bool :=
  status = .timedOut && (getOr result "recoverable" (.bool true)).truthy

def staleReport (job : JobRow) (token : Option Int) : Exn :=
  runtimeFailure (s!"job {job.id} report rejected: CAS failed — not running as attempt " ++
    s!"{token.getD 0} (status={job.status.text} attempt_count={job.attemptCount}; " ++
    "stale attempt or reclaimed)")

/-- `_apply_terminal_job_update(..., commit=False)`. -/
def applyTerminalJobUpdate (jobId : String) (status : ReportStatus) (result : Json)
    (current : Nat) (attemptToken : Option Int) : DbTxn Unit := do
  let matched ← updateJobs
    (fun row => row.id = jobId && row.status = .running && matchesToken attemptToken row)
    (terminalJob status result (recoverableFlag status result) current)
  let stored ← readOrRaise (getJob · jobId)
  raiseIf (attemptToken.isSome ∧ matched = 0) (staleReport stored attemptToken)

/-- The transaction of an accepted report; `job` is the row read before it. -/
def reportRunningBody (report : ResultReport) (status : ReportStatus) (job : JobRow)
    (result : Json) (usage : Option Usage.UsageEvidence) (current : Nat) :
    DbTxn TerminalOutcome := do
  let stored ← readOrRaise (getJob · report.jobId)
  raiseIf (stored.status ≠ .running) (runtimeFailure
    s!"job {report.jobId} is {stored.status.text}; only running jobs can report result")
  requireAuthority stored report.attemptToken report.agentId report.leaseId
  applyTerminalJobUpdate report.jobId status result current report.attemptToken
  match report.leaseId, report.attemptToken with
  | some leaseId, some attemptToken =>
    releaseAttemptLease leaseId report.jobId attemptToken report.agentId s!"job_{status.text}"
  | _, _ => pure ()
  let outcome ← appendTerminalEventsAndDelivery job report.agentId status result report.actor
  let _ ← persistAttemptUsageAndWarning usage stored stored.attemptCount
    (some outcome.event.row.id) outcome.eventCreated current report.actor
  return outcome

/-- The branch of a running job. -/
def reportRunning (report : ResultReport) (status : ReportStatus) (job : JobRow) (result : Json)
    (usage : Option Usage.UsageEvidence) : DbTx RuntimeReportResult := do
  raiseIf (!matchesToken report.attemptToken job) (runtimeFailure
    (s!"job {job.id} report rejected: CAS failed — attempt_token " ++
      s!"{report.attemptToken.getD 0} does not match current attempt {job.attemptCount}"))
  let current ← Tx.clock now
  let outcome ← Tx.atomically Exn.nestedBegin (reportRunningBody report status job
    (normalizeResult status result job current) usage current)
  let stored ← Tx.query (getJob · report.jobId)
  let stored ← orRaise id stored
  let jobDict ← orRaise id stored.toDict
  return ⟨jobDict, outcome.event, outcome.eventCreated, outcome.delivery, outcome.deliveryCreated⟩

end Result

section Late

def lateResultKey (jobId : String) (status : ReportStatus) : String :=
  s!"runtime:job:{jobId}:late-result:{status.text}"

/-- The event of an accepted late result. -/
def lateResultEvent (job : JobRow) (report : ResultReport) (status : ReportStatus)
    (normalized : Json) : NewEvent where
  workspaceId := some job.workspaceId
  eventType := "job.late_result_accepted"
  actor := actorOr report.actor report.agentId
  target := some report.agentId
  taskId := job.taskId
  idempotencyKey := some (lateResultKey job.id status)
  payload := (Json.obj [("job_id", .str job.id), ("agent_id", .str report.agentId),
    ("status", .str status.text), ("previous_status", .str "timed_out")]).update normalized

/-- The usage that a late result reports: the row of the attempt, if it has one, wins. -/
def lateUsage (db : Db) (job : JobRow) (result : Json) (usage : Option Usage.UsageEvidence) :
    Except Exn (Json × Option Usage.UsageEvidence) := do
  match getAttemptUsage db job.id job.attemptCount with
  | none => return (result, usage)
  | some row =>
    let stored ← decodeColumn row.evidenceJson
    match ← orRaise Exn.usage (Usage.parseUsageEvidence stored) with
    | none => throw (runtimeFailure "stored attempt usage is unexpectedly empty")
    | some canonical =>
      return (result.set "usage_evidence" canonical.toSummaryDict, some canonical)

/-- What the transaction of a late result has written. -/
structure LateOutcome where
  event : AppendEventResult
  delivery : Option (DeliveryRow × Bool)

/-- The checks of a late result on the row under the write lock. -/
def checkLateJob (db : Db) (jobId : String) : Except Exn JobRow := do
  let stored ← getJob db jobId
  raiseIf (stored.status ≠ .timedOut ∨ ¬ stored.recoverable) (runtimeFailure
    (s!"job {jobId} is not timed_out+recoverable (status={stored.status.text} " ++
      s!"recoverable={stored.recoverable})"))
  raiseIf (attemptHasAnyLease db jobId stored.attemptCount) (runtimeLeaseFailure
    s!"job {jobId} late-result rejected: current attempt is managed")
  return stored

/-- The writes of an accepted late result, after its compare-and-swap. -/
def applyLateResult (report : ResultReport) (status : ReportStatus) (job stored : JobRow)
    (normalized : Json) (usage : Option Usage.UsageEvidence) (current : Nat) :
    DbTxn LateOutcome := do
  let event ← appendEvent (lateResultEvent job report status normalized)
  let _ ← persistAttemptUsageAndWarning usage stored stored.attemptCount (some event.row.id)
    event.created current report.actor
  let refreshed ← readOrRaise (getJob · job.id)
  let delivery ← createLateResponseDelivery refreshed event.row.id normalized
  return ⟨event, delivery⟩

def staleLateResult (job : JobRow) (token : Option Int) : Exn :=
  runtimeFailure (s!"job {job.id} late-result rejected: CAS failed — not timed_out+recoverable " ++
    s!"as attempt {token.getD 0} (status={job.status.text} attempt_count={job.attemptCount}; " ++
    "stale attempt or reclaimed)")

/-- The transaction of a late result up to its compare-and-swap, whose match count it returns with
the row and result that the rest works on. -/
def swapLateJob (report : ResultReport) (status : ReportStatus) (job : JobRow) (result : Json)
    (usage : Option Usage.UsageEvidence) (current : Nat) :
    DbTxn (Nat × JobRow × Json × Json × Option Usage.UsageEvidence) := do
  let stored ← readOrRaise (checkLateJob · job.id)
  let (result, usage) ← readOrRaise (lateUsage · stored result usage)
  let normalized := normalizeResult status result job current
  let matched ← updateJobs
    (fun row => row.id = job.id && row.status = .timedOut && row.recoverable &&
      matchesToken report.attemptToken row)
    (terminalJob status normalized false current)
  return (matched, stored, result, normalized, usage)

/-- `_accept_late_result`. -/
def acceptLateResult (report : ResultReport) (status : ReportStatus) (job : JobRow) (result : Json)
    (usage : Option Usage.UsageEvidence) : DbTx RuntimeReportResult := do
  let current ← Tx.clock now
  Tx.begin Exn.nestedBegin
  let outcome ← tryCatch (do
    let (matched, stored, result, normalized, usage) ←
      Tx.within (swapLateJob report status job result usage current)
    if matched = 0 then
      Tx.rollback
      let refreshed ← Tx.query (getJob · job.id)
      let refreshed ← orRaise id refreshed
      raiseIf report.attemptToken.isSome (staleLateResult refreshed report.attemptToken)
      Sum.inl <$> replayTerminalResult refreshed report result
        "recoverable_timeout_already_claimed"
    else
      let outcome ←
        Tx.within (applyLateResult report status job stored normalized usage current)
      Tx.commit
      return Sum.inr outcome) fun e => do
        Tx.rollback
        throw e
  match outcome with
  | .inl result => return result
  | .inr outcome =>
    let stored ← Tx.query (getJob · job.id)
    let stored ← orRaise id stored
    let jobDict ← orRaise id stored.toDict
    let eventDict ← orRaise id outcome.event.row.toDict
    let (delivery, created) ← orRaise id (decodeDelivery outcome.delivery)
    return ⟨jobDict, eventDict, outcome.event.created, delivery, created⟩

end Late

/-- `report_job_result`. -/
def reportJobResult (report : ResultReport) : DbTx RuntimeReportResult := do
  match ReportStatus.parse? report.status with
  | none => throw (runtimeFailure "status must be done, failed, or timed_out")
  | some status =>
    let (result, usage) ← orRaise Exn.usage (Usage.splitUsageEvidence report.result)
    let found ← Tx.query (getJob · report.jobId)
    let job ← orRaise id found
    raiseIf (job.assignedAgent ≠ report.agentId) (wrongAssignment job)
    match job.status, status with
    | .done, _ | .failed, _ => replayTerminalResult job report result "terminal_result_immutable"
    | .timedOut, .timedOut =>
      replayTerminalResult job report result "terminal_result_immutable"
    | .timedOut, _ => acceptLateResult report status job result usage
    | .running, _ => reportRunning report status job result usage
    | other, _ => throw (runtimeFailure
        s!"job {report.jobId} is {other.text}; only running jobs can report result")

end Coordinate

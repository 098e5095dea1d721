import Coordinate.Model.ExecutionLeases

/-! # Managed claims

The authority of a managed claim, the selection of a candidate, the reaper of due leases and the
atomic claim of `runtime_lease.py`, with the marker of a claim request. The bodies are commit-free;
`reapDueLeases`, `reapExactLease` and `renewManagedLease` own their transactions.
-/

namespace Coordinate

variable [Platform]

def leaseClaimScanLimit : Nat := 256
def maxIdLen : Nat := 128
def maxReasonLen : Nat := 512

def leaseRefusal (message : String) : RuntimeLeaseError := { message }

def runtimeLeaseFailure (message : String) : Exn := .runtimeLease (leaseRefusal message)

/-- `_validate_id` and `_validate_reason` of a value that is a string already. -/
def validateText (value label : String) (maxLen : Nat) : Except RuntimeLeaseError Unit := do
  raiseIf (value = "") (leaseRefusal s!"{label} must not be empty")
  raiseIf (value ≠ Text.strip value)
    (leaseRefusal s!"{label} must not have surrounding whitespace")
  raiseIf (value.toList.length > maxLen)
    (leaseRefusal s!"{label} exceeds {maxLen} characters")
  raiseIf (Text.hasControl value)
    (leaseRefusal s!"{label} contains control characters")

def validateId (value label : String) : Except RuntimeLeaseError Unit :=
  validateText value label maxIdLen

def validateReason (value label : String) : Except RuntimeLeaseError Unit :=
  validateText value label maxReasonLen

/-- The arguments of `claim_job`. -/
structure ClaimRequest where
  agentId : String
  recoverable : Bool := false
  ttlSeconds : Int := 120
  recoveryReason : Option String := none
  priorProcessStopped : Option Bool := none
  reapMode : String := "global"
  reapReason : Option String := none
  claimRequestId : Option String := none
deriving DecidableEq, Repr

def ofBool : Option Bool → Json
  | none => .null
  | some value => .bool value

/-- The policy parameters of a claim, which its marker fixes. -/
def ClaimRequest.toDict (request : ClaimRequest) (hostId : String) : Json :=
  .obj [("agent_id", .str request.agentId), ("host_id", .str hostId),
    ("recoverable", .bool request.recoverable), ("ttl_seconds", .int request.ttlSeconds),
    ("recovery_reason", .ofOption request.recoveryReason),
    ("prior_process_stopped", ofBool request.priorProcessStopped),
    ("reap_mode", .str request.reapMode), ("reap_reason", .ofOption request.reapReason)]

def claimRequestDigest (request : ClaimRequest) (hostId : String) : String :=
  sha256 (request.toDict hostId).text

def claimMarkerKey (agentId claimRequestId : String) : String :=
  let canonical : Json := .arr [.str agentId, .str claimRequestId]
  "runtime:claim:" ++ sha256 canonical.text

/-- The marker of a claim request. -/
def claimMarkerEvent (claimRequestId requestDigest : String) (job : JobRow) (agentId : String)
    (attemptToken : Nat) (leaseId : Option String) (ttlSeconds : Int) : NewEvent where
  workspaceId := some job.workspaceId
  eventType := "job.claim_request"
  actor := agentId
  target := some agentId
  taskId := job.taskId
  idempotencyKey := some (claimMarkerKey agentId claimRequestId)
  payload := .obj [("request_digest", .str requestDigest), ("agent_id", .str agentId),
    ("job_id", .str job.id), ("attempt_token", .int attemptToken),
    ("lease_id", .ofOption leaseId), ("ttl", .int ttlSeconds)]

/-- Append the marker of a claim request; a taken key refuses the claim. -/
def appendClaimRequestMarker (claimRequestId requestDigest : Option String) (job : JobRow)
    (agentId : String) (attemptToken : Nat) (leaseId : Option String) (ttlSeconds : Int) :
    DbTxn Unit := do
  match claimRequestId with
  | none => return ()
  | some claimRequestId =>
    match requestDigest with
    | none => throw (runtimeLeaseFailure "claim_request_id requires request_digest")
    | some requestDigest =>
      let marker ← appendEvent (claimMarkerEvent claimRequestId requestDigest job agentId
        attemptToken leaseId ttlSeconds)
      raiseIf (!marker.created) (runtimeLeaseFailure "claim replay: marker already exists")

/-- What the validation of a selected candidate returns. -/
structure ValidatedAuthority where
  payload : Json
  executionContext : ExecutionContextV1
  resourceKey : String
  bindingSnapshot : Json
  routeEvidence : Json
deriving DecidableEq, Repr

section Authority

/-- `_decode_typed_payload`: a payload that is not an object is an error. -/
def decodeTypedPayload (job : JobRow) : Except Exn Json := do
  raiseIf (job.payloadJson = .blank)
    (runtimeLeaseFailure s!"job {job.id} has empty payload_json")
  let decoded ← orRaise
    (fun problem => runtimeLeaseFailure s!"job {job.id} has invalid payload_json: {problem}")
    job.payloadJson.loads
  raiseIf (¬ decoded.isObj) (runtimeLeaseFailure s!"job {job.id} payload_json is not an object")
  return decoded

/-- The object under a key, or an empty one. -/
def objectAt (payload : Json) (key : String) : Json :=
  if (payload.get key).isObj then payload.get key else .obj []

/-- The task mirror of a job, if the job names a task. -/
def claimTask (db : Db) (job : JobRow) : Except Exn (Option TaskMirror) := do
  match job.taskId with
  | none | some "" => return none
  | some taskId =>
    match ← taskMirror db job.workspaceId taskId with
    | none => throw (runtimeLeaseFailure s!"task mirror not found: {job.workspaceId}/{taskId}")
    | some task => return some task

/-- The stored context of a job, or one derived from the current authority. -/
def deriveClaimContext (workspace : Workspace) (profile : WorkspaceHostProfile)
    (task : Option TaskMirror) (job : JobRow) (payload : Json) (agentId hostId : String) :
    Except Exn ExecutionContextV1 :=
  match payload.get "execution_context" with
  | .null => orRaise
      (fun e : ContextError =>
        runtimeLeaseFailure s!"cannot backfill execution context: {e.message}")
      (resolveExecutionContextV1 job.id workspace task agentId hostId profile
        (objectAt payload "origin") job.branch job.worktreePath job.logsPath)
  | snapshot => orRaise
      (fun e : ContextError =>
        runtimeLeaseFailure s!"invalid stored execution context: {e.message}")
      (validateExecutionContextSnapshot snapshot (some job.id) (some job.workspaceId) job.taskId
        (some agentId) (some hostId))

/-- `_resolve_claim_context`: derive the context and check the containment of its worktree. -/
def resolveClaimContext (db : Db) (job : JobRow) (payload : Json) (agentId hostId : String) :
    Except Exn ExecutionContextV1 := do
  match getWorkspace db job.workspaceId with
  | none => throw (runtimeLeaseFailure s!"workspace {Text.repr job.workspaceId} not found")
  | some workspace =>
    match ← getWorkspaceHostProfile db job.workspaceId hostId with
    | none => throw (runtimeLeaseFailure (s!"workspace {Text.repr job.workspaceId} has no host " ++
        s!"profile for host {Text.repr hostId}"))
    | some profile => do
      let task ← claimTask db job
      let ctx ← deriveClaimContext workspace profile task job payload agentId hostId
      let _ ← orRaise
        (fun e : ResourceIdentityError =>
          runtimeLeaseFailure s!"worktree containment policy rejected claim: {e.message}")
        (checkWorktreeContainmentPolicy ctx.worktreePath profile.workspacePath
          profile.worktreeRoots)
      return ctx

/-- `_validate_binding_snapshot`, which turns every exception into a refusal. -/
def validateClaimBinding (db : Db) (job : JobRow) (snapshot : Json) : Except Exn Unit := do
  raiseIf (snapshot = .null)
    (runtimeLeaseFailure s!"job {Text.repr job.id} has no executor_binding snapshot")
  orRaise (fun e : Exn => runtimeLeaseFailure s!"invalid executor binding: {e.message}")
    (validateStoredExecutorBinding db snapshot job)

/-- The routing evidence of a claim; only a routing error becomes a refusal. -/
def validateClaimRouting (payload : Json) (job : JobRow) : Except Exn Json :=
  match routingClaimEvidence payload job with
  | .ok evidence => return evidence
  | .error (.routing e) =>
    throw (runtimeLeaseFailure s!"invalid routing claim evidence: {e.message}")
  | .error other => throw other

/-- `_validate_claim_authority`. -/
def validateClaimAuthority (db : Db) (job : JobRow) (agentId hostId : String) :
    Except Exn ValidatedAuthority := do
  raiseIf (job.runnerProfileId = "")
    (runtimeLeaseFailure s!"job {job.id} has no runner_profile_id")
  let stored ← decodeTypedPayload job
  let ctx ← resolveClaimContext db job stored agentId hostId
  let payload := if stored.get "execution_context" = .null
    then stored.set "execution_context" ctx.toDict else stored
  let binding := payload.get "executor_binding"
  validateClaimBinding db job binding
  let routeEvidence ← validateClaimRouting payload job
  let resource ← orRaise
    (fun e : ResourceIdentityError =>
      runtimeLeaseFailure s!"invalid execution context for {job.id}: {e.message}")
    (buildWorktreeResource hostId ctx.worktreePath)
  return ⟨payload, ctx, computeResourceKey resource, binding, routeEvidence⟩

end Authority

section Selection

/-- The jobs that a claim of this mode may take. -/
def isClaimable (recoverable : Bool) (agentId : String) (job : JobRow) : Bool :=
  job.assignedAgent = agentId &&
    (job.status = .pending || (recoverable && job.status = .timedOut && job.recoverable))

/-- `ORDER BY created_at, id`. -/
def queueOrder (a b : JobRow) : Bool :=
  a.createdAt < b.createdAt || (a.createdAt = b.createdAt && a.id < b.id)

def claimQueue (db : Db) (recoverable : Bool) (agentId : String) : List JobRow :=
  sortBy queueOrder (db.jobs.filter (isClaimable recoverable agentId))

/-- The oldest candidate that a held resource blocks, as its id and its resource key. -/
abbrev BlockedCandidate := Option (String × String)

inductive Selection where
  | selected (job : JobRow) (authority : ValidatedAuthority)
  | refused (reason : String) (blocked : BlockedCandidate)
deriving DecidableEq, Repr

/-- The first candidate whose resource is free; each one before it is fully validated. -/
def scanCandidates (db : Db) (agentId hostId : String) (blocked : BlockedCandidate) :
    List JobRow → Except Exn ((Option (JobRow × ValidatedAuthority)) × BlockedCandidate)
  | [] => return (none, blocked)
  | job :: rest => do
    let authority ← validateClaimAuthority db job agentId hostId
    match ← orRaise Exn.lease (findActiveResourceLease db authority.resourceKey) with
    | some _ =>
      scanCandidates db agentId hostId (blocked.or (some (job.id, authority.resourceKey))) rest
    | none => return (some (job, authority), blocked)

/-- The scanned head of the queue: its first `LEASE_CLAIM_SCAN_LIMIT` jobs. -/
def claimRows (db : Db) (recoverable : Bool) (agentId : String) : List JobRow :=
  (claimQueue db recoverable agentId).take leaseClaimScanLimit

/-- `select_claim_candidate`. -/
def selectClaimCandidate (agentId hostId : String) (recoverable : Bool) : DbTxn Selection := do
  let db ← Txn.read id
  let rows := claimRows db recoverable agentId
  if rows = [] then return .refused "queue_empty" none
  match resolveCapacityPolicy db agentId with
  | none => return .refused "capacity_exhausted" none
  | some policy =>
    let current ← utcNow
    let activeCount ← orRaise Exn.lease (countActiveLeasesForAgent db agentId current)
    if (activeCount : Int) ≥ policy.maxConcurrentJobs then
      return .refused "capacity_exhausted" none
    match ← orRaise id (scanCandidates db agentId hostId none rows) with
    | (some (job, authority), _) => return .selected job authority
    | (none, blocked) =>
      if rows.length ≥ leaseClaimScanLimit then return .refused "scan_limit_reached" blocked
      else return .refused "resource_blocked" blocked

end Selection

section Reaper

/-- `_job_progress`: anything but a stored object counts as no progress. -/
def jobProgress (job : JobRow) : Json :=
  match job.progressJson with
  | some (.value (.obj fields)) => .obj fields
  | _ => .obj []

/-- `_require_active_lease_for_reap`. -/
def requireActiveLeaseForReap (db : Db) (leaseId jobId : String) (attemptToken : Nat)
    (agentId : String) (current : Nat) : Except Exn LeaseRow := do
  match findLease db leaseId with
  | none => throw (runtimeLeaseFailure s!"lease {Text.repr leaseId} not found")
  | some lease => do
    orRaise (fun e : LeaseError => runtimeLeaseFailure
      s!"lease {Text.repr leaseId} resource snapshot invalid: {e.message}")
      (validateStoredResource lease)
    raiseIf (lease.jobId ≠ jobId) (runtimeLeaseFailure "lease job_id mismatch")
    raiseIf (lease.attemptToken ≠ attemptToken)
      (runtimeLeaseFailure "lease attempt_token mismatch")
    raiseIf (lease.agentId ≠ agentId) (runtimeLeaseFailure "lease agent_id mismatch")
    raiseIf (lease.status ≠ .active)
      (leaseFailure s!"lease {Text.repr leaseId} is {lease.status.text}")
    raiseIf (lease.expiresAt > current)
      (leaseFailure s!"lease {Text.repr leaseId} is no longer due")
    return lease

/-- The `timeout` object of an expired attempt. -/
def expiryTimeout (job : JobRow) (current : Nat) : Json :=
  .obj [("kind", .str "execution_lease_expired"),
    ("configured_budget_seconds", .int leaseDefaultTtlSeconds),
    ("last_activity_at", .str (Calendar.isoformat (job.lastActivityAt.getD current))),
    ("session_id", .str (job.terminalSessionId.getD "")), ("progress", jobProgress job),
    ("resume_allowed", .bool true)]

/-- What the reaper reports about one expired lease. -/
structure ReapOutcome where
  leaseId : String
  jobId : String
  attemptToken : Nat
  agentId : String
deriving DecidableEq, Repr

/-- The consistency check between a lease and its job. -/
def isRunningAttempt (job : JobRow) (lease : LeaseRow) : Bool :=
  job.status = .running && job.attemptCount = lease.attemptToken &&
    job.assignedAgent = lease.agentId

/-- The columns of a lease whose time has run out. -/
def expiredLease (lease : LeaseRow) : LeaseRow :=
  { lease with status := .expired, renewedAt := lease.expiresAt }

/-- The columns of a job whose attempt has expired. -/
def timedOutJob (timeout : Json) (current : Nat) (row : JobRow) : JobRow :=
  { row with
    status := .timedOut
    resultJson := some (.dumps (.obj
      [("response_text", .str "Lease expired; job is recoverable."), ("timeout", timeout)]))
    completedAt := some current
    lastActivityAt := some current
    recoverable := true
    updatedAt := current }

def leaseExpiredKey (leaseId : String) : String :=
  s!"runtime:lease:{leaseId}:expired"

def timedOutKey (jobId : String) : String :=
  s!"runtime:job:{jobId}:timed_out:lease_expired"

def leaseExpiredEvent (job : JobRow) (lease : LeaseRow) (actor : String) (current : Nat) :
    NewEvent where
  workspaceId := some job.workspaceId
  eventType := "execution_lease.expired"
  actor := actor
  target := some lease.agentId
  taskId := job.taskId
  idempotencyKey := some (leaseExpiredKey lease.leaseId)
  payload := .obj [("lease_id", .str lease.leaseId), ("job_id", .str lease.jobId),
    ("attempt_token", .int lease.attemptToken),
    ("expires_at", .str (Calendar.isoformat lease.expiresAt)),
    ("reaped_at", .str (Calendar.isoformat current)),
    ("resource_key", .str lease.resourceKey)]

def timedOutEvent (job : JobRow) (lease : LeaseRow) (actor : String) (timeout : Json) :
    NewEvent where
  workspaceId := some job.workspaceId
  eventType := "job.timed_out"
  actor := actor
  target := some lease.agentId
  taskId := job.taskId
  idempotencyKey := some (timedOutKey lease.jobId)
  payload := .obj [("job_id", .str lease.jobId), ("agent_id", .str lease.agentId),
    ("status", .str "timed_out"), ("reason", .str "execution_lease_expired"),
    ("lease_id", .str lease.leaseId), ("timeout", timeout)]

/-- `_expire_revalidated_lease`: mark the lease expired, its job timed out, append both events. -/
def expireRevalidatedLease (lease : LeaseRow) (actor : String) (current : Nat) :
    DbTxn ReapOutcome := do
  let job ← readOrRaise (getJob · lease.jobId)
  raiseIf (!isRunningAttempt job lease)
    (runtimeLeaseFailure (s!"lease/job inconsistency: {lease.jobId} status={job.status.text} " ++
      s!"attempt={job.attemptCount} agent={job.assignedAgent}"))
  updateLeases (·.leaseId = lease.leaseId) expiredLease
  let timeout := expiryTimeout job current
  let matched ← updateJobs
    (fun row => row.id = lease.jobId && row.status = .running &&
      row.attemptCount = lease.attemptToken)
    (timedOutJob timeout current)
  raiseIf (matched = 0) (runtimeLeaseFailure s!"CAS failed while reaping lease for {lease.jobId}")
  let _ ← appendEvent (leaseExpiredEvent job lease actor current)
  let _ ← appendEvent (timedOutEvent job lease actor timeout)
  return ⟨lease.leaseId, lease.jobId, lease.attemptToken, lease.agentId⟩

/-- `_reap_one_lease`; a lease that is no longer due or active is skipped. -/
def reapOneLease (lease : LeaseRow) (actor : String) (current : Nat) :
    DbTxn (Option ReapOutcome) := do
  let db ← Txn.read id
  match requireActiveLeaseForReap db lease.leaseId lease.jobId lease.attemptToken lease.agentId
    current with
  | .error (.lease _) => return none
  | .error other => throw other
  | .ok revalidated => some <$> expireRevalidatedLease revalidated actor current

structure ReapError where
  leaseId : String
  jobId : String
  error : String
deriving DecidableEq, Repr

structure ReapSummary where
  dueFound : Nat
  reaped : List ReapOutcome
  errors : List ReapError
deriving DecidableEq, Repr

/-- One turn of the loop inside a transaction: an exception is recorded and the loop goes on. -/
def reapRecorded (lease : LeaseRow) (actor : String) (current : Nat) :
    DbTxn (List ReapOutcome × List ReapError) :=
  tryCatch ((fun outcome => (outcome.toList, [])) <$> reapOneLease lease actor current)
    fun e => return ([], [⟨lease.leaseId, lease.jobId, e.message⟩])

def reapEach (actor : String) (current : Nat) :
    List LeaseRow → DbTxn (List ReapOutcome × List ReapError)
  | [] => return ([], [])
  | lease :: rest => do
    let attempt ← reapRecorded lease actor current
    let later ← reapEach actor current rest
    return (attempt.1 ++ later.1, attempt.2 ++ later.2)

/-- `_reap_due_leases_in_transaction`. -/
def reapDueLeasesInTransaction (actor : String) (current : Nat) : DbTxn ReapSummary := do
  let db ← Txn.read id
  let due ← orRaise Exn.lease (findDueActiveLeases db current leaseReapBatchSize)
  let (reaped, errors) ← reapEach actor current due
  return ⟨due.length, reaped, errors⟩

/-- The same turn as a transaction of its own. -/
def reapCommitted (lease : LeaseRow) (actor : String) (current : Nat) :
    DbTx (List ReapOutcome × List ReapError) :=
  tryCatch ((fun outcome => (outcome.toList, [])) <$>
      Tx.atomically Exn.nestedBegin (reapOneLease lease actor current))
    fun e => return ([], [⟨lease.leaseId, lease.jobId, e.message⟩])

def reapEachCommitted (actor : String) (current : Nat) :
    List LeaseRow → DbTx (List ReapOutcome × List ReapError)
  | [] => return ([], [])
  | lease :: rest => do
    let attempt ← reapCommitted lease actor current
    let later ← reapEachCommitted actor current rest
    return (attempt.1 ++ later.1, attempt.2 ++ later.2)

/-- `reap_due_leases`; without `now` the clock is read. -/
def reapDueLeases (actor : String) (supplied : Option Nat) (batchSize : Nat) :
    DbTx ReapSummary := do
  let current ← match supplied with
    | some time => pure time
    | none => Tx.clock now
  let due ← Tx.query (findDueActiveLeases · current batchSize)
  let due ← orRaise Exn.lease due
  let (reaped, errors) ← reapEachCommitted actor current due
  return ⟨due.length, reaped, errors⟩

/-- The body of `reap_exact_lease`. -/
def reapExactLeaseBody (leaseId jobId actor : String) (current : Nat) : DbTxn ReapOutcome := do
  let db ← Txn.read id
  match findLease db leaseId with
  | none => throw (runtimeLeaseFailure s!"lease {Text.repr leaseId} not found")
  | some lease =>
    raiseIf (lease.jobId ≠ jobId) (runtimeLeaseFailure (s!"lease {Text.repr leaseId} belongs to " ++
      s!"job {Text.repr lease.jobId}, not requested job {Text.repr jobId}"))
    match requireActiveLeaseForReap db leaseId jobId lease.attemptToken lease.agentId current with
    | .error (.lease e) => throw (runtimeLeaseFailure e.message)
    | .error other => throw other
    | .ok revalidated =>
      tryCatch (expireRevalidatedLease revalidated actor current) fun e => match e with
        | .key _ => throw (runtimeLeaseFailure s!"job {Text.repr jobId} not found for expired lease")
        | other => throw other

/-- `reap_exact_lease`; `supplied` is a time that the caller passes as a text. -/
def reapExactLease (leaseId jobId actor : String) (supplied : Option String) :
    DbTx ReapOutcome := do
  orRaise Exn.runtimeLease (validateId leaseId "lease_id")
  orRaise Exn.runtimeLease (validateId jobId "job_id")
  orRaise Exn.runtimeLease (validateId actor "actor")
  let current ← match supplied with
    | none => Tx.clock now
    | some text =>
      raiseIf (¬ Calendar.hasShape text)
        (runtimeLeaseFailure "now must be exactly YYYY-MM-DDTHH:MM:SSZ in UTC")
      match Calendar.parse text with
      | none => throw (runtimeLeaseFailure "now is not a valid UTC timestamp")
      | some time => pure time
  Tx.atomically Exn.nestedBegin (reapExactLeaseBody leaseId jobId actor current)

end Reaper

section Claim

/-- `_validate_claim_reap_policy`. -/
def validateClaimReapPolicy (request : ClaimRequest) : Except RuntimeLeaseError Unit := do
  raiseIf (request.reapMode ≠ "global" ∧ request.reapMode ≠ "none")
    (leaseRefusal s!"reap_mode must be 'global' or 'none', got {Text.repr request.reapMode}")
  if request.reapMode = "global" then
    raiseIf request.reapReason.isSome
      (leaseRefusal "reap_reason must not be set with reap_mode=global")
  else
    match request.reapReason with
    | none => throw (leaseRefusal "reap_reason is required with reap_mode=none")
    | some reason => validateReason reason "reap_reason"

/-- `_validate_recovery_evidence`: the audited reason of a recovering claim. -/
def validateRecoveryEvidence (request : ClaimRequest) :
    Except RuntimeLeaseError (Option String) := do
  if !request.recoverable then return none
  match request.recoveryReason, request.priorProcessStopped with
  | some reason, some stopped => do
    raiseIf (!stopped)
      (leaseRefusal "managed recovery requires prior_process_stopped=True")
    let stripped := Text.strip reason
    raiseIf (stripped = "")
      (leaseRefusal "recovery_reason must be non-empty")
    raiseIf (stripped.toList.length > 512)
      (leaseRefusal "recovery_reason exceeds 512 characters")
    raiseIf (stripped.toList.any fun c => c.toNat < 32)
      (leaseRefusal "recovery_reason contains control characters")
    return some stripped
  | _, _ =>
    throw (leaseRefusal "managed recovery requires recovery_reason and prior_process_stopped")

/-- The fence against deactivated agents, inside the transaction. -/
def checkClaimAgent (db : Db) (agentId hostId : String) : Except Exn Unit := do
  match getAgent db agentId with
  | none => throw (runtimeLeaseFailure s!"agent {Text.repr agentId} not found")
  | some agent =>
    raiseIf (agent.onlineState ≠ "online") (runtimeLeaseFailure
      s!"agent {Text.repr agentId} is {agent.onlineState}, not online")
    match agent.hostId with
    | none | some "" => throw (runtimeLeaseFailure s!"agent {Text.repr agentId} has no host_id")
    | some stored => raiseIf (stored ≠ hostId) (runtimeLeaseFailure
        (s!"agent {Text.repr agentId} host mismatch: stored={Text.repr stored}, " ++
          s!"requested={Text.repr hostId}"))

/-- The columns of a job whose next attempt starts. -/
def startedJob (attemptToken : Nat) (payload : Json) (current : Nat) (row : JobRow) : JobRow :=
  { row with
    status := .running
    attemptCount := attemptToken
    startedAt := some current
    lastActivityAt := some current
    recoverable := false
    updatedAt := current
    payloadJson := .dumps payload }

/-- The compare-and-swap of a claim, managed or legacy. -/
def startAttempt (candidate : JobRow) (payload : Json) (current : Nat) : DbTxn Nat :=
  updateJobs (fun row => row.id = candidate.id && row.status = candidate.status)
    (startedJob (candidate.attemptCount + 1) payload current)

/-- The fields of a `job.claimed` event that both claim paths write. -/
def claimedPayload (candidate : JobRow) (agentId : String) (ctx : ExecutionContextV1) : Json :=
  .obj [("job_id", .str candidate.id), ("agent_id", .str agentId),
    ("previous_status", .str candidate.status.text),
    ("recovered", .bool (candidate.status = .timedOut)),
    ("execution_context_id", .str ctx.contextId), ("context_version", .int contextContractVersion),
    ("host_id", .str ctx.hostId), ("worktree_path", .str ctx.worktreePath),
    ("branch", .ofOption ctx.branch), ("session_scope_id", .str ctx.sessionScopeId)]

/-- Append the `job.claimed` event of a new attempt. -/
def appendClaimed (candidate : JobRow) (agentId : String) (payload : Json) :
    DbTxn AppendEventResult :=
  appendEvent
    { workspaceId := some candidate.workspaceId, eventType := "job.claimed", actor := agentId,
      target := some agentId, taskId := candidate.taskId,
      idempotencyKey := some s!"runtime:job:{candidate.id}:claimed:{candidate.attemptCount + 1}"
      payload }

structure ClaimLeaseResult where
  leaseId : String
  job : JobRow
  attemptToken : Nat
  executionContext : ExecutionContextV1
  executionLease : Json
deriving DecidableEq, Repr

/-- Steps 7 to 10 of a managed claim: the attempt, its lease, its events and its envelope. -/
def startManagedAttempt (request : ClaimRequest) (hostId : String) (recovery : Option String)
    (requestDigest : Option String) (current : Nat) (job : JobRow)
    (authority : ValidatedAuthority) : DbTxn ClaimLeaseResult := do
  let agentId := request.agentId
  let ctx := authority.executionContext
  let attemptToken := job.attemptCount + 1
  let matched ← startAttempt job authority.payload current
  raiseIf (matched = 0) (runtimeLeaseFailure "job CAS failed during claim")
  let reserved ← reserveAttemptLease job.id attemptToken agentId job.runnerProfileId hostId
    ctx.worktreePath request.ttlSeconds
  let bindingEvidence ← orRaise id (executorBindingClaimEvidence authority.bindingSnapshot)
  let leaseFields : Json := .obj [("lease_id", .str reserved.leaseId),
    ("reap_mode", .str request.reapMode), ("reap_reason", .ofOption request.reapReason)]
  let recoveryFields : Json := match recovery with
    | none => .obj []
    | some reason => .obj [("recovery_reason", .str reason), ("prior_process_stopped", .bool true)]
  let payload := ((((claimedPayload job agentId ctx).update leaseFields).update
    recoveryFields).update bindingEvidence).update authority.routeEvidence
  let _ ← appendClaimed job agentId payload
  appendClaimRequestMarker request.claimRequestId requestDigest job agentId attemptToken
    (some reserved.leaseId) request.ttlSeconds
  let stored ← Txn.read (findLease · reserved.leaseId)
  match stored with
  | none => throw (Exn.key "acquired_at")
  | some stored =>
    -- the envelope carries the path of the context, not the normalized path of the row
    let leaseRow : LeaseRow := { stored with
      jobId := job.id
      attemptToken
      agentId
      runnerProfileId := job.runnerProfileId
      hostId
      resourceKind := "worktree"
      resourceKey := reserved.resourceKey
      normalizedPath := ctx.worktreePath }
    let serverNow ← utcNow
    let claimed ← readOrRaise (getJob · job.id)
    return ⟨reserved.leaseId, claimed, attemptToken, ctx,
      buildLeaseEnvelope leaseRow serverNow request.ttlSeconds leaseDefaultRenewIntervalSeconds⟩

/-- The reaper that precedes a selection; any error that it records refuses the claim. -/
def reapBeforeClaim (request : ClaimRequest) (actor : String) (current : Nat) : DbTxn Unit := do
  if request.reapMode = "none" then
    let binding ← readOrRaise (resolveExactExecutorBinding · request.agentId)
    raiseIf binding.isNone (runtimeLeaseFailure ("reap_mode=none requires a typed agent with " ++
      s!"exact executor binding; agent {Text.repr request.agentId} has none"))
  else
    let summary ← reapDueLeasesInTransaction actor current
    match summary.errors with
    | [] => pure ()
    | first :: _ => throw (runtimeLeaseFailure s!"reap error: {first.error}")

/-- Select a candidate and start its next attempt. -/
def claimSelected (request : ClaimRequest) (hostId : String) (recovery requestDigest : Option String)
    (current : Nat) : DbTxn ClaimLeaseResult := do
  match ← selectClaimCandidate request.agentId hostId request.recoverable with
  | .refused reason blocked =>
    throw (Exn.runtimeLease ⟨reason, blocked.map (·.1), blocked.map (·.2)⟩)
  | .selected job authority =>
    startManagedAttempt request hostId recovery requestDigest current job authority

/-- `claim_leased_job`, inside the transaction of its caller. -/
def claimLeasedJob (request : ClaimRequest) (hostId actor : String)
    (requestDigest : Option String) : DbTxn ClaimLeaseResult := do
  orRaise Exn.runtimeLease (validateClaimReapPolicy request)
  orRaise Exn.runtimeLease (validateId request.agentId "agent_id")
  orRaise Exn.runtimeLease (validateId hostId "host_id")
  orRaise Exn.runtimeLease (validateId actor "actor")
  let recovery ← orRaise Exn.runtimeLease (validateRecoveryEvidence request)
  orRaise Exn.lease (validateTtl request.ttlSeconds)
  let current ← utcNow
  readOrRaise (checkClaimAgent · request.agentId hostId)
  reapBeforeClaim request actor current
  claimSelected request hostId recovery requestDigest current

end Claim

section Mutation

/-- `require_managed_attempt_lease`: the active lease of a managed attempt. -/
def requireManagedAttemptLease (db : Db) (current : Nat) (jobId : String) (attemptToken : Nat)
    (agentId : String) (leaseId : Option String) : Except RuntimeLeaseError (Option LeaseRow) := do
  if !attemptHasAnyLease db jobId attemptToken then return none
  match leaseId with
  | none => throw (leaseRefusal s!"managed attempt {jobId}/{attemptToken} requires lease_id")
  | some leaseId =>
    some <$> orRaise (fun e : LeaseError => leaseRefusal e.message)
      (requireActiveUnexpiredLease db current leaseId jobId attemptToken agentId)

/-- `require_mutation_authority`: `none` is the legacy path of an attempt without a lease. -/
def requireMutationAuthority (db : Db) (current : Nat) (currentAttemptToken : Nat)
    (suppliedAttemptToken : Option Int) (jobId agentId : String) (leaseId : Option String) :
    Except RuntimeLeaseError (Option LeaseRow) := do
  if !attemptHasAnyLease db jobId currentAttemptToken then return none
  match suppliedAttemptToken with
  | none =>
    throw (leaseRefusal s!"managed attempt {jobId}/{currentAttemptToken} requires attempt_token")
  | some supplied =>
    raiseIf (supplied ≠ currentAttemptToken)
      (leaseRefusal (s!"managed attempt {jobId}/{currentAttemptToken} received stale " ++
        s!"attempt_token {supplied}"))
    requireManagedAttemptLease db current jobId currentAttemptToken agentId leaseId

/-- What a renewal returns. -/
structure RenewResult where
  leaseId : String
  jobId : String
  attemptToken : Int
  agentId : String
  serverNow : Nat
  expiresAt : Nat
  renewedAt : Nat
deriving DecidableEq, Repr

/-- The body of `renew_managed_lease`. -/
def renewManagedLeaseBody (leaseId jobId : String) (attemptToken : Int) (agentId : String)
    (ttlSeconds : Int) : DbTxn RenewResult := do
  let job ← readOrRaise (getJob · jobId)
  raiseIf (job.status ≠ .running ∨ (job.attemptCount : Int) ≠ attemptToken)
    (runtimeLeaseFailure
      s!"lease renewal rejected: job {jobId} not running as attempt {attemptToken}")
  let (expiresAt, renewedAt) ← renewAttemptLease leaseId jobId attemptToken agentId ttlSeconds
  let _ ← touchAgentActivity agentId
  let serverNow ← utcNow
  return ⟨leaseId, jobId, attemptToken, agentId, serverNow, expiresAt, renewedAt⟩

/-- `renew_managed_lease`. -/
def renewManagedLease (leaseId jobId : String) (attemptToken : Int) (agentId : String)
    (ttlSeconds : Int) : DbTx RenewResult := do
  orRaise Exn.lease (validateTtl ttlSeconds)
  Tx.atomically Exn.nestedBegin
    (renewManagedLeaseBody leaseId jobId attemptToken agentId ttlSeconds)

end Mutation

end Coordinate

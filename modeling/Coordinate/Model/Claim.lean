import Coordinate.Model.Jobs

/-! # Claiming a job

`claim_job` of `runtime.py`: the preflight outside a transaction, the replay of an earlier claim
request, the managed claim of a typed agent and the legacy claim of an untyped one.
-/

namespace Coordinate

variable [Platform]

def runtimeFailure (message : String) : Exn := .runtime message

structure RuntimeClaimResult where
  job : Option JobDict := none
  claimed : Bool := false
  attemptToken : Option Nat := none
  executionContext : Option Json := none
  executionLease : Option Json := none
  reason : Option String := none
  oldestBlockedJobId : Option String := none
  oldestBlockedResourceKey : Option String := none
  replayed : Bool := false
deriving DecidableEq, Repr

section Replay

def markerKeys : List String :=
  ["request_digest", "agent_id", "job_id", "attempt_token", "lease_id", "ttl"]

def malformedMarker : Exn := runtimeFailure "claim replay: marker payload is malformed"

/-- The marker of a claim request after its checks. -/
structure ClaimMarker where
  job : JobRow
  attemptToken : Nat
  ttlSeconds : Int
  leaseId : Json
deriving DecidableEq, Repr

/-- The checks of a marker against the request and the marked job. -/
def readClaimMarker (db : Db) (event : EventRow) (requestDigest agentId : String) :
    Except Exn ClaimMarker := do
  raiseIf (event.eventType ≠ "job.claim_request")
    (runtimeFailure "claim replay: idempotency key conflicts with another event")
  let marker ← orRaise (fun _ : String => malformedMarker) event.payloadJson.loads
  raiseIf (¬ marker.isObj ∨ ¬ marker.hasExactlyKeys markerKeys) malformedMarker
  raiseIf (marker.get "request_digest" ≠ .str requestDigest)
    (runtimeFailure "claim replay: request digest conflicts")
  raiseIf (marker.get "agent_id" ≠ .str agentId) (runtimeFailure "claim replay: agent conflicts")
  let jobId ← match marker.get "job_id" with
    | .str jobId => pure jobId
    | _ => throw malformedMarker
  raiseIf (jobId = "" ∨ requestDigest.toList.length ≠ 64 ∨ ¬ requestDigest.toList.all Text.isLowerHex)
    malformedMarker
  match findJob db jobId with
  | none => throw (runtimeFailure "claim replay: marked job is missing")
  | some job => do
    raiseIf (event.workspaceId ≠ some job.workspaceId ∨ event.actor ≠ agentId ∨
        event.target ≠ some agentId ∨ event.taskId ≠ job.taskId)
      (runtimeFailure "claim replay: marker authority is malformed")
    raiseIf (job.assignedAgent ≠ agentId)
      (runtimeFailure "claim replay: marked job agent conflicts")
    raiseIf (job.status ≠ .running)
      (runtimeFailure "claim replay: marked job is expired or terminal")
    let attemptToken ← match marker.get "attempt_token" with
      | .int token => do
        raiseIf (token ≤ 0) malformedMarker
        pure token
      | _ => throw malformedMarker
    raiseIf ((job.attemptCount : Int) ≠ attemptToken)
      (runtimeFailure "claim replay: marked attempt is stale")
    let ttlSeconds ← match marker.get "ttl" with
      | .int ttl => pure ttl
      | _ => throw malformedMarker
    orRaise (fun _ : LeaseError => malformedMarker) (validateTtl ttlSeconds)
    return ⟨job, job.attemptCount, ttlSeconds, marker.get "lease_id"⟩

/-- The envelope of a marked attempt, whose lease must be active still. -/
def replayEnvelope (db : Db) (marker : ClaimMarker) (agentId hostId : String)
    (checkedAt serverNow : Nat) : Except Exn (Option Json) := do
  match marker.leaseId with
  | .null =>
    raiseIf (attemptHasAnyLease db marker.job.id marker.attemptToken)
      (runtimeFailure "claim replay: legacy marker now has a managed lease")
    return none
  | .str leaseId =>
    raiseIf (leaseId = "") malformedMarker
    let lease ← orRaise
      (fun _ : LeaseError => runtimeFailure "claim replay: marked lease is missing or expired")
      (requireActiveUnexpiredLease db checkedAt leaseId marker.job.id marker.attemptToken agentId)
    raiseIf (lease.hostId ≠ hostId)
      (runtimeFailure "claim replay: marked lease is missing or expired")
    return some
      (buildLeaseEnvelope lease serverNow marker.ttlSeconds leaseDefaultRenewIntervalSeconds)
  | _ => throw malformedMarker

/-- `_replay_claim_request`: rebuild an earlier claim from its marker, reading only. -/
def replayClaimRequest (db : Db) (claimRequestId requestDigest agentId hostId : String)
    (checkedAt serverNow : Nat) : Except Exn (Option RuntimeClaimResult) := do
  match findEventByKey db (claimMarkerKey agentId claimRequestId) with
  | none => return none
  | some event => do
    let marker ← readClaimMarker db event requestDigest agentId
    let payload ← strictPayload marker.job.payloadJson
    let context ← orRaise
      (fun _ : ContextError =>
        runtimeFailure "claim replay: marked execution context is malformed")
      (validateExecutionContextSnapshot (payload.get "execution_context") (some marker.job.id)
        (some marker.job.workspaceId) none (some agentId) (some hostId))
    let executionLease ← replayEnvelope db marker agentId hostId checkedAt serverNow
    let job ← marker.job.toDict
    return some {
      job := some job
      claimed := true
      attemptToken := some marker.attemptToken
      executionContext := some context.toDict
      executionLease
      replayed := true }

/-- The replay of a request that may carry no identifier. -/
def replayClaim (request : ClaimRequest) (hostId : String) (db : Db) (checkedAt serverNow : Nat) :
    Except Exn (Option RuntimeClaimResult) :=
  match request.claimRequestId with
  | none => return none
  | some claimRequestId =>
    replayClaimRequest db claimRequestId (claimRequestDigest request hostId) request.agentId hostId
      checkedAt serverNow

/-- The replay before the transaction. -/
def replayClaimOutside (request : ClaimRequest) (hostId : String) :
    DbTx (Option RuntimeClaimResult) := do
  let checkedAt ← Tx.clock now
  let serverNow ← Tx.clock now
  let result ← Tx.query (replayClaim request hostId · checkedAt serverNow)
  orRaise id result

/-- The replay inside the transaction. -/
def replayClaimInside (request : ClaimRequest) (hostId : String) :
    DbTxn (Option RuntimeClaimResult) := do
  let checkedAt ← utcNow
  let serverNow ← utcNow
  readOrRaise (replayClaim request hostId · checkedAt serverNow)

end Replay

section Preflight

/-- The argument checks of `claim_job`. -/
def validateClaimArguments (request : ClaimRequest) : Except RuntimeLeaseError Unit := do
  validateClaimReapPolicy request
  validateId request.agentId "agent_id"
  match request.claimRequestId with
  | none => return ()
  | some claimRequestId =>
    validateId claimRequestId "claim_request_id"
    orRaise (fun e : LeaseError => leaseRefusal e.message) (validateTtl request.ttlSeconds)

/-- The host of an agent that is online. -/
def claimHost (db : Db) (agentId : String) : Except Exn String := do
  match getAgent db agentId with
  | none => throw (runtimeFailure s!"unknown agent: {agentId}")
  | some agent =>
    raiseIf (agent.onlineState ≠ "online")
      (runtimeFailure s!"agent {agentId} is {agent.onlineState}")
    match agent.hostId with
    | none | some "" => throw (runtimeFailure s!"agent {agentId} has no host_id")
    | some hostId => return hostId

end Preflight

section Managed

def refusalReasons : List String :=
  ["queue_empty", "capacity_exhausted", "resource_blocked", "scan_limit_reached"]

/-- The result of a managed claim that found nothing to claim, or its exception. -/
def refusedClaim (error : RuntimeLeaseError) : Except Exn RuntimeClaimResult :=
  let refused (reason : String) : RuntimeClaimResult :=
    { reason := some reason, oldestBlockedJobId := error.oldestBlockedJobId,
      oldestBlockedResourceKey := error.oldestBlockedResourceKey }
  if error.message ∈ refusalReasons then return refused error.message
  else if Text.startsWith error.message "resource_blocked" then return refused "resource_blocked"
  else throw (runtimeFailure error.message)

/-- The managed branch of `claim_job`; only lease exceptions are caught. -/
def claimManaged (request : ClaimRequest) (hostId : String) : DbTx RuntimeClaimResult := do
  Tx.begin Exn.nestedBegin
  let outcome ← tryCatch (do
    match ← Tx.within (replayClaimInside request hostId) with
    | some replay =>
      Tx.commit
      return Sum.inl replay
    | none =>
      let claimed ← Tx.within (claimLeasedJob request hostId request.agentId
        (request.claimRequestId.map fun _ => claimRequestDigest request hostId))
      Tx.commit
      return Sum.inr claimed) fun e => match e with
    | .runtimeLease error => do
      Tx.rollback
      Sum.inl <$> orRaise id (refusedClaim error)
    | .lease error => do
      Tx.rollback
      throw (runtimeFailure error.message)
    | other => throw other
  match outcome with
  | .inl result => return result
  | .inr claimed =>
    let job ← orRaise id claimed.job.toDict
    return {
      job := some job
      claimed := true
      attemptToken := some claimed.attemptToken
      executionContext := some claimed.executionContext.toDict
      executionLease := some claimed.executionLease }

end Managed

section Legacy

/-- The context of a legacy candidate: its snapshot, or one backfilled at its first claim. -/
def legacyClaimContext (workspace : Option Workspace) (profile : WorkspaceHostProfile)
    (task : Option TaskMirror) (candidate : JobRow) (payload : Json) (agentId hostId : String) :
    Except Exn ExecutionContextV1 := do
  match payload.get "execution_context" with
  | .null => do
    raiseIf ((nonEmpty candidate.taskId).isSome ∧ task.isNone) (runtimeFailure
      s!"task mirror not found: {candidate.workspaceId}/{displayOption candidate.taskId}")
    match workspace with
    | none => throw (Exn.type "'NoneType' object has no attribute 'path'")
    | some workspace =>
      orRaise
        (fun e : ContextError => runtimeFailure s!"invalid execution context: {e.message}")
        (resolveExecutionContextV1 candidate.id workspace task agentId hostId profile
          (objectAt payload "origin") candidate.branch candidate.worktreePath candidate.logsPath)
  | snapshot =>
    orRaise
      (fun e : ContextError => runtimeFailure s!"invalid stored execution context: {e.message}")
      (validateExecutionContextSnapshot snapshot (some candidate.id) (some candidate.workspaceId)
        candidate.taskId (some agentId) (some hostId))

/-- What the legacy branch reads about its candidate before the transaction. -/
structure LegacyCandidate where
  job : JobRow
  payload : Json
  context : ExecutionContextV1
deriving DecidableEq, Repr

def missingProfile (workspaceId hostId : String) : Exn :=
  runtimeFailure s!"workspace {workspaceId} has no host profile for host {hostId}"

/-- The oldest claimable job of an untyped agent, with its payload and context. -/
def findLegacyCandidate (db : Db) (request : ClaimRequest) (hostId : String) :
    Except Exn (Option LegacyCandidate) := do
  match (claimQueue db request.recoverable request.agentId).head? with
  | none => return none
  | some job =>
    match ← getWorkspaceHostProfile db job.workspaceId hostId with
    | none => throw (missingProfile job.workspaceId hostId)
    | some profile => do
      let payload ← strictPayload job.payloadJson
      let task ← match nonEmpty job.taskId with
        | none => pure none
        | some taskId => taskMirror db job.workspaceId taskId
      let context ← legacyClaimContext (getWorkspace db job.workspaceId) profile task job payload
        request.agentId hostId
      return some ⟨job, payload, context⟩

/-- The containment gate against the current host profile. -/
def checkCurrentContainment (db : Db) (candidate : LegacyCandidate) (hostId : String) :
    Except Exn Unit := do
  match ← getWorkspaceHostProfile db candidate.job.workspaceId hostId with
  | none => throw (missingProfile candidate.job.workspaceId hostId)
  | some profile =>
    let _ ← orRaise
      (fun e : ResourceIdentityError =>
        runtimeFailure s!"worktree containment policy rejected claim: {e.message}")
      (checkWorktreeContainmentPolicy candidate.context.worktreePath profile.workspacePath
        profile.worktreeRoots)

/-- How the transaction of a legacy claim ends: replayed, lost to another claim, or claimed. -/
inductive LegacyOutcome where
  | replayed (result : RuntimeClaimResult)
  | lost
  | claimed
deriving DecidableEq, Repr

/-- The body of the legacy transaction. -/
def claimLegacyBody (request : ClaimRequest) (hostId : String) (candidate : LegacyCandidate)
    (current : Nat) : DbTxn LegacyOutcome := do
  match ← replayClaimInside request hostId with
  | some replay => return .replayed replay
  | none =>
    readOrRaise (checkCurrentContainment · candidate hostId)
    let job := candidate.job
    let matched ← startAttempt job
      (candidate.payload.set "execution_context" candidate.context.toDict) current
    if matched = 0 then return .lost
    let routeEvidence ← orRaise id (routingClaimEvidence candidate.payload job)
    let bindingEvidence ← match candidate.payload.get "executor_binding" with
      | .null => pure (Json.obj [])
      | snapshot => orRaise id (executorBindingClaimEvidence snapshot)
    let _ ← appendClaimed job request.agentId
      (((claimedPayload job request.agentId candidate.context).update bindingEvidence).update
        routeEvidence)
    appendClaimRequestMarker request.claimRequestId
      (request.claimRequestId.map fun _ => claimRequestDigest request hostId) job request.agentId
      (job.attemptCount + 1) none request.ttlSeconds
    return .claimed

/-- The transaction of a legacy claim; a lost swap rolls back. -/
def claimLegacyTransaction (request : ClaimRequest) (hostId : String) (candidate : LegacyCandidate)
    (current : Nat) : DbTx LegacyOutcome := do
  Tx.begin Exn.nestedBegin
  tryCatch (do
    match ← Tx.within (claimLegacyBody request hostId candidate current) with
    | .lost =>
      Tx.rollback
      return .lost
    | other =>
      Tx.commit
      return other) fun e => do
        Tx.rollback
        throw e

/-- `BEGIN IMMEDIATE`, then a second replay, for an empty queue. -/
def replayEmptyQueue (request : ClaimRequest) (hostId : String) : DbTx RuntimeClaimResult := do
  if request.claimRequestId.isNone then return {}
  Tx.begin Exn.nestedBegin
  tryCatch (do
    let replay ← Tx.within (replayClaimInside request hostId)
    Tx.rollback
    return replay.getD {}) fun e => do
      Tx.rollback
      throw e

/-- The legacy branch of `claim_job`. -/
def claimLegacy (request : ClaimRequest) (hostId : String) : DbTx RuntimeClaimResult := do
  raiseIf (request.reapMode = "none") (runtimeFailure ("reap_mode=none requires a typed agent " ++
    s!"with exact executor binding; agent {Text.repr request.agentId} is untyped"))
  let found ← Tx.query (findLegacyCandidate · request hostId)
  match ← orRaise id found with
  | none => replayEmptyQueue request hostId
  | some candidate =>
    let current ← Tx.clock now
    match ← claimLegacyTransaction request hostId candidate current with
    | .replayed result => return result
    | .lost => return {}
    | .claimed =>
      let stored ← Tx.query (getJob · candidate.job.id)
      let stored ← orRaise id stored
      let job ← orRaise id stored.toDict
      return {
        job := some job
        claimed := true
        attemptToken := some job.row.attemptCount
        executionContext := some candidate.context.toDict }

end Legacy

/-- `claim_job`. -/
def claimJob (request : ClaimRequest) : DbTx RuntimeClaimResult := do
  orRaise (fun e : RuntimeLeaseError => runtimeFailure e.message) (validateClaimArguments request)
  let host ← Tx.query (claimHost · request.agentId)
  let hostId ← orRaise id host
  match ← replayClaimOutside request hostId with
  | some replay => return replay
  | none =>
    if ← touchAgentActivityOutside request.agentId then Tx.commit
    let binding ← Tx.query (resolveExactExecutorBinding · request.agentId)
    match ← orRaise id binding with
    | some _ => claimManaged request hostId
    | none => claimLegacy request hostId

end Coordinate

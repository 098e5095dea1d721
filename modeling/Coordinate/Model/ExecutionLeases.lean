import Coordinate.Model.ExecutionContext
import Coordinate.Model.ExecutorRouting

/-! # Execution attempt leases

The commit-free lease primitives of `execution_leases.py`: reservation, renewal and release of one
attempt lease, and the queries on active and due leases.
-/

namespace Coordinate

variable [Platform]

def minTtlSeconds : Int := 30
def maxTtlSeconds : Int := 600
def maxReleaseReasonLen : Nat := 256
def leaseContractVersion : Int := 1
def leaseDefaultTtlSeconds : Int := 120
def leaseDefaultRenewIntervalSeconds : Int := 30
def leaseReapBatchSize : Nat := 100

def leaseFailure (message : String) : Exn := .lease ⟨message⟩

/-- `_validate_attempt_token` of a value that is an integer already. -/
def validateAttemptToken (value : Int) : Except LeaseError Unit :=
  raiseIf (value ≤ 0) (LeaseError.mk "attempt_token must be a positive integer")

def validateReleaseReason (value : String) : Except LeaseError Unit := do
  raiseIf (value = "") (LeaseError.mk "release reason must not be empty")
  raiseIf (value ≠ Text.strip value)
    (LeaseError.mk "release reason must not have surrounding whitespace")
  raiseIf (value.toList.length > maxReleaseReasonLen)
    (LeaseError.mk s!"release reason exceeds {maxReleaseReasonLen} characters")
  raiseIf (Text.hasControl value) (LeaseError.mk "release reason contains control characters")

/-- `_validate_ttl` of a value that is an integer already. -/
def validateTtl (value : Int) : Except LeaseError Unit :=
  raiseIf (value < minTtlSeconds ∨ value > maxTtlSeconds) (LeaseError.mk
    s!"TTL must be between {minTtlSeconds} and {maxTtlSeconds} seconds")

def LeaseRow.resource (lease : LeaseRow) : WorktreeResource :=
  ⟨lease.hostId, lease.normalizedPath⟩

/-- Rebuild and validate the resource snapshot of a stored row. -/
def validateStoredResource (lease : LeaseRow) : Except LeaseError Unit :=
  orRaise (fun e : ResourceIdentityError =>
      LeaseError.mk s!"stored lease resource snapshot is tampered: {e.message}")
    (validateResourceKeyMatches lease.resourceKind lease.resource lease.resourceKey)

/-- Count active, unexpired leases for one agent. -/
def countActiveLeasesForAgent (db : Db) (agentId : String) (current : Nat) :
    Except LeaseError Nat := do
  let rows := db.leases.filter fun lease =>
    lease.agentId = agentId && lease.status = .active && lease.expiresAt > current
  rows.forM validateStoredResource
  return rows.length

/-- The active lease of a resource, expired or not. -/
def findActiveResourceLease (db : Db) (resourceKey : String) :
    Except LeaseError (Option LeaseRow) := do
  let rows := db.leases.filter fun lease =>
    lease.resourceKey = resourceKey && lease.status = .active
  rows.forM validateStoredResource
  return rows.head?

/-- Up to `limit` due active leases, the earliest expiry first. -/
def findDueActiveLeases (db : Db) (current limit : Nat) : Except LeaseError (List LeaseRow) := do
  let due := db.leases.filter fun lease => lease.status = .active && lease.expiresAt ≤ current
  let rows := (sortBy (fun a b => a.expiresAt < b.expiresAt) due).take limit
  rows.forM validateStoredResource
  return rows

/-- Managed-attempt predicate: any lease row for the attempt means managed. -/
def attemptHasAnyLease (db : Db) (jobId : String) (attemptToken : Int) : Bool :=
  db.leases.any fun lease => lease.jobId = jobId && (lease.attemptToken : Int) = attemptToken

/-- The active, unexpired lease whose job, token and agent all match. -/
def requireActiveUnexpiredLease (db : Db) (current : Nat) (leaseId jobId : String)
    (attemptToken : Int) (agentId : String) : Except LeaseError LeaseRow := do
  raiseIf (leaseId = "") (LeaseError.mk "lease_id must be a non-empty string")
  validateAttemptToken attemptToken
  match findLease db leaseId with
  | none => throw (LeaseError.mk s!"lease {Text.repr leaseId} not found")
  | some lease =>
    validateStoredResource lease
    raiseIf (lease.jobId ≠ jobId) (LeaseError.mk "lease job_id mismatch")
    raiseIf ((lease.attemptToken : Int) ≠ attemptToken)
      (LeaseError.mk "lease attempt_token mismatch")
    raiseIf (lease.agentId ≠ agentId) (LeaseError.mk "lease agent_id mismatch")
    raiseIf (lease.status ≠ .active)
      (LeaseError.mk s!"lease {Text.repr leaseId} is {lease.status.text}")
    raiseIf (lease.expiresAt ≤ current) (LeaseError.mk s!"lease {Text.repr leaseId} has expired")
    return lease

/-- The strict v1 `execution_lease` envelope of a lease row. -/
def buildLeaseEnvelope (lease : LeaseRow) (serverNow : Nat) (ttlSeconds renewIntervalSeconds : Int) :
    Json :=
  .obj [("contract_version", .int leaseContractVersion), ("lease_id", .str lease.leaseId),
    ("job_id", .str lease.jobId), ("attempt_token", .int lease.attemptToken),
    ("agent_id", .str lease.agentId), ("runner_profile_id", .str lease.runnerProfileId),
    ("host_id", .str lease.hostId), ("resource_kind", .str lease.resourceKind),
    ("resource_key", .str lease.resourceKey), ("normalized_path", .str lease.normalizedPath),
    ("capacity_policy_id", .str lease.capacityPolicyId),
    ("max_concurrent_jobs", .int lease.maxConcurrentJobs),
    ("acquired_at", .str (Calendar.isoformat lease.acquiredAt)),
    ("expires_at", .str (Calendar.isoformat lease.expiresAt)),
    ("server_now", .str (Calendar.isoformat serverNow)), ("ttl_seconds", .int ttlSeconds),
    ("renew_interval_seconds", .int renewIntervalSeconds)]

/-- The current capacity policy of an agent (`executor_capacity.resolve_capacity_policy`). -/
def resolveCapacityPolicy (db : Db) (agentId : String) : Option CapacityPolicyRow :=
  db.capacityPolicies.find? (·.agentId = agentId)

/-- What a reservation returns. -/
structure ReservedLease where
  leaseId : String
  resourceKey : String
  expiresAt : Nat
  acquiredAt : Nat
  replayed : Bool
deriving DecidableEq, Repr

def immutableLeaseFieldsMatch (existing : LeaseRow) (agentId runnerProfileId hostId : String)
    (resourceKey : String) (policy : CapacityPolicyRow) : Bool :=
  existing.agentId = agentId && existing.runnerProfileId = runnerProfileId &&
    existing.hostId = hostId && existing.resourceKey = resourceKey &&
    existing.capacityPolicyId = policy.capacityPolicyId &&
    existing.maxConcurrentJobs = policy.maxConcurrentJobs

/-- The job, context and policy checks of a reservation, before the clock is read. -/
def checkReservation (db : Db) (jobId : String) (attemptToken : Int)
    (agentId runnerProfileId hostId worktreePath : String) :
    Except LeaseError (CapacityPolicyRow × WorktreeResource) := do
  match findJob db jobId with
  | none => throw (LeaseError.mk s!"job {Text.repr jobId} not found")
  | some job =>
    raiseIf (job.runnerProfileId = "")
      (LeaseError.mk s!"job {Text.repr jobId} has no runner_profile_id")
    raiseIf ((job.attemptCount : Int) ≠ attemptToken) (LeaseError.mk
      s!"job {Text.repr jobId} attempt_count {job.attemptCount} != {attemptToken}")
    raiseIf (job.assignedAgent ≠ agentId)
      (LeaseError.mk (s!"job {Text.repr jobId} assigned_agent {Text.repr job.assignedAgent} " ++
        s!"!= {Text.repr agentId}"))
    raiseIf (job.runnerProfileId ≠ runnerProfileId)
      (LeaseError.mk (s!"job {Text.repr jobId} runner_profile_id " ++
        s!"{Text.repr job.runnerProfileId} != {Text.repr runnerProfileId}"))
    let payload ← orRaise
      (fun problem => LeaseError.mk s!"job payload_json is not valid JSON: {problem}")
      job.payloadJson.loads
    raiseIf (¬ payload.isObj) (LeaseError.mk "job payload_json must be an object")
    let executionContext := payload.get "execution_context"
    raiseIf (executionContext = .null)
      (LeaseError.mk "job payload_json.execution_context is required")
    let snapshot ← orRaise
      (fun e : ContextError => LeaseError.mk s!"invalid execution context: {e.message}")
      (validateExecutionContextSnapshot executionContext (some jobId) (some job.workspaceId) none
        (some agentId) (some hostId))
    match resolveCapacityPolicy db agentId with
    | none => throw (LeaseError.mk s!"no capacity policy for agent {Text.repr agentId}")
    | some policy =>
      let resource ← orRaise
        (fun e : ResourceIdentityError => LeaseError.mk s!"invalid resource identity: {e.message}")
        (buildWorktreeResource hostId worktreePath)
      let expected ← orRaise
        (fun e : ResourceIdentityError =>
          LeaseError.mk s!"execution context worktree_path is invalid: {e.message}")
        (buildWorktreeResource hostId snapshot.worktreePath)
      raiseIf (resource.normalizedPath ≠ expected.normalizedPath)
        (LeaseError.mk (s!"worktree_path resource mismatch: input " ++
          s!"{Text.repr resource.normalizedPath} != context {Text.repr expected.normalizedPath}"))
      return (policy, resource)

/-- The conflicts of a new reservation: a held resource, no capacity, missing owner rows. -/
def checkNoConflict (db : Db) (reservedAt counted : Nat) (agentId runnerProfileId : String)
    (resourceKey : String) (maxConcurrentJobs : Int) : Except LeaseError Unit := do
  match ← findActiveResourceLease db resourceKey with
  | some held =>
    raiseIf (held.expiresAt ≤ reservedAt)
      (LeaseError.mk (s!"resource blocked by due lease {Text.repr held.leaseId}; " ++
        "reap backlog must be drained before claiming this resource"))
    throw (LeaseError.mk (s!"resource collision: {Text.repr resourceKey} is held by lease " ++
      Text.repr held.leaseId))
  | none => pure ()
  let activeCount ← countActiveLeasesForAgent db agentId counted
  raiseIf ((activeCount : Int) ≥ maxConcurrentJobs)
    (LeaseError.mk (s!"capacity exhausted for agent {Text.repr agentId}: " ++
      s!"{activeCount} active >= {maxConcurrentJobs} max"))
  raiseIf (getAgent db agentId).isNone (LeaseError.mk s!"agent {Text.repr agentId} not found")
  raiseIf (db.runnerProfiles.find? (·.id = runnerProfileId)).isNone
    (LeaseError.mk s!"runner profile {Text.repr runnerProfileId} not found")

/-- The row that a reservation inserts. -/
def newLease (leaseId jobId : String) (attemptToken : Nat) (agentId runnerProfileId : String)
    (policy : CapacityPolicyRow) (resource : WorktreeResource) (reservedAt expiresAt : Nat) :
    LeaseRow where
  leaseId := leaseId
  jobId := jobId
  attemptToken := attemptToken
  agentId := agentId
  runnerProfileId := runnerProfileId
  hostId := resource.hostId
  resourceKind := "worktree"
  resourceKey := computeResourceKey resource
  normalizedPath := resource.normalizedPath
  capacityPolicyId := policy.capacityPolicyId
  maxConcurrentJobs := policy.maxConcurrentJobs
  status := .active
  acquiredAt := reservedAt
  renewedAt := reservedAt
  expiresAt := expiresAt

/-- Reserve one attempt lease for an existing job, attempt and context. -/
def reserveAttemptLease (jobId : String) (attemptToken : Int)
    (agentId runnerProfileId hostId worktreePath : String) (ttlSeconds : Int) :
    DbTxn ReservedLease := do
  orRaise Exn.lease (validateTtl ttlSeconds)
  orRaise Exn.lease (validateAttemptToken attemptToken)
  let db ← Txn.read id
  let (policy, resource) ← orRaise Exn.lease
    (checkReservation db jobId attemptToken agentId runnerProfileId hostId worktreePath)
  let resourceKey := computeResourceKey resource
  let reservedAt ← utcNow
  match db.leases.find? (fun lease =>
    lease.jobId = jobId && (lease.attemptToken : Int) = attemptToken) with
  | some existing =>
    orRaise Exn.lease (validateStoredResource existing)
    raiseIf (¬ immutableLeaseFieldsMatch existing agentId runnerProfileId hostId resourceKey policy)
      (leaseFailure "conflicting lease replay: immutable fields differ from existing lease")
    return ⟨existing.leaseId, existing.resourceKey, existing.expiresAt, existing.acquiredAt, true⟩
  | none =>
    let counted ← utcNow
    orRaise Exn.lease (checkNoConflict db reservedAt counted agentId runnerProfileId resourceKey
      policy.maxConcurrentJobs)
    let leaseId ← newUuid
    let expiresAt := reservedAt + ttlSeconds.toNat
    insertLease (newLease leaseId jobId attemptToken.toNat agentId runnerProfileId policy resource
      reservedAt expiresAt)
    return ⟨leaseId, resourceKey, expiresAt, reservedAt, false⟩

/-- Renew one exact active lease; the result is its new expiry and renewal time. -/
def renewAttemptLease (leaseId jobId : String) (attemptToken : Int) (agentId : String)
    (ttlSeconds : Int) : DbTxn (Nat × Nat) := do
  orRaise Exn.lease (validateTtl ttlSeconds)
  let checkedAt ← utcNow
  let db ← Txn.read id
  let lease ← orRaise Exn.lease
    (requireActiveUnexpiredLease db checkedAt leaseId jobId attemptToken agentId)
  let renewedAt ← utcNow
  let expiresAt := renewedAt + ttlSeconds.toNat
  raiseIf (expiresAt ≤ lease.expiresAt) (leaseFailure "renewal must advance expires_at")
  updateLeases (·.leaseId = leaseId) fun row => { row with renewedAt, expiresAt }
  return (expiresAt, renewedAt)

/-- Whether a release has to write; repeating the same release is a no-op. -/
def checkRelease (db : Db) (leaseId jobId : String) (attemptToken : Int)
    (agentId reason : String) : Except Exn Bool := do
  match findLease db leaseId with
  | none => throw (leaseFailure s!"lease {Text.repr leaseId} not found")
  | some lease =>
    orRaise Exn.lease (validateStoredResource lease)
    raiseIf (lease.jobId ≠ jobId) (leaseFailure "release job_id mismatch")
    raiseIf ((lease.attemptToken : Int) ≠ attemptToken)
      (leaseFailure "release attempt_token mismatch")
    raiseIf (lease.agentId ≠ agentId) (leaseFailure "release agent_id mismatch")
    match lease.status with
    | .released =>
      raiseIf (lease.releaseReason ≠ some reason)
        (leaseFailure s!"lease {Text.repr leaseId} already released with different reason")
      return false
    | .expired => throw (leaseFailure s!"lease {Text.repr leaseId} is already expired")
    | .active => return true

/-- The checks of a release that need no row. -/
def validateRelease (leaseId : String) (attemptToken : Int) (reason : String) :
    Except LeaseError Unit := do
  raiseIf (leaseId = "") (LeaseError.mk "lease_id must be a non-empty string")
  validateReleaseReason reason
  validateAttemptToken attemptToken

def markReleased (leaseId reason : String) (releasedAt : Nat) : DbTxn Unit :=
  updateLeases (·.leaseId = leaseId) fun row =>
    { row with status := .released, releasedAt := some releasedAt, releaseReason := some reason }

/-- Release one exact active lease, inside a transaction. -/
def releaseAttemptLease (leaseId jobId : String) (attemptToken : Int) (agentId reason : String) :
    DbTxn Unit := do
  orRaise Exn.lease (validateRelease leaseId attemptToken reason)
  let releasedAt ← utcNow
  let needed ← readOrRaise (checkRelease · leaseId jobId attemptToken agentId reason)
  if needed then markReleased leaseId reason releasedAt

/-- The same release where its `UPDATE` may be the statement that opens the transaction. -/
def releaseAttemptLeaseOutside (leaseId jobId : String) (attemptToken : Int)
    (agentId reason : String) : DbTx Unit := do
  orRaise Exn.lease (validateRelease leaseId attemptToken reason)
  let releasedAt ← Tx.clock now
  let checked ← Tx.query (checkRelease · leaseId jobId attemptToken agentId reason)
  let needed ← orRaise id checked
  if needed then
    Tx.within (markReleased leaseId reason releasedAt)

end Coordinate

import Coordinate.Model.Report
import Coordinate.Proofs.Statements

/-! # What an operation does to one attempt

Spec lemmas of the lease primitives, of the mutation authority and of the three ways in which an
attempt ends: its report, its expiry and the release at a cancellation.
-/

namespace Coordinate

variable [Platform]

section Leases

variable {db : Db} {w w' : Work Db}

omit [Platform] in
theorem attemptHasAnyLease_iff {jobId : String} {attemptToken : Int} :
    attemptHasAnyLease db jobId attemptToken = true ↔
      ∃ lease ∈ db.leases, lease.jobId = jobId ∧ (lease.attemptToken : Int) = attemptToken := by
  simp [attemptHasAnyLease, Table.any, Table.mem_def]

/-- The lease that authorizes a call, with every identity that was checked. -/
structure Authorizes (db : Db) (current : Nat) (leaseId jobId : String) (attemptToken : Int)
    (agentId : String) (lease : LeaseRow) : Prop where
  member : lease ∈ db.leases
  leaseId : lease.leaseId = leaseId
  jobId : lease.jobId = jobId
  attemptToken : (lease.attemptToken : Int) = attemptToken
  agentId : lease.agentId = agentId
  active : lease.status = .active
  unexpired : current < lease.expiresAt

theorem requireActiveUnexpiredLease_ok {current : Nat} {leaseId jobId agentId : String}
    {attemptToken : Int} {lease : LeaseRow}
    (ran : requireActiveUnexpiredLease db current leaseId jobId attemptToken agentId = .ok lease) :
    Authorizes db current leaseId jobId attemptToken agentId lease := by
  simp only [requireActiveUnexpiredLease, Except.bind_ok, raiseIf_except_ok] at ran
  obtain ⟨_, _, _, _, ran⟩ := ran
  split at ran
  · cases ran
  · rename_i found lookup
    simp only [Except.bind_ok, raiseIf_except_ok, not_not, not_le] at ran
    obtain ⟨_, _, _, job, _, token, _, agent, _, active, _, unexpired, same⟩ := ran
    cases same
    obtain ⟨member, id⟩ := findLease_eq_some.mp lookup
    exact ⟨member, id, job, token, agent, active, unexpired⟩

/-- The authority of a mutation: the attempt has no lease at all, or the caller names its active
lease and its token. -/
theorem requireMutationAuthority_ok {current currentAttemptToken : Nat} {supplied : Option Int}
    {jobId agentId : String} {leaseId : Option String} {authority : Option LeaseRow}
    (ran : requireMutationAuthority db current currentAttemptToken supplied jobId agentId leaseId =
      .ok authority) :
    attemptHasAnyLease db jobId currentAttemptToken = false ∨
      ∃ lease, supplied = some (currentAttemptToken : Int) ∧ leaseId = some lease.leaseId ∧
        Authorizes db current lease.leaseId jobId currentAttemptToken agentId lease := by
  unfold requireMutationAuthority at ran
  split at ran
  · rename_i unmanaged
    exact .inl (by simpa using unmanaged)
  · rename_i managed
    right
    split at ran
    · cases ran
    · rename_i token
      simp only [Except.bind_ok, raiseIf_except_ok, not_not] at ran
      obtain ⟨_, same, ran⟩ := ran
      unfold requireManagedAttemptLease at ran
      rw [if_neg managed] at ran
      split at ran
      · cases ran
      · rename_i id
        cases outcome : requireActiveUnexpiredLease db current id jobId currentAttemptToken
            agentId with
        | error e =>
          rw [outcome] at ran
          cases ran
        | ok lease =>
          have authorizes := requireActiveUnexpiredLease_ok outcome
          have id_eq := authorizes.leaseId
          subst id_eq
          exact ⟨lease, by rw [same], rfl, authorizes⟩

theorem requireAuthority_ok {job : JobRow} {supplied : Option Int} {agentId : String}
    {leaseId : Option String} {u : Unit}
    (ran : (requireAuthority job supplied agentId leaseId).run w = .ok u w') :
    w'.store = w.store ∧ (attemptHasAnyLease w.store job.id job.attemptCount = false ∨
      ∃ lease current, supplied = some (job.attemptCount : Int) ∧ leaseId = some lease.leaseId ∧
        Authorizes w.store current lease.leaseId job.id job.attemptCount agentId lease) := by
  simp only [requireAuthority, Txn.bind_ok, utcNow_run, EStateM.Result.ok.injEq, readOrRaise_ok,
    orRaise_except_ok, Txn.pure_run] at ran
  obtain ⟨_, _, ⟨rfl, rfl⟩, _, _, ⟨authority, rfl⟩, _, rfl⟩ := ran
  refine ⟨rfl, ?_⟩
  obtain unmanaged | ⟨lease, token, id, authorizes⟩ := requireMutationAuthority_ok authority
  · exact .inl unmanaged
  · exact .inr ⟨lease, _, token, id, authorizes⟩

/-- The columns that a release writes. -/
def releasedLease (reason : String) (releasedAt : Nat) (lease : LeaseRow) : LeaseRow :=
  { lease with
    status := .released, releasedAt := some releasedAt, releaseReason := some reason }

omit [Platform] in
theorem markReleased_ok {leaseId reason : String} {releasedAt : Nat} {u : Unit} :
    (markReleased leaseId reason releasedAt).run w = .ok u w' ↔
      ∃ leases, w.store.leases.update? (·.leaseId = leaseId) (releasedLease reason releasedAt) =
        some leases ∧ w' = { w with store := { w.store with leases } } :=
  updateLeases_ok

theorem checkRelease_ok {leaseId jobId agentId reason : String} {attemptToken : Int} {needed : Bool}
    (ran : checkRelease db leaseId jobId attemptToken agentId reason = .ok needed) :
    ∃ lease ∈ db.leases, lease.leaseId = leaseId ∧ lease.jobId = jobId ∧
      (lease.attemptToken : Int) = attemptToken ∧ lease.agentId = agentId ∧
      (needed = true ∧ lease.status = .active ∨ needed = false ∧ lease.status = .released) := by
  unfold checkRelease at ran
  split at ran
  · cases ran
  · rename_i lease lookup
    simp only [Except.bind_ok, raiseIf_except_ok, not_not] at ran
    obtain ⟨_, _, _, job, _, token, _, agent, ran⟩ := ran
    obtain ⟨member, id⟩ := findLease_eq_some.mp lookup
    refine ⟨lease, member, id, job, token, agent, ?_⟩
    cases status : lease.status with
    | active =>
      rw [status] at ran
      cases ran
      exact .inl ⟨rfl, rfl⟩
    | released =>
      rw [status] at ran
      simp only [Except.bind_ok, raiseIf_except_ok, not_not] at ran
      obtain ⟨_, _, same⟩ := ran
      cases same
      exact .inr ⟨rfl, rfl⟩
    | expired =>
      rw [status] at ran
      cases ran

/-- A release finds the lease with all identities of the call, and marks it if it is active. -/
theorem releaseAttemptLease_ok {leaseId jobId agentId reason : String} {attemptToken : Int}
    {u : Unit}
    (ran : (releaseAttemptLease leaseId jobId attemptToken agentId reason).run w = .ok u w') :
    ∃ lease ∈ w.store.leases, lease.leaseId = leaseId ∧ lease.jobId = jobId ∧
      (lease.attemptToken : Int) = attemptToken ∧
      (lease.status = .active ∧ (∃ leases, w.store.leases.update? (·.leaseId = leaseId)
          (releasedLease reason (now w.tick)) = some leases ∧
          w'.store = { w.store with leases }) ∨
        lease.status = .released ∧ w'.store = w.store) := by
  simp only [releaseAttemptLease, Txn.bind_ok, Txn.orRaise_ok, utcNow_run,
    EStateM.Result.ok.injEq, readOrRaise_ok] at ran
  obtain ⟨_, _, ⟨_, rfl⟩, _, _, ⟨rfl, rfl⟩, needed, _, ⟨checked, rfl⟩, ran⟩ := ran
  obtain ⟨lease, member, id, job, token, _, decided⟩ := checkRelease_ok checked
  refine ⟨lease, member, id, job, token, ?_⟩
  obtain ⟨rfl, active⟩ | ⟨rfl, released⟩ := decided
  · rw [if_pos rfl] at ran
    obtain ⟨leases, updated, rfl⟩ := markReleased_ok.mp ran
    exact .inl ⟨active, leases, updated, rfl⟩
  · simp only [Bool.false_eq_true, if_false, Txn.pure_run, EStateM.Result.ok.injEq] at ran
    obtain ⟨_, rfl⟩ := ran
    exact .inr ⟨released, rfl⟩

/-- The columns that a renewal writes. -/
def renewedLease (renewedAt expiresAt : Nat) (lease : LeaseRow) : LeaseRow :=
  { lease with renewedAt, expiresAt }

theorem renewAttemptLease_ok {leaseId jobId agentId : String} {attemptToken ttlSeconds : Int}
    {result : Nat × Nat}
    (ran : (renewAttemptLease leaseId jobId attemptToken agentId ttlSeconds).run w =
      .ok result w') :
    validateTtl ttlSeconds = .ok () ∧
    ∃ lease leases, Authorizes w.store (now w.tick) leaseId jobId attemptToken agentId lease ∧
      result = (now (w.tick + 1) + ttlSeconds.toNat, now (w.tick + 1)) ∧
      lease.expiresAt < result.1 ∧
      w.store.leases.update? (·.leaseId = leaseId) (renewedLease result.2 result.1) =
        some leases ∧ w'.store = { w.store with leases } := by
  simp only [renewAttemptLease, Txn.bind_ok, Txn.orRaise_ok, utcNow_run, EStateM.Result.ok.injEq,
    Txn.read_run, Txn.raiseIf_ok, updateLeases_ok, Txn.pure_run, not_le] at ran
  obtain ⟨_, _, ⟨ttl, rfl⟩, _, _, ⟨rfl, rfl⟩, _, _, ⟨rfl, rfl⟩, lease, _, ⟨authority, rfl⟩, _, _,
    ⟨rfl, rfl⟩, _, _, ⟨advances, rfl⟩, _, _, ⟨leases, updated, rfl⟩, rfl, rfl⟩ := ran
  exact ⟨ttl, lease, leases, requireActiveUnexpiredLease_ok authority, rfl, advances, updated, rfl⟩

end Leases

section Expiry

variable {w w' : Work Db} {lease : LeaseRow} {actor : String} {current : Nat}

omit [Platform] in
theorem isRunningAttempt_iff {job : JobRow} : isRunningAttempt job lease = true ↔
    job.status = .running ∧ job.attemptCount = lease.attemptToken ∧
      job.assignedAgent = lease.agentId := by
  simp [isRunningAttempt, and_assoc]

/-- The rows that the expiry of a lease updates. -/
def isExpiring (lease : LeaseRow) (row : JobRow) : Bool :=
  row.id = lease.jobId && row.status = .running && row.attemptCount = lease.attemptToken

/-- What an expiry writes: the lease, its job, and the two events. -/
structure Expires (lease : LeaseRow) (actor : String) (current : Nat) (w w' : Work Db)
    (job : JobRow) : Prop where
  member : job ∈ w.store.jobs
  id : job.id = lease.jobId
  attempt : isRunningAttempt job lease = true
  writes : ∃ leases jobs middle first second,
    w.store.leases.update? (·.leaseId = lease.leaseId) expiredLease = some leases ∧
    w.store.jobs.update? (isExpiring lease) (timedOutJob (expiryTimeout job current) current) =
      some jobs ∧
    Appended (leaseExpiredEvent job lease actor current)
      { w with store := { w.store with leases, jobs } } middle first ∧
    Appended (timedOutEvent job lease actor (expiryTimeout job current)) middle w' second

theorem expireRevalidatedLease_ok {outcome : ReapOutcome}
    (ran : (expireRevalidatedLease lease actor current).run w = .ok outcome w') :
    ∃ job, Expires lease actor current w w' job := by
  simp only [expireRevalidatedLease, Txn.bind_ok, readOrRaise_ok, Txn.raiseIf_ok, updateLeases_ok,
    updateJobs_ok, Txn.pure_run, EStateM.Result.ok.injEq, getJob_eq_ok, Bool.not_eq_eq_eq_not,
    Bool.not_true, Bool.not_eq_false] at ran
  obtain ⟨job, _, ⟨⟨member, id⟩, rfl⟩, _, _, ⟨attempt, rfl⟩, _, _, ⟨leases, leasesUpdated, rfl⟩,
    _, _, ⟨jobs, jobsUpdated, rfl, rfl⟩, _, _, ⟨_, rfl⟩, first, middle, firstRan, second, last,
    secondRan, _, rfl⟩ := ran
  exact ⟨job, member, id, attempt, leases, jobs, middle, first, second, leasesUpdated, jobsUpdated,
    appendEvent_ok firstRan, appendEvent_ok secondRan⟩

theorem Expires.activity {job : JobRow} (expires : Expires lease actor current w w' job) :
    ∃ leases jobs,
      w.store.leases.update? (·.leaseId = lease.leaseId) expiredLease = some leases ∧
      w.store.jobs.update? (isExpiring lease) (timedOutJob (expiryTimeout job current) current) =
        some jobs ∧ Coordinate.activity w'.store = ((jobs, leases), progressRows w.store) := by
  obtain ⟨leases, jobs, middle, first, second, leasesUpdated, jobsUpdated, firstAppended,
    secondAppended⟩ := expires.writes
  refine ⟨leases, jobs, leasesUpdated, jobsUpdated, ?_⟩
  rw [activity_of_appended (show "job.timed_out" ≠ progressType by decide) secondAppended,
    activity_of_appended (show "execution_lease.expired" ≠ progressType by decide) firstAppended]
  rfl

end Expiry

section Start

variable {w w' : Work Db}

/-- The rows that a claim of a candidate updates. -/
def isCandidate (candidate row : JobRow) : Bool :=
  row.id = candidate.id && row.status = candidate.status

omit [Platform] in
theorem startAttempt_ok {candidate : JobRow} {payload : Json} {current matched : Nat} :
    (startAttempt candidate payload current).run w = .ok matched w' ↔
      ∃ jobs, w.store.jobs.update? (isCandidate candidate)
          (startedJob (candidate.attemptCount + 1) payload current) = some jobs ∧
        matched = (w.store.jobs.filter (isCandidate candidate)).length ∧
        w' = { w with store := { w.store with jobs } } :=
  updateJobs_ok

/-- What a reservation of a fresh attempt has checked and inserted. -/
structure Reserves (db : Db) (jobId agentId runnerProfileId hostId worktreePath : String)
    (attemptToken : Int) (policy : CapacityPolicyRow) (resource : WorktreeResource) (job : JobRow) :
    Prop where
  member : job ∈ db.jobs
  id : job.id = jobId
  attempt : (job.attemptCount : Int) = attemptToken
  agent : job.assignedAgent = agentId
  runner : job.runnerProfileId = runnerProfileId
  policy : resolveCapacityPolicy db agentId = some policy
  resource : buildWorktreeResource hostId worktreePath = .ok resource

theorem checkReservation_ok {db : Db}
    {jobId agentId runnerProfileId hostId worktreePath : String} {attemptToken : Int}
    {policy : CapacityPolicyRow} {resource : WorktreeResource}
    (ran : checkReservation db jobId attemptToken agentId runnerProfileId hostId worktreePath =
      .ok (policy, resource)) :
    ∃ job, Reserves db jobId agentId runnerProfileId hostId worktreePath attemptToken policy
      resource job := by
  unfold checkReservation at ran
  split at ran
  · cases ran
  · rename_i job found
    obtain ⟨member, id⟩ := findJob_eq_some.mp found
    simp only [Except.bind_ok, raiseIf_except_ok, orRaise_except_ok, not_not] at ran
    obtain ⟨_, _, _, attempt, _, agent, _, runner, _, _, _, _, _, _, _, _, ran⟩ := ran
    split at ran
    · cases ran
    · rename_i policy' resolved
      simp only [Except.bind_ok, raiseIf_except_ok, orRaise_except_ok] at ran
      obtain ⟨resource', built, _, _, _, _, same⟩ := ran
      cases same
      exact ⟨job, member, id, attempt, agent, runner, resolved, built⟩

/-- A reservation either finds the attempt's lease, or inserts the one active lease of its
resource. -/
theorem reserveAttemptLease_ok {jobId agentId runnerProfileId hostId worktreePath : String}
    {attemptToken ttlSeconds : Int} {reserved : ReservedLease}
    (ran : (reserveAttemptLease jobId attemptToken agentId runnerProfileId hostId worktreePath
      ttlSeconds).run w = .ok reserved w') :
    validateTtl ttlSeconds = .ok () ∧ 0 < attemptToken ∧
    ∃ policy resource job, Reserves w.store jobId agentId runnerProfileId hostId worktreePath
        attemptToken policy resource job ∧
      ((∃ lease ∈ w.store.leases, lease.jobId = jobId ∧
          (lease.attemptToken : Int) = attemptToken ∧ w'.store = w.store) ∨
        ((∀ lease ∈ w.store.leases, ¬ (lease.jobId = jobId ∧
            (lease.attemptToken : Int) = attemptToken)) ∧
          reserved = ⟨Platform.uuid4 w.draws, computeResourceKey resource,
            now w.tick + ttlSeconds.toNat, now w.tick, false⟩ ∧
          ∃ leases, w.store.leases.insert? (newLease (Platform.uuid4 w.draws) jobId
              attemptToken.toNat agentId runnerProfileId policy resource (now w.tick)
              (now w.tick + ttlSeconds.toNat)) = some leases ∧
            w' = ⟨{ w.store with leases }, w.tick + 2, w.draws + 1⟩)) := by
  simp only [reserveAttemptLease, Txn.bind_ok, Txn.orRaise_ok, Txn.read_run, id_eq,
    EStateM.Result.ok.injEq, utcNow_run, validateAttemptToken, raiseIf_except_ok] at ran
  obtain ⟨_, _, ⟨ttl, rfl⟩, _, _, ⟨positive, rfl⟩, _, _, ⟨rfl, rfl⟩, ⟨policy, resource⟩, _,
    ⟨checked, rfl⟩, _, _, ⟨rfl, rfl⟩, ran⟩ := ran
  obtain ⟨job, reserves⟩ := checkReservation_ok checked
  refine ⟨ttl, by omega, policy, resource, job, reserves, ?_⟩
  split at ran
  · rename_i existing found
    obtain ⟨member, holds⟩ := Table.find?_some found
    simp only [Bool.and_eq_true, decide_eq_true_eq] at holds
    simp only [Txn.bind_ok, Txn.orRaise_ok, Txn.raiseIf_ok, Txn.pure_run,
      EStateM.Result.ok.injEq] at ran
    obtain ⟨_, _, ⟨_, rfl⟩, _, _, ⟨_, rfl⟩, _, rfl⟩ := ran
    exact .inl ⟨existing, member, holds.1, holds.2, rfl⟩
  · rename_i absent
    simp only [Txn.bind_ok, Txn.orRaise_ok, utcNow_run, newUuid_run, EStateM.Result.ok.injEq,
      insertLease_ok, Txn.pure_run] at ran
    obtain ⟨_, _, ⟨rfl, rfl⟩, _, _, ⟨_, rfl⟩, _, _, ⟨rfl, rfl⟩, _, _, ⟨leases, inserted, rfl⟩,
      rfl, rfl⟩ := ran
    refine .inr ⟨fun lease member => ?_, rfl, leases, inserted, rfl⟩
    have missing := Table.find?_none absent lease member
    simpa only [Bool.and_eq_false_iff, decide_eq_false_iff_not, ← not_and_or] using missing

end Start

end Coordinate

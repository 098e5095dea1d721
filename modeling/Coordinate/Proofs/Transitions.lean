import Coordinate.Model.System
import Coordinate.Proofs.Claims
import Coordinate.Proofs.Reports

/-! # The transitions of the queue

`Transition` lists what the transactions of the system do to the jobs and leases, each with the run
that does it. In a sequential run every call is a chain of transitions (`maintains_run`), so an
invariant of the queue is proved once for each kind of transition.
-/

namespace Coordinate

variable [Platform]

/-- A status that is reported to stay. -/
def JobStatus.isFinal : JobStatus → Bool
  | .done | .failed | .cancelled => true
  | _ => false

/-- How the active lease of a cancelled job ends. -/
inductive CancelsLease (db : Db) (job : JobRow) (leases : Table leaseSchema) : Prop
  | free (none : ∀ lease ∈ db.leases, lease.jobId = job.id →
      lease.attemptToken = job.attemptCount → lease.status ≠ .active) (same : leases = db.leases)
  | released (lease : LeaseRow) (member : lease ∈ db.leases) (jobId : lease.jobId = job.id)
      (token : lease.attemptToken = job.attemptCount) (releasedAt : Nat)
      (updated : db.leases.update? (·.leaseId = lease.leaseId)
        (releasedLease "job_cancelled" releasedAt) = some leases)

/-- What one transaction does to the queue; `since` is a reading that the clock has reached. -/
inductive Transition (since : Nat) : Db → Db → Prop
  | quiet {s t : Db} (same : queue t = queue s) : Transition since s t
  | created {w w' : Work Db} {job : NewJob} {row : JobRow}
      (ran : (createJob job).run w = .ok row w') : Transition since w.store w'.store
  | progressed {w w' : Work Db} {report : ProgressReport} {job : JobRow} {progress : Json}
      {current : Nat} {result : AppendEventResult}
      (ran : (recordJobProgressBody report job progress current).run w = .ok result w') :
      Transition since w.store w'.store
  | renewed {w w' : Work Db} {leaseId jobId agentId : String} {attemptToken ttlSeconds : Int}
      {result : RenewResult} (late : since ≤ w.tick)
      (ran : (renewManagedLeaseBody leaseId jobId attemptToken agentId ttlSeconds).run w =
        .ok result w') : Transition since w.store w'.store
  | expired {w w' : Work Db} {lease : LeaseRow} {actor : String} {current : Nat} {job : JobRow}
      (member : lease ∈ w.store.leases) (active : lease.status = .active)
      (expires : Expires lease actor current w w' job) : Transition since w.store w'.store
  | started {s : Db} {recoverable : Bool} {agentId : String} {candidate : JobRow} {payload : Json}
      {current : Nat} {jobs : Table (keyedBy JobRow.id)} (member : candidate ∈ s.jobs)
      (claimable : isClaimable recoverable agentId candidate = true)
      (updated : s.jobs.update? (isCandidate candidate)
        (startedJob (candidate.attemptCount + 1) payload current) = some jobs) :
      Transition since s { s with jobs }
  | claimed {w w' : Work Db} {request : ClaimRequest} {hostId : String}
      {recovery requestDigest : Option String} {current : Nat} {job : JobRow}
      {authority : ValidatedAuthority} {result : ClaimLeaseResult}
      (selects : Selects w.store request.agentId hostId request.recoverable job authority)
      (ran : (startManagedAttempt request hostId recovery requestDigest current job authority).run
        w = .ok result w') : Transition since w.store w'.store
  | reported {w w' : Work Db} {report : ResultReport} {status : ReportStatus} {job : JobRow}
      {result : Json} {usage : Option Usage.UsageEvidence} {current : Nat}
      {outcome : TerminalOutcome}
      (ran : (reportRunningBody report status job result usage current).run w = .ok outcome w') :
      Transition since w.store w'.store
  | late {w w' : Work Db} {report : ResultReport} {status : ReportStatus} {job : JobRow}
      {result : Json} {usage : Option Usage.UsageEvidence} {current : Nat}
      {swapped : Nat × JobRow × Json × Json × Option Usage.UsageEvidence}
      (ran : (swapLateJob report status job result usage current).run w = .ok swapped w')
      (matched : swapped.1 ≠ 0) : Transition since w.store w'.store
  | cancelled {s : Db} {job : JobRow} {jobs : Table (keyedBy JobRow.id)}
      {leases : Table leaseSchema} {result : Json} {current : Nat} (member : job ∈ s.jobs)
      (freed : CancelsLease s job leases)
      (stopped : job.status = .cancelled ∧ jobs = s.jobs ∨ job.status.isFinal = false ∧
        s.jobs.update? (·.id = job.id) (cancelledJob result current) = some jobs) :
      Transition since s { s with jobs, leases }

section Bodies

variable {w w' : Work Db}

/-- The row that `create_job` inserts. -/
theorem createJob_ok {job : NewJob} {row : JobRow} (ran : (createJob job).run w = .ok row w') :
    ∃ jobs path jobId createdAt, row = job.row path jobId createdAt ∧
      w.store.jobs.insert? row = some jobs ∧ w'.store = { w.store with jobs } ∧
      jobId = (nonEmpty job.jobId).getD (Platform.uuid4 w.draws) ∧
      ∃ workspace, getWorkspace w.store job.workspaceId = some workspace ∧ path = workspace.path := by
  rw [createJob, Txn.bind_ok] at ran
  obtain ⟨workspace, _, found, ran⟩ := ran
  simp only [Txn.read_run, EStateM.Result.ok.injEq] at found
  obtain ⟨rfl, rfl⟩ := found
  split at ran
  · simp at ran
  · rename_i record there
    have finish : ∀ (jobId : String) (v : Work Db),
        (do
          let row := job.row record.path jobId (now w.tick)
          insertJob row
          readOrRaise (getJob · jobId) : DbTxn JobRow).run v = .ok row w' →
        v.store = w.store → ∃ jobs, row = job.row record.path jobId (now w.tick) ∧
          w.store.jobs.insert? row = some jobs ∧ w'.store = { w.store with jobs } := by
      intro jobId v inserts same
      simp only [Txn.bind_ok, insertJob_ok, readOrRaise_ok, getJob_eq_ok] at inserts
      obtain ⟨_, _, ⟨jobs, inserted, rfl⟩, ⟨member, id⟩, rfl⟩ := inserts
      rw [same] at inserted
      have rowEq : row = job.row record.path jobId (now w.tick) :=
        job_unique member ((Table.mem_insert? inserted).mpr (.inr rfl)) id
      exact ⟨jobs, rowEq, rowEq ▸ inserted, by rw [same]⟩
    simp only [Txn.bind_ok, Txn.read_run, EStateM.Result.ok.injEq, Txn.raiseIf_ok,
      utcNow_run] at ran
    obtain ⟨_, _, ⟨rfl, rfl⟩, _, _, ⟨_, rfl⟩, _, _, ⟨rfl, rfl⟩, ran⟩ := ran
    split at ran
    · rename_i given name
      rw [Txn.bind_ok] at ran
      obtain ⟨jobId, drawn, draw, ran⟩ := ran
      simp only [Txn.pure_run, EStateM.Result.ok.injEq] at draw
      obtain ⟨rfl, rfl⟩ := draw
      obtain ⟨jobs, rowEq, inserted, store⟩ := finish _ _ ran rfl
      exact ⟨jobs, _, _, _, rowEq, inserted, store, by rw [name, Option.getD_some], record, there, rfl⟩
    · rename_i unnamed
      rw [Txn.bind_ok] at ran
      obtain ⟨jobId, drawn, draw, ran⟩ := ran
      simp only [newUuid_run, EStateM.Result.ok.injEq] at draw
      obtain ⟨rfl, rfl⟩ := draw
      obtain ⟨jobs, rowEq, inserted, store⟩ := finish _ _ ran rfl
      exact ⟨jobs, _, _, _, rowEq, inserted, store, by rw [unnamed, Option.getD_none], record, there, rfl⟩

omit [Platform] in
theorem keeps_touchRow (agentId : String) (observedAt : Nat) :
    Txn.Keeps activity (touchRow agentId observedAt) :=
  Txn.keeps_bind (Txn.keeps_read _) fun _ =>
    Txn.keeps_bind (keeps_replaceTable fun _ _ => rfl) fun _ => Txn.keeps_pure _

theorem keeps_touchAgentActivity (agentId : String) :
    Txn.Keeps activity (touchAgentActivity agentId) := by
  refine Txn.keeps_bind (Txn.keeps_read _) fun agent => ?_
  split
  · exact Txn.keeps_pure _
  · split
    · exact Txn.keeps_pure _
    · refine Txn.keeps_bind keeps_utcNow fun _ => ?_
      split
      · exact keeps_touchRow _ _
      · exact Txn.keeps_pure _

theorem keeps_appendClaimRequestMarker (claimRequestId requestDigest : Option String) (job : JobRow)
    (agentId : String) (attemptToken : Nat) (leaseId : Option String) (ttlSeconds : Int) :
    Txn.Keeps activity (appendClaimRequestMarker claimRequestId requestDigest job agentId attemptToken
      leaseId ttlSeconds) := by
  unfold appendClaimRequestMarker
  split
  · exact Txn.keeps_pure _
  · split
    · exact Txn.keeps_throw _
    · exact Txn.keeps_bind (keeps_appendOther _ (show "job.claim_request" ≠ progressType by decide))
        fun _ => Txn.keeps_raiseIf _ _

theorem reserveAttemptLease_jobs {jobId agentId runnerProfileId hostId worktreePath : String}
    {attemptToken ttlSeconds : Int} {reserved : ReservedLease}
    (ran : (reserveAttemptLease jobId attemptToken agentId runnerProfileId hostId worktreePath
      ttlSeconds).run w = .ok reserved w') : w'.store.jobs = w.store.jobs := by
  obtain ⟨_, _, _, _, _, _, ⟨_, _, _, _, store⟩ | ⟨_, _, _, _, rfl⟩⟩ := reserveAttemptLease_ok ran
  · rw [store]
  · rfl

/-- The queue after the start of a managed attempt: the swap of its job, and its reservation. -/
theorem startManagedAttempt_queue {request : ClaimRequest} {hostId : String}
    {recovery requestDigest : Option String} {current : Nat} {job : JobRow}
    {authority : ValidatedAuthority} {result : ClaimLeaseResult}
    (ran : (startManagedAttempt request hostId recovery requestDigest current job authority).run w =
      .ok result w') :
    ∃ jobs reserved leased,
      w.store.jobs.update? (isCandidate job)
        (startedJob (job.attemptCount + 1) authority.payload current) = some jobs ∧
      (w.store.jobs.filter (isCandidate job)).length ≠ 0 ∧
      (reserveAttemptLease job.id (job.attemptCount + 1 : Nat) request.agentId job.runnerProfileId
        hostId authority.executionContext.worktreePath request.ttlSeconds).run
        { w with store := { w.store with jobs } } = .ok reserved leased ∧
      w'.store.jobs = jobs ∧ w'.store.leases = leased.store.leases := by
  obtain ⟨jobs, reserved, leased, payload, claimed, announced, marked, stored, row, updated, matched,
    reservedRan, claimedRan, markedRan, _, _, _, rfl, _⟩ := startManagedAttempt_ok ran
  have quiet : queue marked.store = queue leased.store :=
    (queue_of_activity ((keeps_appendClaimRequestMarker _ _ _ _ _ _ _).of_ok markedRan)).trans
      ((keeps_appendEvent _ fun _ _ => rfl).of_ok claimedRan)
  obtain ⟨sameJobs, sameLeases⟩ := queue_eq.mp quiet
  exact ⟨jobs, reserved, leased, updated, matched, reservedRan,
    sameJobs.trans (reserveAttemptLease_jobs reservedRan), sameLeases⟩

/-- A renewal writes the two times of the lease that authorizes it. -/
theorem renewManagedLeaseBody_ok {leaseId jobId agentId : String} {attemptToken ttlSeconds : Int}
    {result : RenewResult}
    (ran : (renewManagedLeaseBody leaseId jobId attemptToken agentId ttlSeconds).run w =
      .ok result w') :
    validateTtl ttlSeconds = .ok () ∧
    ∃ job lease leases, job ∈ w.store.jobs ∧ job.id = jobId ∧ job.status = .running ∧
      (job.attemptCount : Int) = attemptToken ∧
      Authorizes w.store (now w.tick) leaseId jobId attemptToken agentId lease ∧
      result.expiresAt = result.renewedAt + ttlSeconds.toNat ∧
      lease.expiresAt < result.expiresAt ∧
      w.store.leases.update? (·.leaseId = leaseId)
        (renewedLease result.renewedAt result.expiresAt) = some leases ∧
      activity w'.store = ((w.store.jobs, leases), progressRows w.store) := by
  simp only [renewManagedLeaseBody, Txn.bind_ok, readOrRaise_ok, getJob_eq_ok, Txn.raiseIf_ok,
    utcNow_run, EStateM.Result.ok.injEq, Txn.pure_run, not_or, not_not] at ran
  obtain ⟨job, _, ⟨⟨member, id⟩, rfl⟩, _, _, ⟨⟨running, attempt⟩, rfl⟩, times, _, renewed, _, _,
    touched, _, _, ⟨rfl, rfl⟩, rfl, rfl⟩ := ran
  obtain ⟨ttl, lease, leases, authorizes, rfl, advances, updated, store⟩ :=
    renewAttemptLease_ok renewed
  refine ⟨ttl, job, lease, leases, member, id, running, attempt, authorizes, rfl, advances, updated,
    ?_⟩
  rw [(keeps_touchAgentActivity agentId).of_ok touched, store]
  rfl

end Bodies

section Legacy

variable {w w' : Work Db} {request : ClaimRequest} {hostId : String}

/-- A replay inside the transaction only reads. -/
theorem replayClaimInside_ok {result : Option RuntimeClaimResult} :
    (replayClaimInside request hostId).run w = .ok result w' ↔
      replayClaim request hostId w.store (now w.tick) (now (w.tick + 1)) = .ok result ∧
        w' = { w with tick := w.tick + 2 } := by
  simp only [replayClaimInside, Txn.bind_ok, utcNow_run, EStateM.Result.ok.injEq, readOrRaise_ok]
  constructor
  · rintro ⟨_, _, ⟨rfl, rfl⟩, _, _, ⟨rfl, rfl⟩, replay, rfl⟩
    exact ⟨replay, rfl⟩
  · rintro ⟨replay, rfl⟩
    exact ⟨_, _, ⟨rfl, rfl⟩, _, _, ⟨rfl, rfl⟩, replay, rfl⟩

/-- What a legacy claim does inside its transaction. -/
theorem claimLegacyBody_ok {candidate : LegacyCandidate} {current : Nat} {outcome : LegacyOutcome}
    (ran : (claimLegacyBody request hostId candidate current).run w = .ok outcome w') :
    (∃ result, outcome = .replayed result ∧ w'.store = w.store ∧
      replayClaim request hostId w.store (now w.tick) (now (w.tick + 1)) = .ok (some result)) ∨
    replayClaim request hostId w.store (now w.tick) (now (w.tick + 1)) = .ok none ∧
      (outcome = .lost ∨ outcome = .claimed ∧
      ∃ jobs started payload claimed announced,
        w.store.jobs.update? (isCandidate candidate.job)
          (startedJob (candidate.job.attemptCount + 1)
            (candidate.payload.set "execution_context" candidate.context.toDict) current) =
          some jobs ∧
        (w.store.jobs.filter (isCandidate candidate.job)).length ≠ 0 ∧
        started.store = { w.store with jobs } ∧
        (appendClaimed candidate.job request.agentId payload).run started =
          .ok claimed announced ∧
        (appendClaimRequestMarker request.claimRequestId
          (request.claimRequestId.map fun _ => claimRequestDigest request hostId) candidate.job
          request.agentId (candidate.job.attemptCount + 1) none request.ttlSeconds).run announced =
          .ok () w') := by
  simp only [claimLegacyBody, Txn.bind_ok, replayClaimInside_ok] at ran
  obtain ⟨replay, _, ⟨replayed, rfl⟩, ran⟩ := ran
  split at ran
  · rename_i result
    simp only [Txn.pure_run, EStateM.Result.ok.injEq] at ran
    obtain ⟨rfl, rfl⟩ := ran
    exact .inl ⟨result, rfl, rfl, replayed⟩
  · refine .inr ⟨replayed, ?_⟩
    simp only [Txn.bind_ok, readOrRaise_ok, startAttempt_ok] at ran
    obtain ⟨_, _, ⟨_, rfl⟩, matched, _, ⟨jobs, updated, rfl, rfl⟩, ran⟩ := ran
    split at ran
    · simp only [Txn.pure_run, EStateM.Result.ok.injEq] at ran
      exact .inl ran.1.symm
    · rename_i swapped
      simp only [Txn.bind_ok, Txn.orRaise_ok] at ran
      obtain ⟨evidence, _, ⟨_, rfl⟩, ran⟩ := ran
      have tail : ∃ payload, (do
          let _ ← appendClaimed candidate.job request.agentId payload
          appendClaimRequestMarker request.claimRequestId
            (request.claimRequestId.map fun _ => claimRequestDigest request hostId) candidate.job
            request.agentId (candidate.job.attemptCount + 1) none request.ttlSeconds
          return .claimed : DbTxn LegacyOutcome).run
            ⟨{ w.store with jobs }, w.tick + 2, w.draws⟩ = .ok outcome w' := by
        split at ran
        · rw [Txn.bind_ok] at ran
          obtain ⟨binding, _, evidenceRan, ran⟩ := ran
          simp only [Txn.pure_run, EStateM.Result.ok.injEq] at evidenceRan
          obtain ⟨rfl, rfl⟩ := evidenceRan
          exact ⟨_, by simpa only [Txn.bind_ok] using ran⟩
        · rw [Txn.bind_ok] at ran
          obtain ⟨binding, _, evidenceRan, ran⟩ := ran
          rw [Txn.orRaise_ok] at evidenceRan
          obtain ⟨_, rfl⟩ := evidenceRan
          exact ⟨_, by simpa only [Txn.bind_ok] using ran⟩
      obtain ⟨payload, tail⟩ := tail
      simp only [Txn.bind_ok, Txn.pure_run, EStateM.Result.ok.injEq] at tail
      obtain ⟨claimed, announced, claimedRan, _, _, markerRan, rfl, rfl⟩ := tail
      exact .inr ⟨rfl, jobs, _, payload, claimed, announced, updated, swapped, rfl, claimedRan,
        markerRan⟩

end Legacy

end Coordinate

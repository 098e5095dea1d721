import Coordinate.Model.Claim
import Coordinate.Proofs.Attempts

/-! # What a claim does

Inversion lemmas of the candidate selection, of the reaper inside a claim and of the two ways to
start an attempt.
-/

namespace Coordinate

variable [Platform]

section Selection

omit [Platform] in
theorem mem_claimQueue {db : Db} {recoverable : Bool} {agentId : String} {job : JobRow} :
    job ∈ claimQueue db recoverable agentId ↔
      job ∈ db.jobs ∧ isClaimable recoverable agentId job = true := by
  rw [claimQueue, mem_sortBy, Table.mem_filter]

omit [Platform] in
/-- A claimable job waits or has timed out. -/
theorem isClaimable_iff {recoverable : Bool} {agentId : String} {job : JobRow} :
    isClaimable recoverable agentId job = true ↔ job.assignedAgent = agentId ∧
      (job.status = .pending ∨
        recoverable = true ∧ job.status = .timedOut ∧ job.recoverable = true) := by
  simp [isClaimable, and_assoc]

omit [Platform] in
theorem idle_of_isClaimable {recoverable : Bool} {agentId : String} {job : JobRow}
    (claimable : isClaimable recoverable agentId job = true) : job.status ≠ .running := by
  obtain ⟨_, pending | ⟨_, timedOut, _⟩⟩ := isClaimable_iff.mp claimable
  · rw [pending]; decide
  · rw [timedOut]; decide

/-- The selected candidate comes from the queue, is fully validated and its resource is free. -/
theorem scanCandidates_ok {db : Db} {agentId hostId : String} {job : JobRow}
    {authority : ValidatedAuthority} : ∀ {rows : List JobRow} {blocked after : BlockedCandidate},
    scanCandidates db agentId hostId blocked rows = .ok (some (job, authority), after) →
    job ∈ rows ∧ validateClaimAuthority db job agentId hostId = .ok authority ∧
      findActiveResourceLease db authority.resourceKey = .ok none
  | [], _, _, ran => by
    simp only [scanCandidates, pure, Except.pure] at ran
    cases ran
  | row :: rest, blocked, after, ran => by
    simp only [scanCandidates, Except.bind_ok, orRaise_except_ok] at ran
    obtain ⟨validated, valid, held, found, ran⟩ := ran
    split at ran
    · obtain ⟨member, rest⟩ := scanCandidates_ok ran
      exact ⟨List.mem_cons_of_mem _ member, rest⟩
    · cases ran
      exact ⟨List.mem_cons_self, valid, found⟩

/-- What the selection of a candidate has established. -/
structure Selects (db : Db) (agentId hostId : String) (recoverable : Bool) (job : JobRow)
    (authority : ValidatedAuthority) : Prop where
  member : job ∈ db.jobs
  claimable : isClaimable recoverable agentId job = true
  valid : validateClaimAuthority db job agentId hostId = .ok authority
  free : findActiveResourceLease db authority.resourceKey = .ok none
  policy : ∃ policy, resolveCapacityPolicy db agentId = some policy

theorem selectClaimCandidate_ok {agentId hostId : String} {recoverable : Bool} {w w' : Work Db}
    {selection : Selection}
    (ran : (selectClaimCandidate agentId hostId recoverable).run w = .ok selection w') :
    w'.store = w.store ∧ ∀ job authority, selection = .selected job authority →
      Selects w.store agentId hostId recoverable job authority := by
  rw [selectClaimCandidate, Txn.bind_ok] at ran
  obtain ⟨db, start, read, ran⟩ := ran
  simp only [Txn.read_run, id_eq, EStateM.Result.ok.injEq] at read
  obtain ⟨rfl, rfl⟩ := read
  dsimp only at ran
  generalize scanned : claimRows w.store recoverable agentId = rows at ran
  split at ran
  · simp only [Txn.pure_run, EStateM.Result.ok.injEq] at ran
    obtain ⟨rfl, rfl⟩ := ran
    exact ⟨rfl, fun _ _ same => Selection.noConfusion same⟩
  · split at ran
    · simp only [Txn.pure_run, EStateM.Result.ok.injEq] at ran
      obtain ⟨rfl, rfl⟩ := ran
      exact ⟨rfl, fun _ _ same => Selection.noConfusion same⟩
    · rename_i policy resolved
      simp only [Txn.bind_ok, utcNow_run, EStateM.Result.ok.injEq, Txn.orRaise_ok] at ran
      obtain ⟨_, _, ⟨rfl, rfl⟩, count, _, ⟨_, rfl⟩, ran⟩ := ran
      split at ran
      · simp only [Txn.pure_run, EStateM.Result.ok.injEq] at ran
        obtain ⟨rfl, rfl⟩ := ran
        exact ⟨rfl, fun _ _ same => Selection.noConfusion same⟩
      · simp only [Txn.bind_ok, Txn.orRaise_ok] at ran
        obtain ⟨_, _, ⟨scan, rfl⟩, ran⟩ := ran
        split at ran
        · rename_i job authority blocked
          simp only [Txn.pure_run, EStateM.Result.ok.injEq] at ran
          obtain ⟨rfl, rfl⟩ := ran
          refine ⟨rfl, fun job' authority' same => ?_⟩
          cases same
          obtain ⟨taken, valid, free⟩ := scanCandidates_ok scan
          rw [← scanned] at taken
          obtain ⟨member, claimable⟩ := mem_claimQueue.mp (List.mem_of_mem_take taken)
          exact ⟨member, claimable, valid, free, policy, resolved⟩
        · split at ran
          · simp only [Txn.pure_run, EStateM.Result.ok.injEq] at ran
            obtain ⟨rfl, rfl⟩ := ran
            exact ⟨rfl, fun _ _ same => Selection.noConfusion same⟩
          · simp only [Txn.pure_run, EStateM.Result.ok.injEq] at ran
            obtain ⟨rfl, rfl⟩ := ran
            exact ⟨rfl, fun _ _ same => Selection.noConfusion same⟩

end Selection

section Reaper

variable {w w' : Work Db} {actor : String} {current : Nat}

theorem requireActiveLeaseForReap_ok {db : Db} {leaseId jobId agentId : String}
    {attemptToken : Nat} {lease : LeaseRow}
    (ran : requireActiveLeaseForReap db leaseId jobId attemptToken agentId current = .ok lease) :
    lease ∈ db.leases ∧ lease.leaseId = leaseId ∧ lease.jobId = jobId ∧
      lease.attemptToken = attemptToken ∧ lease.agentId = agentId ∧ lease.status = .active ∧
      lease.expiresAt ≤ current := by
  unfold requireActiveLeaseForReap at ran
  split at ran
  · cases ran
  · rename_i found lookup
    simp only [Except.bind_ok, raiseIf_except_ok, not_not, gt_iff_lt, not_lt] at ran
    obtain ⟨_, _, _, job, _, token, _, agent, _, active, _, due, same⟩ := ran
    cases same
    obtain ⟨member, id⟩ := findLease_eq_some.mp lookup
    exact ⟨member, id, job, token, agent, active, due⟩

/-- The reaper of one lease skips it or expires an active due lease of the store. -/
theorem reapOneLease_ok {lease : LeaseRow} {outcome : Option ReapOutcome}
    (ran : (reapOneLease lease actor current).run w = .ok outcome w') :
    w' = w ∨ ∃ due job, due ∈ w.store.leases ∧ due.leaseId = lease.leaseId ∧
      due.status = .active ∧ due.expiresAt ≤ current ∧ Expires due actor current w w' job := by
  simp only [reapOneLease, Txn.bind_ok, Txn.read_run, id_eq, EStateM.Result.ok.injEq] at ran
  obtain ⟨_, _, ⟨rfl, rfl⟩, ran⟩ := ran
  split at ran
  · simp only [Txn.pure_run, EStateM.Result.ok.injEq] at ran
    exact .inl ran.2.symm
  · simp at ran
  · rename_i revalidated checked
    rw [Txn.map_ok] at ran
    obtain ⟨_, expired, _⟩ := ran
    obtain ⟨job, expires⟩ := expireRevalidatedLease_ok expired
    obtain ⟨member, id, _, _, _, active, due⟩ := requireActiveLeaseForReap_ok checked
    exact .inr ⟨revalidated, job, member, id, active, due, expires⟩

theorem reapRecorded_ok {lease : LeaseRow} {attempt : List ReapOutcome × List ReapError}
    (ran : (reapRecorded lease actor current).run w = .ok attempt w') (quiet : attempt.2 = []) :
    ∃ outcome, (reapOneLease lease actor current).run w = .ok outcome w' := by
  rw [reapRecorded, Txn.tryCatch_run, Txn.map_run] at ran
  cases reaped : (reapOneLease lease actor current).run w with
  | ok outcome after =>
    rw [reaped] at ran
    exact ⟨outcome, congrArg _ (EStateM.Result.ok.inj ran).2⟩
  | error e after =>
    rw [reaped] at ran
    rw [← (EStateM.Result.ok.inj ran).1] at quiet
    cases quiet

/-- A reaper without errors is a chain of expiries. -/
theorem reapEach_ok {P : Db → Prop}
    (step : ∀ (lease : LeaseRow) (job : JobRow) (v v' : Work Db), lease ∈ v.store.leases →
      lease.status = .active → Expires lease actor current v v' job → P v.store → P v'.store) :
    ∀ {leases : List LeaseRow} {w w' : Work Db} {summary : List ReapOutcome × List ReapError},
      (reapEach actor current leases).run w = .ok summary w' → summary.2 = [] → P w.store → P w'.store
  | [], _, _, _, ran, _, holds => by
    rw [← (EStateM.Result.ok.inj ran).2]
    exact holds
  | lease :: rest, w, w', summary, ran, quiet, holds => by
    simp only [reapEach, Txn.bind_ok, Txn.pure_run, EStateM.Result.ok.injEq] at ran
    obtain ⟨attempt, middle, attempted, later, _, laterRan, rfl, rfl⟩ := ran
    obtain ⟨attemptQuiet, laterQuiet⟩ := List.append_eq_nil_iff.mp quiet
    obtain ⟨outcome, reaped⟩ := reapRecorded_ok attempted attemptQuiet
    refine reapEach_ok step laterRan laterQuiet ?_
    obtain rfl | ⟨due, job, member, _, active, _, expires⟩ := reapOneLease_ok reaped
    · exact holds
    · exact step due job w middle member active expires holds

theorem reapDueLeasesInTransaction_ok {P : Db → Prop} {summary : ReapSummary}
    (step : ∀ (lease : LeaseRow) (job : JobRow) (v v' : Work Db), lease ∈ v.store.leases →
      lease.status = .active → Expires lease actor current v v' job → P v.store → P v'.store)
    (ran : (reapDueLeasesInTransaction actor current).run w = .ok summary w')
    (quiet : summary.errors = []) (holds : P w.store) : P w'.store := by
  simp only [reapDueLeasesInTransaction, Txn.bind_ok, Txn.read_run, id_eq,
    EStateM.Result.ok.injEq, Txn.orRaise_ok, Txn.pure_run] at ran
  obtain ⟨_, _, ⟨rfl, rfl⟩, due, _, ⟨_, rfl⟩, reaped, _, ran, rfl, rfl⟩ := ran
  exact reapEach_ok step ran quiet holds

end Reaper

section Start

variable {w w' : Work Db} {request : ClaimRequest} {hostId : String}

/-- What the start of a managed attempt writes, and the result that it builds. -/
theorem startManagedAttempt_ok {recovery requestDigest : Option String} {current : Nat}
    {job : JobRow} {authority : ValidatedAuthority} {result : ClaimLeaseResult}
    (ran : (startManagedAttempt request hostId recovery requestDigest current job authority).run w =
      .ok result w') :
    ∃ jobs reserved leased payload claimed announced marked stored row,
      w.store.jobs.update? (isCandidate job)
        (startedJob (job.attemptCount + 1) authority.payload current) = some jobs ∧
      (w.store.jobs.filter (isCandidate job)).length ≠ 0 ∧
      (reserveAttemptLease job.id (job.attemptCount + 1 : Nat) request.agentId job.runnerProfileId
        hostId authority.executionContext.worktreePath request.ttlSeconds).run
        { w with store := { w.store with jobs } } = .ok reserved leased ∧
      (appendClaimed job request.agentId payload).run leased = .ok claimed announced ∧
      (appendClaimRequestMarker request.claimRequestId requestDigest job request.agentId
        (job.attemptCount + 1) (some reserved.leaseId) request.ttlSeconds).run announced =
        .ok () marked ∧
      findLease marked.store reserved.leaseId = some stored ∧
      row ∈ marked.store.jobs ∧ row.id = job.id ∧
      w' = { marked with tick := marked.tick + 1 } ∧
      result = ⟨reserved.leaseId, row, job.attemptCount + 1, authority.executionContext,
        buildLeaseEnvelope { stored with
          jobId := job.id
          attemptToken := job.attemptCount + 1
          agentId := request.agentId
          runnerProfileId := job.runnerProfileId
          hostId
          resourceKind := "worktree"
          resourceKey := reserved.resourceKey
          normalizedPath := authority.executionContext.worktreePath } (now marked.tick)
          request.ttlSeconds leaseDefaultRenewIntervalSeconds⟩ := by
  simp only [startManagedAttempt, Txn.bind_ok, startAttempt_ok, Txn.raiseIf_ok, Txn.orRaise_ok,
    Txn.read_run, EStateM.Result.ok.injEq] at ran
  obtain ⟨matched, _, ⟨jobs, updated, rfl, rfl⟩, _, _, ⟨swapped, rfl⟩, reserved, leased, reservedRan,
    evidence, _, ⟨_, rfl⟩, claimed, announced, claimedRan, _, marked, markedRan, found, _,
    ⟨rfl, rfl⟩, ran⟩ := ran
  split at ran
  · simp at ran
  · rename_i stored lookup
    simp only [Txn.bind_ok, utcNow_run, EStateM.Result.ok.injEq, readOrRaise_ok, getJob_eq_ok,
      Txn.pure_run] at ran
    obtain ⟨_, _, ⟨rfl, rfl⟩, row, _, ⟨⟨member, id⟩, rfl⟩, rfl, rfl⟩ := ran
    exact ⟨jobs, reserved, leased, _, claimed, announced, marked, stored, row, updated, swapped,
      reservedRan, claimedRan, markedRan, lookup, member, id, rfl, rfl⟩

theorem claimSelected_ok {recovery requestDigest : Option String} {current : Nat}
    {result : ClaimLeaseResult}
    (ran : (claimSelected request hostId recovery requestDigest current).run w = .ok result w') :
    ∃ selected job authority,
      Selects w.store request.agentId hostId request.recoverable job authority ∧
      selected.store = w.store ∧
      (startManagedAttempt request hostId recovery requestDigest current job authority).run
        selected = .ok result w' := by
  rw [claimSelected, Txn.bind_ok] at ran
  obtain ⟨selection, selected, selectedRan, rest⟩ := ran
  obtain ⟨same, selects⟩ := selectClaimCandidate_ok selectedRan
  split at rest
  · simp at rest
  · exact ⟨selected, _, _, selects _ _ rfl, same, rest⟩

/-- The reaper of a claim is a chain of expiries. -/
theorem reapBeforeClaim_ok {P : Db → Prop} {actor : String} {current : Nat} {u : Unit}
    (step : ∀ (lease : LeaseRow) (job : JobRow) (v v' : Work Db), lease ∈ v.store.leases →
      lease.status = .active → Expires lease actor current v v' job → P v.store → P v'.store)
    (ran : (reapBeforeClaim request actor current).run w = .ok u w') (holds : P w.store) :
    P w'.store := by
  unfold reapBeforeClaim at ran
  split at ran
  · simp only [Txn.bind_ok, readOrRaise_ok, Txn.raiseIf_ok] at ran
    obtain ⟨_, _, ⟨_, rfl⟩, _, rfl⟩ := ran
    exact holds
  · rw [Txn.bind_ok] at ran
    obtain ⟨summary, reaped, reapedRan, rest⟩ := ran
    split at rest
    · rename_i quiet
      rw [← (EStateM.Result.ok.inj rest).2]
      exact reapDueLeasesInTransaction_ok step reapedRan quiet holds
    · simp at rest

/-- The steps of a managed claim, in order. -/
theorem claimLeasedJob_ok {actor : String} {requestDigest : Option String}
    {result : ClaimLeaseResult}
    (ran : (claimLeasedJob request hostId actor requestDigest).run w = .ok result w') :
    validateId hostId "host_id" = .ok () ∧ validateTtl request.ttlSeconds = .ok () ∧
    ∃ recovery current found reaped selected job authority,
      found.store = w.store ∧ checkClaimAgent w.store request.agentId hostId = .ok () ∧
      (reapBeforeClaim request actor current).run found = .ok () reaped ∧
      Selects reaped.store request.agentId hostId request.recoverable job authority ∧
      selected.store = reaped.store ∧
      (startManagedAttempt request hostId recovery requestDigest current job authority).run
        selected = .ok result w' := by
  simp only [claimLeasedJob, Txn.bind_ok, Txn.orRaise_ok, utcNow_run, EStateM.Result.ok.injEq,
    readOrRaise_ok] at ran
  obtain ⟨_, _, ⟨_, rfl⟩, _, _, ⟨_, rfl⟩, _, _, ⟨host, rfl⟩, _, _, ⟨_, rfl⟩, recovery, _, ⟨_, rfl⟩,
    _, _, ⟨ttl, rfl⟩, _, _, ⟨rfl, rfl⟩, _, _, ⟨agent, rfl⟩, _, reaped, reapedRan, rest⟩ := ran
  obtain ⟨selected, job, authority, selects, same, started⟩ := claimSelected_ok rest
  exact ⟨host, ttl, recovery, _, ⟨w.store, w.tick + 1, w.draws⟩, reaped, selected, job, authority, rfl, agent,
    reapedRan, selects, same, started⟩

end Start

end Coordinate

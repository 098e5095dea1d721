import Coordinate.Model.Installation
import Coordinate.Proofs.Runs

/-! # Leases and running attempts belong together

`Coherent` says that the active leases are exactly the leases of the managed attempts that run. The
lemmas below it name the ways in which a transition may change the queue and show that each keeps
it, so it holds in every state of a sequential run.
-/

namespace Coordinate

/-- The active leases are the leases of running attempts. -/
structure Coherent (db : Db) : Prop where
  /-- An active lease belongs to the attempt that its job runs. -/
  held : ∀ lease ∈ db.leases, lease.status = .active →
    ∃ job ∈ db.jobs, job.id = lease.jobId ∧ isRunningAttempt job lease = true
  /-- The lease of a running attempt is active. -/
  covered : ∀ lease ∈ db.leases, ∀ job ∈ db.jobs, job.id = lease.jobId → job.status = .running →
    job.attemptCount = lease.attemptToken → lease.status = .active
  /-- A lease belongs to an attempt that its job has started. -/
  bounded : ∀ lease ∈ db.leases,
    ∃ job ∈ db.jobs, job.id = lease.jobId ∧ lease.attemptToken ≤ job.attemptCount

namespace Coherent

variable {s t : Db}

theorem empty : Coherent Db.empty where
  held _ member := absurd member (Table.not_mem_empty _)
  covered _ member := absurd member (Table.not_mem_empty _)
  bounded _ member := absurd member (Table.not_mem_empty _)

theorem of_queue (coherent : Coherent s) (same : queue t = queue s) : Coherent t := by
  obtain ⟨jobs, leases⟩ := queue_eq.mp same
  refine ⟨?_, ?_, ?_⟩
  · rw [jobs, leases]; exact coherent.held
  · rw [jobs, leases]; exact coherent.covered
  · rw [jobs, leases]; exact coherent.bounded

/-- A job that does not run has no active lease. -/
theorem idle_free (coherent : Coherent s) {job : JobRow} (member : job ∈ s.jobs)
    (idle : job.status ≠ .running) :
    ∀ lease ∈ s.leases, lease.jobId = job.id → lease.status ≠ .active := by
  intro lease leaseMember same active
  obtain ⟨holder, holderMember, id, running⟩ := coherent.held lease leaseMember active
  rw [job_unique holderMember member (id.trans same)] at running
  exact idle (isRunningAttempt_iff.mp running).1

/-- A job whose attempt has no lease has no active lease at all. -/
theorem unmanaged_free (coherent : Coherent s) {job : JobRow} (member : job ∈ s.jobs)
    (unmanaged : attemptHasAnyLease s job.id job.attemptCount = false) :
    ∀ lease ∈ s.leases, lease.jobId = job.id → lease.status ≠ .active := by
  intro lease leaseMember same active
  obtain ⟨holder, holderMember, id, running⟩ := coherent.held lease leaseMember active
  rw [job_unique holderMember member (id.trans same)] at running
  have attempt := (isRunningAttempt_iff.mp running).2.1
  have managed := attemptHasAnyLease_iff.mpr
    ⟨lease, leaseMember, same, (congrArg Nat.cast attempt.symm : (_ : Int) = _)⟩
  rw [unmanaged] at managed
  exact absurd managed (by decide)

/-- The lease of a running attempt is the only active lease of its job. -/
theorem running_lease (coherent : Coherent s) {job : JobRow} (member : job ∈ s.jobs)
    {lease : LeaseRow} (leaseMember : lease ∈ s.leases) (same : lease.jobId = job.id)
    (attempt : (lease.attemptToken : Int) = job.attemptCount) :
    ∀ other ∈ s.leases, other.jobId = job.id → other.status = .active → other = lease := by
  intro other otherMember otherSame active
  obtain ⟨holder, holderMember, id, running⟩ := coherent.held other otherMember active
  rw [job_unique holderMember member (id.trans otherSame)] at running
  have token := (isRunningAttempt_iff.mp running).2.1
  exact attempt_lease_unique otherMember leaseMember (otherSame.trans same.symm) (by omega)

/-- A new job that does not run. -/
theorem insertJob (coherent : Coherent s) {row : JobRow} {jobs : Table (keyedBy JobRow.id)}
    (inserted : s.jobs.insert? row = some jobs) (idle : row.status ≠ .running) :
    Coherent { s with jobs } where
  held lease member active := by
    obtain ⟨job, jobMember, running⟩ := coherent.held lease member active
    exact ⟨job, (Table.mem_insert? inserted).mpr (.inl jobMember), running⟩
  covered lease member job jobMember id running attempt := by
    obtain old | rfl := (Table.mem_insert? inserted).mp jobMember
    · exact coherent.covered lease member job old id running attempt
    · exact absurd running idle
  bounded lease member := by
    obtain ⟨job, jobMember, bound⟩ := coherent.bounded lease member
    exact ⟨job, (Table.mem_insert? inserted).mpr (.inl jobMember), bound⟩

/-- Columns of jobs that say nothing about their attempts. -/
theorem touchJobs (coherent : Coherent s) {p : JobRow → Bool} {f : JobRow → JobRow}
    {jobs : Table (keyedBy JobRow.id)} (updated : s.jobs.update? p f = some jobs)
    (same : ∀ row, (f row).id = row.id ∧ (f row).status = row.status ∧
      (f row).attemptCount = row.attemptCount ∧ (f row).assignedAgent = row.assignedAgent) :
    Coherent { s with jobs } := by
  have back : ∀ job ∈ jobs, ∃ old ∈ s.jobs, job.id = old.id ∧ job.status = old.status ∧
      job.attemptCount = old.attemptCount := by
    intro job member
    obtain ⟨old, oldMember, rfl⟩ := (Table.mem_update? updated).mp member
    refine ⟨old, oldMember, ?_⟩
    split
    · exact ⟨(same old).1, (same old).2.1, (same old).2.2.1⟩
    · exact ⟨rfl, rfl, rfl⟩
  have forth : ∀ old ∈ s.jobs, ∃ job ∈ jobs, job.id = old.id ∧ job.status = old.status ∧
      job.attemptCount = old.attemptCount ∧ job.assignedAgent = old.assignedAgent := by
    intro old member
    refine ⟨_, (Table.mem_update? updated).mpr ⟨old, member, rfl⟩, ?_⟩
    split
    · exact same old
    · exact ⟨rfl, rfl, rfl, rfl⟩
  refine ⟨fun lease member active => ?_, fun lease member job jobMember id running attempt => ?_,
    fun lease member => ?_⟩
  · obtain ⟨old, oldMember, id, running⟩ := coherent.held lease member active
    obtain ⟨job, jobMember, sameId, status, attempt, agent⟩ := forth old oldMember
    rw [isRunningAttempt_iff] at running
    exact ⟨job, jobMember, sameId.trans id, isRunningAttempt_iff.mpr
      ⟨status.trans running.1, attempt.trans running.2.1, agent.trans running.2.2⟩⟩
  · obtain ⟨old, oldMember, sameId, status, token⟩ := back job jobMember
    exact coherent.covered lease member old oldMember (sameId.symm.trans id)
      (status.symm.trans running) (token.symm.trans attempt)
  · obtain ⟨old, oldMember, id, bound⟩ := coherent.bounded lease member
    obtain ⟨job, jobMember, sameId, _, attempt, _⟩ := forth old oldMember
    exact ⟨job, jobMember, sameId.trans id, attempt ▸ bound⟩

/-- Columns of leases that say nothing about their attempts. -/
theorem touchLeases (coherent : Coherent s) {p : LeaseRow → Bool} {f : LeaseRow → LeaseRow}
    {leases : Table leaseSchema} (updated : s.leases.update? p f = some leases)
    (same : ∀ row, (f row).jobId = row.jobId ∧ (f row).status = row.status ∧
      (f row).attemptToken = row.attemptToken ∧ (f row).agentId = row.agentId) :
    Coherent { s with leases } := by
  have back : ∀ lease ∈ leases, ∃ old ∈ s.leases, lease.jobId = old.jobId ∧
      lease.status = old.status ∧ lease.attemptToken = old.attemptToken ∧
      lease.agentId = old.agentId := by
    intro lease member
    obtain ⟨old, oldMember, rfl⟩ := (Table.mem_update? updated).mp member
    refine ⟨old, oldMember, ?_⟩
    split
    · exact same old
    · exact ⟨rfl, rfl, rfl, rfl⟩
  refine ⟨fun lease member active => ?_, fun lease member job jobMember id running attempt => ?_,
    fun lease member => ?_⟩
  · obtain ⟨old, oldMember, jobId, status, token, agent⟩ := back lease member
    obtain ⟨job, jobMember, id, running⟩ := coherent.held old oldMember (status.symm.trans active)
    rw [isRunningAttempt_iff] at running
    exact ⟨job, jobMember, id.trans jobId.symm, isRunningAttempt_iff.mpr
      ⟨running.1, running.2.1.trans token.symm, running.2.2.trans agent.symm⟩⟩
  · obtain ⟨old, oldMember, jobId, status, token, _⟩ := back lease member
    exact status.trans (coherent.covered old oldMember job jobMember (id.trans jobId) running
      (attempt.trans token))
  · obtain ⟨old, oldMember, jobId, _, token, _⟩ := back lease member
    obtain ⟨job, jobMember, id, bound⟩ := coherent.bounded old oldMember
    exact ⟨job, jobMember, id.trans jobId.symm, token ▸ bound⟩

/-- A claim starts the next attempt of a job that does not run. -/
theorem start (coherent : Coherent s) {candidate : JobRow} {payload : Json} {current : Nat}
    {jobs : Table (keyedBy JobRow.id)} (member : candidate ∈ s.jobs)
    (idle : candidate.status ≠ .running)
    (updated : s.jobs.update? (isCandidate candidate)
      (startedJob (candidate.attemptCount + 1) payload current) = some jobs) :
    Coherent { s with jobs } := by
  have started : startedJob (candidate.attemptCount + 1) payload current candidate ∈ jobs := by
    refine (Table.mem_update? updated).mpr ⟨candidate, member, ?_⟩
    rw [if_pos (by simp [isCandidate])]
  have kept : ∀ job ∈ s.jobs, job.id ≠ candidate.id → job ∈ jobs := by
    intro job jobMember other
    refine (Table.mem_update? updated).mpr ⟨job, jobMember, ?_⟩
    rw [if_neg (by simp [isCandidate, other])]
  refine ⟨fun lease leaseMember active => ?_,
    fun lease leaseMember job jobMember id running attempt => ?_, fun lease leaseMember => ?_⟩
  · obtain ⟨job, jobMember, id, running⟩ := coherent.held lease leaseMember active
    refine ⟨job, kept job jobMember fun same => ?_, id, running⟩
    exact coherent.idle_free member idle lease leaseMember (id.symm.trans same) active
  · obtain ⟨old, oldMember, rfl⟩ := (Table.mem_update? updated).mp jobMember
    split at attempt
    · rename_i chosen
      obtain ⟨bearer, bearerMember, bearerId, bound⟩ := coherent.bounded lease leaseMember
      rw [if_pos chosen] at id
      simp only [isCandidate, Bool.and_eq_true, decide_eq_true_eq] at chosen
      have same := job_unique bearerMember member (bearerId.trans (id.symm.trans chosen.1))
      rw [same] at bound
      simp only [startedJob] at attempt
      omega
    · rename_i other
      rw [if_neg other] at id running
      exact coherent.covered lease leaseMember old oldMember id running attempt
  · obtain ⟨job, jobMember, id, bound⟩ := coherent.bounded lease leaseMember
    by_cases same : job.id = candidate.id
    · refine ⟨_, started, ?_, ?_⟩
      · exact same.symm.trans id
      · rw [job_unique jobMember member same] at bound
        exact Nat.le_succ_of_le bound
    · exact ⟨job, kept job jobMember same, id, bound⟩

/-- A running attempt takes its lease. -/
theorem insertLease (coherent : Coherent s) {lease : LeaseRow} {leases : Table leaseSchema}
    (inserted : s.leases.insert? lease = some leases) (active : lease.status = .active)
    {job : JobRow} (member : job ∈ s.jobs) (id : job.id = lease.jobId)
    (running : isRunningAttempt job lease = true) : Coherent { s with leases } where
  held other otherMember otherActive := by
    obtain old | rfl := (Table.mem_insert? inserted).mp otherMember
    · exact coherent.held other old otherActive
    · exact ⟨job, member, id, running⟩
  covered other otherMember bearer bearerMember bearerId bearerRunning attempt := by
    obtain old | rfl := (Table.mem_insert? inserted).mp otherMember
    · exact coherent.covered other old bearer bearerMember bearerId bearerRunning attempt
    · exact active
  bounded other otherMember := by
    obtain old | rfl := (Table.mem_insert? inserted).mp otherMember
    · exact coherent.bounded other old
    · exact ⟨job, member, id, (isRunningAttempt_iff.mp running).2.1.ge⟩

/-- A job stops, and whatever active lease it had ends with it. -/
theorem stop (coherent : Coherent s) {jobId : String} {p : JobRow → Bool} {f : JobRow → JobRow}
    (updated : s.jobs.update? p f = some t.jobs) (target : ∀ row, p row = true → row.id = jobId)
    (reached : ∀ row ∈ s.jobs, row.id = jobId → p row = true)
    (stops : ∀ row, (f row).status ≠ .running ∧ (f row).id = row.id ∧
      (f row).attemptCount = row.attemptCount)
    (leases : ∀ lease ∈ t.leases, lease ∈ s.leases ∨ lease.jobId = jobId ∧
      ∃ old ∈ s.leases, lease.jobId = old.jobId ∧ lease.attemptToken = old.attemptToken)
    (freed : ∀ lease ∈ t.leases, lease.jobId = jobId → lease.status ≠ .active) : Coherent t := by
  have kept : ∀ job ∈ s.jobs, job.id ≠ jobId → job ∈ t.jobs := by
    intro job member other
    refine (Table.mem_update? updated).mpr ⟨job, member, ?_⟩
    rw [if_neg fun chosen => other (target job chosen)]
  refine ⟨fun lease member active => ?_, fun lease member job jobMember id running attempt => ?_,
    fun lease member => ?_⟩
  · have elsewhere : lease.jobId ≠ jobId := fun same => freed lease member same active
    obtain old | ⟨same, _⟩ := leases lease member
    · obtain ⟨job, jobMember, id, running⟩ := coherent.held lease old active
      exact ⟨job, kept job jobMember (id ▸ elsewhere), id, running⟩
    · exact absurd same elsewhere
  · obtain ⟨old, oldMember, rfl⟩ := (Table.mem_update? updated).mp jobMember
    split at running
    · exact absurd running (stops old).1
    · rename_i other
      rw [if_neg other] at id attempt
      have elsewhere : old.id ≠ jobId := fun same => other (reached old oldMember same)
      obtain leaseOld | ⟨same, _⟩ := leases lease member
      · exact coherent.covered lease leaseOld old oldMember id running attempt
      · exact absurd (id.trans same) elsewhere
  · obtain ⟨old, oldMember, jobSame, tokenSame⟩ : ∃ old ∈ s.leases, lease.jobId = old.jobId ∧
        lease.attemptToken = old.attemptToken := by
      obtain old | ⟨_, older⟩ := leases lease member
      · exact ⟨lease, old, rfl, rfl⟩
      · exact older
    obtain ⟨job, jobMember, id, bound⟩ := coherent.bounded old oldMember
    refine ⟨_, (Table.mem_update? updated).mpr ⟨job, jobMember, rfl⟩, ?_⟩
    rw [jobSame, tokenSame]
    split
    · exact ⟨(stops job).2.1.trans id, bound.trans (stops job).2.2.ge⟩
    · exact ⟨id, bound⟩

/-- The leases after one of them has ended. -/
theorem leases_of_ended {lease : LeaseRow} {g : LeaseRow → LeaseRow} {leases : Table leaseSchema}
    (member : lease ∈ s.leases)
    (updated : s.leases.update? (·.leaseId = lease.leaseId) g = some leases) :
    ∀ other ∈ leases, other ∈ s.leases ∧ other ≠ lease ∨ other = g lease := by
  intro other otherMember
  obtain ⟨old, oldMember, rfl⟩ := (Table.mem_update? updated).mp otherMember
  split
  · rename_i chosen
    right
    rw [lease_unique oldMember member (of_decide_eq_true chosen)]
  · rename_i kept
    refine .inl ⟨oldMember, ?_⟩
    rintro rfl
    exact kept (decide_eq_true rfl)

/-- The running attempt of a job ends together with its lease. -/
theorem stopManaged (coherent : Coherent s) {job : JobRow} {lease : LeaseRow}
    {p : JobRow → Bool} {f : JobRow → JobRow} {g : LeaseRow → LeaseRow}
    (member : job ∈ s.jobs) (leaseMember : lease ∈ s.leases) (same : lease.jobId = job.id)
    (attempt : (lease.attemptToken : Int) = job.attemptCount)
    (updated : s.jobs.update? p f = some t.jobs) (target : ∀ row, p row = true → row.id = job.id)
    (reached : p job = true)
    (stops : ∀ row, (f row).status ≠ .running ∧ (f row).id = row.id ∧
      (f row).attemptCount = row.attemptCount)
    (ended : s.leases.update? (·.leaseId = lease.leaseId) g = some t.leases)
    (columns : ∀ row, (g row).jobId = row.jobId ∧ (g row).attemptToken = row.attemptToken)
    (closes : (g lease).status ≠ .active) : Coherent t := by
  have after := leases_of_ended leaseMember ended
  refine coherent.stop updated target
    (fun row rowMember id => by rw [job_unique rowMember member id]; exact reached) stops
    (fun other otherMember => ?_) fun other otherMember otherSame active => ?_
  · obtain ⟨old, _⟩ | rfl := after other otherMember
    · exact .inl old
    · exact .inr ⟨(columns lease).1.trans same, lease, leaseMember, columns lease⟩
  · obtain ⟨old, differs⟩ | rfl := after other otherMember
    · exact differs
        (coherent.running_lease member leaseMember same attempt other old otherSame active)
    · exact closes active

/-- A job without an active lease stops. -/
theorem stopFree (coherent : Coherent s) {job : JobRow} {p : JobRow → Bool}
    {f : JobRow → JobRow} (member : job ∈ s.jobs)
    (free : ∀ lease ∈ s.leases, lease.jobId = job.id → lease.status ≠ .active)
    (updated : s.jobs.update? p f = some t.jobs) (target : ∀ row, p row = true → row.id = job.id)
    (reached : p job = true)
    (stops : ∀ row, (f row).status ≠ .running ∧ (f row).id = row.id ∧
      (f row).attemptCount = row.attemptCount)
    (leases : t.leases = s.leases) : Coherent t := by
  refine coherent.stop updated target
    (fun row rowMember id => by rw [job_unique rowMember member id]; exact reached) stops
    (fun lease leaseMember => .inl (leases ▸ leaseMember)) fun lease leaseMember => ?_
  exact free lease (leases ▸ leaseMember)

section Transitions

variable [Platform]

/-- The row of a fresh job waits. -/
theorem created {w w' : Work Db} (coherent : Coherent w.store) {job : NewJob} {row : JobRow}
    (ran : (createJob job).run w = .ok row w') : Coherent w'.store := by
  obtain ⟨jobs, path, jobId, createdAt, rfl, inserted, store, _⟩ := createJob_ok ran
  rw [store]
  exact coherent.insertJob inserted (by simp [NewJob.row])

theorem expired {w w' : Work Db} (coherent : Coherent w.store) {lease : LeaseRow} {actor : String}
    {current : Nat} {job : JobRow} (member : lease ∈ w.store.leases)
    (expires : Expires lease actor current w w' job) : Coherent w'.store := by
  obtain ⟨leases, jobs, leasesUpdated, jobsUpdated, store⟩ := expires.activity
  obtain ⟨running, attempt, _⟩ := isRunningAttempt_iff.mp expires.attempt
  have ended : Coherent { w.store with jobs, leases } :=
    coherent.stopManaged expires.member member expires.id.symm (by rw [attempt]) jobsUpdated
      (fun row chosen => by
        simp only [isExpiring, Bool.and_eq_true, decide_eq_true_eq] at chosen
        exact chosen.1.1.trans expires.id.symm)
      (by simp [isExpiring, expires.id, running, attempt])
      (fun row => ⟨by simp [timedOutJob], rfl, rfl⟩) leasesUpdated (fun row => ⟨rfl, rfl⟩)
      (by simp [expiredLease])
  exact ended.of_queue (congrArg Prod.fst store)

/-- A managed claim starts an attempt that has no lease yet, and inserts one. -/
theorem claimed {w w' : Work Db} (coherent : Coherent w.store) {request : ClaimRequest}
    {hostId : String} {recovery requestDigest : Option String} {current : Nat} {job : JobRow}
    {authority : ValidatedAuthority} {result : ClaimLeaseResult}
    (selects : Selects w.store request.agentId hostId request.recoverable job authority)
    (ran : (startManagedAttempt request hostId recovery requestDigest current job authority).run w =
      .ok result w') : Coherent w'.store := by
  obtain ⟨jobs, reserved, leased, payload, claimed, announced, marked, stored, row, updated, _,
    reservedRan, claimedRan, markedRan, _, _, _, rfl, _⟩ := startManagedAttempt_ok ran
  have started := coherent.start selects.member (idle_of_isClaimable selects.claimable) updated
  have held : Coherent leased.store := by
    obtain ⟨_, _, policy, resource, owner, reserves, ⟨_, _, _, _, store⟩ |
      ⟨_, _, leases, inserted, rfl⟩⟩ := reserveAttemptLease_ok reservedRan
    · rw [store]
      exact started
    · have owns : isRunningAttempt owner (newLease (Platform.uuid4 w.draws) job.id
          ((job.attemptCount + 1 : Nat) : Int).toNat request.agentId job.runnerProfileId policy
          resource (now w.tick) (now w.tick + request.ttlSeconds.toNat)) = true := by
        obtain ⟨old, oldMember, rfl⟩ := (Table.mem_update? updated).mp reserves.member
        have same : old = job := by
          refine job_unique oldMember selects.member ?_
          have id := reserves.id
          split at id
          · exact id
          · exact id
        subst same
        have agent := reserves.agent
        have attempt := reserves.attempt
        rw [if_pos (by simp [isCandidate])] at agent attempt ⊢
        refine isRunningAttempt_iff.mpr ⟨rfl, ?_, agent⟩
        simp [startedJob, newLease]
      exact started.insertLease inserted rfl reserves.member reserves.id owns
  have marking := (keeps_appendClaimRequestMarker _ _ _ _ _ _ _).of_ok markedRan
  have announcing : queue announced.store = queue leased.store :=
    (keeps_appendEvent _ fun _ _ => rfl).of_ok claimedRan
  exact held.of_queue ((queue_of_activity marking).trans announcing)

/-- An accepted result ends the attempt together with its lease, if it has one. -/
theorem reported {w w' : Work Db} (coherent : Coherent w.store) {report : ResultReport}
    {status : ReportStatus} {job : JobRow} {result : Json} {usage : Option Usage.UsageEvidence}
    {current : Nat} {outcome : TerminalOutcome}
    (ran : (reportRunningBody report status job result usage current).run w = .ok outcome w') :
    Coherent w'.store := by
  obtain ⟨stored, jobs, leases, member, id, running, token, updated, ends, store⟩ :=
    reportRunningBody_activity ran
  have target : ∀ row, isReporting report.jobId report.attemptToken row = true →
      row.id = stored.id := by
    intro row chosen
    simp only [isReporting, Bool.and_eq_true, decide_eq_true_eq] at chosen
    exact chosen.1.1.trans id.symm
  have reached : isReporting report.jobId report.attemptToken stored = true := by
    simp [isReporting, id, running, token]
  have stops : ∀ row, (terminalJob status result (recoverableFlag status result) current row).status
      ≠ .running ∧ (terminalJob status result (recoverableFlag status result) current row).id =
        row.id ∧ (terminalJob status result (recoverableFlag status result) current
          row).attemptCount = row.attemptCount := by
    intro row
    refine ⟨?_, rfl, rfl⟩
    cases status <;> simp [terminalJob, ReportStatus.jobStatus]
  have ended : Coherent { w.store with jobs, leases } := by
    cases ends with
    | unmanaged none same =>
      exact coherent.stopFree member (coherent.unmanaged_free member none) updated target reached
        stops same
    | managed lease current releasedAt heldToken leaseId authorizes leasesUpdated =>
      exact coherent.stopManaged member authorizes.member authorizes.jobId authorizes.attemptToken
        updated target reached stops leasesUpdated (fun row => ⟨rfl, rfl⟩)
        (by simp [releasedLease])
  exact ended.of_queue (congrArg Prod.fst store)

/-- A late result moves a job that has stopped already. -/
theorem late {w w' : Work Db} (coherent : Coherent w.store) {report : ResultReport}
    {status : ReportStatus} {job : JobRow} {result : Json} {usage : Option Usage.UsageEvidence}
    {current : Nat} {swapped : Nat × JobRow × Json × Json × Option Usage.UsageEvidence}
    (ran : (swapLateJob report status job result usage current).run w = .ok swapped w')
    (matched : swapped.1 ≠ 0) : Coherent w'.store := by
  obtain ⟨stored, jobs, _, member, id, timedOut, recoverable, _, updated, count, rfl⟩ :=
    swapLateJob_ok ran
  have reached : isLate job.id report.attemptToken stored = true := by
    rw [count] at matched
    obtain ⟨row, rowMember, chosen⟩ := mem_of_matched matched
    have same : row = stored := by
      refine job_unique rowMember member ?_
      simp only [isLate, Bool.and_eq_true, decide_eq_true_eq] at chosen
      exact chosen.1.1.1.trans id.symm
    rw [← same]
    exact chosen
  refine coherent.stopFree member (coherent.idle_free member (by rw [timedOut]; decide)) updated
    (fun row chosen => ?_) reached (fun row => ⟨?_, rfl, rfl⟩) rfl
  · simp only [isLate, Bool.and_eq_true, decide_eq_true_eq] at chosen
    exact chosen.1.1.1.trans id.symm
  · cases status <;> simp [terminalJob, ReportStatus.jobStatus]

omit [Platform] in
/-- A cancellation stops the job after its lease. -/
theorem cancelled {s : Db} (coherent : Coherent s) {job : JobRow} {jobs : Table (keyedBy JobRow.id)}
    {leases : Table leaseSchema} {result : Json} {current : Nat} (member : job ∈ s.jobs)
    (freed : CancelsLease s job leases)
    (stopped : job.status = .cancelled ∧ jobs = s.jobs ∨
      s.jobs.update? (·.id = job.id) (cancelledJob result current) = some jobs) :
    Coherent { s with jobs, leases } := by
  have stops : ∀ row, (cancelledJob result current row).status ≠ .running ∧
      (cancelledJob result current row).id = row.id ∧
      (cancelledJob result current row).attemptCount = row.attemptCount :=
    fun row => ⟨by simp [cancelledJob], rfl, rfl⟩
  have free : (∀ lease ∈ s.leases, lease.jobId = job.id →
      lease.attemptToken = job.attemptCount → lease.status ≠ .active) →
      ∀ lease ∈ s.leases, lease.jobId = job.id → lease.status ≠ .active := by
    intro none lease leaseMember same active
    obtain ⟨holder, holderMember, id, running⟩ := coherent.held lease leaseMember active
    rw [job_unique holderMember member (id.trans same), isRunningAttempt_iff] at running
    exact none lease leaseMember same running.2.1.symm active
  obtain ⟨idle, rfl⟩ | updated := stopped
  · have inactive := coherent.idle_free member (by rw [idle]; decide)
    cases freed with
    | free none same =>
      rw [same]
      exact coherent
    | released lease leaseMember jobId token releasedAt updated =>
      -- the job stays as it is, so nothing but an inactive lease changes
      have ended := leases_of_ended leaseMember updated
      refine ⟨fun other otherMember active => ?_,
        fun other otherMember holder holderMember id running attempt => ?_,
        fun other otherMember => ?_⟩
      · obtain ⟨old, _⟩ | rfl := ended other otherMember
        · exact coherent.held other old active
        · cases active
      · obtain ⟨old, _⟩ | rfl := ended other otherMember
        · exact coherent.covered other old holder holderMember id running attempt
        · rw [job_unique holderMember member (id.trans jobId), idle] at running
          cases running
      · obtain ⟨old, _⟩ | rfl := ended other otherMember
        · exact coherent.bounded other old
        · exact coherent.bounded lease leaseMember
  · cases freed with
    | free none same =>
      exact coherent.stopFree member (free none) updated (fun row => of_decide_eq_true)
        (decide_eq_true rfl) stops same
    | released lease leaseMember jobId token releasedAt leasesUpdated =>
      exact coherent.stopManaged member leaseMember jobId (by rw [token]) updated
        (fun row => of_decide_eq_true) (decide_eq_true rfl) stops leasesUpdated
        (fun row => ⟨rfl, rfl⟩) (by simp [releasedLease])

/-- Every transition of the queue keeps leases and attempts together. -/
theorem closed {since : Nat} : Closed since Coherent := by
  intro s t transition coherent
  cases transition with
  | quiet same => exact coherent.of_queue same
  | created ran => exact coherent.created ran
  | progressed ran =>
    obtain ⟨stored, jobs, _, _, _, _, _, _, updated, store⟩ := recordJobProgressBody_ok ran
    exact (coherent.touchJobs updated fun row => ⟨rfl, rfl, rfl, rfl⟩).of_queue
      (queue_of_accounts store)
  | renewed late ran =>
    obtain ⟨_, job, lease, leases, _, _, _, _, _, _, _, updated, store⟩ :=
      renewManagedLeaseBody_ok ran
    exact (coherent.touchLeases updated fun row => ⟨rfl, rfl, rfl, rfl⟩).of_queue (congrArg Prod.fst store)
  | expired member active expires => exact coherent.expired member expires
  | started member claimable updated =>
    exact coherent.start member (idle_of_isClaimable claimable) updated
  | claimed selects ran => exact coherent.claimed selects ran
  | reported ran => exact coherent.reported ran
  | late ran matched => exact coherent.late ran matched
  | cancelled member freed stopped => exact coherent.cancelled member freed (stopped.imp_right And.right)

end Transitions

/-- The expiry of an active lease passes every consistency check. -/
theorem expiry_error [Platform] {s : Db} (coherent : Coherent s) {lease : LeaseRow}
    (member : lease ∈ s.leases) (active : lease.status = .active) {actor : String} {current : Nat}
    {w w' : Work Db} {e : Exn} (store : w.store = s)
    (ran : (expireRevalidatedLease lease actor current).run w = .error e w') : e = .integrity := by
  subst store
  obtain ⟨job, jobMember, id, running⟩ := coherent.held lease member active
  have found : getJob w.store lease.jobId = .ok job := getJob_eq_ok.mpr ⟨jobMember, id⟩
  rw [expireRevalidatedLease, Txn.bind_error, readOrRaise_error, found] at ran
  obtain ⟨absent, _⟩ | ⟨_, _, read, ran⟩ := ran
  · cases absent
  rw [readOrRaise_ok, found] at read
  obtain ⟨same, rfl⟩ := read
  cases same
  rw [Txn.bind_error, Txn.raiseIf_error] at ran
  obtain ⟨inconsistent, _⟩ | ⟨_, _, checked, ran⟩ := ran
  · rw [running] at inconsistent
    exact absurd inconsistent (by decide)
  obtain ⟨_, rfl⟩ := Txn.raiseIf_ok.mp checked
  rw [Txn.bind_error] at ran
  obtain failed | ⟨_, _, updated, ran⟩ := ran
  · exact replaceTable_error failed
  obtain ⟨leases, _, rfl⟩ := updateLeases_ok.mp updated
  dsimp only at ran
  rw [Txn.bind_error] at ran
  obtain failed | ⟨matched, _, swapped, ran⟩ := ran
  · exact updateJobs_error failed
  obtain ⟨jobs, _, count, rfl⟩ := updateJobs_ok.mp swapped
  rw [Txn.bind_error, Txn.raiseIf_error] at ran
  obtain ⟨none, _⟩ | ⟨_, _, checked, ran⟩ := ran
  · obtain ⟨status, attempt, _⟩ := isRunningAttempt_iff.mp running
    have matches' : job ∈ w.store.jobs.filter fun row => row.id = lease.jobId &&
        row.status = .running && row.attemptCount = lease.attemptToken :=
      Table.mem_filter.mpr ⟨jobMember, by simp [id, status, attempt]⟩
    rw [none] at count
    rw [List.length_eq_zero_iff.mp count.symm] at matches'
    cases matches'
  rw [Txn.bind_error] at ran
  obtain failed | ⟨_, _, _, ran⟩ := ran
  · exact (appendEvent_error failed).1
  rw [Txn.bind_error] at ran
  obtain failed | ⟨_, _, _, ran⟩ := ran
  · exact (appendEvent_error failed).1
  · cases ran

end Coherent

/-- In every reachable state the active leases are the leases of the running managed attempts, one
for each attempt and one for each resource, and the reaper finds them consistent: it fails on no
check of its own, but at most on a constraint of the database. -/
theorem leases_coherent [Platform] {work : Work Db} (reachable : Reachable work) :
    (∀ lease ∈ work.store.leases, lease.status = .active →
      ∃ job, findJob work.store lease.jobId = some job ∧ job.status = .running ∧
        job.assignedAgent = lease.agentId ∧ job.attemptCount = lease.attemptToken) ∧
    (∀ job ∈ work.store.jobs, job.status = .running →
      attemptHasAnyLease work.store job.id job.attemptCount = true →
      ∃! lease, lease ∈ work.store.leases ∧ lease.status = .active ∧ lease.jobId = job.id) ∧
    (∀ a ∈ work.store.leases, ∀ b ∈ work.store.leases, a.status = .active → b.status = .active →
      a.resourceKey = b.resourceKey → a = b) ∧
    ∀ lease ∈ work.store.leases, lease.status = .active → ∀ actor current w w' e,
      w.store = work.store → (expireRevalidatedLease lease actor current).run w = .error e w' →
        e = .integrity := by
  have coherent := Coherent.closed.reachable Coherent.empty reachable
  refine ⟨fun lease member active => ?_, fun job member running managed => ?_,
    fun a left b right activeA activeB resource =>
      active_lease_unique left right resource activeA activeB,
    fun lease member active actor current w w' e store ran =>
      coherent.expiry_error member active store ran⟩
  · obtain ⟨job, jobMember, id, attempt⟩ := coherent.held lease member active
    obtain ⟨running, token, agent⟩ := isRunningAttempt_iff.mp attempt
    exact ⟨job, findJob_eq_some.mpr ⟨jobMember, id⟩, running, agent, token⟩
  · obtain ⟨lease, leaseMember, jobId, token⟩ := attemptHasAnyLease_iff.mp managed
    have active := coherent.covered lease leaseMember job member jobId.symm running (by omega)
    refine ⟨lease, ⟨leaseMember, active, jobId⟩, fun other ⟨otherMember, otherActive, same⟩ => ?_⟩
    exact coherent.running_lease member leaseMember jobId token other otherMember same otherActive

theorem sample_leases_coherent :
    let db := (Sample.run [.syncCatalog Sample.typedCatalog, .submit Sample.request,
      .claim { agentId := "a", ttlSeconds := 30 }]).store
    ∀ lease ∈ db.leases, lease.status = .active → ∃ job, findJob db lease.jobId = some job ∧
      job.status = .running ∧ job.assignedAgent = lease.agentId ∧
      job.attemptCount = lease.attemptToken :=
  (leases_coherent (Sample.reachable_run _)).1

end Coordinate

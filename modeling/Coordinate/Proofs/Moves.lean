import Coordinate.Proofs.Transitions

/-! # Moves of the queue

A `Move` is a transition of the queue with what it appends to the ledger: only a progress report
appends to the progress reports, and only a claim starts an attempt, whose event it appends.
-/

namespace Coordinate

variable [Platform]

section Steady

/-- No attempt starts: each job of `t` is fresh, or a job of `s` in the same attempt. -/
structure Steady (s t : Db) : Prop where
  origin : ∀ job ∈ t.jobs, (∃ old ∈ s.jobs, old.id = job.id ∧ job.attemptCount = old.attemptCount ∧
      (job.status = .running → old.status = .running)) ∨
    job.attemptCount = 0 ∧ job.status ≠ .running
  kept : ∀ old ∈ s.jobs, ∃ job ∈ t.jobs, job.id = old.id ∧ job.attemptCount = old.attemptCount

variable {s t : Db}

omit [Platform] in
theorem Steady.of_jobs (same : t.jobs = s.jobs) : Steady s t where
  origin job member := .inl ⟨job, same ▸ member, rfl, rfl, id⟩
  kept old member := ⟨old, same ▸ member, rfl, rfl⟩

omit [Platform] in
/-- A statement that leaves ids and attempts alone and makes no job run. -/
theorem Steady.of_update {p : JobRow → Bool} {f : JobRow → JobRow}
    (updated : s.jobs.update? p f = some t.jobs)
    (keeps : ∀ row, (f row).id = row.id ∧ (f row).attemptCount = row.attemptCount ∧
      ((f row).status = .running → row.status = .running)) : Steady s t := by
  constructor
  · intro job member
    obtain ⟨old, oldMember, rfl⟩ := (Table.mem_update? updated).mp member
    refine .inl ⟨old, oldMember, ?_⟩
    split
    · obtain ⟨id, attempt, running⟩ := keeps old
      exact ⟨id.symm, attempt, running⟩
    · exact ⟨rfl, rfl, id⟩
  · intro old member
    refine ⟨if p old then f old else old, (Table.mem_update? updated).mpr ⟨old, member, rfl⟩, ?_⟩
    split
    · exact ⟨(keeps old).1, (keeps old).2.1⟩
    · exact ⟨rfl, rfl⟩

end Steady

/-- The key of the event of an attempt. -/
def claimedKey (jobId : String) (attempt : Nat) : String := s!"runtime:job:{jobId}:claimed:{attempt}"

omit [Platform] in
theorem claimedKey_ne_empty (jobId : String) (attempt : Nat) : claimedKey jobId attempt ≠ "" := by
  intro empty
  have size := congrArg String.length empty
  simp [claimedKey] at size

/-- Both claim paths store an event under the key of the attempt that they start. -/
theorem appendClaimed_stores {job : JobRow} {agentId : String} {payload : Json}
    {result : AppendEventResult} {w w' : Work Db}
    (ran : (appendClaimed job agentId payload).run w = .ok result w') :
    ∃ claim ∈ w'.store.events, claim.idempotencyKey = claimedKey job.id (job.attemptCount + 1) := by
  have appended := appendEvent_ok ran
  have key := NewEvent.toRow_key
    { workspaceId := some job.workspaceId, eventType := "job.claimed", actor := agentId,
      target := some agentId, taskId := job.taskId,
      idempotencyKey := some (claimedKey job.id (job.attemptCount + 1)), payload }
    (Platform.uuid4 w.draws) (now w.tick) rfl (claimedKey_ne_empty _ _)
  refine ⟨result.row, appended.mem, ?_⟩
  cases appended with
  | created events inserted store => exact key
  | existing row member same store => exact same.trans key

/-- What one transaction does to the queue and to the ledger. -/
inductive Move (since : Nat) : Db → Db → Prop
  | steady {s t : Db} (transition : Transition since s t) (jobs : Steady s t)
      (progress : progressRows t = progressRows s) (ledger : s.events.rows <+: t.events.rows) :
      Move since s t
  | progressed {w w' : Work Db} {report : ProgressReport} {job : JobRow} {current : Nat}
      {result : AppendEventResult}
      (ran : (recordJobProgressBody report job
        (boundedProgress report.stage report.summary report.sessionId) current).run w = .ok result w') :
      Move since w.store w'.store
  | started {w w' : Work Db} {request : ClaimRequest} {hostId : String} {candidate : LegacyCandidate}
      {current : Nat} (member : candidate.job ∈ w.store.jobs)
      (claimable : isClaimable request.recoverable request.agentId candidate.job = true)
      (ran : (claimLegacyBody request hostId candidate current).run w = .ok .claimed w') :
      Move since w.store w'.store
  | claimed {w w' : Work Db} {request : ClaimRequest} {hostId : String}
      {recovery requestDigest : Option String} {current : Nat} {job : JobRow}
      {authority : ValidatedAuthority} {result : ClaimLeaseResult}
      (selects : Selects w.store request.agentId hostId request.recoverable job authority)
      (ran : (startManagedAttempt request hostId recovery requestDigest current job authority).run
        w = .ok result w') : Move since w.store w'.store

theorem Expires.ledger {lease : LeaseRow} {actor : String} {current : Nat} {w w' : Work Db} {job : JobRow}
    (expires : Expires lease actor current w w' job) : w.store.events.rows <+: w'.store.events.rows := by
  obtain ⟨leases, jobs, middle, first, second, _, _, firstAppended, secondAppended⟩ := expires.writes
  exact firstAppended.ledger.trans secondAppended.ledger

namespace Move

variable {since : Nat} {s t : Db} {w w' : Work Db}

theorem quiet (same : activity t = activity s) (ledger : s.events.rows <+: t.events.rows) :
    Move since s t :=
  .steady (.quiet (queue_of_activity same)) (.of_jobs (queue_eq.mp (queue_of_activity same)).1)
    (progressRows_of_activity same) ledger

theorem created {job : NewJob} {row : JobRow} (ran : (createJob job).run w = .ok row w') :
    Move since w.store w'.store := by
  obtain ⟨jobs, path, jobId, createdAt, rfl, inserted, store, _⟩ := createJob_ok ran
  refine .steady (.created ran) ⟨fun other member => ?_, fun old member => ?_⟩ (by rw [store]; rfl)
    (ledger_of_ok ran)
  · rw [store] at member
    rcases (Table.mem_insert? inserted).mp member with old | rfl
    · exact .inl ⟨other, old, rfl, rfl, id⟩
    · exact .inr ⟨rfl, by simp [NewJob.row]⟩
  · rw [store]
    exact ⟨old, (Table.mem_insert? inserted).mpr (.inl member), rfl, rfl⟩

theorem renewed {leaseId jobId agentId : String} {attemptToken ttlSeconds : Int} {result : RenewResult}
    (late : since ≤ w.tick)
    (ran : (renewManagedLeaseBody leaseId jobId attemptToken agentId ttlSeconds).run w =
      .ok result w') : Move since w.store w'.store := by
  obtain ⟨_, job, lease, leases, _, _, _, _, _, _, _, _, store⟩ := renewManagedLeaseBody_ok ran
  exact .steady (.renewed late ran) (.of_jobs (congrArg (·.1.1) store)) (congrArg Prod.snd store)
    (ledger_of_ok ran)

theorem expired {lease : LeaseRow} {actor : String} {current : Nat} {job : JobRow}
    (member : lease ∈ w.store.leases) (active : lease.status = .active)
    (expires : Expires lease actor current w w' job) : Move since w.store w'.store := by
  obtain ⟨leases, jobs, _, updated, store⟩ := expires.activity
  have same : w'.store.jobs = jobs := congrArg (·.1.1) store
  subst same
  refine .steady (.expired member active expires) (.of_update updated fun row => ?_)
    (congrArg Prod.snd store) expires.ledger
  exact ⟨rfl, rfl, by simp [timedOutJob]⟩

theorem reported {report : ResultReport} {status : ReportStatus} {job : JobRow} {result : Json}
    {usage : Option Usage.UsageEvidence} {current : Nat} {outcome : TerminalOutcome}
    (ran : (reportRunningBody report status job result usage current).run w = .ok outcome w') :
    Move since w.store w'.store := by
  obtain ⟨stored, jobs, leases, _, _, _, _, updated, _, store⟩ := reportRunningBody_activity ran
  have same : w'.store.jobs = jobs := congrArg (·.1.1) store
  subst same
  refine .steady (.reported ran) (.of_update updated fun row => ⟨rfl, rfl, ?_⟩) (congrArg Prod.snd store)
    (ledger_of_ok ran)
  cases status <;> simp [terminalJob, ReportStatus.jobStatus]

theorem late {report : ResultReport} {status : ReportStatus} {job : JobRow} {result : Json}
    {usage : Option Usage.UsageEvidence} {current : Nat}
    {swapped : Nat × JobRow × Json × Json × Option Usage.UsageEvidence}
    (ran : (swapLateJob report status job result usage current).run w = .ok swapped w')
    (matched : swapped.1 ≠ 0) : Move since w.store w'.store := by
  obtain ⟨stored, jobs, _, _, _, _, _, _, updated, _, rfl⟩ := swapLateJob_ok ran
  refine .steady (.late ran matched) (.of_update updated fun row => ⟨rfl, rfl, ?_⟩) rfl
    List.prefix_rfl
  cases status <;> simp [terminalJob, ReportStatus.jobStatus]

theorem cancelled {job : JobRow} {jobs : Table (keyedBy JobRow.id)} {leases : Table leaseSchema}
    {result : Json} {current : Nat} (member : job ∈ s.jobs) (freed : CancelsLease s job leases)
    (stopped : job.status = .cancelled ∧ jobs = s.jobs ∨ job.status.isFinal = false ∧
      s.jobs.update? (·.id = job.id) (cancelledJob result current) = some jobs) :
    Move since s { s with jobs, leases } := by
  refine .steady (.cancelled member freed stopped) ?_ rfl List.prefix_rfl
  obtain ⟨_, rfl⟩ | ⟨_, updated⟩ := stopped
  · exact .of_jobs rfl
  · exact .of_update updated fun row => ⟨rfl, rfl, by simp [cancelledJob]⟩

end Move

end Coordinate

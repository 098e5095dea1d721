import Coordinate.Proofs.Attempts

/-! # What a progress report and a result do

Inversion lemmas of the transactions of `record_job_progress`, of an accepted result and of a late
result. Each names the row that was checked under the write lock and the columns that changed.
-/

namespace Coordinate

variable [Platform]

section Deliveries

variable {τ : Type} {part : Db → τ}

theorem keeps_sendResponse (job : JobRow) (eventId : String) (payload platform destination : Json)
    (text : String) (same : ∀ (db : Db) (deliveries : Table deliverySchema),
      part { db with deliveries } = part db) :
    Txn.Keeps part (sendResponse job eventId payload platform destination text) := by
  unfold sendResponse
  split
  · exact Txn.keeps_pure _
  · exact Txn.keeps_bind (Txn.keeps_orRaise _ _) fun _ =>
      Txn.keeps_bind (keeps_createDelivery _ same) fun _ => Txn.keeps_pure _

theorem keeps_createResponseDelivery (job : JobRow) (eventId : String) (result : Json)
    (same : ∀ (db : Db) (deliveries : Table deliverySchema),
      part { db with deliveries } = part db) :
    Txn.Keeps part (createResponseDelivery job eventId result) := by
  unfold createResponseDelivery
  dsimp only
  split
  · exact Txn.keeps_pure _
  · split
    · split
      · exact Txn.keeps_pure _
      · split
        · exact Txn.keeps_pure _
        · exact Txn.keeps_bind (Txn.keeps_read _) fun _ => keeps_sendResponse _ _ _ _ _ _ same
    · exact Txn.keeps_pure _

theorem keeps_createLateResponseDelivery (job : JobRow) (eventId : String) (result : Json)
    (same : ∀ (db : Db) (deliveries : Table deliverySchema),
      part { db with deliveries } = part db) :
    Txn.Keeps part (createLateResponseDelivery job eventId result) := by
  unfold createLateResponseDelivery
  refine Txn.keeps_bind (Txn.keeps_orRaise _ _) fun payload => ?_
  dsimp only
  split
  · exact Txn.keeps_pure _
  · split
    · split
      · exact Txn.keeps_pure _
      · exact Txn.keeps_bind (Txn.keeps_orRaise _ _) fun _ =>
          Txn.keeps_bind (Txn.keeps_read _) fun _ => keeps_sendResponse _ _ _ _ _ _ same
    · exact Txn.keeps_pure _

theorem keeps_appendTerminalEventsAndDelivery (job : JobRow) (agentId : String)
    (status : ReportStatus) (result : Json) (actor : Option String)
    (events : ∀ event : NewEvent, event.eventType ≠ progressType → Txn.Keeps part (appendEvent event))
    (deliveries : ∀ (db : Db) (deliveries : Table deliverySchema),
      part { db with deliveries } = part db) :
    Txn.Keeps part (appendTerminalEventsAndDelivery job agentId status result actor) := by
  unfold appendTerminalEventsAndDelivery
  have terminal : status.eventType ≠ progressType := by cases status <;> decide
  have review : ∀ decision : String,
      (if decision = "approve" then "review.completed" else "review.rejected") ≠ progressType := by
    intro decision
    split <;> decide
  refine Txn.keeps_bind (events _ terminal) fun event =>
    Txn.keeps_bind (events _ (show "agent.reported" ≠ progressType by decide)) fun _ => ?_
  split
  on_goal 1 =>
    rename_i decision _
    refine Txn.keeps_bind (events _ (review decision)) fun _ => ?_
  all_goals
    exact Txn.keeps_bind (keeps_readOrRaise _) fun _ =>
      Txn.keeps_bind (keeps_createResponseDelivery _ _ _ deliveries) fun _ =>
      Txn.keeps_bind (Txn.keeps_orRaise _ _) fun _ =>
      Txn.keeps_bind (Txn.keeps_orRaise _ _) fun _ => Txn.keeps_pure _

end Deliveries

section Progress

variable {w w' : Work Db} {report : ProgressReport}

/-- The rows that a progress report updates. -/
def isProgressing (report : ProgressReport) (row : JobRow) : Bool :=
  row.id = report.jobId && row.status = .running && matchesToken report.attemptToken row

theorem recordJobProgressBody_ok {job : JobRow} {progress : Json} {current : Nat}
    {result : AppendEventResult}
    (ran : (recordJobProgressBody report job progress current).run w = .ok result w') :
    ∃ stored jobs, stored ∈ w.store.jobs ∧ stored.id = report.jobId ∧
      stored.assignedAgent = report.agentId ∧ stored.status = .running ∧
      (attemptHasAnyLease w.store stored.id stored.attemptCount = false ∨
        ∃ lease checked, report.attemptToken = some (stored.attemptCount : Int) ∧
          report.leaseId = some lease.leaseId ∧ Authorizes w.store checked lease.leaseId stored.id
            stored.attemptCount report.agentId lease) ∧
      matchesToken report.attemptToken stored = true ∧
      w.store.jobs.update? (isProgressing report) (progressedJob report progress current) =
        some jobs ∧
      accounts w'.store = accounts { w.store with jobs } := by
  simp only [recordJobProgressBody, Txn.bind_ok, readOrRaise_ok, checkProgressJob, Except.bind_ok,
    getJob_eq_ok, raiseIf_except_ok, not_not, updateJobs_ok, Txn.raiseIf_ok] at ran
  obtain ⟨stored, _, ⟨⟨_, ⟨member, id⟩, _, agent, _, running, same⟩, rfl⟩, _, middle, authority,
    matched, _, ⟨jobs, updated, rfl, rfl⟩, _, _, ⟨fresh, rfl⟩, appended⟩ := ran
  cases same
  obtain ⟨unchanged, authority⟩ := requireAuthority_ok authority
  refine ⟨stored, jobs, member, id, agent, running, authority, ?_, by rw [← unchanged]; exact updated,
    ?_⟩
  · cases token : report.attemptToken with
    | none => rfl
    | some supplied =>
      have some_matched : (middle.store.jobs.filter (isProgressing report)).length ≠ 0 :=
        fun none => fresh ⟨by rw [token]; rfl, none⟩
      obtain ⟨row, rowMember, holds⟩ := mem_of_matched some_matched
      simp only [isProgressing, Bool.and_eq_true, decide_eq_true_eq] at holds
      rw [unchanged] at rowMember
      rw [job_unique member rowMember (id.trans holds.1.1.symm), ← token]
      exact holds.2
  · have kept : accounts w'.store = accounts { middle.store with jobs } :=
      (keeps_appendEvent _ fun _ _ => rfl).of_ok appended
    rw [kept, ← unchanged]

/-- The event of a progress report is appended after the job is updated. -/
theorem recordJobProgressBody_appends {job : JobRow} {progress : Json} {current : Nat}
    {result : AppendEventResult}
    (ran : (recordJobProgressBody report job progress current).run w = .ok result w') :
    ∃ stored jobs middle event, stored ∈ w.store.jobs ∧ stored.id = report.jobId ∧
      stored.status = .running ∧
      w.store.jobs.update? (isProgressing report) (progressedJob report progress current) =
        some jobs ∧
      middle.store = { w.store with jobs } ∧
      event.payload = (Json.obj [("job_id", .str report.jobId), ("agent_id", .str report.agentId),
        ("last_activity_at", .str (Calendar.isoformat current))]).update progress ∧
      Appended event middle w' result := by
  simp only [recordJobProgressBody, Txn.bind_ok, readOrRaise_ok, checkProgressJob, Except.bind_ok,
    getJob_eq_ok, raiseIf_except_ok, not_not, updateJobs_ok, Txn.raiseIf_ok] at ran
  obtain ⟨stored, _, ⟨⟨_, ⟨member, id⟩, _, _, _, running, same⟩, rfl⟩, _, middle, authority,
    matched, _, ⟨jobs, updated, rfl, rfl⟩, _, _, ⟨_, rfl⟩, appended⟩ := ran
  cases same
  obtain ⟨unchanged, _⟩ := requireAuthority_ok authority
  rw [unchanged] at updated
  exact ⟨stored, jobs, _, _, member, id, running, updated, by rw [← unchanged], rfl,
    appendEvent_ok appended⟩

end Progress

section Result

variable {w w' : Work Db} {report : ResultReport} {status : ReportStatus}

/-- The rows that a terminal report updates. -/
def isReporting (jobId : String) (token : Option Int) (row : JobRow) : Bool :=
  row.id = jobId && row.status = .running && matchesToken token row

/-- How the lease of a reported attempt ends. -/
inductive EndsLease (db : Db) (job : JobRow) (report : ResultReport) (reason : String)
    (leases : Table leaseSchema) : Prop
  | unmanaged (none : attemptHasAnyLease db job.id job.attemptCount = false)
      (same : leases = db.leases)
  | managed (lease : LeaseRow) (current releasedAt : Nat)
      (token : report.attemptToken = some (job.attemptCount : Int))
      (leaseId : report.leaseId = some lease.leaseId)
      (authorizes : Authorizes db current lease.leaseId job.id job.attemptCount report.agentId lease)
      (updated : db.leases.update? (·.leaseId = lease.leaseId) (releasedLease reason releasedAt) =
        some leases)

omit [Platform] in
theorem applyTerminalJobUpdate_ok {jobId : String} {result : Json} {current : Nat}
    {token : Option Int} {u : Unit}
    (ran : (applyTerminalJobUpdate jobId status result current token).run w = .ok u w') :
    ∃ jobs, w.store.jobs.update? (isReporting jobId token)
        (terminalJob status result (recoverableFlag status result) current) = some jobs ∧
      (token.isSome → (w.store.jobs.filter (isReporting jobId token)).length ≠ 0) ∧
      w' = { w with store := { w.store with jobs } } := by
  simp only [applyTerminalJobUpdate, Txn.bind_ok, updateJobs_ok, readOrRaise_ok,
    Txn.raiseIf_ok] at ran
  obtain ⟨matched, _, ⟨jobs, updated, rfl, rfl⟩, _, _, ⟨_, rfl⟩, fresh, rfl⟩ := ran
  exact ⟨jobs, updated, fun token none => fresh ⟨token, none⟩, rfl⟩

/-- The transaction of an accepted result: the running row under the write lock, the end of its
lease, the terminal events and the usage ledger. -/
theorem reportRunningBody_ok {job : JobRow} {result : Json} {usage : Option Usage.UsageEvidence}
    {current : Nat} {outcome : TerminalOutcome}
    (ran : (reportRunningBody report status job result usage current).run w = .ok outcome w') :
    ∃ stored jobs leases ended reported created,
      stored ∈ w.store.jobs ∧ stored.id = report.jobId ∧ stored.status = .running ∧
      matchesToken report.attemptToken stored = true ∧
      w.store.jobs.update? (isReporting report.jobId report.attemptToken)
        (terminalJob status result (recoverableFlag status result) current) = some jobs ∧
      EndsLease w.store stored report s!"job_{status.text}" leases ∧
      ended.store = { w.store with jobs, leases } ∧
      (appendTerminalEventsAndDelivery job report.agentId status result report.actor).run ended =
        .ok outcome reported ∧
      (persistAttemptUsageAndWarning usage stored stored.attemptCount (some outcome.event.row.id)
        outcome.eventCreated current report.actor).run reported = .ok created w' := by
  simp only [reportRunningBody, Txn.bind_ok, readOrRaise_ok, getJob_eq_ok, Txn.raiseIf_ok,
    not_not] at ran
  obtain ⟨stored, _, ⟨⟨member, id⟩, rfl⟩, _, _, ⟨running, rfl⟩, _, authorized, authority, _,
    updatedJob, applied, ran⟩ := ran
  obtain ⟨unchanged, authority⟩ := requireAuthority_ok authority
  obtain ⟨jobs, updated, fresh, rfl⟩ := applyTerminalJobUpdate_ok applied
  rw [unchanged] at updated fresh
  have token : matchesToken report.attemptToken stored = true := by
    cases supplied : report.attemptToken with
    | none => rfl
    | some value =>
      rw [supplied] at fresh
      obtain ⟨row, rowMember, holds⟩ := mem_of_matched (fresh rfl)
      simp only [isReporting, Bool.and_eq_true, decide_eq_true_eq] at holds
      rw [job_unique member rowMember (id.trans holds.1.1.symm)]
      exact holds.2
  have ending : ∃ leases ended, EndsLease w.store stored report s!"job_{status.text}" leases ∧
      ended.store = { w.store with jobs, leases } ∧
      (do
        let outcome ← appendTerminalEventsAndDelivery job report.agentId status result report.actor
        let _ ← persistAttemptUsageAndWarning usage stored stored.attemptCount
          (some outcome.event.row.id) outcome.eventCreated current report.actor
        return outcome : DbTxn TerminalOutcome).run ended = .ok outcome w' := by
    split at ran
    · rename_i leaseId attemptToken leaseSome tokenSome
      rw [Txn.bind_ok] at ran
      obtain ⟨_, ended, released, ran⟩ := ran
      obtain ⟨lease, leaseMember, leaseIdEq, jobId, leaseToken, ends⟩ :=
        releaseAttemptLease_ok released
      simp only [unchanged] at leaseMember ends
      have current_token : attemptToken = stored.attemptCount := by
        rw [tokenSome] at token
        simpa [matchesToken, eq_comm] using token
      have managed : attemptHasAnyLease w.store stored.id stored.attemptCount = true :=
        attemptHasAnyLease_iff.mpr ⟨lease, leaseMember, jobId.trans id.symm,
          leaseToken.trans current_token⟩
      obtain unmanaged | ⟨held, checked, heldToken, heldId, authorizes⟩ := authority
      · rw [unmanaged] at managed
        exact absurd managed (by decide)
      · have same : held = lease := by
          refine lease_unique authorizes.member leaseMember ?_
          rw [leaseIdEq]
          rw [leaseSome] at heldId
          exact (Option.some.inj heldId).symm
        subst same
        obtain ⟨_, leases, leasesUpdated, store⟩ | ⟨closed, _⟩ := ends
        · rw [← leaseIdEq] at leasesUpdated
          exact ⟨leases, ended,
            .managed held checked _ heldToken heldId authorizes leasesUpdated, store, ran⟩
        · rw [authorizes.active] at closed
          cases closed
    · rename_i incomplete
      obtain unmanaged | ⟨lease, _, heldToken, heldId, _⟩ := authority
      · exact ⟨w.store.leases, _, .unmanaged unmanaged rfl, by rw [unchanged], ran⟩
      · exact absurd heldToken (incomplete _ _ heldId)
  obtain ⟨leases, ended, ends, store, tail⟩ := ending
  simp only [Txn.bind_ok, Txn.pure_run, EStateM.Result.ok.injEq] at tail
  obtain ⟨_, reported, events, created, _, ledger, rfl, rfl⟩ := tail
  exact ⟨stored, jobs, leases, ended, reported, created, member, id, running, token, updated, ends,
    store, events, ledger⟩

/-- The queue and the progress reports after an accepted result. -/
theorem reportRunningBody_activity {job : JobRow} {result : Json} {usage : Option Usage.UsageEvidence}
    {current : Nat} {outcome : TerminalOutcome}
    (ran : (reportRunningBody report status job result usage current).run w = .ok outcome w') :
    ∃ stored jobs leases, stored ∈ w.store.jobs ∧ stored.id = report.jobId ∧
      stored.status = .running ∧ matchesToken report.attemptToken stored = true ∧
      w.store.jobs.update? (isReporting report.jobId report.attemptToken)
        (terminalJob status result (recoverableFlag status result) current) = some jobs ∧
      EndsLease w.store stored report s!"job_{status.text}" leases ∧
      activity w'.store = ((jobs, leases), progressRows w.store) := by
  obtain ⟨stored, jobs, leases, ended, reported, created, member, id, running, token, updated, ends,
    store, events, ledger⟩ := reportRunningBody_ok ran
  refine ⟨stored, jobs, leases, member, id, running, token, updated, ends, ?_⟩
  have quiet : activity reported.store = activity ended.store :=
    (keeps_appendTerminalEventsAndDelivery _ _ _ _ _ keeps_appendOther fun _ _ => rfl).of_ok events
  rw [(keeps_persistAttemptUsageAndWarning _ _ _ _ _ _ _).of_ok ledger, quiet, store]
  rfl

end Result

section Late

variable {w w' : Work Db} {report : ResultReport} {status : ReportStatus}

/-- The rows that a late result updates. -/
def isLate (jobId : String) (token : Option Int) (row : JobRow) : Bool :=
  row.id = jobId && row.status = .timedOut && row.recoverable && matchesToken token row

/-- The compare-and-swap of a late result reaches only attempts without a lease. -/
theorem swapLateJob_ok {job : JobRow} {result : Json} {usage : Option Usage.UsageEvidence}
    {current : Nat} {swapped : Nat × JobRow × Json × Json × Option Usage.UsageEvidence}
    (ran : (swapLateJob report status job result usage current).run w = .ok swapped w') :
    ∃ stored jobs, swapped.2.1 = stored ∧ stored ∈ w.store.jobs ∧ stored.id = job.id ∧
      stored.status = .timedOut ∧ stored.recoverable = true ∧
      attemptHasAnyLease w.store job.id stored.attemptCount = false ∧
      w.store.jobs.update? (isLate job.id report.attemptToken)
        (terminalJob status swapped.2.2.2.1 false current) = some jobs ∧
      swapped.1 = (w.store.jobs.filter (isLate job.id report.attemptToken)).length ∧
      w' = { w with store := { w.store with jobs } } := by
  simp only [swapLateJob, Txn.bind_ok, readOrRaise_ok, checkLateJob, Except.bind_ok, getJob_eq_ok,
    raiseIf_except_ok, updateJobs_ok, Txn.pure_run, EStateM.Result.ok.injEq] at ran
  obtain ⟨stored, _, ⟨⟨_, ⟨member, id⟩, _, late, _, unmanaged, same⟩, rfl⟩, ⟨result', usage'⟩, _,
    ⟨_, rfl⟩, matched, _, ⟨jobs, updated, rfl, rfl⟩, rfl, rfl⟩ := ran
  cases same
  simp only [not_or, not_not] at late
  exact ⟨stored, jobs, rfl, member, id, late.1, late.2, by simpa using unmanaged, updated, rfl, rfl⟩

theorem keeps_applyLateResult (job stored : JobRow) (normalized : Json)
    (usage : Option Usage.UsageEvidence) (current : Nat) :
    Txn.Keeps activity (applyLateResult report status job stored normalized usage current) :=
  Txn.keeps_bind (keeps_appendOther _ (show "job.late_result_accepted" ≠ progressType by decide)) fun _ =>
    Txn.keeps_bind (keeps_persistAttemptUsageAndWarning _ _ _ _ _ _ _) fun _ =>
    Txn.keeps_bind (keeps_readOrRaise _) fun _ =>
    Txn.keeps_bind (keeps_createLateResponseDelivery _ _ _ fun _ _ => rfl) fun _ => Txn.keeps_pure _

end Late

end Coordinate

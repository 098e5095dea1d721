import Coordinate.Model.Installation
import Coordinate.Soundness.Coherence

/-! # An ended attempt is fenced

Once the lease of an attempt is over, no call that carries its token writes anything but the record
of a replayed result. A call without a token is fenced as long as the current attempt is managed.
-/

namespace Coordinate

/-- An attempt of a job has ended: its lease is over, or a later attempt has a lease. -/
def AttemptEnded (db : Db) (jobId : String) (attempt : Nat) : Prop :=
  (∃ lease ∈ db.leases, lease.jobId = jobId ∧ lease.attemptToken = attempt ∧
    lease.status ≠ .active) ∨
  ∃ lease ∈ db.leases, lease.jobId = jobId ∧ attempt < lease.attemptToken

/-- What an ended attempt may still leave behind: one record of a replayed result. -/
def OnlyReplayed (s t : Db) : Prop :=
  t = s ∨ ∃ event events, event.eventType = "job.result_replayed" ∧
    s.events.insert? event = some events ∧ t = { s with events }

theorem AttemptEnded.of_grows {s t : Db} {jobId : String} {attempt : Nat}
    (ended : AttemptEnded s jobId attempt) (grows : s.Grows t) : AttemptEnded t jobId attempt := by
  obtain ⟨lease, member, job, token, finished⟩ | ⟨lease, member, job, token⟩ := ended
  · obtain ⟨later, laterMember, continues⟩ := grows.leases lease member
    exact .inl ⟨later, laterMember, continues.jobId.trans job, continues.attemptToken.trans token,
      continues.ended finished⟩
  · obtain ⟨later, laterMember, continues⟩ := grows.leases lease member
    exact .inr ⟨later, laterMember, continues.jobId.trans job, continues.attemptToken ▸ token⟩

section Fence

/-- The token of a call has no authority over a job: the current attempt is another one, or it is
managed and the call has no active lease of it. -/
def Fenced (db : Db) (jobId : String) (token : Option Int) : Prop :=
  ∀ job ∈ db.jobs, job.id = jobId →
    (∃ supplied, token = some supplied ∧ supplied ≠ job.attemptCount) ∨
    attemptHasAnyLease db job.id job.attemptCount = true ∧
      (token = some (job.attemptCount : Int) → ∀ lease ∈ db.leases, lease.jobId = job.id →
        (lease.attemptToken : Int) = job.attemptCount → lease.status ≠ .active)

variable {db : Db} {jobId : String} {token : Option Int}

/-- The token of an ended attempt has no authority. -/
theorem AttemptEnded.fenced {attempt : Nat} (ended : AttemptEnded db jobId attempt)
    (coherent : Coherent db) : Fenced db jobId (some (attempt : Int)) := by
  rintro job member rfl
  by_cases same : (attempt : Int) = job.attemptCount
  · obtain ⟨lease, leaseMember, leaseJob, leaseToken, finished⟩ |
      ⟨lease, leaseMember, leaseJob, leaseToken⟩ := ended
    · refine .inr ⟨attemptHasAnyLease_iff.mpr ⟨lease, leaseMember, leaseJob, by omega⟩,
        fun _ other otherMember otherJob otherToken => ?_⟩
      rw [attempt_lease_unique otherMember leaseMember (otherJob.trans leaseJob.symm) (by omega)]
      exact finished
    · obtain ⟨owner, ownerMember, id, bound⟩ := coherent.bounded lease leaseMember
      rw [job_unique ownerMember member (id.trans leaseJob)] at bound
      omega
  · exact .inl ⟨attempt, rfl, same⟩

/-- A call without a token has no authority over a managed attempt. -/
theorem fenced_of_managed (managed : ∀ job ∈ db.jobs, job.id = jobId →
    attemptHasAnyLease db job.id job.attemptCount = true) : Fenced db jobId none :=
  fun job member id => .inr ⟨managed job member id, nofun⟩

theorem Fenced.refuses (fenced : Fenced db jobId token) {job : JobRow} (member : job ∈ db.jobs)
    (id : job.id = jobId) (matched : matchesToken token job = true) :
    attemptHasAnyLease db job.id job.attemptCount = true ∧
      ∀ current leaseId agentId lease, token = some (job.attemptCount : Int) →
        ¬ Authorizes db current leaseId job.id job.attemptCount agentId lease := by
  obtain ⟨supplied, rfl, other⟩ | ⟨managed, free⟩ := fenced job member id
  · have same : (job.attemptCount : Int) = supplied := by simpa [matchesToken] using matched
    exact absurd same.symm other
  · refine ⟨managed, fun current leaseId agentId lease same authorizes => ?_⟩
    exact free same lease authorizes.member authorizes.jobId authorizes.attemptToken
      authorizes.active

end Fence

section Calls

variable [Platform] {s : Db} {jobId : String} {token : Option Int}

private abbrev Seen : Db → Db → Prop := fun _ _ => True

omit [Platform] in
/-- A transaction that cannot return leaves the store as it was. -/
theorem triple_refused {α : Type} {body : DbTxn α}
    (refused : ∀ w a w', body.run w = .ok a w' → w.store ≠ s) :
    Tx.Triple 0 Seen (OnlyReplayed s) (· = s) (Tx.atomically Exn.nestedBegin body)
      fun _ => OnlyReplayed s := by
  have never : Tx.Triple 0 Seen (OnlyReplayed s) (· = s) (Tx.within body) fun _ _ => False :=
    Tx.triple_within fun w a w' _ ran same => refused w a w' ran same
  exact Tx.triple_bind (Tx.triple_begin _) fun _ =>
    (Tx.triple_withConnection (fun _ => trivial) never fun _ _ => False.elim).mono
      (fun _ same => same) fun _ _ => False.elim

theorem Fenced.renewManagedLease (fenced : Fenced s jobId token) {attemptToken : Int}
    (supplied : token = some attemptToken) (leaseId agentId : String) (ttlSeconds : Int) :
    Tx.Triple 0 Seen (OnlyReplayed s) (· = s)
      (renewManagedLease leaseId jobId attemptToken agentId ttlSeconds) fun _ => OnlyReplayed s := by
  refine Tx.triple_bind ((Tx.triple_orRaise _ _).mono (fun _ same => same) fun _ _ after => after.1)
    fun _ => triple_refused fun w result w' ran same => ?_
  obtain ⟨_, job, lease, _, member, rfl, _, attempt, authorizes, _⟩ := renewManagedLeaseBody_ok ran
  rw [same] at member authorizes
  subst attempt supplied
  exact (fenced.refuses member rfl (by simp [matchesToken])).2 _ _ _ lease rfl authorizes

theorem Fenced.recordJobProgress {report : ProgressReport}
    (fenced : Fenced s report.jobId report.attemptToken) :
    Tx.Triple 0 Seen (OnlyReplayed s) (· = s) (recordJobProgress report)
      fun _ => OnlyReplayed s := by
  refine Tx.triple_bind ((Tx.triple_query (fun _ => trivial) _).mono (fun _ same => same)
      fun _ _ after => after.1) fun checked =>
    Tx.triple_bind ((Tx.triple_orRaise _ _).mono (fun _ same => same) fun _ _ after => after.1)
      fun job => Tx.triple_bind (Tx.triple_clock _) fun current =>
    Tx.triple_bind (triple_refused fun w result w' ran same => ?_) fun _ =>
    Tx.maintains_bind (Tx.maintains_query _) fun _ => Tx.maintains_bind (Tx.maintains_orRaise _ _)
    fun _ => Tx.maintains_bind (Tx.maintains_orRaise _ _) fun _ =>
    Tx.maintains_bind (Tx.maintains_orRaise _ _) fun _ => Tx.maintains_pure _
  obtain ⟨stored, _, member, id, _, _, authority, matched, _⟩ := recordJobProgressBody_ok ran
  rw [same] at member authority
  obtain ⟨managed, unauthorized⟩ := fenced.refuses member id matched
  obtain unmanaged | ⟨lease, checked, supplied, _, authorizes⟩ := authority
  · rw [unmanaged] at managed
    exact absurd managed (by decide)
  · exact unauthorized _ _ _ lease supplied authorizes

/-- The record of a replayed result is the only write of a replay. -/
theorem triple_replayTerminalResult (job : JobRow) (report : ResultReport) (result : Json)
    (reason : String) :
    Tx.Triple 0 Seen (OnlyReplayed s) (· = s) (replayTerminalResult job report result reason)
      fun _ => OnlyReplayed s := by
  have append : Tx.Triple 0 Seen (OnlyReplayed s) (· = s)
      (Tx.within (appendEvent (replayedResultEvent job report result reason)))
      fun _ => OnlyReplayed s := by
    refine Tx.triple_within fun w appended w' _ ran same => ?_
    cases appendEvent_ok ran with
    | created events inserted store => exact .inr ⟨_, events, rfl, same ▸ inserted, same ▸ store⟩
    | existing row _ _ store => exact .inl (store.trans same)
  have commit : Tx.Triple 0 Seen (OnlyReplayed s) (· = s)
      (appendEventAndCommit (replayedResultEvent job report result reason))
      fun _ => OnlyReplayed s := by
    refine Tx.triple_bind append fun appended => ?_
    dsimp only
    split
    · exact Tx.maintains_bind (Tx.maintains_commit fun _ => trivial) fun _ => Tx.maintains_pure _
    · exact Tx.maintains_pure _
  exact Tx.triple_bind commit fun _ => Tx.maintains_bind (Tx.maintains_orRaise _ _) fun _ =>
    Tx.maintains_bind (Tx.maintains_orRaise _ _) fun _ => Tx.maintains_pure _

theorem Fenced.reportRunning {report : ResultReport}
    (fenced : Fenced s report.jobId report.attemptToken) (status : ReportStatus) (job : JobRow)
    (result : Json) (usage : Option Usage.UsageEvidence) :
    Tx.Triple 0 Seen (OnlyReplayed s) (· = s) (reportRunning report status job result usage)
      fun _ => OnlyReplayed s := by
  refine Tx.triple_bind ((Tx.triple_raiseIf _ _).mono (fun _ same => same) fun _ _ after => after.1)
      fun _ => Tx.triple_bind (Tx.triple_clock _) fun current =>
    Tx.triple_bind (triple_refused fun w result w' ran same => ?_) fun _ =>
    Tx.maintains_bind (Tx.maintains_query _) fun _ => Tx.maintains_bind (Tx.maintains_orRaise _ _)
    fun _ => Tx.maintains_bind (Tx.maintains_orRaise _ _) fun _ => Tx.maintains_pure _
  obtain ⟨stored, _, _, member, id, _, matched, _, ends, _⟩ := reportRunningBody_activity ran
  rw [same] at member ends
  obtain ⟨managed, unauthorized⟩ := fenced.refuses member id matched
  cases ends with
  | unmanaged none =>
    rw [none] at managed
    exact absurd managed (by decide)
  | managed lease _ _ supplied _ authorizes => exact unauthorized _ _ _ lease supplied authorizes

/-- A late result finds its attempt managed, or it carries the token of another one. -/
theorem Fenced.acceptLateResult {report : ResultReport} {job : JobRow}
    (fenced : Fenced s job.id report.attemptToken) (status : ReportStatus) (result : Json)
    (usage : Option Usage.UsageEvidence) :
    Tx.Triple 0 Seen (OnlyReplayed s) (· = s) (acceptLateResult report status job result usage)
      fun _ => OnlyReplayed s := by
  have swap : ∀ current, Tx.Triple 0 Seen (OnlyReplayed s) (· = s)
      (Tx.within (swapLateJob report status job result usage current))
      fun swapped _ => swapped.1 = 0 ∧ report.attemptToken.isSome := fun current => by
    refine Tx.triple_within fun w swapped w' _ ran same => ?_
    obtain ⟨stored, _, _, member, id, _, _, unmanaged, _, count, _⟩ := swapLateJob_ok ran
    rw [same] at member unmanaged count
    obtain ⟨supplied, token, other⟩ | ⟨managed, _⟩ := fenced stored member id
    · refine ⟨?_, by rw [token]; rfl⟩
      by_contra matched
      rw [count] at matched
      obtain ⟨row, rowMember, holds⟩ := mem_of_matched matched
      simp only [isLate, Bool.and_eq_true, decide_eq_true_eq, token, matchesToken, Option.all_some]
        at holds
      rw [job_unique rowMember member (holds.1.1.1.trans id.symm)] at holds
      exact other holds.2.symm
    · rw [id, unmanaged] at managed
      exact absurd managed (by decide)
  refine Tx.triple_bind (Tx.triple_clock _) fun current => Tx.triple_bind (Tx.triple_begin _) fun _ =>
    Tx.maintains_bind_of (Tx.triple_tryCatch (Tx.triple_bind (swap current) fun swapped => ?_)
      (Tx.triple_rollback_throw fun _ => trivial)) fun outcome => ?_
  · obtain ⟨matched, stored, result, normalized, usage⟩ := swapped
    intro session settled before
    obtain ⟨rfl, token⟩ := before
    have refused : Tx.Triple 0 Seen (OnlyReplayed s) (fun _ => True) (do
        Tx.rollback
        let refreshed ← Tx.query (getJob · job.id)
        let refreshed ← orRaise id refreshed
        raiseIf report.attemptToken.isSome (staleLateResult refreshed report.attemptToken)
        Sum.inl <$> replayTerminalResult refreshed report result
          "recoverable_timeout_already_claimed") fun (_ : RuntimeReportResult ⊕ LateOutcome) =>
          OnlyReplayed s :=
      Tx.triple_bind (Tx.triple_rollback fun _ => trivial) fun _ =>
        Tx.maintains_bind (Tx.maintains_query _) fun _ =>
        Tx.maintains_bind (Tx.maintains_orRaise _ _) fun _ =>
        Tx.triple_bind (Tx.triple_raiseIf _ _) fun _ _ _ before => absurd token before.2
    exact refused session settled trivial
  · split
    · exact Tx.maintains_pure _
    · exact Tx.maintains_bind (Tx.maintains_query _) fun _ =>
        Tx.maintains_bind (Tx.maintains_orRaise _ _) fun _ =>
        Tx.maintains_bind (Tx.maintains_orRaise _ _) fun _ =>
        Tx.maintains_bind (Tx.maintains_orRaise _ _) fun _ =>
        Tx.maintains_bind (Tx.maintains_orRaise _ _) fun _ => Tx.maintains_pure _

theorem Fenced.reportJobResult {report : ResultReport}
    (fenced : Fenced s report.jobId report.attemptToken) :
    Tx.Triple 0 Seen (OnlyReplayed s) (· = s) (reportJobResult report)
      fun _ => OnlyReplayed s := by
  unfold Coordinate.reportJobResult
  split
  · exact Tx.triple_throw _
  · refine Tx.triple_bind ((Tx.triple_orRaise _ _).mono (fun _ same => same)
      fun _ _ after => after.1) fun (result, usage) =>
      Tx.triple_bind (Tx.triple_query (fun _ => trivial) _) fun found =>
      Tx.triple_bind (Tx.triple_orRaise _ _) fun job => ?_
    intro session settled before
    obtain ⟨⟨same, view, _, rfl⟩, read⟩ := before
    obtain ⟨_, id⟩ := getJob_eq_ok.mp read
    have checked : Tx.Triple 0 Seen (OnlyReplayed s) (· = s)
        (raiseIf (job.assignedAgent ≠ report.agentId) (wrongAssignment job)) fun _ => (· = s) :=
      (Tx.triple_raiseIf _ _).mono (fun _ same => same) fun _ _ after => after.1
    refine Tx.triple_bind checked (fun _ => ?_) session settled same
    split
    · exact triple_replayTerminalResult _ _ _ _
    · exact triple_replayTerminalResult _ _ _ _
    · exact triple_replayTerminalResult _ _ _ _
    · exact Fenced.acceptLateResult (id.symm ▸ fenced) _ _ _
    · exact fenced.reportRunning _ _ _ _
    · exact Tx.triple_throw _

end Calls

/-- The job and the attempt token of a call on an attempt. -/
def Call.attempt? : Call → Option (String × Option Int)
  | .renew _ jobId attemptToken _ _ => some (jobId, some attemptToken)
  | .progress request => some (request.jobId, request.attemptToken)
  | .report request => some (request.jobId, request.attemptToken)
  | _ => none

/-- A call without authority writes nothing but the record of a replayed result. -/
theorem Fenced.after [Platform] {call : Call} {jobId : String} {token : Option Int}
    (carries : call.attempt? = some (jobId, token)) {work : Work Db}
    (fenced : Fenced work.store jobId token) (view : Db) :
    OnlyReplayed work.store (call.after work view).store := by
  have triple : Tx.Triple 0 Seen (OnlyReplayed work.store) (· = work.store) call.run
      fun _ => OnlyReplayed work.store := by
    cases call <;> cases carries
    case renew =>
      exact Tx.triple_bind (fenced.renewManagedLease rfl _ _ _) fun _ => Tx.maintains_pure _
    case progress => exact Tx.triple_bind fenced.recordJobProgress fun _ => Tx.maintains_pure _
    case report => exact Tx.triple_bind fenced.reportJobResult fun _ => Tx.maintains_pure _
  exact triple.settle (Nat.zero_le _) trivial (.inl rfl) rfl

/-- After an attempt of a managed job has ended, a call with its token, or without a token while the
current attempt is managed, changes nothing but that it may record a replayed result. -/
theorem ended_attempt_fenced [Platform] {earlier later : Work Db} (reachable : Reachable earlier)
    {jobId : String} {attempt : Nat} (ended : AttemptEnded earlier.store jobId attempt)
    (steps : Relation.ReflTransGen Step earlier later) {call : Call} {token : Option Int}
    (carries : call.attempt? = some (jobId, token))
    (stale : token = some (attempt : Int) ∨ token = none ∧
      ∀ job ∈ later.store.jobs, job.id = jobId →
        attemptHasAnyLease later.store jobId job.attemptCount = true) (view : Db) :
    OnlyReplayed later.store (call.after later view).store := by
  have coherent := Coherent.closed.reachable Coherent.empty (reachable.trans steps)
  refine Fenced.after carries ?_ view
  obtain rfl | ⟨rfl, managed⟩ := stale
  · exact (ended.of_grows (grows_of_run steps)).fenced coherent
  · exact fenced_of_managed fun job member id => id ▸ managed job member id

namespace Sample

/-- The first attempt of the sample job expires. -/
def expiredRun : List Call :=
  [.syncCatalog typedCatalog, .submit request, .claim { agentId := "a", ttlSeconds := 30 },
    .reapDue "r" (some 63871286500) 1]

/-- The catalog drops the binding of the agent, so the next claim of the job is unmanaged. -/
def untypedRun : List Call :=
  [.syncCatalog untypedCatalog, .claim { agentId := "a", recoverable := true }]

def tokenlessProgress : Call := .progress { jobId := jobId, agentId := "a", stage := some "s" }

def staleProgress : Call :=
  .progress { jobId := jobId, agentId := "a", stage := some "s", attemptToken := some 1 }

theorem expiredRun_ended : AttemptEnded (run expiredRun).store jobId 1 := by
  have ended : (run expiredRun).store.leases.rows.any (fun lease => lease.jobId = jobId &&
      lease.attemptToken = 1 && lease.status ≠ .active) = true := by decide +kernel
  obtain ⟨lease, member, holds⟩ := List.any_eq_true.mp ended
  simp only [Bool.and_eq_true, decide_eq_true_eq] at holds
  exact .inl ⟨lease, member, holds.1.1, holds.1.2, holds.2⟩

end Sample

/-- A progress report with the token of the expired attempt is refused. -/
theorem expired_token_refused :
    let later := Sample.run Sample.expiredRun
    OnlyReplayed later.store (Sample.staleProgress.after later later.store).store :=
  ended_attempt_fenced (Sample.reachable_run _) Sample.expiredRun_ended .refl
    (show Sample.staleProgress.attempt? = _ from rfl) (.inl rfl) _

/-- A progress report without a token changes the job after its managed attempt has ended, because
the attempt that runs has no lease. -/
theorem tokenless_progress_applied :
    let earlier := Sample.run Sample.expiredRun
    let later := runCalls earlier Sample.untypedRun
    Reachable earlier ∧ AttemptEnded earlier.store Sample.jobId 1 ∧
      Relation.ReflTransGen Step earlier later ∧
      Sample.tokenlessProgress.attempt? = some (Sample.jobId, none) ∧
      (Sample.tokenlessProgress.after later later.store).store.jobs ≠ later.store.jobs :=
  ⟨Sample.reachable_run _, Sample.expiredRun_ended, steps_runCalls _ _, rfl, by decide +kernel⟩

end Coordinate

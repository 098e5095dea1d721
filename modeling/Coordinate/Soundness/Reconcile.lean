import Mathlib.Data.List.Nodup
import Coordinate.Model.Installation
import Coordinate.Model.Reconcile
import Coordinate.Proofs.Calls
import Coordinate.Soundness.Coherence

/-! # What an agent sees when it reconnects

The two readings of a snapshot may see different stores. What holds of both is that an active lease belongs
to an attempt that its agent runs, so nothing that lasts is missed; an attempt is shown without its lease
exactly when the lease was not there yet at the first reading.
-/

namespace Coordinate

/-- Every active lease belongs to the attempt that its job runs. -/
def Held (db : Db) : Prop :=
  ∀ lease ∈ db.leases, lease.status = .active →
    ∃ job ∈ db.jobs, job.id = lease.jobId ∧ isRunningAttempt job lease = true

namespace Held

variable {s t : Db}

theorem of_queue (held : Held s) (same : queue t = queue s) : Held t := by
  obtain ⟨jobs, leases⟩ := queue_eq.mp same
  unfold Held
  rw [jobs, leases]
  exact held

/-- A job that does not run has no active lease. -/
theorem idle_free (held : Held s) {job : JobRow} (member : job ∈ s.jobs) (idle : job.status ≠ .running) :
    ∀ lease ∈ s.leases, lease.jobId = job.id → lease.status ≠ .active := by
  intro lease leaseMember same active
  obtain ⟨holder, holderMember, id, running⟩ := held lease leaseMember active
  rw [job_unique holderMember member (id.trans same)] at running
  exact idle (isRunningAttempt_iff.mp running).1

/-- An active lease of a job is that of the attempt it is in. -/
theorem attempt_of_active (held : Held s) {job : JobRow} (member : job ∈ s.jobs) {lease : LeaseRow}
    (leaseMember : lease ∈ s.leases) (same : lease.jobId = job.id) (active : lease.status = .active) :
    (lease.attemptToken : Int) = job.attemptCount := by
  obtain ⟨holder, holderMember, id, running⟩ := held lease leaseMember active
  rw [job_unique holderMember member (id.trans same)] at running
  exact (congrArg Nat.cast (isRunningAttempt_iff.mp running).2.1).symm

/-- The active leases are old ones whose running attempts are still there. -/
theorem later (held : Held s) (kept : ∀ lease ∈ t.leases, lease.status = .active →
    ∃ old ∈ s.leases, old.status = .active ∧ old.jobId = lease.jobId ∧
      old.attemptToken = lease.attemptToken ∧ old.agentId = lease.agentId ∧
      ∀ job ∈ s.jobs, job.id = lease.jobId → isRunningAttempt job lease = true →
        ∃ same ∈ t.jobs, same.id = lease.jobId ∧ isRunningAttempt same lease = true) : Held t := by
  intro lease member active
  obtain ⟨old, oldMember, oldActive, jobId, token, agent, same⟩ := kept lease member active
  obtain ⟨job, jobMember, id, running⟩ := held old oldMember oldActive
  refine same job jobMember (id.trans jobId) ?_
  rw [isRunningAttempt_iff] at running ⊢
  exact ⟨running.1, running.2.1.trans token, running.2.2.trans agent⟩

/-- A job changes that no lease of the new store is active for. -/
theorem change (held : Held s) (jobId : String) {p : JobRow → Bool} {f : JobRow → JobRow}
    (updated : s.jobs.update? p f = some t.jobs) (target : ∀ row, p row = true → row.id = jobId)
    (leases : ∀ lease ∈ t.leases, lease.status = .active → lease ∈ s.leases ∧ lease.jobId ≠ jobId) :
    Held t := by
  refine held.later fun lease member active => ?_
  obtain ⟨old, elsewhere⟩ := leases lease member active
  refine ⟨lease, old, active, rfl, rfl, rfl, fun job jobMember id running => ?_⟩
  refine ⟨job, (Table.mem_update? updated).mpr ⟨job, jobMember, ?_⟩, id, running⟩
  rw [if_neg fun chosen => elsewhere (id.symm.trans (target job chosen))]

/-- A claim starts the next attempt of a job that does not run. -/
theorem start (held : Held s) {candidate row : JobRow} {payload : Json} {attempt current : Nat}
    {jobs : Table (keyedBy JobRow.id)} (member : row ∈ s.jobs) (id : row.id = candidate.id)
    (idle : row.status ≠ .running)
    (updated : s.jobs.update? (isCandidate candidate) (startedJob attempt payload current) = some jobs) :
    Held { s with jobs } := by
  refine held.change candidate.id updated (fun other chosen => ?_)
    fun lease leaseMember active => ⟨leaseMember, fun same => ?_⟩
  · simp only [isCandidate, Bool.and_eq_true, decide_eq_true_eq] at chosen
    exact chosen.1
  · exact held.idle_free member idle lease leaseMember (same.trans id.symm) active

theorem insertLease (held : Held s) {lease : LeaseRow} {leases : Table leaseSchema}
    (inserted : s.leases.insert? lease = some leases) {job : JobRow} (member : job ∈ s.jobs)
    (id : job.id = lease.jobId) (running : isRunningAttempt job lease = true) : Held { s with leases } := by
  intro other otherMember active
  obtain old | rfl := (Table.mem_insert? inserted).mp otherMember
  · exact held other old active
  · exact ⟨job, member, id, running⟩

/-- The attempt of a job ends together with its lease. -/
theorem endManaged (held : Held s) {job : JobRow} {lease : LeaseRow} {p : JobRow → Bool}
    {f : JobRow → JobRow} {g : LeaseRow → LeaseRow} (member : job ∈ s.jobs) (leaseMember : lease ∈ s.leases)
    (same : lease.jobId = job.id) (attempt : (lease.attemptToken : Int) = job.attemptCount)
    (updated : s.jobs.update? p f = some t.jobs) (target : ∀ row, p row = true → row.id = job.id)
    (ended : s.leases.update? (·.leaseId = lease.leaseId) g = some t.leases)
    (closes : (g lease).status ≠ .active) : Held t := by
  refine held.change _ updated target fun other otherMember active => ?_
  obtain ⟨old, differs⟩ | rfl := Coherent.leases_of_ended leaseMember ended other otherMember
  · refine ⟨old, fun otherSame => differs ?_⟩
    have token := held.attempt_of_active member old otherSame active
    exact attempt_lease_unique old leaseMember (otherSame.trans same.symm) (by omega)
  · exact absurd active closes

/-- A job without an active lease changes. -/
theorem endFree (held : Held s) {job : JobRow} {p : JobRow → Bool} {f : JobRow → JobRow}
    (free : ∀ lease ∈ s.leases, lease.jobId = job.id → lease.status ≠ .active)
    (updated : s.jobs.update? p f = some t.jobs) (target : ∀ row, p row = true → row.id = job.id)
    (leases : t.leases = s.leases) : Held t :=
  held.change _ updated target fun lease leaseMember active =>
    ⟨leases ▸ leaseMember, fun same => free lease (leases ▸ leaseMember) same active⟩

section Transitions

variable [Platform] {w w' : Work Db}

theorem claimed (held : Held w.store) {request : ClaimRequest} {hostId : String}
    {recovery requestDigest : Option String} {current : Nat} {job : JobRow}
    {authority : ValidatedAuthority} {result : ClaimLeaseResult}
    (selects : Selects w.store request.agentId hostId request.recoverable job authority)
    (ran : (startManagedAttempt request hostId recovery requestDigest current job authority).run w =
      .ok result w') : Held w'.store := by
  obtain ⟨jobs, reserved, leased, payload, claimed, announced, marked, stored, row, updated, _,
    reservedRan, claimedRan, markedRan, _, _, _, rfl, _⟩ := startManagedAttempt_ok ran
  have started := held.start selects.member rfl (idle_of_isClaimable selects.claimable) updated
  have leasedHeld : Held leased.store := by
    obtain ⟨_, _, policy, resource, owner, reserves, ⟨_, _, _, _, store⟩ |
      ⟨_, _, leases, inserted, rfl⟩⟩ := reserveAttemptLease_ok reservedRan
    · rw [store]
      exact started
    · have owns : isRunningAttempt owner (newLease (Platform.uuid4 w.draws) job.id
          ((job.attemptCount + 1 : Nat) : Int).toNat request.agentId job.runnerProfileId policy
          resource (now w.tick) (now w.tick + request.ttlSeconds.toNat)) = true := by
        obtain ⟨old, oldMember, rfl⟩ := (Table.mem_update? updated).mp reserves.member
        have same : old = job := by
          refine job_unique oldMember selects.member ?_
          have id := reserves.id
          split at id
          · exact id
          · exact id
        subst same
        have agent := reserves.agent
        have attempt := reserves.attempt
        rw [if_pos (by simp [isCandidate])] at agent attempt ⊢
        refine isRunningAttempt_iff.mpr ⟨rfl, ?_, agent⟩
        simp [startedJob, newLease]
      exact started.insertLease inserted reserves.member reserves.id owns
  have marking := (keeps_appendClaimRequestMarker _ _ _ _ _ _ _).of_ok markedRan
  have announcing : queue announced.store = queue leased.store :=
    (keeps_appendEvent _ fun _ _ => rfl).of_ok claimedRan
  exact leasedHeld.of_queue ((queue_of_activity marking).trans announcing)

theorem created (held : Held w.store) {job : NewJob} {row : JobRow}
    (ran : (createJob job).run w = .ok row w') : Held w'.store := by
  obtain ⟨jobs, path, jobId, createdAt, rfl, inserted, store, _⟩ := createJob_ok ran
  rw [store]
  intro lease member active
  obtain ⟨owner, ownerMember, running⟩ := held lease member active
  exact ⟨owner, (Table.mem_insert? inserted).mpr (.inl ownerMember), running⟩

theorem expired (held : Held w.store) {lease : LeaseRow} {actor : String} {current : Nat} {job : JobRow}
    (member : lease ∈ w.store.leases) (expires : Expires lease actor current w w' job) :
    Held w'.store := by
  obtain ⟨leases, jobs, leasesUpdated, jobsUpdated, store⟩ := expires.activity
  obtain ⟨-, attempt, -⟩ := isRunningAttempt_iff.mp expires.attempt
  have ended : Held { w.store with jobs, leases } :=
    held.endManaged expires.member member expires.id.symm (by rw [attempt]) jobsUpdated
      (fun row chosen => by
        simp only [isExpiring, Bool.and_eq_true, decide_eq_true_eq] at chosen
        exact chosen.1.1.trans expires.id.symm)
      leasesUpdated (by simp [expiredLease])
  exact ended.of_queue (congrArg Prod.fst store)

theorem reported (held : Held w.store) {report : ResultReport} {status : ReportStatus} {job : JobRow}
    {result : Json} {usage : Option Usage.UsageEvidence} {current : Nat} {outcome : TerminalOutcome}
    (ran : (reportRunningBody report status job result usage current).run w = .ok outcome w') :
    Held w'.store := by
  obtain ⟨stored, jobs, leases, member, id, running, token, updated, ends, store⟩ :=
    reportRunningBody_activity ran
  have target : ∀ row, isReporting report.jobId report.attemptToken row = true →
      row.id = stored.id := by
    intro row chosen
    simp only [isReporting, Bool.and_eq_true, decide_eq_true_eq] at chosen
    exact chosen.1.1.trans id.symm
  have ended : Held { w.store with jobs, leases } := by
    cases ends with
    | unmanaged none same =>
      refine held.endFree (fun lease leaseMember own active => ?_) updated target same
      have attempt := held.attempt_of_active member leaseMember own active
      have managed := attemptHasAnyLease_iff.mpr ⟨lease, leaseMember, own, attempt⟩
      rw [none] at managed
      cases managed
    | managed lease current releasedAt heldToken leaseId authorizes leasesUpdated =>
      exact held.endManaged member authorizes.member authorizes.jobId authorizes.attemptToken
        updated target leasesUpdated (by simp [releasedLease])
  exact ended.of_queue (congrArg Prod.fst store)

theorem late (held : Held w.store) {report : ResultReport} {status : ReportStatus} {job : JobRow}
    {result : Json} {usage : Option Usage.UsageEvidence} {current : Nat}
    {swapped : Nat × JobRow × Json × Json × Option Usage.UsageEvidence}
    (ran : (swapLateJob report status job result usage current).run w = .ok swapped w') :
    Held w'.store := by
  obtain ⟨stored, jobs, _, member, id, timedOut, recoverable, _, updated, count, rfl⟩ :=
    swapLateJob_ok ran
  refine held.endFree (held.idle_free member (by rw [timedOut]; decide)) updated (fun row chosen => ?_) rfl
  simp only [isLate, Bool.and_eq_true, decide_eq_true_eq] at chosen
  exact chosen.1.1.1.trans id.symm

omit [Platform] in
theorem cancelled {s : Db} (held : Held s) {job : JobRow} {jobs : Table (keyedBy JobRow.id)}
    {leases : Table leaseSchema} {result : Json} {current : Nat} (member : job ∈ s.jobs)
    (freed : CancelsLease s job leases)
    (stopped : job.status = .cancelled ∧ jobs = s.jobs ∨
      s.jobs.update? (·.id = job.id) (cancelledJob result current) = some jobs) :
    Held { s with jobs, leases } := by
  have free : ∀ lease ∈ leases, lease.status = .active → lease ∈ s.leases ∧ (lease.jobId = job.id →
      lease.attemptToken ≠ job.attemptCount) := by
    intro lease leaseMember active
    cases freed with
    | free none same =>
      subst same
      exact ⟨leaseMember, fun own token => none lease leaseMember own token active⟩
    | released ended endedMember jobId token releasedAt updated =>
      obtain ⟨old, differs⟩ | rfl := Coherent.leases_of_ended endedMember updated lease leaseMember
      · exact ⟨old, fun own same => differs (attempt_lease_unique old endedMember (own.trans jobId.symm)
          (same.trans token.symm))⟩
      · cases active
  have apart : ∀ lease ∈ leases, lease.status = .active → lease ∈ s.leases ∧ lease.jobId ≠ job.id := by
    intro lease leaseMember active
    obtain ⟨old, token⟩ := free lease leaseMember active
    refine ⟨old, fun own => token own ?_⟩
    have attempt := held.attempt_of_active member old own active
    omega
  obtain ⟨-, rfl⟩ | updated := stopped
  · intro lease leaseMember active
    exact held lease (apart lease leaseMember active).1 active
  · exact held.change _ updated (fun row => of_decide_eq_true) apart

/-- Every transition of the queue keeps active leases with running attempts. -/
theorem closed {since : Nat} : Closed since Held := by
  intro s t transition held
  cases transition with
  | quiet same => exact held.of_queue same
  | created ran => exact held.created ran
  | @progressed w _ _ _ _ _ _ ran =>
    obtain ⟨stored, jobs, _, _, _, _, _, _, updated, store⟩ := recordJobProgressBody_ok ran
    have touched : Held { w.store with jobs } := by
      refine held.later fun lease member active => ⟨lease, member, active, rfl, rfl, rfl,
        fun job jobMember id running => ⟨_, (Table.mem_update? updated).mpr ⟨job, jobMember, rfl⟩, ?_⟩⟩
      split
      · exact ⟨id, running⟩
      · exact ⟨id, running⟩
    exact touched.of_queue (queue_of_accounts store)
  | @renewed w _ _ _ _ _ _ _ late ran =>
    obtain ⟨_, job, lease, leases, _, _, _, _, _, _, _, updated, store⟩ :=
      renewManagedLeaseBody_ok ran
    have touched : Held { w.store with leases } := by
      refine held.later fun lease member active => ?_
      obtain ⟨old, oldMember, rfl⟩ := (Table.mem_update? updated).mp member
      refine ⟨old, oldMember, ?_⟩
      split at active
      · rename_i chosen
        rw [if_pos chosen]
        exact ⟨active, rfl, rfl, rfl, fun job jobMember id running => ⟨job, jobMember, id, running⟩⟩
      · rename_i other
        rw [if_neg other]
        exact ⟨active, rfl, rfl, rfl, fun job jobMember id running => ⟨job, jobMember, id, running⟩⟩
    exact touched.of_queue (congrArg Prod.fst store)
  | expired member active expires => exact held.expired member expires
  | started member claimable updated =>
    exact held.start member rfl (idle_of_isClaimable claimable) updated
  | claimed selects ran => exact held.claimed selects ran
  | reported ran => exact held.reported ran
  | late ran matched => exact held.late ran
  | cancelled member freed stopped => exact held.cancelled member freed (stopped.imp_right And.right)

end Transitions

section Concurrency

variable [Platform]

/-- The reads of a call before its transaction may have seen anything. -/
def AnyView (_ _ : Db) : Prop := True

omit [Platform] in
theorem anyView (t : Db) : AnyView t t := trivial

/-- A stale candidate of a legacy claim is of the status that its swap asks for. -/
theorem startsSeen (request : ClaimRequest) : StartsSeen AnyView Held request := by
  intro hostId candidate current w w' view _ read ran held
  obtain ⟨-, claimable⟩ := findLegacyCandidate_ok read
  obtain ⟨result, kept, _⟩ | ⟨_, lost | ⟨_, jobs, started, payload, claimed, announced, updated, matched,
    startedStore, claimedRan, markerRan⟩⟩ := claimLegacyBody_ok ran
  · cases kept
  · cases lost
  · obtain ⟨row, member⟩ := List.exists_mem_of_length_pos (Nat.pos_of_ne_zero matched)
    obtain ⟨member, chosen⟩ := List.mem_filter.mp member
    simp only [isCandidate, Bool.and_eq_true, decide_eq_true_eq] at chosen
    have startedHeld : Held started.store := by
      rw [startedStore]
      exact held.start member chosen.1 (chosen.2 ▸ idle_of_isClaimable claimable) updated
    have announcedHeld : Held announced.store :=
      startedHeld.of_queue ((keeps_appendEvent _ fun _ _ => rfl).of_ok claimedRan)
    have marked := (keeps_appendClaimRequestMarker _ _ _ _ _ _ _).of_ok markerRan
    exact announcedHeld.of_queue (queue_of_activity marked)

/-- Whatever other processes have read before, what they commit keeps the leases with their attempts. -/
theorem after {work : Work Db} (held : Held work.store) (step : Concurrent) :
    Held (step.after work).store := by
  have moving : Moving 0 Held := closed.moving
  cases step with
  | claim request view =>
    exact (Tx.maintains_map (moving.claimJob anyView (startsSeen request))).settle (Nat.zero_le _) trivial held
  | report request view =>
    exact (Tx.maintains_map (moving.reportJobResult anyView request)).settle (Nat.zero_le _) trivial held
  | renew leaseId jobId attemptToken agentId ttlSeconds =>
    exact (Tx.maintains_map (moving.renewManagedLease anyView leaseId jobId attemptToken agentId ttlSeconds)).settle
      (Nat.zero_le _) trivial held
  | expire lease actor current =>
    exact (moving.reapCommitted anyView lease actor current).settle (Nat.zero_le _) trivial held
  | expireExact leaseId jobId actor supplied =>
    exact (Tx.maintains_map (moving.reapExactLease anyView leaseId jobId actor supplied)).settle
      (Nat.zero_le _) trivial held

/-- The leases of a sequential run are with their attempts. -/
theorem of_reachable {work : Work Db} (reachable : Reachable work) : Held work.store :=
  closed.reachable (fun _ member => absurd member (Table.not_mem_empty _)) reachable

end Concurrency

end Held

section Snapshots

variable [Platform]

/-- The snapshot shows what its two readings found, each once, and every attempt as it is. -/
structure Consistent (agent : String) (first second : Db) (answer : List ReconcileEntry) : Prop where
  /-- A job that the agent runs at the second reading is shown once. -/
  jobs : ∀ job ∈ second.jobs, job.assignedAgent = agent → job.status = .running →
    answer.countP (·.jobId = job.id) = 1
  /-- A lease that is active at the first reading is shown once. -/
  leases : ∀ lease ∈ first.leases, lease.agentId = agent → lease.status = .active →
    answer.countP (·.leaseId = some lease.leaseId) = 1
  /-- An empty snapshot means that the agent has nothing at the second reading. -/
  empty : answer = [] → (∀ job ∈ second.jobs, job.assignedAgent = agent → job.status ≠ .running) ∧
    ∀ lease ∈ second.leases, lease.agentId = agent → lease.status ≠ .active
  /-- An entry without a lease is of a legacy attempt. -/
  legacy : ∀ entry ∈ answer, entry.leaseId = none →
    attemptHasAnyLease second entry.jobId entry.attemptToken = false

/-- The managed attempts that the agent runs at the second reading are of jobs that had an active lease of it
at the first. -/
def Covered (agent : String) (first second : Db) : Prop :=
  ∀ job ∈ second.jobs, job.assignedAgent = agent → job.status = .running →
    attemptHasAnyLease second job.id job.attemptCount = true →
    ∃ lease ∈ first.leases, lease.agentId = agent ∧ lease.status = .active ∧ lease.jobId = job.id

variable {agent : String} {first second : Db} {leases : List LeaseRow} {serverNow : Nat}

/-- The leases of a snapshot are the active leases of the agent, each once. -/
theorem listActiveLeases_ok (listed : listActiveLeasesForAgent first agent = .ok leases) :
    leases.Nodup ∧ ∀ lease, lease ∈ leases ↔
      lease ∈ first.leases ∧ lease.agentId = agent ∧ lease.status = .active := by
  simp only [listActiveLeasesForAgent, Except.bind_ok] at listed
  obtain ⟨_, _, same⟩ := listed
  cases same
  refine ⟨?_, fun lease => ?_⟩
  · refine (sortBy_perm _).nodup_iff.mpr ((Table.nodup fun row => ?_).filter _)
    simp [leaseSchema, LeaseRow.clash]
  · rw [mem_sortBy, Table.mem_filter, Bool.and_eq_true, decide_eq_true_eq, decide_eq_true_eq]

omit [Platform] in
theorem mem_runningJobsOf {job : JobRow} : job ∈ runningJobsOf second agent ↔
    job ∈ second.jobs ∧ job.assignedAgent = agent ∧ job.status = .running := by
  rw [runningJobsOf, Table.mem_filter, Bool.and_eq_true, decide_eq_true_eq, decide_eq_true_eq]

omit [Platform] in
/-- What satisfies a test alone in a list without repetitions is counted once. -/
theorem countP_eq_one {α : Type} [DecidableEq α] {p : α → Bool} {l : List α} {a : α} (nodup : l.Nodup)
    (member : a ∈ l) (holds : p a = true) (alone : ∀ b ∈ l, p b = true → b = a) : l.countP p = 1 := by
  rw [← List.nodup_iff_count_eq_one.mp nodup a member, List.count]
  refine List.countP_congr fun b inside => ⟨fun own => ?_, fun same => ?_⟩
  · rw [alone b inside own]
    exact beq_self_eq_true a
  · rw [eq_of_beq same]
    exact holds

omit [Platform] in
/-- The entries of jobs are of jobs without a lease in the snapshot. -/
theorem mem_joinReadings {jobs : List JobRow} {entry : ReconcileEntry} :
    entry ∈ joinReadings leases serverNow jobs ↔ (∃ lease ∈ leases, entry = leaseEntry serverNow lease) ∨
      ∃ job ∈ jobs, (∀ lease ∈ leases, lease.jobId ≠ job.id) ∧ entry = jobEntry serverNow job := by
  simp only [joinReadings, List.mem_append, List.mem_map, List.mem_filter, Bool.not_eq_true',
    List.any_eq_false, decide_eq_true_eq, forall_exists_index, and_imp, forall_apply_eq_imp_iff₂]
  constructor
  · rintro (⟨lease, member, rfl⟩ | ⟨job, ⟨member, free⟩, rfl⟩)
    · exact .inl ⟨lease, member, rfl⟩
    · exact .inr ⟨job, member, free, rfl⟩
  · rintro (⟨lease, member, rfl⟩ | ⟨job, member, free, rfl⟩)
    · exact .inl ⟨lease, member, rfl⟩
    · exact .inr ⟨job, ⟨member, free⟩, rfl⟩

/-- A running job is shown once. -/
theorem countP_job (heldFirst : Held first) (listed : listActiveLeasesForAgent first agent = .ok leases)
    {job : JobRow} (member : job ∈ runningJobsOf second agent) :
    (joinReadings leases serverNow (runningJobsOf second agent)).countP (·.jobId = job.id) = 1 := by
  obtain ⟨nodup, mem⟩ := listActiveLeases_ok listed
  rw [joinReadings, List.countP_append, List.countP_map, List.countP_map]
  by_cases leased : ∃ lease ∈ leases, lease.jobId = job.id
  · obtain ⟨lease, leaseMember, own⟩ := leased
    have alone : ∀ other ∈ leases, other.jobId = job.id → other = lease := by
      intro other otherMember same
      obtain ⟨stored, -, active⟩ := (mem lease).mp leaseMember
      obtain ⟨otherStored, -, otherActive⟩ := (mem other).mp otherMember
      obtain ⟨holder, holderMember, id, running⟩ := heldFirst lease stored active
      have token := heldFirst.attempt_of_active holderMember stored id.symm active
      have otherToken := heldFirst.attempt_of_active holderMember otherStored
        (same.trans (own.symm.trans id.symm)) otherActive
      exact attempt_lease_unique otherStored stored (same.trans own.symm) (by omega)
    have shown : leases.countP ((fun entry : ReconcileEntry => decide (entry.jobId = job.id)) ∘
        leaseEntry serverNow) = 1 :=
      countP_eq_one nodup leaseMember (by simp [leaseEntry, own]) fun other inside same =>
        alone other inside (of_decide_eq_true same)
    rw [shown, List.countP_eq_zero.mpr]
    intro other inside same
    obtain ⟨-, free⟩ := List.mem_filter.mp inside
    have id : other.id = job.id := of_decide_eq_true same
    simp only [Bool.not_eq_true', List.any_map, List.any_eq_false, Function.comp_apply,
      decide_eq_true_eq] at free
    exact free lease leaseMember (own.trans id.symm)
  · have none : leases.countP ((fun entry : ReconcileEntry => decide (entry.jobId = job.id)) ∘
        leaseEntry serverNow) = 0 := by
      rw [List.countP_eq_zero]
      intro lease inside same
      exact leased ⟨lease, inside, of_decide_eq_true same⟩
    rw [none, Nat.zero_add]
    refine countP_eq_one (a := job) ?_ ?_ (by simp [jobEntry]) fun other inside same => ?_
    · exact ((Table.nodup fun row => by simp [keyedBy]).filter _).filter _
    · refine List.mem_filter.mpr ⟨member, ?_⟩
      simp only [Bool.not_eq_true', List.any_map, List.any_eq_false, Function.comp_apply,
        decide_eq_true_eq]
      exact fun lease inside same => leased ⟨lease, inside, same⟩
    · have id : other.id = job.id := of_decide_eq_true same
      exact job_unique (mem_runningJobsOf.mp (List.mem_filter.mp inside).1).1
        (mem_runningJobsOf.mp member).1 id

/-- An active lease is shown once. -/
theorem countP_lease (listed : listActiveLeasesForAgent first agent = .ok leases) {jobs : List JobRow}
    {lease : LeaseRow} (member : lease ∈ leases) :
    (joinReadings leases serverNow jobs).countP (·.leaseId = some lease.leaseId) = 1 := by
  obtain ⟨nodup, mem⟩ := listActiveLeases_ok listed
  rw [joinReadings, List.countP_append, List.countP_map, List.countP_map]
  have shown : leases.countP ((fun entry : ReconcileEntry => decide (entry.leaseId = some lease.leaseId)) ∘
      leaseEntry serverNow) = 1 :=
    countP_eq_one nodup member (by simp [leaseEntry]) fun other inside same =>
      lease_unique ((mem other).mp inside).1 ((mem lease).mp member).1 (by simpa [leaseEntry] using same)
  rw [shown, List.countP_eq_zero.mpr]
  intro job _ same
  simp [jobEntry] at same

/-- **What the two readings show.** The snapshot is consistent exactly when the managed attempts of the second
reading had their leases at the first. -/
theorem consistent_iff (heldFirst : Held first) (heldSecond : Held second)
    (listed : listActiveLeasesForAgent first agent = .ok leases) :
    Consistent agent first second (joinReadings leases serverNow (runningJobsOf second agent)) ↔
      Covered agent first second := by
  obtain ⟨-, mem⟩ := listActiveLeases_ok listed
  constructor
  · intro consistent job member assigned running managed
    by_contra uncovered
    have free : ∀ lease ∈ leases, lease.jobId ≠ job.id := by
      intro lease inside same
      obtain ⟨stored, own, active⟩ := (mem lease).mp inside
      exact uncovered ⟨lease, stored, own, active, same⟩
    have shown : jobEntry serverNow job ∈
        joinReadings leases serverNow (runningJobsOf second agent) :=
      mem_joinReadings.mpr (.inr ⟨job, mem_runningJobsOf.mpr ⟨member, assigned, running⟩, free, rfl⟩)
    have legacy := consistent.legacy _ shown rfl
    exact Bool.noConfusion (legacy.symm.trans managed)
  · intro covered
    refine ⟨fun job member assigned running => ?_, fun lease member own active => ?_, fun empty => ?_,
      fun entry inside none => ?_⟩
    · exact countP_job heldFirst listed (mem_runningJobsOf.mpr ⟨member, assigned, running⟩)
    · exact countP_lease listed ((mem lease).mpr ⟨member, own, active⟩)
    · have idle : ∀ job ∈ second.jobs, job.assignedAgent = agent → job.status ≠ .running := by
        intro job member assigned running
        have shown : (joinReadings leases serverNow (runningJobsOf second agent)).countP (·.jobId = job.id) = 1 :=
          countP_job heldFirst listed (mem_runningJobsOf.mpr ⟨member, assigned, running⟩)
        rw [empty] at shown
        cases shown
      refine ⟨idle, fun lease member own active => ?_⟩
      obtain ⟨job, jobMember, -, attempt⟩ := heldSecond lease member active
      obtain ⟨running, -, assigned⟩ := isRunningAttempt_iff.mp attempt
      exact idle job jobMember (assigned.trans own) running
    · rcases mem_joinReadings.mp inside with ⟨lease, -, rfl⟩ | ⟨job, running, free, rfl⟩
      · cases none
      · obtain ⟨member, assigned, running⟩ := mem_runningJobsOf.mp running
        rw [Bool.eq_false_iff]
        intro managed
        obtain ⟨lease, stored, own, active, same⟩ := covered job member assigned running managed
        exact free lease ((mem lease).mpr ⟨stored, own, active⟩) same

end Snapshots

section Runs

open Program DbCall

variable [Platform]

/-- What a snapshot call has read when it ends. -/
def Told (agentId : Option String) (past : List (Performed DbStatement (Work Db))) :
    Except Exn ReconcileResult → Prop
  | .ok (.ok answer) => ∃ agent first before after second leases serverNow,
    agentId.map Text.strip = some agent ∧
    past = [⟨.read, first, first⟩, ⟨.read, before, after⟩, ⟨.read, second, second⟩] ∧
    Held first.store ∧ Held second.store ∧ listActiveLeasesForAgent first.store agent = .ok leases ∧
    answer = joinReadings leases serverNow (runningJobsOf second.store agent)
  | .ok (.invalidRequest _) => True
  | .error _ => ∃ agent first e, agentId.map Text.strip = some agent ∧ past = [⟨.read, first, first⟩] ∧
    listActiveLeasesForAgent first.store agent = .error e

theorem reconcile_ends (agentId : Option String) :
    Ends (fun w : Work Db => Held w.store) (fun _ _ _ => True) (fun _ _ => True) (Told agentId) []
      (reconcileAgent agentId) := by
  unfold reconcileAgent
  split
  · trivial
  · trivial
  · rename_i agent _ given
    refine ends_query (fun _ _ _ => trivial) fun first heldFirst => ends_orRaise (fun e raised => ?_)
      fun leases listed => ?_
    · exact ⟨agent, first, e, given, rfl, raised⟩
    refine ends_statement fun middle heldMiddle _ => ⟨heldMiddle, trivial, ?_⟩
    refine ends_query (fun _ _ _ => trivial) fun second heldSecond => ?_
    exact ⟨agent, first, middle, _, second, leases, now middle.tick, given, rfl, heldFirst, heldSecond,
      listed, rfl⟩

/-- The validation of the stored leases stops at one that fails. -/
theorem listActiveLeases_error {db : Db} {agent : String} {e : LeaseError}
    (failed : listActiveLeasesForAgent db agent = .error e) :
    ∃ lease ∈ db.leases, lease.agentId = agent ∧ lease.status = .active ∧
      validateStoredResource lease = .error e := by
  have stops : ∀ rows : List LeaseRow, rows.forM validateStoredResource = .error e →
      ∃ lease ∈ rows, validateStoredResource lease = .error e := by
    intro rows
    induction rows with
    | nil =>
      intro none
      cases none
    | cons lease rest ih =>
      intro raised
      rcases Except.bind_error.mp raised with own | ⟨_, -, later⟩
      · exact ⟨lease, List.mem_cons_self, own⟩
      · obtain ⟨other, member, own⟩ := ih later
        exact ⟨other, List.mem_cons_of_mem _ member, own⟩
  simp only [listActiveLeasesForAgent, Except.bind_error] at failed
  rcases failed with raised | ⟨_, -, none⟩
  · obtain ⟨lease, member, own⟩ := stops _ raised
    rw [mem_sortBy, Table.mem_filter, Bool.and_eq_true, decide_eq_true_eq, decide_eq_true_eq] at member
    exact ⟨lease, member.1, member.2.1, member.2.2, own⟩
  · cases none

/-- **The reconnect snapshot.** In every interleaving of snapshot calls with claims, reports, renewals and
expiries, from any reachable state: a snapshot that is answered is consistent exactly when the managed attempts
that the agent runs at the second reading are of jobs with an active lease of it at the first; a call that
raises has read a lease whose stored resource fails its validation. -/
theorem reconnect_snapshot {start : Work Db} (reachable : Reachable start)
    {pool : Pool (Option String) DbStatement (Work Db) Exn ReconcileResult}
    {record : List (Nat × Performed DbStatement (Work Db))}
    (run : reconciling.Reaches Machine.anyStep (Pool.initial start, []) (pool, record)) :
    (∀ (index : Nat) (agentId : Option String) (answer : List ReconcileEntry),
      pool.parties[index]? = some (agentId, .done (.ok answer)) →
      ∃ agent first before after second, agentId.map Text.strip = some agent ∧
        Pool.performedBy index record =
          [⟨.read, first, first⟩, ⟨.read, before, after⟩, ⟨.read, second, second⟩] ∧
        (Consistent agent first.store second.store answer ↔ Covered agent first.store second.store)) ∧
    ∀ (index : Nat) (agentId : Option String) (e : Exn), pool.parties[index]? = some (agentId, .raised e) →
      ∃ agent first, agentId.map Text.strip = some agent ∧
        Pool.performedBy index record = [⟨.read, first, first⟩] ∧
        ∃ lease ∈ first.store.leases, lease.agentId = agent ∧ lease.status = .active ∧
          validateStoredResource lease ≠ .ok () := by
  obtain ⟨-, -, returned, raised⟩ := Pool.ended (fun agentId => reconcile_ends agentId)
    (fun step work next held stepped => by cases stepped; exact held.after step)
    (Held.of_reachable reachable) (run.mono fun _ move _ => by
      cases move with
      | perform index => exact fun _ _ _ _ _ => trivial
      | _ => trivial)
  refine ⟨fun index agentId answer found => ?_, fun index agentId e found => ?_⟩
  · obtain ⟨agent, first, before, after, second, leases, serverNow, given, performed, heldFirst, heldSecond,
      listed, rfl⟩ := returned index agentId _ found
    exact ⟨agent, first, before, after, second, given, performed,
      consistent_iff heldFirst heldSecond listed⟩
  · obtain ⟨agent, first, failure, given, performed, failed⟩ := raised index agentId e found
    obtain ⟨lease, member, own, active, invalid⟩ := listActiveLeases_error failed
    refine ⟨agent, first, given, performed, lease, member, own, active, ?_⟩
    rw [invalid]
    exact fun same => by cases same

end Runs

namespace Sample

open Program

/-- An installation with a job for a managed agent. -/
def waiting : Work Db := run [.syncCatalog typedCatalog, .submit request]

theorem waiting_reachable : Reachable waiting := reachable_run _

def claiming : Concurrent := .claim { agentId := "a", ttlSeconds := 30 } waiting.store

/-- An entry without a lease for an attempt that has one at the second reading. -/
def isMissing (second : Performed DbStatement (Work Db)) (entry : ReconcileEntry) : Bool :=
  entry.leaseId = none && entry.status = "running" &&
    attemptHasAnyLease second.before.store entry.jobId entry.attemptToken

/-- Calls in progress with what they have performed. -/
abbrev Snapshots := Pool (Option String) DbStatement (Work Db) Exn ReconcileResult ×
  List (Nat × Performed DbStatement (Work Db))

def showsMissing (s : Snapshots) : Bool :=
  match s.1.parties, Pool.performedBy 0 s.2 with
  | [(some "a", .done (.ok answer))], [_, _, second] => answer.any (isMissing second)
  | _, _ => false

/-- A managed claim between the two readings is shown as a running job without a lease. -/
theorem claim_shown_without_lease : ∃ pool record answer second,
    reconciling.Reaches Machine.anyStep (Pool.initial waiting, []) (pool, record) ∧
    pool.parties = [(some "a", .done (.ok answer))] ∧ second ∈ Pool.performedBy 0 record ∧
    ∃ entry ∈ answer, entry.leaseId = none ∧ entry.status = "running" ∧
      attemptHasAnyLease second.before.store entry.jobId entry.attemptToken = true := by
  obtain ⟨⟨pool, record⟩, run, checked⟩ :=
    @Machine.exists_reaches _ _ reconciling Machine.anyStep (Pool.initial waiting, []) (fun _ _ => true)
      showsMissing (fun _ _ _ => trivial)
      [.start (some "a"), .perform 0, .environment claiming, .perform 0, .perform 0] (by decide +kernel)
  dsimp only [showsMissing] at checked
  split at checked
  · rename_i answer first middle second parties performed
    obtain ⟨entry, member, missing⟩ := List.any_eq_true.mp checked
    simp only [isMissing, Bool.and_eq_true, decide_eq_true_eq] at missing
    exact ⟨pool, record, answer, second, run, parties, by simp [performed], entry, member, missing.1.1,
      missing.1.2, missing.2⟩
  · cases checked

/-- The jobs of the second reading have their leases at the first. -/
def isCovered (agent : String) (first second : Db) : Bool :=
  second.jobs.rows.all fun job => job.assignedAgent ≠ agent || first.leases.rows.any fun lease =>
    lease.agentId = agent && lease.status = .active && lease.jobId = job.id

theorem covered_of_isCovered {agent : String} {first second : Db}
    (passed : isCovered agent first second = true) : Covered agent first second := by
  intro job member assigned _ _
  have own := List.all_eq_true.mp passed job member
  simp only [assigned, ne_eq, not_true_eq_false, decide_false, Bool.false_or, List.any_eq_true,
    Bool.and_eq_true, decide_eq_true_eq] at own
  obtain ⟨lease, stored, ⟨held, active⟩, same⟩ := own
  exact ⟨lease, stored, held, active, same⟩

def showsCovered (s : Snapshots) : Bool :=
  match s.1.parties, Pool.performedBy 0 s.2 with
  | [(some "a", .done (.ok _))], [first, _, second] =>
    isCovered "a" first.before.store second.before.store
  | _, _ => false

/-- A snapshot after the claim. -/
theorem claim_shown : ∃ pool record answer agent first second,
    reconciling.Reaches Machine.anyStep (Pool.initial waiting, []) (pool, record) ∧
    pool.parties = [(some "a", .done (.ok answer))] ∧ Consistent agent first second answer := by
  obtain ⟨⟨pool, record⟩, run, checked⟩ :=
    @Machine.exists_reaches _ _ reconciling Machine.anyStep (Pool.initial waiting, []) (fun _ _ => true)
      showsCovered (fun _ _ _ => trivial)
      [.environment claiming, .start (some "a"), .perform 0, .perform 0, .perform 0] (by decide +kernel)
  dsimp only [showsCovered] at checked
  split at checked
  · rename_i answer one _ two parties performed
    obtain ⟨shown, -⟩ := reconnect_snapshot waiting_reachable run
    have found : pool.parties[0]? = some (some "a", .done (.ok answer)) := by
      rw [parties]
      rfl
    obtain ⟨agent, first, before, after, second, given, same, consistent⟩ := shown 0 (some "a") answer found
    rw [performed] at same
    cases same
    have own : agent = "a" := by
      have stripped : Text.strip "a" = "a" := by decide
      rw [Option.map_some, stripped] at given
      exact (Option.some.inj given).symm
    subst own
    exact ⟨pool, record, answer, "a", first.store, second.store, run, parties,
      consistent.mpr (covered_of_isCovered checked)⟩
  · cases checked

end Sample

end Coordinate

import Coordinate.Model.Installation
import Coordinate.Proofs.Runs

/-! # A claim request names one attempt

The claim that starts an attempt for a request identifier leaves a marker in the ledger, and no call removes it.
Every later claim with the identifier finds the marker inside its transaction, whatever it has read before:
it starts nothing, and what it returns is the attempt of the marker.
-/

namespace Coordinate

section Markers

variable [Platform]

/-- The ledger holds the marker of a claim request, which names the attempt that the request started. -/
def Marked (agentId claimRequestId jobId : String) (attempt : Nat) (db : Db) : Prop :=
  ∃ event ∈ db.events, event.idempotencyKey = claimMarkerKey agentId claimRequestId ∧
    ∃ marker, event.payloadJson.loads = .ok marker ∧ marker.get "job_id" = .str jobId ∧
      marker.get "attempt_token" = .int attempt

/-- The job runs the attempt. -/
def Runs (jobId : String) (attempt : Nat) (db : Db) : Prop :=
  ∃ job ∈ db.jobs, job.id = jobId ∧ job.attemptCount = attempt ∧ job.status = .running

/-- The result hands out the attempt. -/
def RuntimeClaimResult.Names (jobId : String) (attempt : Nat) (result : RuntimeClaimResult) : Prop :=
  result.attemptToken = some attempt ∧ ∃ job, result.job = some job ∧ job.row.id = jobId

variable {agentId claimRequestId jobId jobId' : String} {attempt attempt' : Nat} {s t : Db}

theorem Marked.mono (grown : s.events.rows <+: t.events.rows)
    (marked : Marked agentId claimRequestId jobId attempt s) :
    Marked agentId claimRequestId jobId attempt t := by
  obtain ⟨event, member, named⟩ := marked
  exact ⟨event, grown.subset member, named⟩

/-- A request has one marker, so it names one attempt. -/
theorem Marked.unique (marked : Marked agentId claimRequestId jobId attempt s)
    (other : Marked agentId claimRequestId jobId' attempt' s) : jobId' = jobId ∧ attempt' = attempt := by
  obtain ⟨event, member, key, marker, loaded, job, token⟩ := marked
  obtain ⟨event', member', key', marker', loaded', job', token'⟩ := other
  cases event_unique member member' (key.trans key'.symm)
  cases loaded.symm.trans loaded'
  exact ⟨Json.str.inj (job'.symm.trans job), Int.ofNat.inj (Json.int.inj (token'.symm.trans token))⟩

/-- An attempt that starts under a request leaves the marker of the request. -/
theorem appendClaimRequestMarker_marks {requestDigest leaseId : Option String} {job : JobRow}
    {ttlSeconds : Int} {w w' : Work Db}
    (ran : (appendClaimRequestMarker (some claimRequestId) requestDigest job agentId attempt leaseId
      ttlSeconds).run w = .ok () w') : Marked agentId claimRequestId job.id attempt w'.store := by
  unfold appendClaimRequestMarker at ran
  split at ran
  · rename_i none
    cases none
  rename_i same
  cases same
  split at ran
  · cases ran
  rename_i digest
  rw [Txn.bind_ok] at ran
  obtain ⟨result, _, appended, ran⟩ := ran
  simp only [Txn.raiseIf_ok] at ran
  obtain ⟨created, rfl⟩ := ran
  have event := appendEvent_ok appended
  cases event with
  | created events inserted store =>
    refine ⟨_, by rw [store]; exact (Table.mem_insert? inserted).mpr (.inr rfl), ?_, _,
      JsonText.loads_dumps_obj _, rfl, rfl⟩
    exact NewEvent.toRow_key _ _ _ rfl (by simp [claimMarkerKey])
  | existing => simp at created

omit [Platform] in
/-- What the check of a marker has found. -/
theorem readClaimMarker_ok {event : EventRow} {requestDigest : String} {marker : ClaimMarker}
    (read : readClaimMarker s event requestDigest agentId = .ok marker) :
    marker.attemptToken = marker.job.attemptCount ∧
      ∃ payload, event.payloadJson.loads = .ok payload ∧ payload.get "job_id" = .str marker.job.id ∧
        payload.get "attempt_token" = .int marker.attemptToken := by
  simp only [readClaimMarker, Except.bind_ok, orRaise_except_ok] at read
  obtain ⟨_, _, payload, loaded, _, _, _, _, _, _, read⟩ := read
  split at read
  · rename_i named
    simp only [Except.bind_ok] at read
    obtain ⟨_, same, _, _, read⟩ := read
    cases same
    split at read
    · cases read
    · rename_i job found
      simp only [Except.bind_ok, raiseIf_except_ok] at read
      obtain ⟨_, _, _, _, _, _, read⟩ := read
      split at read
      · rename_i given
        simp only [Except.bind_ok, raiseIf_except_ok, not_not] at read
        obtain ⟨_, _, _, same, _, token, read⟩ := read
        cases same
        -- the time to live is checked and kept
        split at read
        · simp only [Except.bind_ok, orRaise_except_ok] at read
          obtain ⟨_, _, _, _, read⟩ := read
          cases read
          exact ⟨rfl, payload, loaded, by rw [named, (findJob_eq_some.mp found).2], by rw [given, token]⟩
        · cases read
      · cases read
  · cases read

/-- A replay finds no marker, or returns the attempt of the marker. -/
theorem replayClaim_ok {request : ClaimRequest} (identified : request.claimRequestId = some claimRequestId)
    {hostId : String} {checkedAt serverNow : Nat} {replay : Option RuntimeClaimResult}
    (ran : replayClaim request hostId s checkedAt serverNow = .ok replay) :
    (replay = none ∧ ∀ jobId attempt, ¬ Marked request.agentId claimRequestId jobId attempt s) ∨
    ∃ result jobId attempt, replay = some result ∧ Marked request.agentId claimRequestId jobId attempt s ∧
      result.Names jobId attempt := by
  rw [replayClaim, identified] at ran
  simp only [replayClaimRequest] at ran
  split at ran
  · rename_i missing
    cases ran
    refine .inl ⟨rfl, fun jobId attempt ⟨event, member, key, _⟩ => ?_⟩
    rw [findEventByKey_eq_some.mpr ⟨member, key⟩] at missing
    cases missing
  · rename_i event found
    obtain ⟨member, key⟩ := findEventByKey_eq_some.mp found
    simp only [Except.bind_ok] at ran
    obtain ⟨marker, read, _, _, _, _, _, _, job, decoded, ran⟩ := ran
    cases ran
    obtain ⟨-, payload, loaded, named, token⟩ := readClaimMarker_ok read
    refine .inr ⟨_, marker.job.id, marker.attemptToken, rfl, ⟨event, member, key, payload, loaded, named, token⟩,
      rfl, job, rfl, by rw [jobDict_row decoded]⟩

omit [Platform] in
theorem Runs.of_queue (runs : Runs jobId attempt s) (same : queue t = queue s) : Runs jobId attempt t := by
  obtain ⟨job, member, started⟩ := runs
  exact ⟨job, (queue_eq.mp same).1 ▸ member, started⟩

omit [Platform] in
/-- A swap that finds its candidate starts the next attempt. -/
theorem runs_of_swap {job : JobRow} {payload : Json} {current : Nat} {jobs : Table (keyedBy JobRow.id)}
    (updated : s.jobs.update? (isCandidate job) (startedJob (job.attemptCount + 1) payload current) = some jobs)
    (matched : (s.jobs.filter (isCandidate job)).length ≠ 0) (same : t.jobs = jobs) :
    Runs job.id (job.attemptCount + 1) t := by
  obtain ⟨row, found⟩ := List.exists_mem_of_length_pos (Nat.pos_of_ne_zero matched)
  obtain ⟨member, chosen⟩ := List.mem_filter.mp found
  refine ⟨startedJob (job.attemptCount + 1) payload current row, ?_, ?_, rfl, rfl⟩
  · rw [same]
    exact (Table.mem_update? updated).mpr ⟨row, member, (if_pos chosen).symm⟩
  · simp only [isCandidate, Bool.and_eq_true, decide_eq_true_eq] at chosen
    exact chosen.1

/-- A managed claim leaves the marker of its request. -/
theorem claimLeasedJob_marks {request : ClaimRequest} (identified : request.claimRequestId = some claimRequestId)
    {hostId actor : String} {requestDigest : Option String} {result : ClaimLeaseResult} {w w' : Work Db}
    (ran : (claimLeasedJob request hostId actor requestDigest).run w = .ok result w') :
    Marked request.agentId claimRequestId result.job.id result.attemptToken w'.store ∧
      Runs result.job.id result.attemptToken w'.store := by
  obtain ⟨_, _, recovery, current, found, reaped, selected, job, authority, _, _, _, _, _, started⟩ :=
    claimLeasedJob_ok ran
  obtain ⟨jobs, _, _, updated, matched, _, same, _⟩ := startManagedAttempt_queue started
  obtain ⟨_, reserved, _, _, _, announced, marked, _, _, _, _, _, _, markerRan, _, _, id, rfl, rfl⟩ :=
    startManagedAttempt_ok started
  rw [identified] at markerRan
  simp only [id]
  exact ⟨appendClaimRequestMarker_marks markerRan, runs_of_swap updated matched same⟩

/-- A legacy claim that starts an attempt leaves it too, and one that replays changes nothing. -/
theorem claimLegacyBody_marks {request : ClaimRequest} (identified : request.claimRequestId = some claimRequestId)
    {hostId : String} {candidate : LegacyCandidate} {current : Nat} {outcome : LegacyOutcome} {w w' : Work Db}
    (ran : (claimLegacyBody request hostId candidate current).run w = .ok outcome w') :
    (∃ result jobId attempt, outcome = .replayed result ∧ w'.store = w.store ∧
      Marked request.agentId claimRequestId jobId attempt w.store ∧ result.Names jobId attempt) ∨
    outcome = .lost ∨ outcome = .claimed ∧
      (∀ jobId attempt, ¬ Marked request.agentId claimRequestId jobId attempt w.store) ∧
      Marked request.agentId claimRequestId candidate.job.id (candidate.job.attemptCount + 1) w'.store ∧
      Runs candidate.job.id (candidate.job.attemptCount + 1) w'.store := by
  obtain ⟨result, rfl, same, replay⟩ | ⟨replay, rfl | ⟨rfl, jobs, started, payload, claimed, announced, updated,
    matched, startedStore, claimedRan, markerRan⟩⟩ := claimLegacyBody_ok ran
  · obtain ⟨none, -⟩ | ⟨result', jobId, attempt, some, marked, names⟩ := replayClaim_ok identified replay
    · cases none
    · cases some
      exact .inl ⟨result, jobId, attempt, rfl, same, marked, names⟩
  · exact .inr (.inl rfl)
  · obtain ⟨-, unmarked⟩ | ⟨result', _, _, some, _⟩ := replayClaim_ok identified replay
    · have quiet : queue w'.store = queue started.store :=
        (queue_of_activity ((keeps_appendClaimRequestMarker _ _ _ _ _ _ _).of_ok markerRan)).trans
          ((keeps_appendEvent _ fun _ _ => rfl).of_ok claimedRan)
      rw [identified] at markerRan
      exact .inr (.inr ⟨rfl, unmarked, appendClaimRequestMarker_marks markerRan,
        (runs_of_swap updated matched (by rw [startedStore])).of_queue quiet⟩)
    · cases some

omit [Platform] in
/-- A refusal hands out nothing. -/
theorem refusedClaim_ok {error : RuntimeLeaseError} {result : RuntimeClaimResult}
    (refused : refusedClaim error = .ok result) : result.claimed = false := by
  unfold refusedClaim at refused
  split_ifs at refused <;> cases refused <;> rfl

end Markers

section Claims

variable [Platform] {request : ClaimRequest} {claimRequestId : String} {P : Db → Prop} {Q : RuntimeClaimResult → Prop}

/-- What the claims of one request keep of the store, and what they return. An attempt starts only where the
request has no marker, and it leaves one. -/
structure Guards (request : ClaimRequest) (claimRequestId : String) (P : Db → Prop)
    (Q : RuntimeClaimResult → Prop) : Prop where
  quiet : ∀ s t, queue t = queue s → s.events.rows <+: t.events.rows → P s → P t
  refused : ∀ result, result.claimed = false → Q result
  replayed : ∀ view t result jobId attempt, view.Grows t →
    Marked request.agentId claimRequestId jobId attempt view → result.Names jobId attempt → P t → Q result
  starts : ∀ s t jobId attempt, (∀ jobId attempt, ¬ Marked request.agentId claimRequestId jobId attempt s) →
    Marked request.agentId claimRequestId jobId attempt t → Runs jobId attempt t → P s → P t ∧ ∀ result, Q result

namespace Guards

/-- How the transaction of a managed claim ends. -/
def Ends (P : Db → Prop) (Q : RuntimeClaimResult → Prop) (outcome : RuntimeClaimResult ⊕ ClaimLeaseResult)
    (t : Db) : Prop :=
  P t ∧ match outcome with
    | .inl result => Q result
    | .inr _ => ∀ result, Q result

/-- What a legacy claim returns, by how its transaction ends. -/
def Returns (Q : RuntimeClaimResult → Prop) : LegacyOutcome → Prop
  | .replayed result => Q result
  | .lost => True
  | .claimed => ∀ result, Q result

theorem within (guards : Guards request claimRequestId P Q) {α : Type} {body : DbTxn α}
    (keeps : Txn.Keeps activity body) : Tx.Maintains 0 Db.Grows P (Tx.within body) :=
  Tx.maintains_within fun _ _ _ _ ran holds =>
    guards.quiet _ _ (queue_of_activity (keeps.of_ok ran)) (ledger_of_ok ran) holds

variable (guards : Guards request claimRequestId P Q) (identified : request.claimRequestId = some claimRequestId)
  (hostId : String)

include guards identified

/-- The replay before the transaction, which may read any earlier store. -/
theorem replayClaimOutside : Tx.Triple 0 Db.Grows P P (replayClaimOutside request hostId)
    fun replay t => P t ∧ ∀ result, replay = some result → Q result := by
  refine Tx.triple_bind (Tx.triple_clock _) fun checkedAt => Tx.triple_bind (Tx.triple_clock _) fun serverNow =>
    Tx.triple_bind (Tx.triple_query Db.Grows.refl _) fun found =>
    (Tx.triple_orRaise _ _).mono (fun _ before => before) ?_
  rintro replay t ⟨⟨holds, view, grown, read⟩, rfl⟩
  refine ⟨holds, fun result same => ?_⟩
  obtain ⟨none, -⟩ | ⟨result', jobId, attempt, some, marked, names⟩ := replayClaim_ok identified read
  · cases none.symm.trans same
  · cases some.symm.trans same
    exact guards.replayed view t result jobId attempt grown marked names holds

/-- The replay inside the transaction reads the store. -/
theorem replayClaimInside : Tx.Triple 0 Db.Grows P P (Tx.within (replayClaimInside request hostId))
    fun replay t => P t ∧ match replay with
      | some result => Q result
      | none => ∀ jobId attempt, ¬ Marked request.agentId claimRequestId jobId attempt t := by
  refine Tx.triple_within fun w replay w' _ ran holds => ?_
  obtain ⟨read, rfl⟩ := replayClaimInside_ok.mp ran
  refine ⟨holds, ?_⟩
  obtain ⟨rfl, unmarked⟩ | ⟨result, jobId, attempt, rfl, marked, names⟩ := replayClaim_ok identified read
  · exact unmarked
  · exact guards.replayed w.store w.store result jobId attempt (.refl _) marked names holds

theorem claimManaged : Tx.Triple 0 Db.Grows P P (claimManaged request hostId)
    fun result t => P t ∧ Q result := by
  refine Tx.triple_bind (Tx.triple_begin _) fun _ =>
    Tx.triple_bind (Tx.triple_tryCatch ?_ fun e => ?_ : Tx.Triple _ _ _ _ _ (Ends P Q)) fun outcome => ?_
  · refine Tx.triple_bind (guards.replayClaimInside identified hostId) fun replay => ?_
    split
    · exact Tx.triple_bind (Tx.triple_commit Db.Grows.refl fun _ before => before.1) fun _ =>
        Tx.triple_pure fun _ before => before
    · refine Tx.triple_bind (Tx.triple_within ?_ : Tx.Triple _ _ _ _ _ fun claimed => Ends P Q (.inr claimed))
        fun claimed => Tx.triple_bind (Tx.triple_commit Db.Grows.refl fun _ before => before.1) fun _ =>
        Tx.triple_pure fun _ before => before
      rintro w claimed w' - ran ⟨holds, unmarked⟩
      obtain ⟨marked, runs⟩ := claimLeasedJob_marks identified ran
      exact guards.starts _ _ _ _ unmarked marked runs holds
  · split
    · rename_i error
      refine Tx.triple_bind (Tx.triple_rollback Db.Grows.refl) fun _ =>
        Tx.triple_bind (Tx.triple_orRaise _ _) fun result => Tx.triple_pure ?_
      rintro t ⟨holds, refused⟩
      exact ⟨holds, guards.refused _ (refusedClaim_ok refused)⟩
    · exact (Tx.triple_rollback_throw Db.Grows.refl) _
    · exact Tx.triple_throw _
  · split
    · exact Tx.triple_pure fun _ before => before
    · exact Tx.triple_bind (Tx.triple_orRaise _ _) fun _ =>
        Tx.triple_pure fun _ before => ⟨before.1.1, before.1.2 _⟩

theorem claimLegacyTransaction (candidate : LegacyCandidate) (current : Nat) :
    Tx.Triple 0 Db.Grows P P (claimLegacyTransaction request hostId candidate current)
      fun outcome t => P t ∧ Returns Q outcome := by
  refine Tx.triple_bind (Tx.triple_begin _) fun _ =>
    Tx.triple_tryCatch ?_ (Tx.triple_rollback_throw Db.Grows.refl)
  refine Tx.triple_bind (Tx.triple_within ?_ : Tx.Triple _ _ _ _ _ fun outcome t =>
    (outcome ≠ .lost → P t) ∧ Returns Q outcome) fun outcome => ?_
  · intro w outcome w' _ ran holds
    obtain ⟨result, jobId, attempt, rfl, same, marked, names⟩ | rfl | ⟨rfl, unmarked, marked, runs⟩ :=
      claimLegacyBody_marks identified ran
    · rw [same]
      exact ⟨fun _ => holds, guards.replayed _ _ result jobId attempt (.refl _) marked names holds⟩
    · exact ⟨fun kept => absurd rfl kept, trivial⟩
    · obtain ⟨after, returns⟩ := guards.starts _ _ _ _ unmarked marked runs holds
      exact ⟨fun _ => after, returns⟩
  · have commits (kept : outcome ≠ .lost) : Tx.Triple 0 Db.Grows P
        (fun t => (outcome ≠ .lost → P t) ∧ Returns Q outcome) (do Tx.commit; return outcome : DbTx LegacyOutcome)
        fun outcome t => P t ∧ Returns Q outcome :=
      Tx.triple_bind (Tx.triple_commit Db.Grows.refl fun _ before => before.1 kept) fun _ =>
        Tx.triple_pure fun _ before => ⟨before.1 kept, before.2⟩
    cases outcome with
    | lost =>
      exact Tx.triple_bind (Tx.triple_rollback Db.Grows.refl) fun _ => Tx.triple_pure fun _ holds => ⟨holds, trivial⟩
    | replayed result => exact commits nofun
    | claimed => exact commits nofun

theorem replayEmptyQueue : Tx.Triple 0 Db.Grows P P (replayEmptyQueue request hostId)
    fun result t => P t ∧ Q result := by
  unfold Coordinate.replayEmptyQueue
  rw [identified]
  refine Tx.triple_bind (Tx.triple_begin _) fun _ =>
    Tx.triple_tryCatch ?_ (Tx.triple_rollback_throw Db.Grows.refl)
  refine Tx.triple_bind (guards.replayClaimInside identified hostId) fun replay => ?_
  cases replay with
  | none =>
    exact Tx.triple_bind (Tx.triple_rollback Db.Grows.refl) fun _ =>
      Tx.triple_pure fun _ holds => ⟨holds, guards.refused _ rfl⟩
  | some result =>
    exact Tx.Triple.given fun returns => Tx.triple_bind (Tx.triple_rollback Db.Grows.refl) fun _ =>
      Tx.triple_pure fun _ holds => ⟨holds, returns⟩

theorem claimLegacy : Tx.Triple 0 Db.Grows P P (claimLegacy request hostId) fun result t => P t ∧ Q result := by
  refine Tx.triple_bind (Tx.maintains_raiseIf _ _) fun _ => Tx.triple_bind (Tx.maintains_query _) fun _ =>
    Tx.triple_bind (Tx.maintains_orRaise _ _) fun found => ?_
  split
  · exact guards.replayEmptyQueue identified hostId
  · refine Tx.triple_bind (Tx.triple_clock _) fun current =>
      Tx.triple_bind (guards.claimLegacyTransaction identified hostId _ current) fun outcome => ?_
    cases outcome with
    | replayed result => exact Tx.triple_pure fun _ before => before
    | lost => exact Tx.triple_pure fun _ before => ⟨before.1, guards.refused _ rfl⟩
    | claimed =>
      exact Tx.Triple.given fun returns => Tx.triple_bind (Tx.maintains_query _) fun _ =>
        Tx.triple_bind (Tx.maintains_orRaise _ _) fun _ => Tx.triple_bind (Tx.maintains_orRaise _ _) fun _ =>
        Tx.triple_pure fun _ holds => ⟨holds, returns _⟩

omit hostId

/-- One walk through `claim_job`, whatever earlier stores its reads see. -/
theorem claimJob : Tx.Triple 0 Db.Grows P P (claimJob request) fun result t => P t ∧ Q result := by
  refine Tx.triple_bind (Tx.maintains_orRaise _ _) fun _ => Tx.triple_bind (Tx.maintains_query _) fun _ =>
    Tx.triple_bind (Tx.maintains_orRaise _ _) fun hostId =>
    Tx.triple_bind (guards.replayClaimOutside identified hostId) fun replay => ?_
  split
  · exact Tx.triple_pure fun _ before => ⟨before.1, before.2 _ rfl⟩
  · refine Tx.triple_bind ((maintains_touchAgentActivityOutside guards.within _).mono (fun _ before => before.1)
      fun _ _ after => after) fun touched => ?_
    dsimp only
    split
    on_goal 1 => refine Tx.triple_bind (Tx.maintains_commit Db.Grows.refl) fun _ => ?_
    all_goals
      refine Tx.triple_bind (Tx.maintains_query _) fun _ => Tx.triple_bind (Tx.maintains_orRaise _ _) fun binding => ?_
      split
      · exact guards.claimManaged identified hostId
      · exact guards.claimLegacy identified hostId

end Guards

variable {jobId : String} {attempt : Nat} {q : Table (keyedBy JobRow.id) × Table leaseSchema}

/-- The first claim of a request leaves the queue alone, or it starts the attempt that its marker names. -/
theorem starting :
    Guards request claimRequestId
      (fun t => queue t = q ∨ ∃ jobId attempt, Marked request.agentId claimRequestId jobId attempt t ∧
        Runs jobId attempt t) fun _ => True where
  quiet _ _ same grown := Or.imp same.trans fun ⟨jobId, attempt, marked, runs⟩ =>
    ⟨jobId, attempt, marked.mono grown, runs.of_queue same⟩
  refused _ _ := trivial
  replayed _ _ _ _ _ _ _ _ _ := trivial
  starts _ _ jobId attempt _ marked runs _ := ⟨.inr ⟨jobId, attempt, marked, runs⟩, fun _ => trivial⟩

/-- A later one leaves the queue alone and returns that attempt. -/
theorem repeating :
    Guards request claimRequestId (fun t => queue t = q ∧ Marked request.agentId claimRequestId jobId attempt t)
      fun result => result.claimed = true → result.Names jobId attempt where
  quiet _ _ same grown := fun ⟨kept, marked⟩ => ⟨same.trans kept, marked.mono grown⟩
  refused result refused claimed := absurd (refused.symm.trans claimed) (by decide)
  replayed _ _ _ _ _ grown marked names := fun ⟨_, own⟩ _ => by
    obtain ⟨rfl, rfl⟩ := own.unique (marked.mono grown.events)
    exact names
  starts _ _ _ _ unmarked _ _ := fun ⟨_, marked⟩ => absurd marked (unmarked jobId attempt)

/-- A claim that starts nothing: the jobs and the leases stay, and what is returned as claimed is the attempt. -/
structure Repeats (request : ClaimRequest) (work : Work Db) (view : Db) (jobId : String) (attempt : Nat) : Prop where
  queue : queue ((Call.claim request).after work view).store = queue work.store
  names : ∀ result s, (Call.claim request).outcome work view = .ok (.claimed result) s → result.claimed = true →
    result.Names jobId attempt

/-- A claim whose request has its marker starts nothing. -/
theorem repeats_of_marked {work : Work Db} {view : Db} (identified : request.claimRequestId = some claimRequestId)
    (grown : view.Grows work.store) (marked : Marked request.agentId claimRequestId jobId attempt work.store) :
    Repeats request work view jobId attempt := by
  have guards : Guards request claimRequestId
      (fun t => queue t = queue work.store ∧ Marked request.agentId claimRequestId jobId attempt t) _ := repeating
  have walk := guards.claimJob identified
  have call : Tx.Triple 0 Db.Grows _ _ (Call.claim request).run fun response t =>
      queue t = queue work.store ∧ ∀ result, response = .claimed result → result.claimed = true →
        result.Names jobId attempt :=
    Tx.triple_bind walk fun claimed => Tx.triple_pure fun t after =>
      ⟨after.1.1, fun result same => Response.claimed.inj same ▸ after.2⟩
  have settled := call (Session.connect work view) ⟨Nat.zero_le _, ⟨rfl, marked⟩, fun _ => grown⟩ ⟨rfl, marked⟩
  refine ⟨(Tx.Triple.settle call (Nat.zero_le _) grown ⟨rfl, marked⟩ ⟨rfl, marked⟩).1, fun result s ran => ?_⟩
  change (Call.claim request).run.run (Session.connect work view) = _ at ran
  rw [ran] at settled
  exact settled.2.2 result rfl

/-- **A claim request names one attempt.** In an interleaved run, whose calls may have read any earlier store
before their transactions, a claim with a request identifier leaves the jobs and the leases as they are, or it
starts an attempt. In the second case no later claim of the agent with the identifier, whatever its other
arguments, changes a job or a lease, and if it returns a claim then that of this attempt. -/
theorem claim_request_names_one_attempt {history : History} (reachable : InterleavedReachable history)
    {request : ClaimRequest} {claimRequestId : String} (identified : request.claimRequestId = some claimRequestId)
    {view : Db} (seen : view ∈ history.stores) :
    let next := (Call.claim request).after history.work view
    queue next.store = queue history.work.store ∨ ∃ jobId attempt, Runs jobId attempt next.store ∧
      ∀ later, Relation.ReflTransGen InterleavedStep ⟨next, history.stores⟩ later → ∀ again : ClaimRequest,
        again.agentId = request.agentId → again.claimRequestId = some claimRequestId →
        ∀ old ∈ later.stores, Repeats again later.work old jobId attempt := by
  intro next
  have guards : Guards request claimRequestId _ _ := starting (q := queue history.work.store)
  have first := (guards.claimJob identified).mono (fun _ holds => holds) fun _ _ after => after.1
  have extended := reachable.stores_grow view seen
  obtain same | ⟨jobId, attempt, marked, runs⟩ :=
    (Tx.maintains_map first).settle (Nat.zero_le history.work.tick) extended (.inl rfl)
  · exact .inl same
  refine .inr ⟨jobId, attempt, runs, fun later steps again agent identifiedAgain old oldSeen => ?_⟩
  have grown := (InterleavedReachable.stores_grow ((reachable.tail (.call _ view seen)).trans steps)) old oldSeen
  exact repeats_of_marked identifiedAgain grown (agent ▸ marked.mono (grows_of_steps steps).events)

/-- A sequential run is an interleaved one in which every call reads the store that it finds. -/
theorem Reachable.interleaved {work : Work Db} (reachable : Reachable work) :
    ∃ earlier, InterleavedReachable ⟨work, earlier⟩ := by
  induction reachable with
  | refl => exact ⟨[], .refl⟩
  | @tail work next _ step ih =>
    obtain ⟨earlier, reachable⟩ := ih
    cases step with
    | call call => exact ⟨_, reachable.tail (.call call work.store List.mem_cons_self)⟩
    | configure store configures => exact ⟨_, reachable.tail (.configure store configures)⟩

end Claims

namespace Sample

/-- A waiting job of a typed agent. -/
def submitted : List Call := [.syncCatalog typedCatalog, .submit request]

def namedClaim : ClaimRequest := { agentId := "a", ttlSeconds := 120, claimRequestId := some "r" }

theorem queue_ne_of_running {s t : Db} (before : s.jobs.rows.any (·.status = .running) = false)
    (after : t.jobs.rows.any (·.status = .running) = true) : queue t ≠ queue s := by
  intro same
  rw [(queue_eq.mp same).1, before] at after
  cases after

theorem named_claim_starts :
    queue ((Call.claim namedClaim).after (run submitted) (run submitted).store).store ≠ queue (run submitted).store :=
  queue_ne_of_running (by decide +kernel) (by decide +kernel)

/-- The claim starts an attempt of the waiting job, and every repetition of it returns that attempt. -/
theorem named_claim_repeats : ∃ earlier jobId attempt,
    let next := (Call.claim namedClaim).after (run submitted) (run submitted).store
    Runs jobId attempt next.store ∧
      ∀ later, Relation.ReflTransGen InterleavedStep ⟨next, (run submitted).store :: earlier⟩ later →
        ∀ again : ClaimRequest, again.agentId = "a" → again.claimRequestId = some "r" →
        ∀ old ∈ later.stores, Repeats again later.work old jobId attempt := by
  obtain ⟨earlier, reachable⟩ := (reachable_run submitted).interleaved
  obtain ⟨jobId, attempt, named⟩ := (claim_request_names_one_attempt reachable
    (show namedClaim.claimRequestId = some "r" from rfl) List.mem_cons_self).resolve_left named_claim_starts
  exact ⟨earlier, jobId, attempt, named⟩

end Sample

end Coordinate

import Coordinate.Proofs.Moves

/-! # Every call is a chain of moves

One triple for each call of the system. An invariant that every move of the queue keeps is kept by
every call, and so it holds in every state of a sequential run.
-/

namespace Coordinate

variable [Platform] {since : Nat} {P : Db → Prop} {seen : Db → Db → Prop}

/-- An invariant of the transitions of the queue. -/
def Closed (since : Nat) (P : Db → Prop) : Prop := ∀ s t, Transition since s t → P s → P t

/-- An invariant of the moves of the queue. -/
def Moving (since : Nat) (P : Db → Prop) : Prop := ∀ s t, Move since s t → P s → P t

/-- A move is a transition, and a legacy claim is the start of an attempt and then quiet. -/
theorem Closed.moving (closed : Closed since P) : Moving since P := by
  intro s t move holds
  cases move with
  | steady transition => exact closed _ _ transition holds
  | progressed ran => exact closed _ _ (.progressed ran) holds
  | claimed selects ran => exact closed _ _ (.claimed selects ran) holds
  | @started w w' request hostId candidate current member claimable ran =>
    obtain ⟨result, kept, _⟩ | ⟨_, lost | ⟨_, jobs, started, payload, claimed, announced, updated, _,
      startedStore, claimedRan, markerRan⟩⟩ := claimLegacyBody_ok ran
    · cases kept
    · cases lost
    · have holdsStarted : P started.store := by
        rw [startedStore]
        exact closed _ _ (.started member claimable updated) holds
      have holdsAnnounced : P announced.store :=
        closed _ _ (.quiet ((keeps_appendEvent _ fun _ _ => rfl).of_ok claimedRan)) holdsStarted
      have marked := (keeps_appendClaimRequestMarker _ _ _ _ _ _ _).of_ok markerRan
      exact closed _ _ (.quiet (queue_of_activity marked)) holdsAnnounced

section Quiet

variable {α : Type} {w w' : Work Db}

theorem Moving.quiet (moving : Moving since P) {body : DbTxn α} (keeps : Txn.Keeps activity body) :
    Tx.Maintains since seen P (Tx.within body) :=
  Tx.maintains_within fun _ _ _ _ ran => moving _ _ (.quiet (keeps.of_ok ran) (ledger_of_ok ran))

theorem Moving.appendEventAndCommit (moving : Moving since P) (refl : ∀ t, seen t t) (event : NewEvent)
    (other : event.eventType ≠ progressType) :
    Tx.Maintains since seen P (appendEventAndCommit event) := by
  refine Tx.maintains_bind (moving.quiet (keeps_appendOther event other)) fun result => ?_
  dsimp only
  split
  · exact Tx.maintains_bind (Tx.maintains_commit refl) fun _ => Tx.maintains_pure _
  · exact Tx.maintains_pure _

theorem maintains_touchAgentActivityOutside
    (quiet : ∀ {β : Type} {body : DbTxn β}, Txn.Keeps activity body → Tx.Maintains since seen P (Tx.within body))
    (agentId : String) : Tx.Maintains since seen P (touchAgentActivityOutside agentId) := by
  refine Tx.maintains_bind (Tx.maintains_query _) fun agent => ?_
  split
  · exact Tx.maintains_pure _
  · split
    · exact Tx.maintains_pure _
    · refine Tx.maintains_bind (Tx.maintains_clock _) fun _ => ?_
      split
      · exact quiet (keeps_touchRow _ _)
      · exact Tx.maintains_pure _

end Quiet

section Submit

/-- The pairing of an event finds the job or creates it. -/
theorem Moving.pairExactJob (moving : Moving since P) (request : SubmitRequest) (targetAgent : String)
    (plan : ExactPlan) (event : EventRow) :
    Tx.Maintains since Eq P (Tx.within (pairExactJob request targetAgent plan event)) := by
  refine Tx.maintains_within fun w paired w' _ ran holds => ?_
  rw [Coordinate.pairExactJob, Txn.bind_ok] at ran
  obtain ⟨_, _, read, ran⟩ := ran
  simp only [Txn.read_run, id_eq, EStateM.Result.ok.injEq] at read
  obtain ⟨rfl, rfl⟩ := read
  split at ran
  · simp only [Txn.bind_ok, Txn.orRaise_ok, Txn.pure_run, EStateM.Result.ok.injEq] at ran
    obtain ⟨_, _, ⟨_, rfl⟩, _, rfl⟩ := ran
    exact holds
  · simp only [Txn.bind_ok, Txn.orRaise_ok, Txn.pure_run, EStateM.Result.ok.injEq] at ran
    obtain ⟨ctx, _, ⟨_, rfl⟩, row, _, created, _, rfl⟩ := ran
    exact moving _ _ (.created created) holds

theorem Moving.pairRoutedJob (moving : Moving since P) (request : SubmitRequest)
    (routing : RoutingRequest) (decision : RoutingDecision) (event : EventRow) :
    Tx.Maintains since Eq P (Tx.within (pairRoutedJob request routing decision event)) := by
  refine Tx.maintains_within fun w paired w' _ ran holds => ?_
  rw [Coordinate.pairRoutedJob, Txn.bind_ok] at ran
  obtain ⟨_, _, read, ran⟩ := ran
  simp only [Txn.read_run, id_eq, EStateM.Result.ok.injEq] at read
  obtain ⟨rfl, rfl⟩ := read
  split at ran
  · simp only [Txn.bind_ok, Txn.orRaise_ok, Txn.raiseIf_ok, Txn.pure_run,
      EStateM.Result.ok.injEq] at ran
    obtain ⟨_, _, ⟨_, rfl⟩, _, _, ⟨_, rfl⟩, _, _, ⟨_, rfl⟩, _, rfl⟩ := ran
    exact holds
  · simp only [Txn.bind_ok, Txn.orRaise_ok, Txn.pure_run, EStateM.Result.ok.injEq] at ran
    obtain ⟨ctx, _, ⟨_, rfl⟩, row, _, created, _, rfl⟩ := ran
    exact moving _ _ (.created created) holds

theorem Moving.submitTransaction (moving : Moving since P) (event : NewEvent)
    (other : event.eventType ≠ progressType) {pair : EventRow → DbTxn (JobRow × Bool)} (pairs : ∀ row, Tx.Maintains since Eq P (Tx.within (pair row)))
    (replay : Db → EventRow → Except Exn RuntimeRequestResult) :
    Tx.Maintains since Eq P (submitTransaction event pair replay) := by
  refine Tx.maintains_bind (Tx.triple_tryCatch ?_ (Tx.triple_rollback_throw fun _ => rfl)) fun outcome => ?_
  · refine Tx.maintains_bind (moving.quiet (keeps_appendOther event other)) fun appended => ?_
    split
    · exact Tx.maintains_bind (Tx.triple_rollback fun _ => rfl) fun _ =>
        Tx.maintains_bind (Tx.maintains_query _) fun _ =>
        Tx.maintains_map (Tx.maintains_orRaise _ _)
    · exact Tx.maintains_bind (pairs _) fun _ => Tx.maintains_bind (Tx.maintains_commit fun _ => rfl) fun _ =>
        Tx.maintains_pure _
  · split
    · exact Tx.maintains_pure _
    · exact Tx.maintains_bind (Tx.maintains_orRaise _ _) fun _ =>
        Tx.maintains_bind (Tx.maintains_orRaise _ _) fun _ => Tx.maintains_pure _

theorem Moving.submitRequest (moving : Moving since P) (request : SubmitRequest) :
    Tx.Maintains since Eq P (submitRequest request) := by
  refine Tx.maintains_bind (Tx.maintains_query _) fun checked =>
    Tx.maintains_bind (Tx.maintains_orRaise _ _) fun _ => ?_
  split
  · refine Tx.maintains_bind (Tx.maintains_query _) fun _ =>
      Tx.maintains_bind (Tx.maintains_orRaise _ _) fun plan =>
      Tx.maintains_bind (Tx.maintains_query _) fun stored => ?_
    split
    · exact Tx.maintains_bind (Tx.maintains_query _) fun _ => Tx.maintains_orRaise _ _
    · exact moving.submitTransaction _ (show "request.received" ≠ progressType by decide)
        (fun _ => moving.pairExactJob _ _ _ _) _
  · refine Tx.maintains_bind (Tx.maintains_orRaise _ _) fun routing =>
      Tx.maintains_bind (Tx.maintains_query _) fun stored => ?_
    split
    · exact Tx.maintains_bind (Tx.maintains_query _) fun _ => Tx.maintains_orRaise _ _
    · exact Tx.maintains_bind (Tx.maintains_clock _) fun _ =>
        Tx.maintains_bind (Tx.maintains_query _) fun _ =>
        Tx.maintains_bind (Tx.maintains_orRaise _ _) fun _ =>
        moving.submitTransaction _ (show "request.received" ≠ progressType by decide)
          (fun _ => moving.pairRoutedJob _ _ _ _) _
  · exact Tx.maintains_throw _

end Submit

section Claim

theorem maintains_replayClaimOutside (request : ClaimRequest) (hostId : String) :
    Tx.Maintains since seen P (replayClaimOutside request hostId) :=
  Tx.maintains_bind (Tx.maintains_clock _) fun _ => Tx.maintains_bind (Tx.maintains_clock _) fun _ =>
    Tx.maintains_bind (Tx.maintains_query _) fun _ => Tx.maintains_orRaise _ _

theorem keeps_replayClaimInside (request : ClaimRequest) (hostId : String) :
    Txn.Keeps activity (replayClaimInside request hostId) :=
  Txn.keeps_bind keeps_utcNow fun _ => Txn.keeps_bind keeps_utcNow fun _ => keeps_readOrRaise _

/-- A managed claim expires due leases and starts the attempt of its candidate. -/
theorem Moving.claimLeasedJob (moving : Moving since P) (request : ClaimRequest) (hostId actor : String)
    (requestDigest : Option String) :
    Tx.Maintains since seen P (Tx.within (claimLeasedJob request hostId actor requestDigest)) := by
  refine Tx.maintains_within fun w result w' _ ran holds => ?_
  obtain ⟨_, _, recovery, current, found, reaped, selected, job, authority, foundStore, _, reapedRan,
    selects, selectedStore, started⟩ := claimLeasedJob_ok ran
  have reapedHolds : P reaped.store := by
    refine reapBeforeClaim_ok (fun lease job v v' member active expires => ?_) reapedRan
      (foundStore ▸ holds)
    exact moving _ _ (.expired member active expires)
  rw [← selectedStore] at selects reapedHolds
  exact moving _ _ (.claimed selects started) reapedHolds

theorem Moving.claimManaged (moving : Moving since P) (refl : ∀ t, seen t t) (request : ClaimRequest) (hostId : String) :
    Tx.Maintains since seen P (claimManaged request hostId) := by
  refine Tx.maintains_bind (Tx.triple_begin _) fun _ =>
    Tx.maintains_bind (Tx.triple_tryCatch ?_ fun e => ?_) fun outcome => ?_
  · refine Tx.maintains_bind (moving.quiet (keeps_replayClaimInside _ _)) fun replay => ?_
    split
    · exact Tx.maintains_bind (Tx.maintains_commit refl) fun _ => Tx.maintains_pure _
    · exact Tx.maintains_bind (moving.claimLeasedJob _ _ _ _) fun _ =>
        Tx.maintains_bind (Tx.maintains_commit refl) fun _ => Tx.maintains_pure _
  · split
    · exact Tx.triple_bind (Tx.triple_rollback refl) fun _ => Tx.maintains_map (Tx.maintains_orRaise _ _)
    · exact (Tx.triple_rollback_throw refl) _
    · exact Tx.triple_throw _
  · split
    · exact Tx.maintains_pure _
    · exact Tx.maintains_bind (Tx.maintains_orRaise _ _) fun _ => Tx.maintains_pure _

theorem maintains_replayEmptyQueue (moving : Moving since P) (refl : ∀ t, seen t t) (request : ClaimRequest) (hostId : String) :
    Tx.Maintains since seen P (replayEmptyQueue request hostId) := by
  unfold replayEmptyQueue
  split
  · exact Tx.maintains_pure _
  · exact Tx.maintains_bind (Tx.triple_begin _) fun _ => Tx.triple_tryCatch
      (Tx.maintains_bind (moving.quiet (keeps_replayClaimInside _ _)) fun _ =>
        Tx.maintains_bind (Tx.triple_rollback refl) fun _ => Tx.maintains_pure _)
      (Tx.triple_rollback_throw refl)

/-- The candidate of a legacy claim is claimable in the store that it was read from. -/
theorem findLegacyCandidate_ok {db : Db} {request : ClaimRequest} {hostId : String}
    {candidate : LegacyCandidate} (ran : findLegacyCandidate db request hostId = .ok (some candidate)) :
    candidate.job ∈ db.jobs ∧
      isClaimable request.recoverable request.agentId candidate.job = true := by
  unfold findLegacyCandidate at ran
  split at ran
  · cases ran
  · rename_i job head
    rw [Except.bind_ok] at ran
    obtain ⟨profile, _, ran⟩ := ran
    split at ran
    · cases ran
    · rw [Except.bind_ok] at ran
      obtain ⟨payload, _, ran⟩ := ran
      have same : candidate.job = job := by
        split at ran
        · simp only [Except.bind_ok] at ran
          obtain ⟨_, _, context, _, built⟩ := ran
          cases built
          rfl
        · simp only [Except.bind_ok] at ran
          obtain ⟨_, _, context, _, built⟩ := ran
          cases built
          rfl
      rw [same]
      exact mem_claimQueue.mp (List.mem_of_head? head)

/-- What the transaction of a legacy claim may start is a candidate of a store that the call has seen. -/
def StartsSeen (seen : Db → Db → Prop) (P : Db → Prop) (request : ClaimRequest) : Prop :=
  ∀ hostId candidate current (w w' : Work Db) view, seen view w.store →
    findLegacyCandidate view request hostId = .ok (some candidate) →
    (claimLegacyBody request hostId candidate current).run w = .ok .claimed w' → P w.store → P w'.store

/-- A call that is alone on the store starts a candidate of the store. -/
theorem Moving.startsSeen (moving : Moving since P) (request : ClaimRequest) :
    StartsSeen Eq P request := by
  rintro hostId candidate current w w' view rfl read ran holds
  obtain ⟨member, claimable⟩ := findLegacyCandidate_ok read
  exact moving _ _ (.started member claimable ran) holds

/-- The transaction of a legacy claim, whose candidate was read before it. -/
theorem triple_claimLegacyTransaction (refl : ∀ t, seen t t) {request : ClaimRequest}
    (starts : StartsSeen seen P request) (hostId : String) (candidate : LegacyCandidate) (current : Nat) :
    Tx.Triple since seen P (fun t => P t ∧
        ∃ view, seen view t ∧ findLegacyCandidate view request hostId = .ok (some candidate))
      (claimLegacyTransaction request hostId candidate current) fun _ => P := by
  have body : Tx.Triple since seen P (fun t => P t ∧
        ∃ view, seen view t ∧ findLegacyCandidate view request hostId = .ok (some candidate))
      (Tx.within (claimLegacyBody request hostId candidate current))
      fun outcome t => outcome ≠ .lost → P t := by
    refine Tx.triple_within fun w outcome w' _ ran ⟨holds, view, visible, read⟩ kept => ?_
    cases outcome with
    | replayed result =>
      obtain ⟨_, _, store, _⟩ | ⟨_, other | ⟨other, _⟩⟩ := claimLegacyBody_ok ran
      · rw [store]
        exact holds
      · cases other
      · cases other
    | lost => exact absurd rfl kept
    | claimed => exact starts hostId candidate current w w' view visible read ran holds
  refine Tx.triple_bind (Tx.triple_begin _) fun _ =>
    Tx.triple_tryCatch (Tx.triple_bind body fun outcome => ?_) (Tx.triple_rollback_throw refl)
  split
  · exact Tx.triple_bind (Tx.triple_rollback refl) fun _ => Tx.maintains_pure _
  · rename_i kept
    exact Tx.triple_bind (Tx.triple_commit refl fun t after => after kept) fun _ =>
      Tx.triple_pure fun _ after => after kept

theorem Moving.claimLegacy (moving : Moving since P) (refl : ∀ t, seen t t) {request : ClaimRequest}
    (starts : StartsSeen seen P request) (hostId : String) :
    Tx.Maintains since seen P (claimLegacy request hostId) := by
  refine Tx.maintains_bind (Tx.maintains_raiseIf _ _) fun _ =>
    Tx.triple_bind (Tx.triple_query refl _) fun found =>
    Tx.triple_bind (Tx.triple_orRaise _ _) fun candidate => ?_
  split
  · exact (maintains_replayEmptyQueue moving refl request hostId).mono (fun _ before => before.1.1)
      fun _ _ after => after
  · rename_i candidate
    refine Tx.triple_bind (Tx.triple_clock _) fun current => Tx.triple_bind
      ((triple_claimLegacyTransaction refl starts hostId candidate current).mono
        (fun t before => ⟨before.1.1, before.1.2.imp fun view own => ⟨own.1, own.2.trans before.2⟩⟩)
        fun _ _ after => after)
      fun outcome => ?_
    split
    · exact Tx.maintains_pure _
    · exact Tx.maintains_pure _
    · exact Tx.maintains_bind (Tx.maintains_query _) fun _ =>
        Tx.maintains_bind (Tx.maintains_orRaise _ _) fun _ =>
        Tx.maintains_bind (Tx.maintains_orRaise _ _) fun _ => Tx.maintains_pure _

theorem Moving.claimJob (moving : Moving since P) (refl : ∀ t, seen t t) {request : ClaimRequest}
    (starts : StartsSeen seen P request) : Tx.Maintains since seen P (claimJob request) := by
  refine Tx.maintains_bind (Tx.maintains_orRaise _ _) fun _ =>
    Tx.maintains_bind (Tx.maintains_query _) fun _ =>
    Tx.maintains_bind (Tx.maintains_orRaise _ _) fun hostId =>
    Tx.maintains_bind (maintains_replayClaimOutside _ _) fun replay => ?_
  split
  · exact Tx.maintains_pure _
  · refine Tx.maintains_bind (maintains_touchAgentActivityOutside moving.quiet _) fun touched => ?_
    dsimp only
    split
    on_goal 1 => refine Tx.maintains_bind (Tx.maintains_commit refl) fun _ => ?_
    all_goals
      refine Tx.maintains_bind (Tx.maintains_query _) fun _ =>
        Tx.maintains_bind (Tx.maintains_orRaise _ _) fun binding => ?_
      split
      · exact moving.claimManaged refl _ _
      · exact moving.claimLegacy refl starts _

end Claim

section Mutations

theorem Moving.renewManagedLease (moving : Moving since P) (refl : ∀ t, seen t t) (leaseId jobId : String) (attemptToken : Int)
    (agentId : String) (ttlSeconds : Int) :
    Tx.Maintains since seen P (renewManagedLease leaseId jobId attemptToken agentId ttlSeconds) :=
  Tx.maintains_bind (Tx.maintains_orRaise _ _) fun _ =>
    Tx.maintains_atomically (refl) fun _ _ _ late ran => moving _ _ (.renewed late ran)

theorem Moving.recordJobProgress (moving : Moving since P) (report : ProgressReport) :
    Tx.Maintains since Eq P (recordJobProgress report) :=
  Tx.maintains_bind (Tx.maintains_query _) fun _ => Tx.maintains_bind (Tx.maintains_orRaise _ _)
    fun _ => Tx.maintains_bind (Tx.maintains_clock _) fun _ => Tx.maintains_bind
    (Tx.maintains_atomically (fun _ => rfl) fun _ _ _ _ ran => moving _ _ (.progressed ran)) fun _ =>
    Tx.maintains_bind (Tx.maintains_query _) fun _ => Tx.maintains_bind (Tx.maintains_orRaise _ _)
    fun _ => Tx.maintains_bind (Tx.maintains_orRaise _ _) fun _ =>
    Tx.maintains_bind (Tx.maintains_orRaise _ _) fun _ => Tx.maintains_pure _

theorem Moving.replayTerminalResult (moving : Moving since P) (refl : ∀ t, seen t t) (job : JobRow) (report : ResultReport)
    (result : Json) (reason : String) :
    Tx.Maintains since seen P (replayTerminalResult job report result reason) :=
  Tx.maintains_bind
    (moving.appendEventAndCommit refl _ (show "job.result_replayed" ≠ progressType by decide)) fun _ =>
    Tx.maintains_bind (Tx.maintains_orRaise _ _) fun _ =>
    Tx.maintains_bind (Tx.maintains_orRaise _ _) fun _ => Tx.maintains_pure _

theorem Moving.reportRunning (moving : Moving since P) (refl : ∀ t, seen t t) (report : ResultReport) (status : ReportStatus)
    (job : JobRow) (result : Json) (usage : Option Usage.UsageEvidence) :
    Tx.Maintains since seen P (reportRunning report status job result usage) :=
  Tx.maintains_bind (Tx.maintains_raiseIf _ _) fun _ => Tx.maintains_bind (Tx.maintains_clock _)
    fun _ => Tx.maintains_bind
    (Tx.maintains_atomically (refl) fun _ _ _ _ ran => moving _ _ (.reported ran)) fun _ =>
    Tx.maintains_bind (Tx.maintains_query _) fun _ => Tx.maintains_bind (Tx.maintains_orRaise _ _)
    fun _ => Tx.maintains_bind (Tx.maintains_orRaise _ _) fun _ => Tx.maintains_pure _

/-- A late result: its swap may have reached no row, and then the transaction is given up. -/
theorem Moving.acceptLateResult (moving : Moving since P) (refl : ∀ t, seen t t) (report : ResultReport) (status : ReportStatus)
    (job : JobRow) (result : Json) (usage : Option Usage.UsageEvidence) :
    Tx.Maintains since seen P (acceptLateResult report status job result usage) := by
  refine Tx.maintains_bind (Tx.maintains_clock _) fun current => Tx.maintains_bind
    (Tx.triple_begin _) fun _ => Tx.maintains_bind
    (Tx.triple_tryCatch ?_ (Tx.triple_rollback_throw refl)) fun outcome => ?_
  · have swap : Tx.Triple since seen P P (Tx.within (swapLateJob report status job result usage current))
        fun swapped t => swapped.1 ≠ 0 → P t :=
      Tx.triple_within fun _ _ _ _ ran holds matched => moving _ _ (.late ran matched) holds
    refine Tx.triple_bind swap fun swapped => ?_
    dsimp only
    split
    · exact Tx.triple_bind (Tx.triple_rollback refl) fun _ =>
        Tx.maintains_bind (Tx.maintains_query _) fun _ =>
        Tx.maintains_bind (Tx.maintains_orRaise _ _) fun _ =>
        Tx.maintains_bind (Tx.maintains_raiseIf _ _) fun _ =>
        Tx.maintains_map (moving.replayTerminalResult refl _ _ _ _)
    · rename_i matched
      exact ((Tx.maintains_bind (moving.quiet (keeps_applyLateResult _ _ _ _ _)) fun _ =>
        Tx.maintains_bind (Tx.maintains_commit refl) fun _ => Tx.maintains_pure _)).mono
          (fun t after => after matched) fun _ _ after => after
  · split
    · exact Tx.maintains_pure _
    · exact Tx.maintains_bind (Tx.maintains_query _) fun _ =>
        Tx.maintains_bind (Tx.maintains_orRaise _ _) fun _ =>
        Tx.maintains_bind (Tx.maintains_orRaise _ _) fun _ =>
        Tx.maintains_bind (Tx.maintains_orRaise _ _) fun _ =>
        Tx.maintains_bind (Tx.maintains_orRaise _ _) fun _ => Tx.maintains_pure _

theorem Moving.reportJobResult (moving : Moving since P) (refl : ∀ t, seen t t) (report : ResultReport) :
    Tx.Maintains since seen P (reportJobResult report) := by
  unfold Coordinate.reportJobResult
  split
  · exact Tx.maintains_throw _
  · refine Tx.maintains_bind (Tx.maintains_orRaise _ _) fun split => ?_
    refine Tx.maintains_bind (Tx.maintains_query _) fun _ => Tx.maintains_bind
      (Tx.maintains_orRaise _ _) fun job => Tx.maintains_bind (Tx.maintains_raiseIf _ _) fun _ => ?_
    split
    · exact moving.replayTerminalResult refl _ _ _ _
    · exact moving.replayTerminalResult refl _ _ _ _
    · exact moving.replayTerminalResult refl _ _ _ _
    · exact moving.acceptLateResult refl _ _ _ _ _
    · exact moving.reportRunning refl _ _ _ _ _
    · exact Tx.maintains_throw _

end Mutations

section Reaper

/-- A reaper of one lease keeps the invariant whether or not the lease is still due. -/
theorem Moving.reapOneLease (moving : Moving since P) {lease : LeaseRow} {actor : String} {current : Nat}
    {outcome : Option ReapOutcome} {w w' : Work Db}
    (ran : (reapOneLease lease actor current).run w = .ok outcome w') (holds : P w.store) :
    P w'.store := by
  obtain rfl | ⟨due, job, member, _, active, _, expires⟩ := reapOneLease_ok ran
  · exact holds
  · exact moving _ _ (.expired member active expires) holds

/-- The exception of one turn has been rolled back when the next turn starts. -/
theorem Moving.reapCommitted (moving : Moving since P) (refl : ∀ t, seen t t) (lease : LeaseRow) (actor : String)
    (current : Nat) : Tx.Maintains since seen P (reapCommitted lease actor current) := by
  intro s settled holds
  have turn : Tx.Maintains since seen P
      (Tx.atomically Exn.nestedBegin (Coordinate.reapOneLease lease actor current)) :=
    Tx.maintains_atomically (refl) fun _ _ _ _ ran => moving.reapOneLease ran
  have after := turn s settled holds
  rw [Coordinate.reapCommitted, Tx.tryCatch_run, Tx.map_run]
  cases outcome : (Tx.atomically Exn.nestedBegin (Coordinate.reapOneLease lease actor current)).run s
    with
  | ok a s' =>
    rw [outcome] at after
    exact after
  | error e s' =>
    rw [outcome] at after
    refine ⟨after, ?_⟩
    cases saved : s.saved with
    | none =>
      obtain ⟨_, _, _, result⟩ | ⟨_, _, _, result⟩ := Tx.atomically_cases saved
      · rw [outcome] at result
        cases result
      · rw [outcome] at result
        cases result
        exact holds
    | some store =>
      rw [Tx.atomically, Tx.bind_run, Tx.begin_run_nested saved] at outcome
      cases outcome
      exact holds

theorem Moving.reapEachCommitted (moving : Moving since P) (refl : ∀ t, seen t t) (actor : String) (current : Nat) :
    ∀ leases, Tx.Maintains since seen P (reapEachCommitted actor current leases)
  | [] => Tx.maintains_pure _
  | lease :: rest => Tx.maintains_bind (moving.reapCommitted refl lease actor current) fun _ =>
      Tx.maintains_bind (moving.reapEachCommitted refl actor current rest) fun _ => Tx.maintains_pure _

theorem Moving.reapDueLeases (moving : Moving since P) (refl : ∀ t, seen t t) (actor : String) (supplied : Option Nat)
    (batchSize : Nat) : Tx.Maintains since seen P (reapDueLeases actor supplied batchSize) := by
  unfold Coordinate.reapDueLeases
  split
  all_goals
    refine Tx.maintains_bind ?_ fun current => Tx.maintains_bind (Tx.maintains_query _) fun _ =>
      Tx.maintains_bind (Tx.maintains_orRaise _ _) fun due =>
      Tx.maintains_bind (moving.reapEachCommitted refl actor current due) fun _ => Tx.maintains_pure _
  · exact Tx.maintains_pure _
  · exact Tx.maintains_clock _

theorem reapExactLeaseBody_ok {leaseId jobId actor : String} {current : Nat}
    {outcome : ReapOutcome} {w w' : Work Db}
    (ran : (reapExactLeaseBody leaseId jobId actor current).run w = .ok outcome w') :
    ∃ lease job, lease ∈ w.store.leases ∧ lease.leaseId = leaseId ∧ lease.jobId = jobId ∧
      lease.status = .active ∧ lease.expiresAt ≤ current ∧
      Expires lease actor current w w' job := by
  rw [reapExactLeaseBody, Txn.bind_ok] at ran
  obtain ⟨_, _, read, ran⟩ := ran
  simp only [Txn.read_run, id_eq, EStateM.Result.ok.injEq] at read
  obtain ⟨rfl, rfl⟩ := read
  split at ran
  · simp at ran
  · simp only [Txn.bind_ok, Txn.raiseIf_ok] at ran
    obtain ⟨_, _, ⟨_, rfl⟩, ran⟩ := ran
    split at ran
    · simp at ran
    · simp at ran
    · rename_i revalidated checked
      obtain ⟨member, id, job, _, _, active, due⟩ := requireActiveLeaseForReap_ok checked
      rw [Txn.tryCatch_run] at ran
      cases expired : (expireRevalidatedLease revalidated actor current).run w with
      | ok a after =>
        rw [expired] at ran
        cases ran
        obtain ⟨row, expires⟩ := expireRevalidatedLease_ok expired
        exact ⟨revalidated, row, member, id, job, active, due, expires⟩
      | error e after =>
        rw [expired] at ran
        dsimp only at ran
        split at ran <;> simp at ran

theorem Moving.reapExactLease (moving : Moving since P) (refl : ∀ t, seen t t) (leaseId jobId actor : String)
    (supplied : Option String) : Tx.Maintains since seen P (reapExactLease leaseId jobId actor supplied) := by
  have reap : ∀ current, Tx.Maintains since seen P (Tx.atomically Exn.nestedBegin
      (reapExactLeaseBody leaseId jobId actor current)) := fun current => by
    refine Tx.maintains_atomically (refl) fun w outcome w' _ ran holds => ?_
    obtain ⟨lease, job, member, _, _, active, _, expires⟩ := reapExactLeaseBody_ok ran
    exact moving _ _ (.expired member active expires) holds
  refine Tx.maintains_bind (Tx.maintains_orRaise _ _) fun _ => Tx.maintains_bind
    (Tx.maintains_orRaise _ _) fun _ => Tx.maintains_bind (Tx.maintains_orRaise _ _) fun _ => ?_
  split
  · exact Tx.maintains_bind (Tx.maintains_clock _) reap
  · refine Tx.maintains_bind (Tx.maintains_raiseIf _ _) fun _ => ?_
    split
    · exact Tx.maintains_bind (Tx.maintains_throw _) reap
    · exact Tx.maintains_bind (Tx.maintains_pure _) reap

end Reaper

section Cancellation

/-- A store in which the lease of a job that is being cancelled has ended already. -/
def Cancelling (P : Db → Prop) (job : JobRow) (t : Db) : Prop :=
  ∃ s leases, P s ∧ job ∈ s.jobs ∧ CancelsLease s job leases ∧ t = { s with leases }

/-- The `UPDATE` of a cancellation completes it. -/
theorem Moving.markJobCancelled (moving : Moving since P) (job : JobRow) (reason : Option String) :
    Tx.Triple since Eq P (Cancelling P job) (markJobCancelled job.id reason) fun _ => P := by
  refine Tx.triple_bind (Tx.triple_query_current _) fun found =>
    Tx.triple_bind (Tx.triple_orRaise _ _) fun row => ?_
  have same : ∀ t, (Cancelling P job t ∧ getJob t job.id = found) ∧ found = .ok row →
      Cancelling P job t ∧ row = job := by
    rintro t ⟨⟨cancelling, read⟩, rfl⟩
    obtain ⟨s, leases, holds, member, freed, rfl⟩ := cancelling
    obtain ⟨rowMember, id⟩ := getJob_eq_ok.mp read
    exact ⟨⟨s, leases, holds, member, freed, rfl⟩, job_unique rowMember member id⟩
  have update (unfinished : row.status.isFinal = false) :
      Tx.Triple since Eq P (fun t => Cancelling P job t ∧ row = job) (do
      let result ← orRaise id (cancelledResult row reason)
      let current ← Tx.clock now
      Tx.within do
        let _ ← updateJobs (·.id = job.id) (cancelledJob result current)
        readOrRaise (getJob · job.id)) fun _ => P := by
    refine Tx.triple_bind (Tx.triple_orRaise _ _) fun result =>
      Tx.triple_bind (Tx.triple_clock _) fun current =>
      Tx.triple_within fun w stored w' _ ran ⟨⟨cancelling, own⟩, _⟩ => ?_
    obtain ⟨s, leases, holds, member, freed, store⟩ := cancelling
    simp only [Txn.bind_ok, updateJobs_ok, readOrRaise_ok] at ran
    obtain ⟨_, _, ⟨jobs, updated, _, rfl⟩, _, rfl⟩ := ran
    simp only [store] at updated ⊢
    exact moving s _ (.cancelled member freed (.inr ⟨own ▸ unfinished, updated⟩)) holds
  split
  · rename_i status
    refine Tx.triple_pure fun t before => ?_
    obtain ⟨⟨s, leases, holds, member, freed, rfl⟩, rfl⟩ := same t before
    have stopped : row.status = .cancelled ∧ s.jobs = s.jobs ∨ row.status.isFinal = false ∧
        s.jobs.update? (·.id = row.id) (cancelledJob .null 0) = some s.jobs := .inl ⟨status, rfl⟩
    exact moving s _ (.cancelled member freed stopped) holds
  · exact Tx.triple_throw _
  · exact Tx.triple_throw _
  · rename_i cancelled done failed
    refine (update ?_).mono same fun _ _ after => after
    cases status : row.status with
    | cancelled => exact absurd status cancelled
    | done => exact absurd status done
    | failed => exact absurd status failed
    | _ => rfl

/-- The release that precedes a cancellation. -/
theorem triple_cancelLease (job : JobRow) (lease : LeaseRow) :
    Tx.Triple since Eq P (fun t => P t ∧ job ∈ t.jobs ∧ t.leases.find? (fun lease => lease.jobId = job.id &&
        lease.attemptToken = job.attemptCount && lease.status = .active) = some lease)
      (releaseAttemptLeaseOutside lease.leaseId job.id lease.attemptToken lease.agentId
        "job_cancelled") fun _ => Cancelling P job := by
  refine Tx.triple_bind ((Tx.triple_orRaise _ _).mono (fun _ before => before)
    fun _ _ after => after.1) fun _ => Tx.triple_bind (Tx.triple_clock _) fun releasedAt =>
    Tx.triple_bind (Tx.triple_query_current _) fun checked =>
    Tx.triple_bind (Tx.triple_orRaise _ _) fun needed => ?_
  have facts : ∀ t, ((P t ∧ job ∈ t.jobs ∧ t.leases.find? (fun lease => lease.jobId = job.id &&
        lease.attemptToken = job.attemptCount && lease.status = .active) = some lease) ∧
      checkRelease t lease.leaseId job.id lease.attemptToken lease.agentId "job_cancelled" =
        checked) ∧ checked = .ok needed →
      P t ∧ job ∈ t.jobs ∧ lease ∈ t.leases ∧ lease.jobId = job.id ∧
        lease.attemptToken = job.attemptCount ∧ needed = true := by
    rintro t ⟨⟨⟨holds, member, found⟩, rfl⟩, needs⟩
    obtain ⟨leaseMember, chosen⟩ := Table.find?_some found
    simp only [Bool.and_eq_true, decide_eq_true_eq] at chosen
    obtain ⟨other, otherMember, id, _, _, _, ⟨needed, _⟩ | ⟨_, released⟩⟩ := checkRelease_ok needs
    · exact ⟨holds, member, leaseMember, chosen.1.1, chosen.1.2, needed⟩
    · rw [lease_unique otherMember leaseMember id, chosen.2] at released
      cases released
  split
  · refine Tx.triple_within fun w u w' _ ran before => ?_
    obtain ⟨holds, member, leaseMember, jobId, token, _⟩ := facts _ before
    obtain ⟨leases, updated, rfl⟩ := markReleased_ok.mp ran
    exact ⟨w.store, leases, holds, member, .released lease leaseMember jobId token _ updated, rfl⟩
  · rename_i unneeded
    refine Tx.triple_pure fun t before => ?_
    exact absurd (facts t before).2.2.2.2.2 unneeded

theorem Moving.cancelJob (moving : Moving since P) (jobId : String) (reason : Option String)
    (actor : String) : Tx.Maintains since Eq P (cancelJob jobId reason actor) := by
  refine Tx.maintains_bind (Tx.triple_withConnection (fun _ => rfl) ?_ fun _ _ holds => holds) fun _ =>
    Tx.maintains_bind (Tx.maintains_orRaise _ _) fun _ =>
    Tx.maintains_bind (Tx.maintains_orRaise _ _) fun _ => Tx.maintains_pure _
  refine Tx.triple_bind (Tx.triple_query_current _) fun found => Tx.triple_bind (Tx.triple_orRaise _ _)
    fun job => Tx.triple_bind (Tx.triple_raiseIf _ _) fun _ =>
    Tx.triple_bind (Tx.triple_query_current _) fun held => ?_
  have read : ∀ t, ((P t ∧ getJob t jobId = found) ∧ found = .ok job) → P t ∧ job ∈ t.jobs ∧
      job.id = jobId := by
    rintro t ⟨⟨holds, rfl⟩, same⟩
    obtain ⟨member, id⟩ := getJob_eq_ok.mp same
    exact ⟨holds, member, id⟩
  have finish : Tx.Triple since Eq P (Cancelling P job) (do
      let cancelled ← Coordinate.markJobCancelled job.id reason
      let event ← Tx.within (appendEvent (cancelledEvent job job.id reason actor))
      return (cancelled, event)) fun _ => P :=
    Tx.triple_bind (moving.markJobCancelled job reason) fun _ =>
      Tx.maintains_bind
        (moving.quiet (keeps_appendOther _ (show "job.cancelled" ≠ progressType by decide))) fun _ =>
        Tx.maintains_pure _
  cases held with
  | some lease =>
    intro s settled before
    obtain ⟨holds, member, rfl⟩ := read _ before.1.1
    exact Tx.triple_bind (triple_cancelLease job lease) (fun _ => finish) s settled
      ⟨holds, member, before.2⟩
  | none =>
    intro s settled before
    obtain ⟨holds, member, rfl⟩ := read _ before.1.1
    refine finish s settled ⟨s.work.store, s.work.store.leases, holds, member,
      .free (fun lease leaseMember same token active => ?_) rfl, rfl⟩
    have missing := Table.find?_none before.2 lease leaseMember
    simp [same, token, active] at missing

end Cancellation

section Others

theorem Moving.retryJob (moving : Moving since P) (jobId : String) (reason : Option String)
    (actor : String) : Tx.Maintains since Eq P (retryJob jobId reason actor) :=
  Tx.maintains_bind (Tx.maintains_query _) fun _ => Tx.maintains_bind (Tx.maintains_orRaise _ _)
    fun _ => Tx.maintains_bind (Tx.maintains_raiseIf _ _) fun _ =>
    Tx.maintains_bind (Tx.maintains_orRaise _ _) fun _ =>
    Tx.maintains_bind (Tx.maintains_raiseIf _ _) fun _ =>
    Tx.maintains_bind (Tx.maintains_query _) fun _ => Tx.maintains_bind
    (Tx.maintains_within fun _ _ _ _ ran => moving _ _ (.created ran)) fun _ =>
    Tx.maintains_bind (Tx.maintains_commit fun _ => rfl) fun _ =>
    Tx.maintains_bind
      (moving.appendEventAndCommit (fun _ => rfl) _ (show "job.retry_requested" ≠ progressType by decide)) fun _ =>
    Tx.maintains_bind (Tx.maintains_orRaise _ _) fun _ =>
    Tx.maintains_bind (Tx.maintains_orRaise _ _) fun _ =>
    Tx.maintains_bind (Tx.maintains_orRaise _ _) fun _ => Tx.maintains_pure _

omit [Platform] in
theorem keeps_upsertAgent (row : AgentRow) : Txn.Keeps activity (upsertAgent row) := by
  refine Txn.keeps_bind (Txn.keeps_read _) fun known => ?_
  split
  · exact keeps_replaceTable fun _ _ => rfl
  · exact keeps_replaceTable fun _ _ => rfl

theorem Moving.registerAgent (moving : Moving since P) (registration : Registration) :
    Tx.Maintains since Eq P (registerAgent registration) := by
  have announce : ∀ event : NewEvent, event.eventType ≠ progressType → Tx.Maintains since Eq P (do
      let event ← Coordinate.appendEventAndCommit event
      orRaise id event.row.toDict) := fun event other =>
    Tx.maintains_bind (moving.appendEventAndCommit (fun _ => rfl) event other) fun _ => Tx.maintains_orRaise _ _
  have registered : "agent.registered" ≠ progressType := by decide
  refine Tx.maintains_bind (Tx.maintains_raiseIf _ _) fun _ =>
    Tx.maintains_bind (Tx.maintains_raiseIf _ _) fun _ =>
    Tx.maintains_bind (Tx.maintains_raiseIf _ _) fun _ =>
    Tx.maintains_bind (Tx.maintains_clock _) fun _ =>
    Tx.maintains_bind (moving.quiet (keeps_upsertAgent _)) fun _ =>
    Tx.maintains_bind (Tx.maintains_commit fun _ => rfl) fun _ => ?_
  dsimp only
  split
  · refine Tx.maintains_bind (Tx.maintains_query _) fun _ =>
      Tx.maintains_bind (Tx.maintains_orRaise _ _) fun _ => ?_
    split
    · exact Tx.maintains_bind (moving.quiet (keeps_replaceTable fun _ _ => rfl)) fun _ =>
        Tx.maintains_bind (Tx.maintains_commit fun _ => rfl) fun _ => announce _ registered
    · exact announce _ registered
  · exact announce _ registered

theorem Moving.heartbeatAgent (moving : Moving since P) (agentId hostId actor : String) :
    Tx.Maintains since Eq P (heartbeatAgent agentId hostId actor) := by
  refine Tx.maintains_bind (Tx.maintains_query _) fun agent => ?_
  split
  · exact Tx.maintains_throw _
  · exact Tx.maintains_bind (Tx.maintains_raiseIf _ _) fun _ =>
      Tx.maintains_bind (Tx.maintains_clock _) fun _ =>
      Tx.maintains_bind (moving.quiet (keeps_replaceTable fun _ _ => rfl)) fun _ =>
      Tx.maintains_bind (Tx.maintains_commit fun _ => rfl) fun _ =>
      Tx.maintains_bind
        (moving.appendEventAndCommit (fun _ => rfl) _ (show "agent.heartbeat" ≠ progressType by decide)) fun _ =>
        Tx.maintains_orRaise _ _

theorem keeps_takeOffline (request : Deactivation) (prior : List EventDict) :
    Txn.Keeps activity (takeOffline request prior) := by
  refine Txn.keeps_bind keeps_utcNow fun _ => Txn.keeps_bind (Txn.keeps_read _) fun _ =>
    Txn.keeps_bind (keeps_replaceTable fun _ _ => rfl) fun _ =>
    Txn.keeps_bind (Txn.keeps_raiseIf _ _) fun _ =>
    Txn.keeps_bind (keeps_appendOther _ (show "agent.deactivated" ≠ progressType by decide)) fun _ =>
    Txn.keeps_bind (Txn.keeps_raiseIf _ _) fun _ => Txn.keeps_bind (Txn.keeps_read _) fun agent => ?_
  split
  · exact Txn.keeps_throw _
  · exact Txn.keeps_bind (Txn.keeps_orRaise _ _) fun _ => Txn.keeps_pure _

theorem keeps_deactivateAgentBody (request : Deactivation) :
    Txn.Keeps activity (deactivateAgentBody request) := by
  refine Txn.keeps_bind (Txn.keeps_read _) fun db =>
    Txn.keeps_bind (Txn.keeps_orRaise _ _) fun agent => ?_
  dsimp only
  split
  · exact Txn.keeps_pure _
  · split
    · exact Txn.keeps_pure _
    · refine Txn.keeps_bind (Txn.keeps_orRaise _ _) fun prior => ?_
      split
      · exact Txn.keeps_bind (keeps_takeOffline _ _) fun _ => Txn.keeps_pure _
      · split
        · exact Txn.keeps_throw _
        · exact Txn.keeps_pure _

theorem Moving.deactivateAgent (moving : Moving since P) (request : Deactivation) :
    Tx.Maintains since Eq P (deactivateAgent request) :=
  Tx.maintains_bind (Tx.maintains_orRaise _ _) fun _ => Tx.maintains_atomically (fun _ => rfl) fun _ _ _ _ ran =>
    moving _ _ (.quiet ((keeps_deactivateAgentBody request).of_ok ran) (ledger_of_ok ran))

omit [Platform] in
theorem activity_replaceCatalog {catalog : ExecutorCatalog} {s t : Db}
    (replaced : replaceCatalog catalog s = some t) : activity t = activity s := by
  simp only [replaceCatalog, Option.bind_eq_bind, Option.bind_eq_some_iff, Option.pure_def,
    Option.some.injEq] at replaced
  obtain ⟨_, _, _, _, _, _, rfl⟩ := replaced
  rfl

omit [Platform] in
theorem keeps_syncExecutorCatalogBody (catalog : ExecutorCatalog) :
    Txn.Keeps activity (syncExecutorCatalogBody catalog) := by
  refine Txn.keeps_bind (Txn.keeps_read _) fun db =>
    Txn.keeps_bind (Txn.keeps_orRaise _ _) fun _ => ?_
  split
  · exact Txn.keeps_pure _
  · exact Txn.keeps_bind (Txn.keeps_orRaise _ _) fun _ =>
      Txn.keeps_bind (Txn.keeps_write fun _ _ replaced => activity_replaceCatalog replaced) fun _ =>
      Txn.keeps_pure _

/-- Every call keeps every invariant of the moves of the queue. -/
theorem Moving.run (moving : Moving since P) (call : Call) : Tx.Maintains since Eq P call.run := by
  cases call with
  | submit request => exact Tx.maintains_map (moving.submitRequest request)
  | claim request => exact Tx.maintains_map (moving.claimJob (fun _ => rfl) (moving.startsSeen request))
  | renew leaseId jobId attemptToken agentId ttlSeconds =>
    exact Tx.maintains_map (moving.renewManagedLease (fun _ => rfl) _ _ _ _ _)
  | progress request => exact Tx.maintains_map (moving.recordJobProgress request)
  | report request => exact Tx.maintains_map (moving.reportJobResult (fun _ => rfl) request)
  | reapDue actor supplied batchSize =>
    exact Tx.maintains_map (moving.reapDueLeases (fun _ => rfl) actor supplied batchSize)
  | reapExact leaseId jobId actor supplied =>
    exact Tx.maintains_map (moving.reapExactLease (fun _ => rfl) leaseId jobId actor supplied)
  | cancel jobId reason actor => exact Tx.maintains_map (moving.cancelJob jobId reason actor)
  | retry jobId reason actor => exact Tx.maintains_map (moving.retryJob jobId reason actor)
  | deactivate request => exact Tx.maintains_map (moving.deactivateAgent request)
  | register registration => exact Tx.maintains_map (moving.registerAgent registration)
  | heartbeat agentId hostId actor =>
    exact Tx.maintains_map (moving.heartbeatAgent agentId hostId actor)
  | syncCatalog catalog =>
    exact Tx.maintains_map (Tx.maintains_atomically (fun _ => rfl) fun _ _ _ _ ran =>
      moving _ _ (.quiet ((keeps_syncExecutorCatalogBody catalog).of_ok ran) (ledger_of_ok ran)))

/-- An invariant of the moves holds in every state of a sequential run. -/
theorem Moving.reachable (moving : Moving 0 P) (initial : P Db.empty) {work : Work Db}
    (reachable : Reachable work) : P work.store :=
  reachable.induct initial (fun call _ holds => (moving.run call).settle (Nat.zero_le _) rfl holds)
    fun s t configures => moving s t (.quiet (by
      simp only [activity, progressRows, queue, configures.jobs, configures.leases,
        configures.events]) (configures.events ▸ List.prefix_rfl))

/-- An invariant of the moves from some reading of the clock on holds in every later state. -/
theorem Moving.later (moving : Moving since P) {work later : Work Db} (late : since ≤ work.tick)
    (steps : Relation.ReflTransGen Step work later) (holds : P work.store) : P later.store := by
  induction steps with
  | refl => exact holds
  | tail before step ih =>
    cases step with
    | call call => exact (moving.run call).settle (late.trans (advances_of_run before)) rfl ih
    | configure store configures =>
      exact moving _ _ (.quiet (by simp only [activity, progressRows, queue, configures.jobs, configures.leases,
        configures.events]) (configures.events ▸ List.prefix_rfl)) ih

/-- An invariant of the transitions holds in every state of a sequential run. -/
theorem Closed.reachable (closed : Closed 0 P) (initial : P Db.empty) {work : Work Db}
    (reachable : Reachable work) : P work.store :=
  closed.moving.reachable initial reachable

end Others

end Coordinate

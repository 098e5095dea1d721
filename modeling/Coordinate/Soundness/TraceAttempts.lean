import Coordinate.Model.Installation
import Coordinate.Proofs.Runs
import Coordinate.Soundness.TraceProjection

/-! # The trace of the current attempt

The projection tells the reports of an attempt from older ones by the seconds of two events, and the
sessions that a job names outlive its attempts. `Fresh` is what a claim has to find for the projection
to be right; in a run whose claims are all fresh, the evidence shown belongs to the current attempt.
-/

namespace Coordinate.Trace

section Ledger

variable [Platform] {s t : Db}

/-- The event names the job. -/
def ReportsOn (jobId : String) (row : EventRow) : Prop := hasField "job_id" jobId row = .ok true

/-- What the ledger says of the attempts of a store. -/
structure Accounted (db : Db) : Prop where
  started : ∀ job ∈ db.jobs, job.status = .running → job.attemptCount ≠ 0
  claimed : ∀ job ∈ db.jobs, job.attemptCount ≠ 0 →
    ∃ row ∈ db.events, row.idempotencyKey = claimedKey job.id job.attemptCount
  reported : ∀ row ∈ progressRows db, ∃ job ∈ db.jobs, ReportsOn job.id row ∧ job.attemptCount ≠ 0

omit [Platform] in
theorem ReportsOn.job_eq {a b : String} {row : EventRow} (first : ReportsOn a row)
    (second : ReportsOn b row) : a = b := by
  unfold ReportsOn hasField at first second
  split at first
  · rename_i payload own
    rw [own] at second
    have left := of_decide_eq_true (Except.ok.inj first)
    have right := of_decide_eq_true (Except.ok.inj second)
    exact Json.str.inj (left.symm.trans right)
  · cases first

namespace Accounted

omit [Platform] in
theorem empty : Accounted Db.empty where
  started _ member := absurd member (Table.not_mem_empty _)
  claimed _ member := absurd member (Table.not_mem_empty _)
  reported _ := (absurd · List.not_mem_nil)

omit [Platform] in
/-- Where no attempt starts, the new progress reports are the only ones to look at. -/
theorem steady (accounted : Accounted s) (jobs : Steady s t) (ledger : s.events.rows <+: t.events.rows)
    (fresh : ∀ row ∈ progressRows t, row ∈ progressRows s ∨
      ∃ job ∈ s.jobs, ReportsOn job.id row ∧ job.attemptCount ≠ 0) : Accounted t where
  started job jobMember running := by
    obtain ⟨old, oldMember, _, attempt, ran⟩ | ⟨_, idle⟩ := jobs.origin job jobMember
    · rw [attempt]
      exact accounted.started old oldMember (ran running)
    · exact absurd running idle
  claimed job member begun := by
    obtain ⟨old, oldMember, id, attempt, _⟩ | ⟨none, _⟩ := jobs.origin job member
    · rw [attempt] at begun ⊢
      obtain ⟨row, rowMember, key⟩ := accounted.claimed old oldMember begun
      exact ⟨row, ledger.subset rowMember, id ▸ key⟩
    · exact absurd none begun
  reported row member := by
    have named : ∃ job ∈ s.jobs, ReportsOn job.id row ∧ job.attemptCount ≠ 0 :=
      (fresh row member).elim (accounted.reported row) id
    obtain ⟨old, oldMember, reports, begun⟩ := named
    obtain ⟨job, jobMember, id, attempt⟩ := jobs.kept old oldMember
    exact ⟨job, jobMember, id ▸ reports, attempt ▸ begun⟩

omit [Platform] in
/-- An attempt starts together with its event. -/
theorem start (accounted : Accounted s) {candidate : JobRow} {payload : Json} {current : Nat}
    (updated : s.jobs.update? (isCandidate candidate)
      (startedJob (candidate.attemptCount + 1) payload current) = some t.jobs)
    (ledger : s.events.rows <+: t.events.rows) (progress : progressRows t = progressRows s)
    {claim : EventRow} (stored : claim ∈ t.events)
    (key : claim.idempotencyKey = claimedKey candidate.id (candidate.attemptCount + 1)) : Accounted t := by
  have origin : ∀ job ∈ t.jobs, job.id = candidate.id ∧ job.attemptCount = candidate.attemptCount + 1 ∨
      job ∈ s.jobs := by
    intro job jobMember
    obtain ⟨old, oldMember, rfl⟩ := (Table.mem_update? updated).mp jobMember
    split
    · rename_i chosen
      simp only [isCandidate, Bool.and_eq_true, decide_eq_true_eq] at chosen
      exact .inl ⟨chosen.1, rfl⟩
    · exact .inr oldMember
  refine ⟨fun job jobMember running => ?_, fun job jobMember begun => ?_, fun row rowMember => ?_⟩
  · rcases origin job jobMember with ⟨_, attempt⟩ | old
    · rw [attempt]
      exact Nat.succ_ne_zero _
    · exact accounted.started job old running
  · rcases origin job jobMember with ⟨id, attempt⟩ | old
    · exact ⟨claim, stored, by rw [key, id, attempt]⟩
    · obtain ⟨row, rowMember, rowKey⟩ := accounted.claimed job old begun
      exact ⟨row, ledger.subset rowMember, rowKey⟩
  · rw [progress] at rowMember
    obtain ⟨old, oldMember, reports, begun⟩ := accounted.reported row rowMember
    refine ⟨_, (Table.mem_update? updated).mpr ⟨old, oldMember, rfl⟩, ?_⟩
    split
    · exact ⟨reports, Nat.succ_ne_zero _⟩
    · exact ⟨reports, begun⟩

variable {w w' : Work Db}

omit [Platform] in
/-- A value with a field is not replaced by a default. -/
theorem orElse_of_get {value other : Json} {key : String} (present : value.get key ≠ .null) :
    value.orElse other = value := by
  cases value with
  | obj fields =>
    cases fields with
    | nil => exact absurd rfl present
    | cons field rest => rfl
  | _ => exact absurd rfl present

omit [Platform] in
/-- What `_bounded_progress` keeps of a report has no field `job_id`. -/
theorem get_boundedProgress (stage summary sessionId : Option String) (target : Json) :
    (target.update (boundedProgress stage summary sessionId)).get "job_id" = target.get "job_id" := by
  refine Json.get_update_ne (fun field member => ?_) target
  simp only [List.mem_append] at member
  rcases member with (member | member) | member
  all_goals
    split at member
    · cases member
    · rw [List.mem_singleton.mp member]
      dsimp only
      decide

/-- The transaction of a progress report stores at most one event, which names the job. -/
theorem progressed (accounted : Accounted w.store) {report : ProgressReport} {job : JobRow} {current : Nat}
    {result : AppendEventResult}
    (ran : (recordJobProgressBody report job
      (boundedProgress report.stage report.summary report.sessionId) current).run w = .ok result w') :
    Accounted w'.store := by
  obtain ⟨stored, jobs, middle, event, member, id, running, updated, store, payload, appended⟩ :=
    recordJobProgressBody_appends ran
  have kept : w'.store.jobs = jobs := by
    have same := congrArg Prod.fst (queue_of_appended appended)
    rw [store] at same
    exact same
  subst kept
  refine accounted.steady (.of_update updated fun row => ⟨rfl, rfl, fun own => own⟩) (ledger_of_ok ran)
    fun row rowMember => ?_
  obtain ⟨inLedger, type⟩ := List.mem_filter.mp rowMember
  have old : row ∈ w.store.events.rows → row ∈ progressRows w.store :=
    fun own => List.mem_filter.mpr ⟨own, type⟩
  cases appended with
  | existing other otherMember key same =>
    rw [same, store] at inLedger
    exact .inl (old inLedger)
  | created events inserted same =>
    rw [same, store] at inLedger
    rw [store] at inserted
    rw [Table.insert?_rows inserted] at inLedger
    rcases List.mem_append.mp inLedger with own | own
    · exact .inl (old own)
    · refine .inr ⟨stored, member, ?_, accounted.started stored member running⟩
      have names : event.payload.get "job_id" = .str stored.id := by
        rw [payload, get_boundedProgress, id]
        rfl
      rw [List.mem_singleton.mp own]
      have filled : event.payload.orElse (.obj []) = event.payload :=
        orElse_of_get (by rw [names]; exact Json.noConfusion)
      simp only [ReportsOn, hasField, NewEvent.toRow, JsonText.dumps, filled, names, decide_true]
      rfl

/-- A legacy claim swaps its candidate and appends the event. -/
theorem startedLegacy (accounted : Accounted w.store) {request : ClaimRequest} {hostId : String}
    {candidate : LegacyCandidate} {current : Nat}
    (ran : (claimLegacyBody request hostId candidate current).run w = .ok .claimed w') :
    Accounted w'.store := by
  obtain ⟨_, other, _⟩ | ⟨_, other | ⟨_, jobs, started, payload, claimed, announced, updated, _,
    store, claimedRan, markerRan⟩⟩ := claimLegacyBody_ok ran
  · cases other
  · cases other
  · have claiming : activity announced.store = activity started.store :=
      (keeps_appendOther _ (show "job.claimed" ≠ progressType by decide)).of_ok claimedRan
    have marking := (keeps_appendClaimRequestMarker _ _ _ _ _ _ _).of_ok markerRan
    have kept : activity w'.store = ((jobs, w.store.leases), progressRows w.store) := by
      rw [marking, claiming, store]
      rfl
    have same : w'.store.jobs = jobs := congrArg (·.1.1) kept
    obtain ⟨claim, stored, key⟩ := appendClaimed_stores claimedRan
    subst same
    exact accounted.start updated (ledger_of_ok ran) (congrArg Prod.snd kept)
      ((ledger_of_ok markerRan).subset stored) key

/-- A managed claim also reserves the lease of the attempt. -/
theorem startedManaged (accounted : Accounted w.store) {request : ClaimRequest} {hostId : String}
    {recovery requestDigest : Option String} {current : Nat} {job : JobRow}
    {authority : ValidatedAuthority} {result : ClaimLeaseResult}
    (ran : (startManagedAttempt request hostId recovery requestDigest current job authority).run w =
      .ok result w') : Accounted w'.store := by
  obtain ⟨jobs, reserved, leased, payload, claimed, announced, marked, stored, row, updated, _,
    reservedRan, claimedRan, markedRan, _, _, _, rfl, _⟩ := startManagedAttempt_ok ran
  have reserving : leased.store.jobs = jobs ∧ progressRows leased.store = progressRows w.store := by
    obtain ⟨_, _, _, _, _, _, ⟨_, _, _, _, store⟩ | ⟨_, _, leases, _, rfl⟩⟩ :=
      reserveAttemptLease_ok reservedRan
    · rw [store]
      exact ⟨rfl, rfl⟩
    · exact ⟨rfl, rfl⟩
  have claiming : activity announced.store = activity leased.store :=
    (keeps_appendOther _ (show "job.claimed" ≠ progressType by decide)).of_ok claimedRan
  have marking := ((keeps_appendClaimRequestMarker _ _ _ _ _ _ _).of_ok markedRan).trans claiming
  have same : marked.store.jobs = jobs := (congrArg (·.1.1) marking).trans reserving.1
  have progress : progressRows marked.store = progressRows w.store :=
    (congrArg Prod.snd marking).trans reserving.2
  obtain ⟨claim, stored, key⟩ := appendClaimed_stores claimedRan
  subst same
  exact accounted.start updated (ledger_of_ok ran) progress ((ledger_of_ok markedRan).subset stored) key

/-- Every move of the queue keeps the account of the attempts. -/
theorem moving {since : Nat} : Moving since Accounted := by
  intro s t move accounted
  cases move with
  | steady _ jobs progress ledger =>
    exact accounted.steady jobs ledger fun row member => .inl (progress ▸ member)
  | progressed ran => exact accounted.progressed ran
  | started _ _ ran => exact accounted.startedLegacy ran
  | claimed _ ran => exact accounted.startedManaged ran

end Accounted

end Ledger

section Runs

/-- The columns of a stored job that the projection reads. -/
def recordOf (job : JobRow) : JobRecord where
  id := job.id
  workspaceId := some job.workspaceId
  taskId := job.taskId
  runnerProfileId := some job.runnerProfileId
  assignedAgent := some job.assignedAgent
  status := job.status
  attemptCount := job.attemptCount
  terminalSessionId := job.terminalSessionId
  payloadJson := job.payloadJson
  resultJson := job.resultJson
  progressJson := job.progressJson
  createdAt := job.createdAt
  completedAt := job.completedAt
  lastActivityAt := job.lastActivityAt
  recoverable := job.recoverable
  updatedAt := job.updatedAt

/-- What the projection reads of a store, with the names of workspaces and the times of mirrors. -/
def snapshotOf (workspaces : List WorkspaceName) (mirrors : List MirrorRow) (db : Db) : Snapshot where
  workspaces
  tasks := mirrors
  jobs := db.jobs.rows.map recordOf
  leases := db.leases.rows
  events := db.events.rows
  deliveries := db.deliveries.rows

/-- The sessions that `_session_projection` finds for a job. -/
def sessionsOf (db : Db) (jobId : String) : List Json :=
  match findJob db jobId, latestJobProgress (snapshotOf [] [] db) jobId with
  | some job, .ok latest => (sessionSources (recordOf job) (progressSessionId latest)).map (·.sessionId)
  | _, _ => []

/-- The job of the later store is in an attempt that the earlier store does not have. -/
def Starts (s t : Db) (job : JobRow) : Prop :=
  job ∈ t.jobs.rows ∧ job.attemptCount ≠ 0 ∧
    ∀ old ∈ s.jobs.rows, old.id = job.id → old.attemptCount ≠ job.attemptCount

/-- What a step that starts an attempt has to find. -/
structure Fresh (s t : Db) : Prop where
  /-- The key of the attempt's event is free. -/
  unclaimed : ∀ job ∈ t.jobs.rows, Starts s t job → ∀ row ∈ s.events.rows,
    row.idempotencyKey ≠ claimedKey job.id job.attemptCount
  /-- The clock has left the second of the last progress report. -/
  later : ∀ job ∈ t.jobs.rows, Starts s t job → ∀ claim ∈ t.events.rows,
    claim.idempotencyKey = claimedKey job.id job.attemptCount → ∀ row ∈ progressRows t,
    ReportsOn job.id row → row.createdAt < claim.createdAt
  /-- No earlier attempt has named a session. -/
  unnamed : ∀ job ∈ t.jobs.rows, (∃ old ∈ s.jobs.rows, old.id = job.id ∧
    old.attemptCount ≠ job.attemptCount) → sessionsOf s job.id = []

variable [Platform]

/-- A run whose steps meet a condition, with the stores before and after each of its steps. -/
inductive Run (ok : Db → Db → Prop) : List (Db × Db) → Work Db → Prop
  | initial : Run ok [] initialWork
  | step {trail : List (Db × Db)} {work next : Work Db} (before : Run ok trail work)
      (step : Step work next) (meets : ok work.store next.store) :
      Run ok (trail ++ [(work.store, next.store)]) next

/-- The event was stored by the step that started the attempt. -/
def Began (trail : List (Db × Db)) (jobId : String) (attempt : Nat) (claim : EventRow) : Prop :=
  ∃ s t, (s, t) ∈ trail ∧ claim ∉ s.events ∧ claim ∈ t.events ∧
    ∃ job, Starts s t job ∧ job.id = jobId ∧ job.attemptCount = attempt

/-- The session came to be named in a step that left the job in the attempt. -/
def Brought (trail : List (Db × Db)) (jobId : String) (attempt : Nat) (session : Json) : Prop :=
  ∃ s t, (s, t) ∈ trail ∧ session ∉ sessionsOf s jobId ∧ session ∈ sessionsOf t jobId ∧
    ∃ job ∈ t.jobs, job.id = jobId ∧ job.attemptCount = attempt

/-- The event of the attempt divides the ledger, and the job's older reports stand before it. -/
def Opened (trail : List (Db × Db)) (db : Db) (job : JobRow) : Prop :=
  ∃ earlier claim later, db.events.rows = earlier ++ claim :: later ∧
    claim.idempotencyKey = claimedKey job.id job.attemptCount ∧
    Began trail job.id job.attemptCount claim ∧
    ∀ row ∈ earlier ++ [claim], row.eventType = progressType → ReportsOn job.id row →
      row.createdAt < claim.createdAt

variable {trail : List (Db × Db)} {work next : Work Db}

theorem Run.reachable {ok : Db → Db → Prop} (run : Run ok trail work) : Reachable work := by
  induction run with
  | initial => exact .refl
  | step _ step _ ih => exact ih.tail step

theorem Run.accounted {ok : Db → Db → Prop} (run : Run ok trail work) : Accounted work.store :=
  Accounted.moving.reachable Accounted.empty run.reachable

omit [Platform] in
theorem Began.snoc {jobId : String} {attempt : Nat} {claim : EventRow}
    (began : Began trail jobId attempt claim) (last : Db × Db) :
    Began (trail ++ [last]) jobId attempt claim := by
  obtain ⟨s, t, member, rest⟩ := began
  exact ⟨s, t, List.mem_append_left _ member, rest⟩

omit [Platform] in
theorem Brought.snoc {jobId : String} {attempt : Nat} {session : Json}
    (brought : Brought trail jobId attempt session) (last : Db × Db) :
    Brought (trail ++ [last]) jobId attempt session := by
  obtain ⟨s, t, member, rest⟩ := brought
  exact ⟨s, t, List.mem_append_left _ member, rest⟩

/-- In a run with fresh claims, every attempt is opened by its event. -/
theorem Run.opened (run : Run Fresh trail work) : ∀ job ∈ work.store.jobs, job.attemptCount ≠ 0 →
    Opened trail work.store job := by
  induction run with
  | initial => exact fun _ member => absurd member (Table.not_mem_empty _)
  | @step trail work next before step fresh ih =>
    intro job member begun
    by_cases known : ∃ old ∈ work.store.jobs, old.id = job.id ∧ old.attemptCount = job.attemptCount
    · obtain ⟨old, oldMember, id, attempt⟩ := known
      obtain ⟨earlier, claim, later, rows, key, began, older⟩ := ih old oldMember (attempt ▸ begun)
      rw [id, attempt] at key began
      rw [id] at older
      obtain ⟨added, grown⟩ := step.grows.events
      exact ⟨earlier, claim, later ++ added, by rw [← grown, rows, List.append_assoc, List.cons_append],
        key, began.snoc _, older⟩
    · have starts : Starts work.store next.store job :=
        ⟨member, begun, fun old oldMember id attempt => known ⟨old, oldMember, id, attempt⟩⟩
      obtain ⟨claim, stored, key⟩ := (before.step step fresh).accounted.claimed job member begun
      obtain ⟨earlier, later, rows⟩ := List.append_of_mem stored
      refine ⟨earlier, claim, later, rows, key, ?_, fun row rowMember type reports => ?_⟩
      · exact ⟨_, _, List.mem_append_right _ (List.mem_singleton.mpr rfl),
          fun old => fresh.unclaimed job member starts claim old key, stored, job, starts, rfl, rfl⟩
      · refine fresh.later job member starts claim stored key row (List.mem_filter.mpr ⟨?_, ?_⟩) reports
        · rw [rows]
          rcases List.mem_append.mp rowMember with own | own
          · exact List.mem_append_left _ own
          · rw [List.mem_singleton.mp own]
            exact List.mem_append_right _ (List.mem_cons_self ..)
        · exact decide_eq_true type

omit [Platform] in
theorem mem_sessionsOf {db : Db} {jobId : String} {session : Json} (named : session ∈ sessionsOf db jobId) :
    ∃ job ∈ db.jobs, job.id = jobId := by
  unfold sessionsOf at named
  split at named
  · rename_i found _
    exact ⟨_, findJob_eq_some.mp found⟩
  · cases named

/-- In a run with fresh claims, every session that a job names came in its attempt. -/
theorem Run.brought (run : Run Fresh trail work) : ∀ job ∈ work.store.jobs, ∀ session,
    session ∈ sessionsOf work.store job.id → Brought trail job.id job.attemptCount session := by
  induction run with
  | initial => exact fun _ member => absurd member (Table.not_mem_empty _)
  | @step trail work next before step fresh ih =>
    intro job member session names
    by_cases named : session ∈ sessionsOf work.store job.id
    · obtain ⟨old, oldMember, id⟩ := mem_sessionsOf named
      by_cases attempt : old.attemptCount = job.attemptCount
      · have earlier := ih old oldMember session (id ▸ named)
        rw [id, attempt] at earlier
        exact earlier.snoc _
      · rw [fresh.unnamed job member ⟨old, oldMember, id, attempt⟩] at named
        cases named
    · exact ⟨_, _, List.mem_append_right _ (List.mem_singleton.mpr rfl), named, names, job, member, rfl, rfl⟩

omit [Platform] in
theorem mem_withField {key value : String} {rows found : List EventRow}
    (ran : withField key value rows = .ok found) :
    ∀ row ∈ found, row ∈ rows ∧ hasField key value row = .ok true := by
  induction rows generalizing found with
  | nil =>
    cases ran
    exact fun _ member => absurd member List.not_mem_nil
  | cons head rest ih =>
    simp only [withField, Except.bind_ok] at ran
    obtain ⟨own, holds, others, ran, kept⟩ := ran
    intro row member
    have found_eq : found = if own then head :: others else others := (Except.ok.inj kept).symm
    rw [found_eq] at member
    have inRest : row ∈ others → row ∈ head :: rest ∧ hasField key value row = .ok true :=
      fun other => ⟨List.mem_cons_of_mem _ (ih ran row other).1, (ih ran row other).2⟩
    split at member
    · rename_i chosen
      rcases List.mem_cons.mp member with rfl | other
      · exact ⟨List.mem_cons_self .., chosen ▸ holds⟩
      · exact inRest other
    · exact inRest member

omit [Platform] in
/-- The latest progress report is stored and names the job. -/
theorem latestJobProgress_ok {db : Db} {jobId : String} {shown : EventRow} {workspaces : List WorkspaceName}
    {mirrors : List MirrorRow}
    (ran : latestJobProgress (snapshotOf workspaces mirrors db) jobId = .ok (some shown)) :
    shown ∈ progressRows db ∧ ReportsOn jobId shown := by
  obtain ⟨found, rows, newestFound⟩ : ∃ found, withField "job_id" jobId (progressRows db) = .ok found ∧
      newest found = some shown := by
    unfold latestJobProgress at ran
    cases rows : withField "job_id" jobId ((snapshotOf workspaces mirrors db).events.filter
        (·.eventType = "job.progress")) with
    | error e =>
      rw [rows] at ran
      cases ran
    | ok found =>
      rw [rows] at ran
      exact ⟨found, rows, Except.ok.inj ran⟩
  exact mem_withField rows shown (newest_mem newestFound)

omit [Platform] in
/-- An event that is not stale stands behind the event of the attempt. -/
theorem Opened.after {db : Db} {job : JobRow} (opened : Opened trail db job) {shown : EventRow}
    (stored : shown ∈ progressRows db) (reports : ReportsOn job.id shown) {workspaces : List WorkspaceName}
    {mirrors : List MirrorRow} (begun : job.attemptCount ≠ 0)
    (current : ¬ (currentAttemptClaim (snapshotOf workspaces mirrors db) job.id job.attemptCount).any
      fun claim => shown.createdAt < claim.createdAt) :
    ∃ earlier claim between later, db.events.rows = earlier ++ claim :: between ++ shown :: later ∧
      Began trail job.id job.attemptCount claim := by
  obtain ⟨earlier, claim, later, rows, key, began, older⟩ := opened
  obtain ⟨member, type⟩ := List.mem_filter.mp stored
  have found : currentAttemptClaim (snapshotOf workspaces mirrors db) job.id job.attemptCount = some claim := by
    have stored : claim ∈ db.events.rows := by
      rw [rows]
      exact List.mem_append_right _ (List.mem_cons_self ..)
    have unique : findEventByKey db (claimedKey job.id job.attemptCount) = some claim :=
      findEventByKey_eq_some.mpr ⟨stored, key⟩
    rw [currentAttemptClaim, if_neg begun]
    exact unique
  have notOlder : ¬ shown.createdAt < claim.createdAt := by
    rw [found] at current
    simpa using current
  have behind : shown ∈ later := by
    rw [rows] at member
    rcases List.mem_append.mp member with own | own
    · exact absurd (older shown (List.mem_append_left _ own) (of_decide_eq_true type) reports) notOlder
    · rcases List.mem_cons.mp own with same | own
      · exact absurd (older shown (List.mem_append_right _ (List.mem_singleton.mpr same))
          (of_decide_eq_true type) reports) notOlder
      · exact own
  obtain ⟨between, rest, split⟩ := List.append_of_mem behind
  exact ⟨earlier, claim, between, rest, by rw [rows, split, List.append_assoc, List.cons_append], began⟩

omit [Platform] in
/-- A session that is present is that of one of the sources. -/
theorem sessionProjection_cases {job : JobRecord} {progress evidence : Json}
    (ran : sessionProjection job progress = .ok evidence) :
    evidence.get "state" = .str "unknown" ∨ evidence.get "state" = .str "present" ∧
      ∃ found ∈ sessionSources job progress, found.sessionId = evidence.get "session_id" := by
  unfold sessionProjection at ran
  dsimp only at ran
  split at ran
  · cases ran
    exact .inl rfl
  · rename_i first rest sources
    obtain ⟨_, _, ran⟩ := Except.bind_ok.mp ran
    have evidenceEq := (Except.ok.inj ran).symm
    split at evidenceEq
    · exact .inl (by rw [evidenceEq]; rfl)
    · refine .inr ⟨by rw [evidenceEq]; rfl, first, sources ▸ List.mem_cons_self .., ?_⟩
      rw [evidenceEq]
      rfl

omit [Platform] in
/-- The three states of `last_progress`. -/
theorem progressProjection_cases (db : Snapshot) (job : JobRecord) (latest : Option EventRow) :
    (progressProjection db job latest).get "state" = .str "unavailable" ∨
    (progressProjection db job latest).get "state" = .str "stale" ∨
    (progressProjection db job latest).get "state" = .str "present" ∧ ∃ shown, latest = some shown ∧
      ¬ (currentAttemptClaim db job.id job.attemptCount).any
        fun claim => shown.createdAt < claim.createdAt := by
  unfold progressProjection
  split
  · exact .inl rfl
  · rename_i shown
    dsimp only
    split
    · exact .inr (.inl rfl)
    · rename_i current
      split
      · exact .inl rfl
      · exact .inr (.inr ⟨rfl, shown, rfl, current⟩)

/-- The progress and the session that the projection of a job shows are those of its current attempt. -/
def EvidenceIsCurrent (trail : List (Db × Db)) (db : Db) (job : JobRow) : Prop :=
  ∀ workspaces mirrors generatedAt sections,
    executionProjection (snapshotOf workspaces mirrors db) (recordOf job) generatedAt = .ok sections →
    (∀ evidence, ("last_progress", evidence) ∈ sections →
      evidence.get "state" = .str "unavailable" ∨ evidence.get "state" = .str "stale" ∨
      evidence.get "state" = .str "present" ∧ ∃ earlier claim between shown later,
        db.events.rows = earlier ++ claim :: between ++ shown :: later ∧
        Began trail job.id job.attemptCount claim ∧
        latestJobProgress (snapshotOf workspaces mirrors db) job.id = .ok (some shown)) ∧
    (∀ evidence, ("provider_session", evidence) ∈ sections →
      evidence.get "state" = .str "unknown" ∨
      evidence.get "state" = .str "present" ∧
        Brought trail job.id job.attemptCount (evidence.get "session_id"))

/-- In a run whose claims are fresh, the trace of every job shows evidence of its current attempt. -/
theorem attempt_evidence (run : Run Fresh trail work) {job : JobRow} (member : job ∈ work.store.jobs) :
    EvidenceIsCurrent trail work.store job := by
  intro workspaces mirrors generatedAt sections projected
  simp only [executionProjection, Except.bind_ok] at projected
  obtain ⟨latest, progressRead, session, sessionRead, delivery, _, built⟩ := projected
  have sectionsEq := (Except.ok.inj built).symm
  refine ⟨fun evidence own => ?_, fun evidence own => ?_⟩
  · have evidenceEq : evidence =
        progressProjection (snapshotOf workspaces mirrors work.store) (recordOf job) latest := by
      simpa [sectionsEq] using own
    rw [evidenceEq]
    rcases progressProjection_cases (snapshotOf workspaces mirrors work.store) (recordOf job) latest with
      unavailable | stale | ⟨present, shown, rfl, current⟩
    · exact .inl unavailable
    · exact .inr (.inl stale)
    · obtain ⟨stored, reports⟩ := latestJobProgress_ok progressRead
      have begun : job.attemptCount ≠ 0 := by
        obtain ⟨owner, ownerMember, ownerReports, ownerBegun⟩ := run.accounted.reported shown stored
        rw [← job_unique ownerMember member (ownerReports.job_eq reports)]
        exact ownerBegun
      obtain ⟨earlier, claim, between, later, rows, began⟩ :=
        (run.opened job member begun).after stored reports begun current
      exact .inr (.inr ⟨present, earlier, claim, between, shown, later, rows, began, progressRead⟩)
  · have evidenceEq : evidence = session := by
      simpa [sectionsEq] using own
    rw [evidenceEq]
    rcases sessionProjection_cases sessionRead with unknown | ⟨present, found, source, id⟩
    · exact .inl unknown
    · refine .inr ⟨present, run.brought job member _ ?_⟩
      have read : latestJobProgress (snapshotOf [] [] work.store) job.id = .ok latest := progressRead
      rw [sessionsOf, findJob_eq_some.mpr ⟨member, rfl⟩, read]
      exact List.mem_map.mpr ⟨found, source, id⟩

/-- The stores around the calls of a list. -/
def trailOf (work : Work Db) : List Call → List (Db × Db)
  | [] => []
  | call :: rest =>
    (work.store, (call.after work work.store).store) :: trailOf (call.after work work.store) rest

theorem Run.calls {ok : Db → Db → Prop} (before : Run ok trail work) (calls : List Call)
    (meets : ∀ step ∈ trailOf work calls, ok step.1 step.2) :
    Run ok (trail ++ trailOf work calls) (runCalls work calls) := by
  induction calls generalizing trail work with
  | nil => simpa [trailOf, runCalls] using before
  | cons call rest ih =>
    have first := before.step (.call call) (meets _ (List.mem_cons_self ..))
    have whole := ih first fun step member => meets step (List.mem_cons_of_mem _ member)
    rw [List.append_assoc] at whole
    exact whole

end Runs

instance (jobId : String) (row : EventRow) : Decidable (ReportsOn jobId row) :=
  inferInstanceAs (Decidable (_ = _))

instance (s t : Db) (job : JobRow) : Decidable (Starts s t job) :=
  inferInstanceAs (Decidable (_ ∧ _ ∧ _))

instance (s t : Db) : Decidable (Fresh s t) :=
  decidable_of_iff ((∀ job ∈ t.jobs.rows, Starts s t job → ∀ row ∈ s.events.rows,
      row.idempotencyKey ≠ claimedKey job.id job.attemptCount) ∧
    (∀ job ∈ t.jobs.rows, Starts s t job → ∀ claim ∈ t.events.rows,
      claim.idempotencyKey = claimedKey job.id job.attemptCount → ∀ row ∈ progressRows t,
      ReportsOn job.id row → row.createdAt < claim.createdAt) ∧
    ∀ job ∈ t.jobs.rows, (∃ old ∈ s.jobs.rows, old.id = job.id ∧
      old.attemptCount ≠ job.attemptCount) → sessionsOf s job.id = [])
    ⟨fun ⟨unclaimed, later, unnamed⟩ => ⟨unclaimed, later, unnamed⟩,
      fun fresh => ⟨fresh.unclaimed, fresh.later, fresh.unnamed⟩⟩

namespace Sample

open Coordinate.Sample

/-- An attempt of an untyped agent that reports a session. -/
def attempt : List Call :=
  [.submit request, .claim { agentId := "a" },
    .progress { jobId, agentId := "a", stage := some "s", sessionId := some "S" }]

/-- It times out, and the job is claimed again. -/
def reclaimed : List Call :=
  attempt ++ [.report { jobId, agentId := "a", status := "timed_out", result := .obj [] },
    .claim { agentId := "a", recoverable := true }]

def start : Work Db := { initialWork with store := configured }

def trail (calls : List Call) : List (Db × Db) := [(Db.empty, configured)] ++ trailOf start calls

theorem run_start {ok : Db → Db → Prop} (meets : ok Db.empty configured) :
    Run ok [(Db.empty, configured)] start :=
  .step .initial (.configure configured ⟨rfl, rfl, rfl, rfl, rfl⟩) meets

theorem attempt_fresh : ∀ step ∈ trail attempt, Fresh step.1 step.2 := by decide +kernel

theorem attempt_shown : ∃ job ∈ (runCalls start attempt).store.jobs, job.attemptCount = 1 ∧
    EvidenceIsCurrent (trail attempt) (runCalls start attempt).store job := by
  have ran : ∃ job ∈ (runCalls start attempt).store.jobs.rows, job.attemptCount = 1 := by decide +kernel
  obtain ⟨job, member, one⟩ := ran
  have run : Run Fresh (trail attempt) (runCalls start attempt) :=
    (run_start (attempt_fresh _ (List.mem_cons_self ..))).calls attempt
      fun step own => attempt_fresh step (List.mem_cons_of_mem _ own)
  exact ⟨job, member, one, attempt_evidence run member⟩

/-- The projection shows the session, and no step brought it while the job was in that attempt. -/
def showsOld (trail : List (Db × Db)) (db : Db) (job : JobRow) (session : Json) : Bool :=
  (match executionProjection (snapshotOf [] [] db) (recordOf job) "t" with
  | .ok sections => sections.any fun named => named.1 = "provider_session" &&
    named.2.get "state" ≠ .str "unknown" && named.2.get "session_id" = session
  | .error _ => false) &&
  trail.all fun step => !(decide (session ∉ sessionsOf step.1 job.id) &&
    decide (session ∈ sessionsOf step.2 job.id) &&
    step.2.jobs.rows.any fun row => row.id = job.id && row.attemptCount = job.attemptCount)

theorem not_current_of_showsOld {trail : List (Db × Db)} {db : Db} {job : JobRow} {session : Json}
    (shows : showsOld trail db job session = true) : ¬ EvidenceIsCurrent trail db job := by
  intro current
  unfold showsOld at shows
  obtain ⟨shown, unbrought⟩ := (Bool.and_eq_true _ _).mp shows
  split at shown
  · rename_i sections projected
    obtain ⟨⟨name, evidence⟩, member, holds⟩ := List.any_eq_true.mp shown
    simp only [Bool.and_eq_true, decide_eq_true_eq] at holds
    obtain ⟨⟨rfl, known⟩, same⟩ := holds
    obtain ⟨s, t, step, absent, named, row, rowMember, id, attempt⟩ :=
      (((current _ _ _ _ projected).2 evidence member).resolve_left known).2
    rw [same] at absent named
    have none := List.all_eq_true.mp unbrought _ step
    have reached : (t.jobs.rows.any fun row => row.id = job.id && row.attemptCount = job.attemptCount) =
        true := List.any_eq_true.mpr ⟨row, rowMember, by simp [id, attempt]⟩
    simp [absent, named, reached] at none
  · cases shown

/-- A job that is claimed again shows the session that its first attempt reported. -/
theorem old_session_shown : ∃ trail work job, Run (fun _ _ => True) trail work ∧
    job ∈ work.store.jobs ∧ ¬ EvidenceIsCurrent trail work.store job := by
  have ran : ∃ job ∈ (runCalls start reclaimed).store.jobs.rows,
      showsOld (trail reclaimed) (runCalls start reclaimed).store job (.str "S") = true := by
    decide +kernel
  obtain ⟨job, member, shows⟩ := ran
  have run : Run (fun _ _ => True) (trail reclaimed) (runCalls start reclaimed) :=
    (run_start trivial).calls reclaimed fun _ _ => trivial
  exact ⟨_, _, job, run, member, not_current_of_showsOld shows⟩

end Sample

end Coordinate.Trace

import Coordinate.Proofs.Receipts

/-! # The preflight derives the state of a chain

The scan of `lookupReceiptForPreflight` accepts the chain of a lawful ledger row by row: each stage of
the scan is stated with what it has seen so far, and the rows of the chain lead from one to the next.
-/

namespace Coordinate.Completion

section Lookup

theorem mapM_toDict : ∀ {rows : List EventRow} {events : List EventDict},
    rows.mapM EventRow.toDict = .ok events → events = rows.map fun row => ⟨row, row.decoded⟩
  | [], events, decoded => by
    cases decoded
    rfl
  | row :: rest, events, decoded => by
    rw [List.mapM_cons] at decoded
    obtain ⟨head, first, decoded⟩ := Except.bind_ok.mp decoded
    obtain ⟨tail, others, decoded⟩ := Except.bind_ok.mp decoded
    cases decoded
    rw [List.map_cons, ← mapM_toDict others, ← toDict_decoded first, ← (toDict_ok first).1]

/-- The rows that the preflight scans. -/
def isCompletion (row : EventRow) : Bool :=
  Text.startsWith row.eventType "completion."

/-- Only the completion of the task is not one of them. -/
theorem Grant.Records.isCompletion {grant : Grant} {transition : Transition} {row : EventRow}
    (records : grant.Records transition row) : isCompletion row = decide (transition ≠ .done) := by
  rw [Completion.isCompletion, records.type]
  cases transition <;> rfl

theorem chainEvents_ok {db : Db} {receiptId : String} {events : List EventDict}
    (looked : chainEvents db receiptId = .ok events) :
    events = ((receiptRows receiptId db.events.rows).filter isCompletion).map
      fun row => ⟨row, row.decoded⟩ := by
  obtain ⟨rows, found, looked⟩ := Except.bind_ok.mp looked
  obtain ⟨decoded, mapped, looked⟩ := Except.bind_ok.mp looked
  cases looked
  rw [mapM_toDict mapped, rowsOfReceipt_ok found, List.filter_map]
  rfl

end Lookup

section Scan

variable {scan : PreflightScan} {payload : Json}

theorem scanStatus_ok (status : String) (found : payload.get "status" = .str status)
    (known : statusOrder.find? (fun known => Json.str status = .str known) = some status)
    (required : (statusOrder.takeWhile (· ≠ status)).all (scan.seen.contains ·) = true)
    (fresh : scan.seen.contains status = false) : scanStatus scan payload = .ok status := by
  simp only [scanStatus, found, known]
  simp only [raiseIf, required, fresh]
  rfl

theorem truthy_of_digest {value : Json} (digest : isCanonicalSha256 value = true) :
    value.truthy = true := by
  cases value with
  | str text =>
    by_contra empty
    simp only [Json.truthy, ne_eq, decide_not, Bool.not_eq_true', decide_eq_false_iff_not,
      not_not] at empty
    subst empty
    cases digest
  | _ => cases digest

theorem requireDigest_ok {value : Json} {missing noDigest : String}
    (digest : isCanonicalSha256 value = true) :
    requireDigest value missing noDigest = .ok () := by
  simp [requireDigest, raiseIf, truthy_of_digest digest, digest, bind, Except.bind, pure, Except.pure]

theorem requireLink_self (label : String) (value : Json) : requireLink label value value = .ok () := by
  simp [requireLink, raiseIf, pure, Except.pure]

/-- Links that agree with the chain are kept. -/
theorem scanLinks_ok {workspaceId taskId actor : Json}
    (workspace : payload.get "workspace_id" = workspaceId) (task : payload.get "task_id" = taskId)
    (acting : (payload.get "authorized_actor").orElse (payload.get "actor") = actor)
    (workspaces : scan.workspaceId = .null ∨ scan.workspaceId = workspaceId)
    (tasks : scan.taskId = .null ∨ scan.taskId = taskId)
    (actors : scan.actor = .null ∨ scan.actor = actor) :
    scanLinks scan payload = .ok { scan with workspaceId, taskId, actor } := by
  have chosen : ∀ {chain own : Json}, chain = .null ∨ chain = own →
      (if chain = .null then own else chain) = own := by
    rintro chain own (rfl | rfl)
    · rfl
    · split
      · rfl
      · rfl
  simp only [scanLinks, workspace, task, acting, chosen workspaces, chosen tasks, chosen actors,
    requireLink_self]
  rfl

end Scan

section Answers

variable {db : Db} {receiptId : String} {scan : PreflightScan}

/-- The answer that a chain is broken. -/
def Broken (answer : Preflight) : Prop := ∃ reason message, answer = .broken reason message

theorem broken_raiseIf {wrong : Prop} [Decidable wrong] {reason message : String} :
    (raiseIf wrong (Preflight.broken reason message) : Except Preflight Unit).Raises Broken :=
  Except.raises_raiseIf _ ⟨reason, message, rfl⟩

theorem broken_requireDigest (value : Json) (missing noDigest : String) :
    (requireDigest value missing noDigest).Raises Broken :=
  Except.raises_bind broken_raiseIf fun _ => broken_raiseIf

theorem broken_scanBefore (payload : Json) (status against : String) :
    (scanBefore scan payload status against).Raises Broken :=
  Except.raises_bind (broken_requireDigest _ _ _) fun _ => broken_raiseIf

theorem broken_scanStatus (payload : Json) : (scanStatus scan payload).Raises Broken := by
  unfold scanStatus
  dsimp only
  split
  · exact Except.raises_throw ⟨_, _, rfl⟩
  · exact Except.raises_bind broken_raiseIf fun _ =>
      Except.raises_bind broken_raiseIf fun _ => Except.raises_pure _

theorem broken_scanLinks (payload : Json) : (scanLinks scan payload).Raises Broken :=
  Except.raises_bind broken_raiseIf fun _ => Except.raises_bind broken_raiseIf fun _ =>
    Except.raises_bind broken_raiseIf fun _ => Except.raises_pure _

theorem broken_scanAuthorized (payload : Json) : (scanAuthorized scan payload).Raises Broken :=
  Except.raises_bind (broken_requireDigest _ _ _) fun _ => Except.raises_pure _

theorem broken_scanClaimed (payload : Json) : (scanClaimed scan payload).Raises Broken :=
  Except.raises_bind (broken_scanBefore _ _ _) fun _ =>
    Except.raises_bind (broken_requireDigest _ _ _) fun _ => Except.raises_pure _

theorem broken_scanApplied (payload : Json) : (scanApplied scan payload).Raises Broken :=
  Except.raises_bind (broken_scanBefore _ _ _) fun _ =>
    Except.raises_bind (broken_requireDigest _ _ _) fun _ =>
      Except.raises_bind broken_raiseIf fun _ => Except.raises_pure _

theorem broken_scanTerminal (doneId : String) (done : EventRow) :
    (scanTerminal receiptId scan doneId done).Raises Broken :=
  Except.raises_bind broken_raiseIf fun _ => Except.raises_bind broken_raiseIf fun _ =>
    Except.raises_bind broken_raiseIf fun _ =>
      Except.raises_bind (broken_requireDigest _ _ _) fun _ => broken_raiseIf

/-- Besides that answer a scan raises the exception of its look at the ledger. -/
def Answers (answer : Preflight) : Prop := Broken answer ∨ ∃ error, answer = .raised error

theorem answers_of_broken {α : Type} {x : Except Preflight α} (broken : x.Raises Broken) :
    x.Raises Answers := fun answer raised => .inl (broken answer raised)

theorem answers_scanFingerprints (status : String) (payload : Json) (eventId : String) :
    (scanFingerprints db receiptId scan status payload eventId).Raises Answers := by
  unfold scanFingerprints
  split
  · exact answers_of_broken (broken_scanAuthorized _)
  split
  · exact answers_of_broken (broken_scanClaimed _)
  split
  · exact answers_of_broken (broken_scanApplied _)
  · refine Except.raises_bind (answers_of_broken broken_raiseIf) fun _ =>
      Except.raises_bind (answers_of_broken broken_raiseIf) fun _ => ?_
    split
    · exact Except.raises_throw (.inr ⟨_, rfl⟩)
    · exact Except.raises_throw (.inl ⟨_, _, rfl⟩)
    · exact Except.raises_bind (answers_of_broken (broken_scanTerminal _ _)) fun _ =>
        Except.raises_pure _

theorem answers_scanChain : ∀ (events : List EventDict) (scan : PreflightScan),
    (scanChain db receiptId scan events).Raises Answers
  | [], _ => Except.raises_pure _
  | event :: rest, scan => by
    have one : (scanEvent db receiptId scan event).Raises Answers :=
      Except.raises_bind (answers_of_broken (broken_scanStatus _)) fun _ =>
        Except.raises_bind (answers_of_broken (broken_scanLinks _)) fun _ =>
          Except.raises_bind (answers_scanFingerprints _ _ _) fun _ => Except.raises_pure _
    exact Except.raises_bind one fun next => answers_scanChain rest next

end Answers

section Stages

variable [Platform] {db : Db} {receiptId : String} {grant : Grant} {expected : String}
  {a c p d x : EventRow}

/-- The actor of a chain; the empty name counts as missing. -/
def Grant.actorLink (grant : Grant) : Json := (Json.str grant.actor).orElse .null

def authorizedScan (grant : Grant) : PreflightScan :=
  { seen := [statusAuthorized], workspaceId := .str grant.workspaceId, taskId := .str grant.taskId,
    actor := grant.actorLink, authorizedFingerprint := .str grant.fingerprint,
    status := .str statusAuthorized }

def claimedScan (grant : Grant) (expected : String) : PreflightScan :=
  { authorizedScan grant with
    seen := [statusClaimed, statusAuthorized], claimedExpectedAfter := .str expected,
    status := .str statusClaimed }

def appliedScan (grant : Grant) (expected : String) : PreflightScan :=
  { claimedScan grant expected with
    seen := [statusApplied, statusClaimed, statusAuthorized], appliedAfter := .str expected,
    status := .str statusApplied }

def consumedScan (grant : Grant) (expected eventId : String) : PreflightScan :=
  { appliedScan grant expected with
    seen := [statusConsumed, statusApplied, statusClaimed, statusAuthorized],
    terminalEventId := .str eventId, status := .str statusConsumed }

omit [Platform] in
/-- One event of a chain, once its status and its links are those of the chain. -/
theorem scanEvent_ok {scan : PreflightScan} (next : PreflightScan) {event : EventDict}
    (payload : Json) {status : String} (same : payloadOf event = payload)
    (statusOk : scanStatus scan payload = .ok status) {linked : PreflightScan}
    (linksOk : scanLinks { scan with seen := status :: scan.seen } payload = .ok linked)
    (fingerprintsOk : scanFingerprints db receiptId linked status payload event.row.id = .ok next) :
    scanEvent db receiptId scan event = .ok { next with status := .str status } := by
  simp only [scanEvent, same, statusOk, bind, Except.bind, linksOk, fingerprintsOk]
  rfl

theorem scan_authorized (digest : isCanonicalSha256 (.str grant.fingerprint) = true)
    (authorizes : grant.Authorizes a) :
    scanEvent db receiptId {} ⟨a, a.decoded⟩ = .ok (authorizedScan grant) := by
  have decoded : a.decoded = grant.payload := by rw [EventRow.decoded, authorizes.decoded]
  have payload : payloadOf ⟨a, a.decoded⟩ = grant.payload := by
    rw [payloadOf_of_receipt grant.receiptId (decoded ▸ authorizes.receiptId)]
    exact decoded
  have acting : (grant.payload.get "authorized_actor").orElse (grant.payload.get "actor") =
      grant.actorLink := by
    rw [authorizes.actor, authorizes.plain]
    rfl
  refine scanEvent_ok (authorizedScan grant) _ payload (scanStatus_ok _ authorizes.status rfl rfl rfl)
    (scanLinks_ok authorizes.workspaceId authorizes.taskId acting (.inl rfl) (.inl rfl) (.inl rfl)) ?_
  change scanAuthorized _ _ = _
  simp only [scanAuthorized, authorizes.fingerprint, requireDigest_ok digest]
  rfl

omit [Platform] in
theorem scanBefore_ok {scan : PreflightScan} {payload : Json} {status against : String}
    {fingerprint : Json} (digest : isCanonicalSha256 fingerprint = true)
    (before : payload.get "before_fingerprint" = fingerprint)
    (authorized : scan.authorizedFingerprint = fingerprint) :
    scanBefore scan payload status against = .ok () := by
  simp [scanBefore, before, authorized, requireDigest_ok digest, raiseIf, bind, Except.bind, pure,
    Except.pure]

omit [Platform] in
theorem scan_claimed (digest : isCanonicalSha256 (.str grant.fingerprint) = true)
    (claims : grant.Claims expected c) :
    scanEvent db receiptId (authorizedScan grant) ⟨c, c.decoded⟩ = .ok (claimedScan grant expected) := by
  obtain ⟨expectedDigest, claimedAt, eventId, createdAt, rfl⟩ := claims
  refine scanEvent_ok { claimedScan grant expected with status := .str statusAuthorized }
    (receiptClaimedPayload (grant.claim expected) claimedAt) rfl (scanStatus_ok statusClaimed rfl rfl rfl rfl)
    (scanLinks_ok rfl rfl rfl (.inr rfl) (.inr rfl) (.inr rfl)) ?_
  change scanClaimed _ _ = _
  rw [scanClaimed, scanBefore_ok digest rfl rfl]
  change (do requireDigest (.str expected) _ _; _) = _
  rw [requireDigest_ok expectedDigest]
  rfl

omit [Platform] in
theorem scan_applied (digest : isCanonicalSha256 (.str grant.fingerprint) = true)
    (expectedDigest : isCanonicalSha256 (.str expected) = true) (applies : grant.Applies expected p) :
    scanEvent db receiptId (claimedScan grant expected) ⟨p, p.decoded⟩ =
      .ok (appliedScan grant expected) := by
  obtain ⟨appliedAt, eventId, createdAt, rfl⟩ := applies
  refine scanEvent_ok { appliedScan grant expected with status := .str statusClaimed }
    (receiptAppliedPayload (grant.application expected) (.str grant.fingerprint) appliedAt) rfl
    (scanStatus_ok statusApplied rfl rfl rfl rfl)
    (scanLinks_ok rfl rfl rfl (.inr rfl) (.inr rfl) (.inr rfl)) ?_
  change scanApplied _ _ = _
  rw [scanApplied, scanBefore_ok digest rfl rfl]
  change (do requireDigest (.str expected) _ _; raiseIf (Json.str expected ≠ Json.str expected) _; _) = _
  rw [requireDigest_ok expectedDigest, raiseIf, if_neg (fun differ => differ rfl)]
  rfl

theorem scanTerminal_ok {item : Json} {scan : PreflightScan} {doneId : String}
    (expectedDigest : isCanonicalSha256 (.str expected) = true)
    (completes : grant.Completes expected item d) (workspace : scan.workspaceId = .str grant.workspaceId)
    (task : scan.taskId = .str grant.taskId) (applied : scan.appliedAfter = .str expected) :
    scanTerminal grant.receiptId scan doneId d = .ok () := by
  have records := completes.records
  have receipt := receipt_eq_some.mp records.receipt
  have fingerprint := completes.fingerprint
  have columns : d.workspaceId = some grant.workspaceId ∧ d.taskId = some grant.taskId := by
    obtain ⟨consumption, eventId, createdAt, -, -, rfl⟩ := completes
    exact ⟨rfl, rfl⟩
  have payload : terminalPayload d = d.decoded := by
    obtain ⟨consumption, eventId, createdAt, -, -, rfl⟩ := completes
    rw [terminalPayload, EventRow.decoded, decoded_taskDone]
    simp only [taskDonePayload]
    cases consumption.verification.filter (· ≠ "") <;> rfl
  rw [scanTerminal, records.type, columns.1, columns.2, workspace, task]
  simp only [payload, receipt, fingerprint, applied, requireDigest_ok expectedDigest]
  simp [raiseIf, Transition.eventType, Json.ofOption, bind, Except.bind, pure, Except.pure]

theorem scan_consumed {item : Json} (member : d ∈ db.events) (authorizes : grant.Authorizes a)
    (expectedDigest : isCanonicalSha256 (.str expected) = true)
    (completes : grant.Completes expected item d) (consumes : grant.Consumes d.id x) :
    scanEvent db grant.receiptId (appliedScan grant expected) ⟨x, x.decoded⟩ =
      .ok (consumedScan grant expected x.id) := by
  have identified : d.id ≠ "" := by
    obtain ⟨consumption, eventId, createdAt, -, identified, rfl⟩ := completes
    exact identified
  have found : eventById db (.str d.id) = .ok (some d) := by
    refine congrArg Except.ok (Table.find?_eq_some_of_mem member (by simp) fun other _ same => ?_)
    simp only [Option.some.injEq, decide_eq_true_eq] at same
    simp [eventSchema, same]
  obtain ⟨consumption, consumedAt, eventId, createdAt, admits, rfl⟩ := consumes
  have acting : (Json.str consumption.actor).orElse .null = grant.actorLink := by
    rw [admits.actor]
    rfl
  have workspace : (consumedPayload consumption grant.payload d.id consumedAt).get "workspace_id" =
      .str grant.workspaceId := authorizes.workspaceId
  have task : (consumedPayload consumption grant.payload d.id consumedAt).get "task_id" =
      .str grant.taskId := authorizes.taskId
  refine scanEvent_ok { consumedScan grant expected eventId with status := .str statusApplied }
    (consumedPayload consumption grant.payload d.id consumedAt) rfl
    (scanStatus_ok statusConsumed rfl rfl rfl rfl)
    (scanLinks_ok workspace task acting (.inr rfl) (.inr rfl) (.inr rfl)) ?_
  change scanConsumed _ _ _ _ _ = _
  have given : (consumedPayload consumption grant.payload d.id consumedAt).get "task_done_event_id" =
      .str d.id := rfl
  have present : (Json.str d.id).truthy = true := by simp [Json.truthy, identified]
  have applied : (appliedScan grant expected).appliedAfter.truthy = true := truthy_of_digest expectedDigest
  simp only [scanConsumed, given, found, present]
  rw [raiseIf, if_neg (by simp), raiseIf, if_neg (by simpa using applied)]
  change (do scanTerminal grant.receiptId _ _ d; _) = _
  rw [scanTerminal_ok expectedDigest completes rfl rfl rfl]
  rfl

/-- The completion events of a chain, and what the scan derives from them. -/
theorem Chain.scanned [Deployment] (digests : ∀ text, isCanonicalSha256 (.str (sha256 text)) = true)
    {s : Ledger} {chain : List EventRow} (shape : Chain s grant expected chain)
    (stored : ∀ row ∈ chain, row ∈ s.work.store.events) :
    ∃ (first : EventRow) (rest : List EventDict) (scan : PreflightScan),
      first.eventType = "completion.authorized" ∧
      ((chain.filter isCompletion).map fun row => (⟨row, row.decoded⟩ : EventDict)) = ⟨first, first.decoded⟩ :: rest ∧
      scanChain s.work.store grant.receiptId {} (⟨first, first.decoded⟩ :: rest) = .ok scan := by
  have digest : ∀ {a}, grant.Authorizes a → isCanonicalSha256 (.str grant.fingerprint) = true := by
    intro a authorizes
    obtain ⟨item, fingerprint⟩ := authorizes.item
    rw [fingerprint]
    exact digests _
  cases shape with
  | @authorized a authorizes =>
    refine ⟨a, [], authorizedScan grant, authorizes.type, ?_, ?_⟩
    · simp [authorizes.records.isCompletion]
    · simp only [scanChain,
        scan_authorized (digest authorizes) authorizes, bind, Except.bind, pure, Except.pure]
  | @claimed a c authorizes claims =>
    refine ⟨a, [⟨c, c.decoded⟩], claimedScan grant expected, authorizes.type, ?_, ?_⟩
    · simp [authorizes.records.isCompletion, claims.records.isCompletion]
    · simp only [scanChain,
        scan_authorized (digest authorizes) authorizes, scan_claimed (digest authorizes) claims,
        bind, Except.bind, pure, Except.pure]
  | @applied a c p authorizes claims applies =>
    refine ⟨a, [⟨c, c.decoded⟩, ⟨p, p.decoded⟩], appliedScan grant expected, authorizes.type, ?_, ?_⟩
    · simp [authorizes.records.isCompletion, claims.records.isCompletion,
        (Grant.Applies.records applies).isCompletion]
    · simp only [scanChain,
        scan_authorized (digest authorizes) authorizes, scan_claimed (digest authorizes) claims,
        scan_applied (digest authorizes) claims.digest applies,
        bind, Except.bind, pure, Except.pure]
  | @consumed a c p d x item authorizes claims applies completes consumes finishes deployed =>
    refine ⟨a, [⟨c, c.decoded⟩, ⟨p, p.decoded⟩, ⟨x, x.decoded⟩], consumedScan grant expected x.id,
      authorizes.type, ?_, ?_⟩
    · simp [authorizes.records.isCompletion, claims.records.isCompletion,
        (Grant.Applies.records applies).isCompletion, completes.records.isCompletion,
        consumes.records.isCompletion]
    · simp only [scanChain,
        scan_authorized (digest authorizes) authorizes, scan_claimed (digest authorizes) claims,
        scan_applied (digest authorizes) claims.digest applies,
        scan_consumed (stored _ (by simp)) authorizes claims.digest completes consumes,
        bind, Except.bind, pure, Except.pure]

/-- **A lawful chain is never reported as broken.** -/
theorem Lawful.unbroken [Deployment]
    (digests : ∀ text, isCanonicalSha256 (.str (sha256 text)) = true) {s : Ledger}
    (lawful : Lawful s) (receiptId reason message : String) :
    lookupReceiptForPreflight s.work.store receiptId ≠ .ok (some (.broken reason message)) := by
  intro broken
  unfold lookupReceiptForPreflight at broken
  cases looked : chainEvents s.work.store receiptId with
  | error e => rw [looked] at broken; cases broken
  | ok events =>
    rw [looked] at broken
    have listed := chainEvents_ok looked
    cases rows : receiptRows receiptId (rowsOf s) with
    | nil =>
      rw [rows] at listed
      rw [listed] at broken
      cases broken
    | cons row rest =>
      have member : row ∈ receiptRows receiptId (rowsOf s) := rows ▸ List.mem_cons_self ..
      obtain ⟨stored, receipt⟩ := mem_receiptRows.mp member
      obtain ⟨grant, expected, rfl, shape⟩ := lawful.chains row stored receiptId receipt
      obtain ⟨first, rest, scan, type, same, scanned⟩ := shape.scanned digests
        fun row member => (mem_receiptRows.mp member).1
      rw [listed, same] at broken
      simp only [bind, Except.bind, preflightOf, type, scanned] at broken
      cases broken

end Stages

end Coordinate.Completion

import Coordinate.Library.Program
import Coordinate.Model.Store

/-! # Completion receipts

The receipt protocol of `completion.py`: the gate, the lifecycle fingerprints, and the operations that
prepare, claim, apply and consume a receipt. Every look at the ledger and every append is a statement of
its own, so several operations interleave between them; only the terminal append of a consumption is
one transaction. `lookupReceiptForPreflight` derives the state of a receipt from the ledger.
-/

namespace Coordinate

section Adapters

/-- The harness adapter of a call: one that the caller passes, or that of a workspace. -/
inductive Adapter
  | given (name : String)
  | ofWorkspace (workspaceId : String)
deriving DecidableEq, Repr

/-- The exceptions of an adapter that its callers catch. -/
inductive AdapterError
  | harness (message : String)
  | os (message : String)
deriving DecidableEq, Repr

def AdapterError.message : AdapterError → String
  | harness message => message
  | os message => message

/-- What `datetime.fromisoformat` reads; an aware time counts microseconds. -/
inductive ParsedTime
  | aware (time : Int)
  | naive
  | malformed
deriving DecidableEq, Repr

/-- `value.replace("Z", "+00:00")`. -/
def replaceZulu (value : String) : String :=
  String.ofList (value.toList.flatMap fun c => if c = 'Z' then "+00:00".toList else [c])

/-- The checkouts that the adapters read, the parts of a second that a reading of the clock carries
beyond `Platform.clock`, and the parser of ISO times. -/
class Deployment where
  /-- The successive results of `refresh_state`. -/
  refreshState : Nat → Adapter → Except AdapterError Json
  /-- The successive results of `read_checklist`. -/
  readChecklist : Nat → Adapter → Except AdapterError Json
  micros : Nat → Nat
  micros_lt : ∀ tick, micros tick < 1000000
  fromIsoformat : String → ParsedTime
  fromIsoformat_stamp : ∀ time, time < Calendar.horizon →
    fromIsoformat (replaceZulu (Calendar.isoformat time)) = .aware (time * 1000000)

end Adapters

variable [Platform]

section Statements

/-- The arguments of `run_mutation`, and the adapter that runs it. -/
structure MutationRequest where
  adapter : Adapter
  operation : String
  taskId : String
  actor : String
  args : List String
  idempotencyHint : String
deriving DecidableEq, Repr

/-- The ledger that the operations share. For every reading of an adapter, oldest first, it holds how
many events had been recorded; for every mutation that an adapter has attempted, the request and
whether it took effect. -/
structure Ledger where
  work : Work Db
  readings : List Nat
  mutations : List (MutationRequest × Bool)

/-- What a task is completed under: a receipt, or the word of the actor who completes or repairs it. -/
inductive Authority
  | receipt (receiptId : String)
  | actor (name : String)
deriving DecidableEq, Repr

/-- The append of a completion under a key, and among how many events earlier completions of the task
have been looked for, if at all. -/
structure TerminalAppend where
  authority : Authority
  workspaceId : Option String
  taskId : Option String
  key : String
  scanned : Option Nat
deriving DecidableEq, Repr

/-- What a statement of an operation does. -/
inductive Statement
  | read
  | clock
  | adapter
  | mutation
  | issue
  | append (event : NewEvent)
  | terminal (completion : TerminalAppend)

abbrev LedgerProgram := Program Statement Ledger Exn

/-- A query outside a transaction. -/
def lookUp {α : Type} (f : Db → Except Exn α) : LedgerProgram α :=
  Program.statement .read fun ledger => (f ledger.work.store, ledger)

/-- A transaction: what it has written is taken back when it raises. -/
def transaction {α : Type} (tag : Statement) (body : DbTxn α) : LedgerProgram α :=
  Program.statement tag fun ledger =>
    match body.run ledger.work with
    | .ok a work => (.ok a, { ledger with work })
    | .error e work => (.error e, { ledger with work := { work with store := ledger.work.store } })

/-- `append_event` with its own commit. -/
def recordEvent (event : NewEvent) : LedgerProgram AppendEventResult :=
  transaction (.append event) (appendEvent event)

/-- `_utc_stamp`, to the second. -/
def utcStamp : LedgerProgram Nat :=
  transaction .clock utcNow

variable [Deployment]

/-- `datetime.now(timezone.utc)` in microseconds. -/
def instantAt (tick : Nat) : Nat :=
  now tick * 1000000 + Deployment.micros tick

def readInstant : LedgerProgram Nat :=
  transaction .clock (Txn.clock instantAt)

/-- A reading of a checkout, noted in the ledger. -/
def readAdapter (source : Nat → Adapter → Except AdapterError Json) (adapter : Adapter) :
    LedgerProgram (Except AdapterError Json) :=
  Program.statement .adapter fun ledger =>
    (.ok (source ledger.readings.length adapter),
      { ledger with readings := ledger.readings ++ [ledger.work.store.events.rows.length] })

def refreshState (adapter : Adapter) : LedgerProgram (Except AdapterError Json) :=
  readAdapter Deployment.refreshState adapter

def readChecklist (adapter : Adapter) : LedgerProgram (Except AdapterError Json) :=
  readAdapter Deployment.readChecklist adapter

end Statements

def receiptError (message reason : String) : Exn := .completion ⟨message, reason⟩

section Items

/-- A dictionary operand, or an empty one. -/
def dictOr (value : Json) : Json := if value.isObj then value else .obj []

def workflowOf (item : Json) : Json := dictOr (item.get "workflow")

/-- The first item of a checklist with the identifier. -/
def findItem (checklist taskId : Json) : Option Json :=
  match checklist.get "items" with
  | .arr items => items.find? fun item => item.isObj && item.get "id" = taskId
  | _ => none

/-- The lifecycle fields that bind a receipt. -/
def fingerprintFields (item : Json) : Json :=
  let workflow := workflowOf item
  .obj [("id", item.get "id"), ("status", item.get "status"),
    ("workflow", .obj [("status", workflow.get "status"), ("branch", workflow.get "branch")])]

def computeItemFingerprint (item : Json) : String :=
  sha256 (fingerprintFields item).text

/-- The item that marking it done leads to, as far as the fingerprint goes. -/
def wouldBeDoneItem (item : Json) : Json :=
  (item.set "status" (.str "done")).set "workflow"
    ((workflowOf item).set "status" (.str "closed"))

/-- The first sign that a terminal item is still owned. -/
def terminalOwnershipProblem (item : Json) : Option String :=
  let lease := item.get "lease"
  if item.get "owner" ≠ .null then some ("owner=" ++ (item.get "owner").pyRepr)
  else if item.get "selected_in_session" ≠ .null then
    some ("selected_in_session=" ++ (item.get "selected_in_session").pyRepr)
  else if lease.isObj ∧ ¬ (lease.get "released_at").truthy then some "lease without released_at"
  else none

end Items

section Gate

variable [Deployment]

def allowedMarkDoneStatuses : List String := ["review_approved", "closed"]

structure MarkDoneGateResult where
  passed : Bool
  reason : Option String
  taskStatus : Json
deriving DecidableEq, Repr

def MarkDoneGateResult.toDict (gate : MarkDoneGateResult) : Json :=
  .obj [("passed", .bool gate.passed), ("task_status", gate.taskStatus),
    ("reason", .ofOption gate.reason)]

def unhashable : Exn := .type "unhashable type"

/-- `value in {...}`: only a value that can be hashed is looked up. -/
def isHashable : Json → Bool
  | .arr _ => false
  | .obj _ => false
  | _ => true

/-- `_evaluate_gate_status`: a workflow status decides, or else the status itself. -/
def evaluateGateStatus (item : Json) : Except Exn MarkDoneGateResult := do
  let workflowStatus := (workflowOf item).get "status"
  let coarseStatus := item.get "status"
  if workflowStatus ≠ .null then
    raiseIf (¬ isHashable workflowStatus) unhashable
    if (allowedMarkDoneStatuses.map Json.str).contains workflowStatus then
      return ⟨true, none, workflowStatus⟩
    else
      return ⟨false, some (s!"workflow status is {workflowStatus.pyStr}, " ++
        "expected one of ['closed', 'review_approved']"), workflowStatus⟩
  else if coarseStatus = .str "done" then return ⟨true, none, coarseStatus⟩
  else
    let displayStatus := coarseStatus.orElse (.str "unknown")
    return ⟨false, some s!"coarse status is {displayStatus.pyStr}, expected 'done'", coarseStatus⟩

/-- The gate on the item of a state or of a checklist that has been read. -/
def gateOf (found : Option Json) : Except Exn MarkDoneGateResult :=
  match found with
  | some item => evaluateGateStatus item
  | none => return ⟨false, some "task not found in harness state", .null⟩

/-- The gate on the checklist, when the refreshed state is about another item. -/
def checkChecklistGate (adapter : Adapter) (taskId : String) : LedgerProgram MarkDoneGateResult := do
  let read ← readChecklist adapter
  match read with
  | .error (.harness message) => return ⟨false, some s!"checklist unavailable: {message}", .null⟩
  | .error (.os message) => throw (Exn.os message)
  | .ok checklist => orRaise id (gateOf (findItem checklist (.str taskId)))

def checkMarkDoneGate (adapter : Adapter) (taskId : String) : LedgerProgram MarkDoneGateResult := do
  let refreshed ← refreshState adapter
  match refreshed with
  | .error error => return ⟨false, some s!"harness state unavailable: {error.message}", .null⟩
  | .ok state =>
    let current := state.get "current_item"
    if current.isObj ∧ current.get "id" = .str taskId then
      orRaise id (evaluateGateStatus current)
    else checkChecklistGate adapter taskId

end Gate

section Lookups

def statusAuthorized : String := "authorized"
def statusClaimed : String := "claimed"
def statusApplied : String := "applied"
def statusConsumed : String := "consumed"
def defaultReceiptTtlSeconds : Int := 6 * 3600

/-- `json_extract(payload_json, '$.receipt_id') = ?`, which fails on a text that is no JSON. -/
def hasReceipt (receiptId : String) (row : EventRow) : Except Exn Bool :=
  match row.payloadJson with
  | .value payload => return payload.get "receipt_id" = .str receiptId
  | _ => throw (Exn.operational "malformed JSON")

/-- `find_events(payload_key="receipt_id")`: the rows with the receipt among `rows`, oldest first. -/
def rowsOfReceipt (receiptId : String) (rows : List EventRow) : Except Exn (List EventRow) := do
  let marks ← rows.mapM (hasReceipt receiptId)
  return ((rows.zip marks).filter Prod.snd).map Prod.fst

/-- `row.get("payload") or {}` of a decoded row. -/
def payloadOf (event : EventDict) : Json := event.payload.orElse (.obj [])

/-- The newest event of a type that carries the receipt. -/
def eventByReceipt (db : Db) (eventType receiptId : String) : Except Exn (Option EventDict) := do
  let rows ← rowsOfReceipt receiptId (db.events.filter fun row => row.eventType = eventType)
  match rows.getLast? with
  | none => return none
  | some row => some <$> row.toDict

def eventsOfTask (db : Db) (workspaceId taskId : String) : List EventRow :=
  db.events.filter fun row => row.workspaceId = some workspaceId && row.taskId = some taskId

def gatherReviewEvidence (db : Db) (workspaceId taskId : String) : Except Exn Json := do
  let rows := (eventsOfTask db workspaceId taskId).filter (·.eventType = "review.completed")
  match rows.getLast? with
  | none => return .obj [("not_applicable", .bool true),
      ("reason", .str "no review.completed event for task")]
  | some row =>
    let event ← row.toDict
    let payload := payloadOf event
    let evidence := Json.obj [("event_id", .str row.id), ("decision", payload.get "decision"),
      ("reviewer", payload.get "reviewer"), ("summary", payload.get "summary")]
    let packet := payload.get "reviewed_packet_sha256"
    return if packet.truthy then evidence.set "reviewed_packet_sha256" packet else evidence

/-- The evidence of the newest `ci.*` event, which must be `ci.passed` if there is one. -/
def gatherForgeEvidence (db : Db) (workspaceId taskId : String) : Except Exn Json := do
  let decoded ← (eventsOfTask db workspaceId taskId).mapM EventRow.toDict
  match (decoded.filter fun event => Text.startsWith event.row.eventType "ci.").getLast? with
  | none => return .obj [("not_applicable", .bool true),
      ("reason", .str "no forge gate configured for completion path")]
  | some latest =>
    let eventType := latest.row.eventType
    return .obj [("event_id", .str latest.row.id), ("event_type", .str eventType),
      ("status", .str (if eventType = "ci.passed" then "passed" else Text.dropPrefix eventType 3))]

end Lookups

section Prepare

variable [Deployment]

structure CompletionReceipt where
  receiptId : String
  workspaceId : String
  taskId : String
  requester : String
  authorizedActor : String
  status : String
  issuedAt : String
  expiresAt : String
  nonce : String
  gate : Json
  reviewEvidence : Json
  forgeEvidence : Json
  harnessFingerprint : String
  event : EventDict
deriving DecidableEq, Repr

/-- The arguments of `prepare_completion_receipt`. -/
structure PrepareRequest where
  workspaceId : String
  taskId : String
  requester : String := "operator"
  authorizedActor : Option String := none
  adapter : Option Adapter := none
  ttlSeconds : Int := defaultReceiptTtlSeconds
deriving DecidableEq, Repr

/-- A time moved by a number of seconds, within the range of dates. -/
def shiftSeconds (time : Nat) (seconds : Int) : Except Exn Nat :=
  let moved := (time : Int) + seconds
  if 0 ≤ moved ∧ moved < Calendar.horizon then return moved.toNat
  else throw (Exn.overflow "date value out of range")

/-- The actor that a receipt authorizes. -/
def PrepareRequest.authorized (request : PrepareRequest) : String :=
  request.authorizedActor.getD request.requester

/-- The facts that a prepared receipt records. -/
structure Authorization where
  receiptId : String
  nonce : String
  issuedAt : String
  expiresAt : String
  gate : MarkDoneGateResult
  reviewEvidence : Json
  forgeEvidence : Json
  harnessFingerprint : String
deriving DecidableEq, Repr

def authorizedPayload (request : PrepareRequest) (facts : Authorization) : Json :=
  .obj [("receipt_id", .str facts.receiptId), ("workspace_id", .str request.workspaceId),
    ("task_id", .str request.taskId), ("requester", .str request.requester),
    ("authorized_actor", .str request.authorized), ("nonce", .str facts.nonce),
    ("issued_at", .str facts.issuedAt), ("expires_at", .str facts.expiresAt),
    ("status", .str statusAuthorized), ("gate", facts.gate.toDict),
    ("review_evidence", facts.reviewEvidence), ("forge_evidence", facts.forgeEvidence),
    ("harness_fingerprint", .str facts.harnessFingerprint)]

def receiptKey (receiptId transition : String) : String :=
  s!"receipt:{receiptId}:{transition}"

def authorizedEvent (request : PrepareRequest) (facts : Authorization) : NewEvent where
  eventType := "completion.authorized"
  actor := request.requester
  workspaceId := some request.workspaceId
  target := some request.taskId
  taskId := some request.taskId
  idempotencyKey := some (receiptKey facts.receiptId "authorized")
  payload := authorizedPayload request facts

/-- The gate of `prepare_completion_receipt`, and the item that its fingerprint is of. -/
def readGatedItem (adapter : Adapter) (taskId : String) :
    LedgerProgram (MarkDoneGateResult × Json) := do
  let gate ← checkMarkDoneGate adapter taskId
  raiseIf (¬ gate.passed) (receiptError
    (s!"completion gate not passed for task {taskId}: " ++ gate.reason.getD "None") "gate_not_passed")
  let read ← readChecklist adapter
  let checklist ← orRaise (fun error : AdapterError => receiptError
    s!"cannot read canonical checklist for fingerprint: {error.message}"
    "harness_fingerprint_unavailable") read
  match findItem checklist (.str taskId) with
  | none => throw (receiptError
      s!"task {taskId} not found in canonical checklist; cannot bind fingerprint"
      "harness_item_missing")
  | some item => return (gate, item)

/-- Draw the identifiers of a receipt and record it. Nobody else sees an identifier before its event,
so drawing one is no step of its own. -/
def issueReceipt (request : PrepareRequest) (facts : String → String → Authorization) :
    LedgerProgram (Authorization × AppendEventResult) :=
  transaction .issue do
    let receiptId ← newUuid
    let nonce ← newUuid
    let result ← appendEvent (authorizedEvent request (facts receiptId nonce))
    return (facts receiptId nonce, result)

def prepareCompletionReceipt (request : PrepareRequest) : LedgerProgram CompletionReceipt := do
  let workspace ← lookUp fun db => return getWorkspace db request.workspaceId
  raiseIf workspace.isNone
    (receiptError s!"unknown workspace: {request.workspaceId}" "unknown_workspace")
  let (gate, item) ← readGatedItem
    (request.adapter.getD (.ofWorkspace request.workspaceId)) request.taskId
  let forgeEvidence ← lookUp (gatherForgeEvidence · request.workspaceId request.taskId)
  raiseIf (¬ (forgeEvidence.get "not_applicable").truthy ∧
      forgeEvidence.get "status" ≠ .str "passed") (receiptError
    ("forge gate not satisfied: latest ci evidence is " ++
      (forgeEvidence.get "event_type").pyRepr ++ ", expected ci.passed") "forge_gate_failed")
  let reviewEvidence ← lookUp (gatherReviewEvidence · request.workspaceId request.taskId)
  let issued ← utcStamp
  let expires ← orRaise id (shiftSeconds issued request.ttlSeconds)
  let (facts, result) ← issueReceipt request fun receiptId nonce =>
    ⟨receiptId, nonce, Calendar.isoformat issued, Calendar.isoformat expires, gate, reviewEvidence,
      forgeEvidence, computeItemFingerprint item⟩
  let event ← orRaise id result.row.toDict
  return {
    receiptId := facts.receiptId
    nonce := facts.nonce
    reviewEvidence, forgeEvidence, event
    workspaceId := request.workspaceId
    taskId := request.taskId
    requester := request.requester
    authorizedActor := request.authorized
    status := statusAuthorized
    issuedAt := facts.issuedAt
    expiresAt := facts.expiresAt
    gate := gate.toDict
    harnessFingerprint := facts.harnessFingerprint }

end Prepare

section Validation

variable [Deployment]

/-- `_receipt_payload`. -/
def receiptPayload (db : Db) (receiptId : String) : Except Exn Json := do
  match ← eventByReceipt db "completion.authorized" receiptId with
  | none => throw (receiptError s!"unknown receipt: {receiptId}" "unknown_receipt")
  | some event => return payloadOf event

/-- `_validate_binding`. -/
def validateBinding (payload workspaceId taskId : Json) (actor : String) : Except Exn Unit := do
  let stored := payload.get "workspace_id"
  raiseIf (stored ≠ workspaceId) (receiptError
    s!"receipt workspace {stored.pyRepr} does not match {workspaceId.pyRepr}" "workspace_mismatch")
  let task := payload.get "task_id"
  raiseIf (task ≠ taskId) (receiptError
    s!"receipt task {task.pyRepr} does not match {taskId.pyRepr}" "task_mismatch")
  let authorized := payload.get "authorized_actor"
  raiseIf (authorized ≠ .str actor) (receiptError
    (s!"actor {Text.repr actor} does not match receipt authorized_actor " ++ authorized.pyRepr)
    "actor_mismatch")

/-- `now > parse_iso_timestamp(value)`: the outcome, or the exception of the comparison. -/
def isPast (instant : Nat) (value : Json) : Except Exn (Option Bool) :=
  match value with
  | .str text =>
    match Deployment.fromIsoformat (replaceZulu text) with
    | .aware time => return some (decide (time < (instant : Int)))
    | .naive => throw (.type "can't compare offset-naive and offset-aware datetimes")
    | .malformed => return none
  | _ => throw (.type "object has no attribute 'replace'")

/-- `_validate_expiry` at an instant. -/
def validateExpiry (payload : Json) (instant : Nat) : Except Exn Unit := do
  let expiresAt := payload.get "expires_at"
  if expiresAt.truthy then
    match ← isPast instant expiresAt with
    | none => throw (receiptError s!"receipt has malformed expires_at: {expiresAt.pyStr}"
        "malformed_expiry")
    | some expired =>
      raiseIf expired (receiptError s!"receipt expired at {expiresAt.pyStr}" "expired")
  else return ()

/-- The checks that every operation makes first, with one reading of the clock for the expiry. -/
def checkExpiry (payload : Json) : LedgerProgram Unit := do
  if (payload.get "expires_at").truthy then
    let instant ← readInstant
    orRaise id (validateExpiry payload instant)
  else return ()

def notConsumed (receiptId : String) : LedgerProgram Unit := do
  let consumed ← lookUp (eventByReceipt · "completion.consumed" receiptId)
  raiseIf consumed.isSome (receiptError s!"receipt {receiptId} already consumed" "already_consumed")

/-- `_validate_idempotent_before`. -/
def validateIdempotentBefore (receiptId before : String) (allowed : List Json) :
    Except Exn Unit := do
  raiseIf (¬ allowed.all isHashable) unhashable
  raiseIf (¬ allowed.contains (.str before)) (receiptError
    (s!"receipt {receiptId} retry before_fingerprint {Text.repr before} does not match an allowed " ++
      s!"prior-claim lifecycle fingerprint (expected one of " ++
      (Json.arr (allowed.filter Json.truthy)).pyRepr ++
      "); possible drift between reserve and apply") "before_fingerprint_mismatch")

end Validation

section Claim

variable [Deployment]

/-- The arguments of `claim_completion_receipt`. -/
structure ReceiptClaim where
  receiptId : String
  workspaceId : String
  taskId : String
  actor : String
  beforeFingerprint : String
  expectedAfterFingerprint : String
deriving DecidableEq, Repr

/-- The result of a claim; a replay takes its fields from the recorded payload. -/
structure CompletionClaimResult where
  receiptId : Json
  workspaceId : Json
  taskId : Json
  authorizedActor : Json
  status : Json
  beforeFingerprint : Json
  expectedAfterFingerprint : Json
  claimedAt : Json
  event : EventDict
  idempotent : Bool
deriving DecidableEq, Repr

/-- `_claim_result_from` of a recorded event. -/
def claimResultFrom (event : EventDict) (expectedAfter : String) : CompletionClaimResult :=
  let payload := payloadOf event
  { receiptId := payload.get "receipt_id"
    workspaceId := payload.get "workspace_id"
    taskId := payload.get "task_id"
    authorizedActor := payload.get "authorized_actor"
    status := payload.get "status"
    beforeFingerprint := payload.get "before_fingerprint"
    expectedAfterFingerprint := ((payload.get "expected_after_fingerprint").orElse
      (payload.get "after_fingerprint")).orElse (.str expectedAfter)
    claimedAt := (payload.get "claimed_at").orElse (payload.get "applied_at")
    event
    idempotent := true }

/-- A claim of a receipt that has been claimed or applied: `key` names the recorded fingerprint that the
claim must repeat. -/
def replayClaimedReceipt (claim : ReceiptClaim) (prior : EventDict) (key problem : String) :
    Except Exn CompletionClaimResult := do
  let payload := payloadOf prior
  raiseIf (payload.get key ≠ .str claim.expectedAfterFingerprint)
    (receiptError s!"receipt {claim.receiptId} already {problem}" "fingerprint_mismatch")
  validateIdempotentBefore claim.receiptId claim.beforeFingerprint
    [payload.get "before_fingerprint", payload.get key]
  return claimResultFrom prior claim.expectedAfterFingerprint

def receiptClaimedPayload (claim : ReceiptClaim) (claimedAt : Nat) : Json :=
  .obj [("receipt_id", .str claim.receiptId), ("workspace_id", .str claim.workspaceId),
    ("task_id", .str claim.taskId), ("authorized_actor", .str claim.actor),
    ("before_fingerprint", .str claim.beforeFingerprint),
    ("expected_after_fingerprint", .str claim.expectedAfterFingerprint),
    ("claimed_at", .str (Calendar.isoformat claimedAt)), ("status", .str statusClaimed)]

def claimedEvent (claim : ReceiptClaim) (claimedAt : Nat) : NewEvent where
  eventType := "completion.claimed"
  actor := claim.actor
  workspaceId := some claim.workspaceId
  target := some claim.taskId
  taskId := some claim.taskId
  idempotencyKey := some (receiptKey claim.receiptId "claimed")
  payload := receiptClaimedPayload claim claimedAt

/-- A claim of a receipt that is still unused. -/
def claimFresh (claim : ReceiptClaim) (payload : Json) : LedgerProgram CompletionClaimResult := do
  raiseIf (payload.get "harness_fingerprint" ≠ .str claim.beforeFingerprint) (receiptError
    (s!"before_fingerprint {Text.repr claim.beforeFingerprint} does not match receipt " ++
      "harness_fingerprint " ++ (payload.get "harness_fingerprint").pyRepr)
    "before_fingerprint_mismatch")
  let claimedAt ← utcStamp
  let result ← recordEvent (claimedEvent claim claimedAt)
  let event ← orRaise id result.row.toDict
  return {
    receiptId := .str claim.receiptId
    workspaceId := .str claim.workspaceId
    taskId := .str claim.taskId
    authorizedActor := .str claim.actor
    status := .str statusClaimed
    beforeFingerprint := .str claim.beforeFingerprint
    expectedAfterFingerprint := .str claim.expectedAfterFingerprint
    claimedAt := .str (Calendar.isoformat claimedAt)
    event
    idempotent := false }

def claimCompletionReceipt (claim : ReceiptClaim) : LedgerProgram CompletionClaimResult := do
  let payload ← lookUp (receiptPayload · claim.receiptId)
  orRaise id (validateBinding payload (.str claim.workspaceId) (.str claim.taskId) claim.actor)
  checkExpiry payload
  notConsumed claim.receiptId
  let applied ← lookUp (eventByReceipt · "completion.applied" claim.receiptId)
  match applied with
  | some prior => orRaise id (replayClaimedReceipt claim prior "after_fingerprint"
      "applied with a different after-fingerprint")
  | none => do
    let claimed ← lookUp (eventByReceipt · "completion.claimed" claim.receiptId)
    match claimed with
    | some prior => orRaise id (replayClaimedReceipt claim prior "expected_after_fingerprint"
        "claimed with a different expected-after")
    | none => claimFresh claim payload

end Claim

section Apply

variable [Deployment]

/-- The arguments of `apply_completion_receipt`. -/
structure ReceiptApplication where
  receiptId : String
  workspaceId : String
  taskId : String
  actor : String
  afterFingerprint : String
deriving DecidableEq, Repr

structure CompletionApplyResult where
  receiptId : Json
  workspaceId : Json
  taskId : Json
  authorizedActor : Json
  status : Json
  beforeFingerprint : Json
  afterFingerprint : Json
  appliedAt : Json
  event : EventDict
  idempotent : Bool
deriving DecidableEq, Repr

/-- `_apply_result_from` of a recorded event. -/
def applyResultFrom (event : EventDict) : CompletionApplyResult :=
  let payload := payloadOf event
  { receiptId := payload.get "receipt_id"
    workspaceId := payload.get "workspace_id"
    taskId := payload.get "task_id"
    authorizedActor := payload.get "authorized_actor"
    status := payload.get "status"
    beforeFingerprint := payload.get "before_fingerprint"
    afterFingerprint := payload.get "after_fingerprint"
    appliedAt := payload.get "applied_at"
    event
    idempotent := true }

def receiptAppliedPayload (application : ReceiptApplication) (before : Json) (appliedAt : Nat) : Json :=
  .obj [("receipt_id", .str application.receiptId), ("workspace_id", .str application.workspaceId),
    ("task_id", .str application.taskId), ("authorized_actor", .str application.actor),
    ("before_fingerprint", before), ("after_fingerprint", .str application.afterFingerprint),
    ("applied_at", .str (Calendar.isoformat appliedAt)), ("status", .str statusApplied)]

def appliedEvent (application : ReceiptApplication) (before : Json) (appliedAt : Nat) : NewEvent where
  eventType := "completion.applied"
  actor := application.actor
  workspaceId := some application.workspaceId
  target := some application.taskId
  taskId := some application.taskId
  idempotencyKey := some (receiptKey application.receiptId "applied")
  payload := receiptAppliedPayload application before appliedAt

/-- A repeated application must repeat the recorded fingerprint. -/
def replayAppliedReceipt (application : ReceiptApplication) (prior : EventDict) :
    Except Exn CompletionApplyResult := do
  raiseIf ((payloadOf prior).get "after_fingerprint" ≠ .str application.afterFingerprint)
    (receiptError s!"receipt {application.receiptId} already applied with a different after-fingerprint"
      "fingerprint_mismatch")
  return applyResultFrom prior

/-- The application of a claimed receipt. -/
def applyClaimed (application : ReceiptApplication) (claimed : EventDict) :
    LedgerProgram CompletionApplyResult := do
  let expected := (payloadOf claimed).get "expected_after_fingerprint"
  raiseIf (expected ≠ .str application.afterFingerprint) (receiptError
    (s!"after_fingerprint {Text.repr application.afterFingerprint} does not match claimed " ++
      s!"expected-after {expected.pyRepr}") "after_fingerprint_mismatch")
  let before := (payloadOf claimed).get "before_fingerprint"
  let appliedAt ← utcStamp
  let result ← recordEvent (appliedEvent application before appliedAt)
  let event ← orRaise id result.row.toDict
  return {
    receiptId := .str application.receiptId
    workspaceId := .str application.workspaceId
    taskId := .str application.taskId
    authorizedActor := .str application.actor
    status := .str statusApplied
    beforeFingerprint := before
    afterFingerprint := .str application.afterFingerprint
    appliedAt := .str (Calendar.isoformat appliedAt)
    event
    idempotent := false }

def applyCompletionReceipt (application : ReceiptApplication) :
    LedgerProgram CompletionApplyResult := do
  let payload ← lookUp (receiptPayload · application.receiptId)
  orRaise id (validateBinding payload (.str application.workspaceId) (.str application.taskId)
    application.actor)
  checkExpiry payload
  notConsumed application.receiptId
  let applied ← lookUp (eventByReceipt · "completion.applied" application.receiptId)
  match applied with
  | some prior => orRaise id (replayAppliedReceipt application prior)
  | none => do
    let claimed ← lookUp (eventByReceipt · "completion.claimed" application.receiptId)
    match claimed with
    | some prior => applyClaimed application prior
    | none => throw (receiptError
        (s!"receipt {application.receiptId} has no completion.claimed event; " ++
          "reserve before apply") "not_claimed")

end Apply

section Consume

variable [Deployment]

/-- The arguments of `consume_completion_receipt`. -/
structure ReceiptConsumption where
  receiptId : String
  actor : String
  deployedAdapter : Option Adapter := none
  verification : Option String := none
  expectedWorkspaceId : Option String := none
deriving DecidableEq, Repr

structure CompletionConsumeResult where
  receiptId : String
  workspaceId : Json
  taskId : Json
  authorizedActor : String
  event : EventDict
  eventCreated : Bool
  deployedVerification : Json
deriving DecidableEq, Repr

/-- A value bound to a parameter that a text column is compared with; `None` is no parameter. -/
def boundText : Json → Except Exn (Option String)
  | .null => return none
  | .str text => return some text
  | .int value => return some (toString value)
  | .bool value => return some (if value then "1" else "0")
  | _ => throw (Exn.operational "Error binding parameter: type is not supported")

/-- The replay of a consumption. -/
def replayConsumed (consumption : ReceiptConsumption) (workspaceId taskId : Json)
    (done : Option EventDict) : Except Exn CompletionConsumeResult :=
  match done with
  | none => throw (receiptError
      s!"receipt {consumption.receiptId} marked consumed but task.done missing"
      "consumed_without_task_done")
  | some prior => return {
      receiptId := consumption.receiptId
      workspaceId, taskId
      authorizedActor := consumption.actor
      event := prior
      eventCreated := false
      deployedVerification := .obj [("idempotent", .bool true),
        ("fingerprint", (payloadOf prior).get "applied_fingerprint")] }

/-- Every earlier terminal of the task belongs to the receipt. -/
def refuseOtherTerminals (receiptId : String) (taskId : Json) : List EventRow → Except Exn Unit
  | [] => return ()
  | row :: rest => do
    let prior ← row.toDict
    raiseIf ((payloadOf prior).get "receipt_id" ≠ .str receiptId) (receiptError
      (s!"task {taskId.pyStr} already has task.done {row.id} under a different authority; " ++
        "use the repair path to reconcile") "task_already_done_other_authority")
    refuseOtherTerminals receiptId taskId rest

/-- The `task.done` rows of a workspace and a task. -/
def terminalRows (db : Db) (workspaceId taskId : Option String) : List EventRow :=
  db.events.filter fun row => row.eventType = "task.done" &&
    (workspaceId.all fun id => row.workspaceId = some id) &&
    (taskId.all fun id => row.taskId = some id)

/-- The adapter of a consumption; without one it is that of the workspace of the receipt. -/
def deployedAdapterOf (db : Db) (consumption : ReceiptConsumption) (workspaceId : Json) :
    Except Exn Adapter :=
  match consumption.deployedAdapter with
  | some adapter => return adapter
  | none => do
    let id ← boundText workspaceId
    match id.bind (getWorkspace db) with
    | some workspace => return .ofWorkspace workspace.id
    | none => throw (receiptError s!"unknown workspace: {workspaceId.pyStr}" "unknown_workspace")

/-- `_deployed_task_item` of a checklist that has been read. -/
def deployedTaskItem (read : Except AdapterError Json) (taskId : Json) : Except Exn Json :=
  match read with
  | .error error => throw (receiptError
      s!"deployed harness checklist unreadable: {error.message}" "deployed_harness_unavailable")
  | .ok checklist =>
    match checklist.get "items", findItem checklist taskId with
    | .arr _, some item => return item
    | .arr _, none => throw (receiptError
        s!"task {taskId.pyStr} not found in deployed harness" "deployed_task_missing")
    | _, _ => throw (receiptError
        "deployed harness checklist has no items list" "deployed_harness_unavailable")

/-- The deployed item is done and closed, nobody owns it, and its fingerprint is the applied one. -/
def verifyDeployed (item taskId afterFingerprint : Json) : Except Exn Unit := do
  let status := item.get "status"
  let workflowStatus := (workflowOf item).get "status"
  raiseIf (status ≠ .str "done" ∨ workflowStatus ≠ .str "closed") (receiptError
    (s!"deployed harness for task {taskId.pyStr} is status={status.pyRepr}/workflow=" ++
      s!"{workflowStatus.pyRepr}, expected done/closed") "deployed_not_done")
  let problem := terminalOwnershipProblem item
  raiseIf problem.isSome (receiptError
    (s!"deployed harness for task {taskId.pyStr} is done/closed but still carries terminal " ++
      s!"ownership (" ++ problem.getD "" ++ "); the terminal item must clear owner/selected_in_session " ++
      "and stamp the lease released_at before the receipt can be consumed")
    "deployed_terminal_ownership_unreleased")
  raiseIf (¬ afterFingerprint.truthy ∨ afterFingerprint ≠ .str (computeItemFingerprint item))
    (receiptError (s!"deployed fingerprint {Text.repr (computeItemFingerprint item)} does not " ++
      s!"match applied after-fingerprint {afterFingerprint.pyRepr}") "fingerprint_mismatch")

def deployedVerificationOf (item : Json) : Json :=
  .obj [("fingerprint", .str (computeItemFingerprint item)), ("status", item.get "status"),
    ("workflow_status", (workflowOf item).get "status")]

def taskDonePayload (consumption : ReceiptConsumption) (payload afterFingerprint item : Json) : Json :=
  let base := Json.obj [("task_id", payload.get "task_id"), ("receipt_id", .str consumption.receiptId),
    ("host_aware", .str "receipt"), ("applied_fingerprint", afterFingerprint),
    ("deployed_verification", deployedVerificationOf item),
    ("review_evidence", payload.get "review_evidence"),
    ("forge_evidence", payload.get "forge_evidence")]
  match consumption.verification.filter (· ≠ "") with
  | some verification => base.set "verification" (.str verification)
  | none => base

def consumedPayload (consumption : ReceiptConsumption) (payload : Json) (doneId : String)
    (consumedAt : Nat) : Json :=
  .obj [("receipt_id", .str consumption.receiptId), ("workspace_id", payload.get "workspace_id"),
    ("task_id", payload.get "task_id"), ("authorized_actor", .str consumption.actor),
    ("task_done_event_id", .str doneId), ("consumed_at", .str (Calendar.isoformat consumedAt)),
    ("status", .str statusConsumed)]

/-- The two events of a consumption share their columns; `transition` ends the key. -/
def consumptionEvent (consumption : ReceiptConsumption) (workspaceId taskId : Option String)
    (eventType transition : String) (payload : Json) : NewEvent where
  eventType
  actor := consumption.actor
  workspaceId
  target := taskId
  taskId
  idempotencyKey := some (receiptKey consumption.receiptId transition)
  payload

/-- The body of the savepoint: `task.done` and `completion.consumed`. -/
def appendTerminal (consumption : ReceiptConsumption) (payload afterFingerprint item : Json)
    (workspaceId taskId : Option String) (consumedAt : Nat) :
    DbTxn (AppendEventResult × AppendEventResult) := do
  let done ← appendEvent (consumptionEvent consumption workspaceId taskId "task.done" "task.done"
    (taskDonePayload consumption payload afterFingerprint item))
  let _ ← orRaise id done.row.toDict
  let consumed ← appendEvent (consumptionEvent consumption workspaceId taskId "completion.consumed"
    "consumed" (consumedPayload consumption payload done.row.id consumedAt))
  return (done, consumed)

/-- A consumption of an applied receipt. -/
def consumeApplied (consumption : ReceiptConsumption) (payload : Json) (applied : EventDict) :
    LedgerProgram CompletionConsumeResult := do
  let workspaceId := payload.get "workspace_id"
  let taskId := payload.get "task_id"
  let afterFingerprint := (payloadOf applied).get "after_fingerprint"
  let workspaceText ← orRaise id (boundText workspaceId)
  let taskText ← orRaise id (boundText taskId)
  let scanned ← lookUp fun db => do
    refuseOtherTerminals consumption.receiptId taskId (terminalRows db workspaceText taskText)
    return db.events.rows.length
  let adapter ← lookUp (deployedAdapterOf · consumption workspaceId)
  let read ← readChecklist adapter
  let item ← orRaise id (deployedTaskItem read taskId)
  orRaise id (verifyDeployed item taskId afterFingerprint)
  let consumedAt ← utcStamp
  let (done, consumed) ← transaction
    (.terminal ⟨.receipt consumption.receiptId, workspaceText, taskText,
      receiptKey consumption.receiptId "task.done", scanned⟩)
    (appendTerminal consumption payload afterFingerprint item workspaceText taskText consumedAt)
  let event ← orRaise id done.row.toDict
  return {
    receiptId := consumption.receiptId
    workspaceId, taskId
    authorizedActor := consumption.actor
    event
    eventCreated := done.created && consumed.created
    deployedVerification := deployedVerificationOf item }

def checkExpectedWorkspace (expected : Option String) (payload : Json) : Except Exn Unit :=
  match expected with
  | none => return ()
  | some workspaceId =>
    raiseIf (payload.get "workspace_id" ≠ .str workspaceId) (receiptError
      ("receipt workspace " ++ (payload.get "workspace_id").pyRepr ++ " does not match " ++
        Text.repr workspaceId) "workspace_mismatch")

def consumeCompletionReceipt (consumption : ReceiptConsumption) :
    LedgerProgram CompletionConsumeResult := do
  let payload ← lookUp (receiptPayload · consumption.receiptId)
  let workspaceId := payload.get "workspace_id"
  let taskId := payload.get "task_id"
  orRaise id (checkExpectedWorkspace consumption.expectedWorkspaceId payload)
  orRaise id (validateBinding payload workspaceId taskId consumption.actor)
  checkExpiry payload
  let consumed ← lookUp (eventByReceipt · "completion.consumed" consumption.receiptId)
  match consumed with
  | some _ => do
    let done ← lookUp (eventByReceipt · "task.done" consumption.receiptId)
    orRaise id (replayConsumed consumption workspaceId taskId done)
  | none => do
    let applied ← lookUp (eventByReceipt · "completion.applied" consumption.receiptId)
    match applied with
    | some prior => consumeApplied consumption payload prior
    | none => throw (receiptError
        (s!"receipt {consumption.receiptId} has no completion.applied event; the file side " ++
          "must acknowledge before record can consume") "not_applied")

end Consume

section Preflight

variable [Deployment]

/-- The answer of a preflight: a chain that cannot be trusted, or the state derived from it; or the
exception of a look at the ledger. -/
inductive Preflight
  | raised (error : Exn)
  | broken (reason message : String)
  | derived (workspaceId taskId actor status issuedAt expiresAt terminalEventId : Json)
deriving DecidableEq, Repr

/-- `None` fields of a scan are `null`. -/
structure PreflightScan where
  seen : List String := []
  workspaceId : Json := .null
  taskId : Json := .null
  actor : Json := .null
  authorizedFingerprint : Json := .null
  claimedExpectedAfter : Json := .null
  appliedAfter : Json := .null
  status : Json := .str statusAuthorized
  terminalEventId : Json := .null
deriving DecidableEq, Repr

def statusOrder : List String := [statusAuthorized, statusClaimed, statusApplied, statusConsumed]

def chainIncomplete (message : String) : Preflight := .broken "receipt_chain_incomplete" message
def chainConflict (message : String) : Preflight := .broken "receipt_chain_conflict" message

/-- `_is_canonical_sha256`. -/
def isCanonicalSha256 : Json → Bool
  | .str text => text.toList.length = 64 && text.toList.all Text.isLowerHex
  | _ => false

/-- A fingerprint that must be there, and be a digest. -/
def requireDigest (value : Json) (missing noDigest : String) : Except Preflight Unit := do
  raiseIf (¬ value.truthy) (chainIncomplete missing)
  raiseIf (¬ isCanonicalSha256 value)
    (chainConflict s!"{noDigest} {value.pyRepr} is not a canonical SHA-256")

/-- `event["rowid"]` order, status and predecessors of one event. -/
def scanStatus (scan : PreflightScan) (payload : Json) : Except Preflight String := do
  let status := payload.get "status"
  match statusOrder.find? fun known => status = .str known with
  | none => throw (chainConflict s!"unknown receipt status {status.pyRepr} in chain")
  | some known => do
    let required := statusOrder.takeWhile (· ≠ known)
    raiseIf (¬ required.all (scan.seen.contains ·))
      (chainIncomplete s!"{known} event missing required predecessors")
    raiseIf (scan.seen.contains known)
      (chainConflict s!"duplicate {known} transition in chain")
    return known

/-- A link that, where it is present, equals the one of the chain. -/
def requireLink (label : String) (value chain : Json) : Except Preflight Unit :=
  raiseIf (value.truthy ∧ value ≠ chain)
    (chainConflict s!"{label} mismatch in receipt chain: {value.pyRepr} != {chain.pyRepr}")

def scanLinks (scan : PreflightScan) (payload : Json) : Except Preflight PreflightScan := do
  let workspaceId := payload.get "workspace_id"
  let taskId := payload.get "task_id"
  let actor := (payload.get "authorized_actor").orElse (payload.get "actor")
  let scan := { scan with
    workspaceId := if scan.workspaceId = .null then workspaceId else scan.workspaceId
    taskId := if scan.taskId = .null then taskId else scan.taskId
    actor := if scan.actor = .null then actor else scan.actor }
  requireLink "workspace_id" workspaceId scan.workspaceId
  requireLink "task_id" taskId scan.taskId
  requireLink "actor" actor scan.actor
  return scan

def scanAuthorized (scan : PreflightScan) (payload : Json) : Except Preflight PreflightScan := do
  let fingerprint := payload.get "harness_fingerprint"
  requireDigest fingerprint "authorized event missing harness_fingerprint"
    "authorized harness_fingerprint"
  return { scan with authorizedFingerprint := fingerprint }

/-- The before-fingerprint of a claimed or applied event; `against` names what it must equal. -/
def scanBefore (scan : PreflightScan) (payload : Json) (status against : String) :
    Except Preflight Unit := do
  let before := payload.get "before_fingerprint"
  requireDigest before s!"{status} event missing before_fingerprint"
    s!"{status} before_fingerprint"
  raiseIf (before ≠ scan.authorizedFingerprint) (chainConflict
    (s!"{status} before_fingerprint {before.pyRepr} does not match {against} " ++
      scan.authorizedFingerprint.pyRepr))

def scanClaimed (scan : PreflightScan) (payload : Json) : Except Preflight PreflightScan := do
  scanBefore scan payload "claimed" "authorized harness_fingerprint"
  let expectedAfter := payload.get "expected_after_fingerprint"
  requireDigest expectedAfter "claimed event missing expected_after_fingerprint"
    "claimed expected_after_fingerprint"
  return { scan with claimedExpectedAfter := expectedAfter }

def scanApplied (scan : PreflightScan) (payload : Json) : Except Preflight PreflightScan := do
  scanBefore scan payload "applied" "claimed before_fingerprint"
  let after := payload.get "after_fingerprint"
  requireDigest after "applied event missing after_fingerprint" "applied after_fingerprint"
  raiseIf (after ≠ scan.claimedExpectedAfter) (chainConflict
    (s!"applied after_fingerprint {after.pyRepr} does not match claimed " ++
      s!"expected_after_fingerprint {scan.claimedExpectedAfter.pyRepr}"))
  return { scan with appliedAfter := after }

/-- The payload of a stored event, or none where it is no dictionary. -/
def terminalPayload (row : EventRow) : Json :=
  match row.payloadJson with
  | .value payload => dictOr payload
  | _ => .obj []

/-- The terminal that a consumed event references. -/
def scanTerminal (receiptId : String) (scan : PreflightScan) (doneId : String) (done : EventRow) :
    Except Preflight Unit := do
  raiseIf (done.eventType ≠ "task.done")
    (chainIncomplete s!"consumed event references non-task.done event {doneId}")
  raiseIf (Json.ofOption done.workspaceId ≠ scan.workspaceId ∨
      Json.ofOption done.taskId ≠ scan.taskId)
    (chainConflict s!"consumed event task.done {doneId} has wrong workspace/task")
  let payload := terminalPayload done
  raiseIf (payload.get "receipt_id" ≠ .str receiptId)
    (chainConflict s!"consumed event task.done {doneId} references another receipt")
  let applied := payload.get "applied_fingerprint"
  requireDigest applied s!"task.done {doneId} missing applied_fingerprint"
    "task.done applied_fingerprint"
  raiseIf (applied ≠ scan.appliedAfter) (chainConflict
    (s!"consumed task.done applied_fingerprint {applied.pyRepr} does not match applied " ++
      s!"after_fingerprint {scan.appliedAfter.pyRepr}"))

/-- `SELECT * FROM events WHERE id = ?`, with a value out of a payload. -/
def eventById (db : Db) (id : Json) : Except Exn (Option EventRow) := do
  let text ← boundText id
  return db.events.find? fun row => some row.id = text

def scanConsumed (db : Db) (receiptId : String) (scan : PreflightScan) (payload : Json)
    (eventId : String) : Except Preflight PreflightScan := do
  let doneId := payload.get "task_done_event_id"
  raiseIf (¬ doneId.truthy) (chainIncomplete "consumed event missing task_done_event_id")
  raiseIf (¬ scan.appliedAfter.truthy)
    (chainIncomplete "consumed event missing applied after_fingerprint predecessor")
  match eventById db doneId with
  | .error error => throw (.raised error)
  | .ok none =>
    throw (chainIncomplete s!"consumed event references missing task.done {doneId.pyStr}")
  | .ok (some done) =>
    scanTerminal receiptId scan doneId.pyStr done
    return { scan with terminalEventId := .str eventId }

/-- What one status adds to the scan. -/
def scanFingerprints (db : Db) (receiptId : String) (scan : PreflightScan) (status : String)
    (payload : Json) (eventId : String) : Except Preflight PreflightScan :=
  if status = statusAuthorized then scanAuthorized scan payload
  else if status = statusClaimed then scanClaimed scan payload
  else if status = statusApplied then scanApplied scan payload
  else scanConsumed db receiptId scan payload eventId

def scanEvent (db : Db) (receiptId : String) (scan : PreflightScan) (event : EventDict) :
    Except Preflight PreflightScan := do
  let payload := payloadOf event
  let status ← scanStatus scan payload
  let linked ← scanLinks { scan with seen := status :: scan.seen } payload
  let scanned ← scanFingerprints db receiptId linked status payload event.row.id
  return { scanned with status := .str status }

def scanChain (db : Db) (receiptId : String) : PreflightScan → List EventDict →
    Except Preflight PreflightScan
  | scan, [] => return scan
  | scan, event :: rest => do
    let next ← scanEvent db receiptId scan event
    scanChain db receiptId next rest

/-- The completion events of a receipt, oldest first. -/
def chainEvents (db : Db) (receiptId : String) : Except Exn (List EventDict) := do
  let rows ← rowsOfReceipt receiptId db.events.rows
  let decoded ← rows.mapM EventRow.toDict
  return decoded.filter fun event => Text.startsWith event.row.eventType "completion."

/-- The state of a chain, derived from its events. -/
def preflightOf (db : Db) (receiptId : String) : List EventDict → Option Preflight
  | [] => none
  | first :: rest =>
    if first.row.eventType ≠ "completion.authorized" then
      some (chainIncomplete
        s!"receipt {receiptId} chain does not start with completion.authorized")
    else
      match scanChain db receiptId {} (first :: rest) with
      | .error broken => some broken
      | .ok scan => some (.derived scan.workspaceId scan.taskId scan.actor scan.status
          ((payloadOf first).get "issued_at") ((payloadOf first).get "expires_at")
          scan.terminalEventId)

def lookupReceiptForPreflight (db : Db) (receiptId : String) : Except Exn (Option Preflight) := do
  let events ← chainEvents db receiptId
  match preflightOf db receiptId events with
  | some (.raised error) => throw error
  | answer => return answer

/-- `preflight_expired` of a derived state at an instant: only an unused receipt expires. -/
def preflightExpired (status expiresAt : Json) (instant : Nat) : Except Exn Bool :=
  if status ≠ .str statusAuthorized ∨ ¬ expiresAt.truthy then return false
  else do
    let past ← isPast instant expiresAt
    return past.getD true

end Preflight

namespace Completion

variable [Deployment]

/-- The operations on receipts with their arguments. -/
inductive Call
  | prepare (request : PrepareRequest)
  | claim (claim : ReceiptClaim)
  | apply (application : ReceiptApplication)
  | consume (consumption : ReceiptConsumption)

inductive Response
  | prepared (receipt : CompletionReceipt)
  | claimed (result : CompletionClaimResult)
  | applied (result : CompletionApplyResult)
  | consumed (result : CompletionConsumeResult)
deriving DecidableEq

def Call.perform : Call → LedgerProgram Response
  | .prepare request => Response.prepared <$> prepareCompletionReceipt request
  | .claim reservation => Response.claimed <$> claimCompletionReceipt reservation
  | .apply application => Response.applied <$> applyCompletionReceipt application
  | .consume consumption => Response.consumed <$> consumeCompletionReceipt consumption

end Completion

end Coordinate

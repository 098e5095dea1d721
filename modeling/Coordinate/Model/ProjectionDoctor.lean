import Coordinate.Model.Completion

/-! # The receipt findings of the projection doctor

`_diagnose_receipts` of `projection_doctor.py` reads the receipt chains of a workspace from the ledger. A
chain is read to its end whatever is found in it: the problems of all its events are collected and come out
as at most one finding of each kind.
-/

namespace Coordinate

section Findings

inductive Severity
  | error
  | warning
  | info
deriving DecidableEq, Repr

inductive FindingKind
  | receiptChainConflict
  | receiptChainIncomplete
  | receiptTerminal
  | receiptAuthorizationUnused
deriving DecidableEq, Repr

def FindingKind.text : FindingKind → String
  | receiptChainConflict => "receipt_chain_conflict"
  | receiptChainIncomplete => "receipt_chain_incomplete"
  | receiptTerminal => "receipt_terminal"
  | receiptAuthorizationUnused => "receipt_authorization_unused"

/-- A finding about a receipt, with the entries of `_evidence` in the order of their keys; the fields of the
other scopes are never set. -/
structure Finding where
  findingId : String
  kind : FindingKind
  severity : Severity
  scope : String
  workspaceId : String
  receiptId : String
  authority : String
  evidence : List (String × Json)
  repairable : Bool
  nextAction : String
deriving DecidableEq, Repr

/-- `_make_finding_id` of a receipt. -/
def makeFindingId (kind : FindingKind) (workspaceId receiptId : String) : String :=
  (Json.arr [.str kind.text, .str workspaceId, .str "", .str "", .str receiptId]).dumps

def receiptFinding (workspaceId receiptId : String) (kind : FindingKind) (severity : Severity)
    (evidence : List (String × Json)) (nextAction : String) : Finding where
  findingId := makeFindingId kind workspaceId receiptId
  kind := kind
  severity := severity
  scope := "receipt"
  workspaceId := workspaceId
  receiptId := receiptId
  authority := "events"
  evidence := evidence
  repairable := false
  nextAction := nextAction

end Findings

section Chains

/-- An event with its row id. -/
abbrev NumberedEvent := Nat × EventDict

def receiptEventTypes : List String :=
  ["completion.authorized", "completion.claimed", "completion.applied", "completion.consumed"]

def toNumbered (numbered : Nat × EventRow) : Except Exn NumberedEvent := do
  let event ← numbered.2.toDict
  return (numbered.1, event)

/-- The receipt events of a workspace, oldest first. -/
def receiptEvents (db : Db) (workspaceId : String) : Except Exn (List NumberedEvent) := do
  let events ← (listEvents db workspaceId).mapM toNumbered
  let receipts := events.filter fun event => receiptEventTypes.contains event.2.row.eventType
  raiseIf (¬ receipts.all fun event => (payloadOf event.2).isObj)
    (Exn.type "object has no attribute 'get'")
  return receipts

def receiptOf (event : NumberedEvent) : Json := (payloadOf event.2).get "receipt_id"
def statusOf (event : EventDict) : Json := (payloadOf event).get "status"

/-- The chains of the receipts, in the order in which they begin. -/
def receiptChains (receipts : List NumberedEvent) : Except Exn (List (Json × List NumberedEvent)) := do
  let named := receipts.filter fun event => (receiptOf event).truthy
  raiseIf (¬ named.all fun event => isHashable (receiptOf event)) unhashable
  return (named.map receiptOf).eraseDups.map fun receiptId =>
    (receiptId, named.filter fun event => receiptOf event = receiptId)

/-- A receipt that has been consumed, for which task, and where. -/
structure ConsumedReceipt where
  receiptId : Json
  workspaceId : Json
  taskId : Json
  rowid : Nat
deriving DecidableEq, Repr

def consumedReceipt (chain : Json × List NumberedEvent) : Option ConsumedReceipt := do
  let consumed ← chain.2.find? fun event => statusOf event.2 = .str statusConsumed
  let workspaceId := (payloadOf consumed.2).get "workspace_id"
  let taskId := (payloadOf consumed.2).get "task_id"
  if workspaceId.truthy ∧ taskId.truthy then
    some ⟨chain.1, workspaceId, taskId, consumed.1⟩
  else none

end Chains

section Diagnosis

/-- A problem of a chain: a link that does not agree, or one that is missing. -/
inductive ChainProblem
  | conflict (message : String)
  | predecessorMissing (message : String)
deriving DecidableEq, Repr

/-- What has been read of a chain. -/
structure ChainDiagnosis where
  seenStatuses : List String := []
  authorizedRowid : Option Nat := none
  authorizedPayload : Json := .null
  authorizedHarnessFingerprint : Json := .null
  claimedExpectedAfter : Json := .null
  appliedAfter : Json := .null
  workspaceId : Json := .null
  taskId : Json := .null
  actor : Json := .null
  conflicts : List String := []
  predecessorMissing : List String := []
deriving DecidableEq, Repr

def ChainDiagnosis.note (diagnosis : ChainDiagnosis) : Option ChainProblem → ChainDiagnosis
  | none => diagnosis
  | some (.conflict message) => { diagnosis with conflicts := diagnosis.conflicts ++ [message] }
  | some (.predecessorMissing message) =>
    { diagnosis with predecessorMissing := diagnosis.predecessorMissing ++ [message] }

/-- The problem of a fingerprint that must be there, be a digest, and be the one expected. -/
def fingerprintProblem (value expected : Json) (missing noDigest mismatch : String) :
    Option ChainProblem :=
  if ¬ value.truthy then some (.predecessorMissing missing)
  else if ¬ isCanonicalSha256 value then some (.conflict noDigest)
  else if value ≠ expected then some (.conflict mismatch)
  else none

/-- What an authorization says, whether or not it is the first of the chain. -/
def diagnoseAuthorized (diagnosis : ChainDiagnosis) (rowid : Nat) (payload : Json) :
    ChainDiagnosis :=
  let fingerprint := payload.get "harness_fingerprint"
  let problem := fingerprintProblem fingerprint fingerprint
    s!"authorized event missing harness_fingerprint at rowid {rowid}"
    s!"authorized harness_fingerprint {fingerprint.pyRepr} is not a canonical SHA-256 at rowid {rowid}"
    ""
  { diagnosis.note problem with
    authorizedRowid := some rowid
    authorizedPayload := payload
    authorizedHarnessFingerprint :=
      if problem.isNone then fingerprint else diagnosis.authorizedHarnessFingerprint }

/-- The link of a chain, with the value of one more event. -/
def fillLink (chain own : Json) : Json :=
  if chain = .null ∧ own.truthy then own else chain

def linkProblem (label : String) (own chain : Json) (rowid : Nat) : Option ChainProblem :=
  if own.truthy ∧ own ≠ chain then
    some (.conflict s!"{label} mismatch: {own.pyRepr} != {chain.pyRepr} at rowid {rowid}")
  else none

/-- `payload.get("authorized_actor") or payload.get("actor")`. -/
def actorOf (payload : Json) : Json :=
  (payload.get "authorized_actor").orElse (payload.get "actor")

def diagnoseLinks (diagnosis : ChainDiagnosis) (rowid : Nat) (payload : Json) : ChainDiagnosis :=
  let workspaceId := payload.get "workspace_id"
  let taskId := payload.get "task_id"
  let actor := actorOf payload
  let linked := { diagnosis with
    workspaceId := fillLink diagnosis.workspaceId workspaceId
    taskId := fillLink diagnosis.taskId taskId
    actor := fillLink diagnosis.actor actor }
  ((linked.note (linkProblem "workspace_id" workspaceId linked.workspaceId rowid)).note
    (linkProblem "task_id" taskId linked.taskId rowid)).note
    (linkProblem "actor" actor linked.actor rowid)

/-- The before-fingerprint of a claim or of an application. -/
def beforeProblem (diagnosis : ChainDiagnosis) (rowid : Nat) (payload : Json)
    (status against : String) : Option ChainProblem :=
  let before := payload.get "before_fingerprint"
  fingerprintProblem before diagnosis.authorizedHarnessFingerprint
    s!"{status} event missing before_fingerprint at rowid {rowid}"
    s!"{status} before_fingerprint {before.pyRepr} is not a canonical SHA-256 at rowid {rowid}"
    (s!"{status} before_fingerprint {before.pyRepr} does not match {against} " ++
      s!"{diagnosis.authorizedHarnessFingerprint.pyRepr} at rowid {rowid}")

def diagnoseClaimed (diagnosis : ChainDiagnosis) (rowid : Nat) (payload : Json) : ChainDiagnosis :=
  let noted := diagnosis.note
    (beforeProblem diagnosis rowid payload "claimed" "authorized harness_fingerprint")
  let expected := payload.get "expected_after_fingerprint"
  let problem := fingerprintProblem expected expected
    s!"claimed event missing expected_after_fingerprint at rowid {rowid}"
    (s!"claimed expected_after_fingerprint {expected.pyRepr} is not a canonical SHA-256 " ++
      s!"at rowid {rowid}") ""
  { noted.note problem with
    claimedExpectedAfter := if problem.isNone then expected else diagnosis.claimedExpectedAfter }

def diagnoseApplied (diagnosis : ChainDiagnosis) (rowid : Nat) (payload : Json) : ChainDiagnosis :=
  let noted := diagnosis.note
    (beforeProblem diagnosis rowid payload "applied" "claimed before_fingerprint")
  let after := payload.get "after_fingerprint"
  let problem := fingerprintProblem after diagnosis.claimedExpectedAfter
    s!"applied event missing after_fingerprint at rowid {rowid}"
    s!"applied after_fingerprint {after.pyRepr} is not a canonical SHA-256 at rowid {rowid}"
    (s!"applied after_fingerprint {after.pyRepr} does not match claimed expected_after_fingerprint " ++
      s!"{diagnosis.claimedExpectedAfter.pyRepr} at rowid {rowid}")
  { noted.note problem with
    appliedAfter := if problem.isNone then after else diagnosis.appliedAfter }

/-- The problem of the terminal that a consumed event references. -/
def terminalProblem (receiptId : String) (diagnosis : ChainDiagnosis) (doneId : String)
    (done : EventRow) : Option ChainProblem :=
  if done.eventType ≠ "task.done" then
    some (.predecessorMissing s!"consumed event references non-task.done event {doneId}")
  else if Json.ofOption done.workspaceId ≠ diagnosis.workspaceId ∨
      Json.ofOption done.taskId ≠ diagnosis.taskId then
    some (.conflict s!"consumed event task.done {doneId} has wrong workspace/task")
  else if (terminalPayload done).get "receipt_id" ≠ .str receiptId then
    some (.conflict s!"consumed event task.done {doneId} references another receipt")
  else
    let applied := (terminalPayload done).get "applied_fingerprint"
    fingerprintProblem applied diagnosis.appliedAfter
      s!"task.done {doneId} missing applied_fingerprint"
      s!"task.done applied_fingerprint {applied.pyRepr} is not a canonical SHA-256"
      (s!"consumed task.done applied_fingerprint {applied.pyRepr} does not match " ++
        s!"applied after_fingerprint {diagnosis.appliedAfter.pyRepr}")

def consumedProblem (db : Db) (receiptId : String) (diagnosis : ChainDiagnosis) (payload : Json) :
    Except Exn (Option ChainProblem) := do
  let doneId := payload.get "task_done_event_id"
  if ¬ doneId.truthy then
    return some (.predecessorMissing "consumed event missing task_done_event_id")
  else if ¬ diagnosis.appliedAfter.truthy then
    return some (.predecessorMissing "consumed event missing applied after_fingerprint predecessor")
  else
    match ← eventById db doneId with
    | none => return some (.predecessorMissing
        s!"consumed event references missing task.done {doneId.pyStr}")
    | some done => return terminalProblem receiptId diagnosis doneId.pyStr done

/-- What an event of a known status says, beside its place in the chain. -/
def diagnoseFingerprints (db : Db) (receiptId : String) (diagnosis : ChainDiagnosis)
    (status : String) (rowid : Nat) (payload : Json) : Except Exn ChainDiagnosis :=
  if status = statusClaimed then return diagnoseClaimed diagnosis rowid payload
  else if status = statusApplied then return diagnoseApplied diagnosis rowid payload
  else if status = statusConsumed then do
    let problem ← consumedProblem db receiptId diagnosis payload
    return diagnosis.note problem
  else return diagnosis

/-- A status that appears before its predecessors. -/
def orderProblem (diagnosis : ChainDiagnosis) (status : String) (rowid : Nat) :
    Option ChainProblem :=
  let required := statusOrder.takeWhile (· ≠ status)
  let missing := required.filter fun known => ¬ diagnosis.seenStatuses.contains known
  if missing ≠ [] then some (.predecessorMissing
    s!"{status} at rowid {rowid} missing predecessors {(Json.arr (missing.map .str)).pyRepr}")
  else none

/-- One event of a known status; a repeated status is only noted. -/
def diagnoseKnown (db : Db) (receiptId : String) (diagnosis : ChainDiagnosis) (status : String)
    (rowid : Nat) (payload : Json) : Except Exn ChainDiagnosis :=
  let ordered := diagnosis.note (orderProblem diagnosis status rowid)
  if ordered.seenStatuses.contains status then
    return ordered.note (some (.conflict s!"duplicate {status} at rowid {rowid}"))
  else
    let seen := { ordered with seenStatuses := ordered.seenStatuses ++ [status] }
    diagnoseFingerprints db receiptId (diagnoseLinks seen rowid payload) status rowid payload

def diagnoseEvent (db : Db) (receiptId : String) (diagnosis : ChainDiagnosis)
    (event : NumberedEvent) : Except Exn ChainDiagnosis :=
  let rowid := event.1
  let payload := payloadOf event.2
  let status := payload.get "status"
  let authorized := if status = .str statusAuthorized then diagnoseAuthorized diagnosis rowid payload
    else diagnosis
  match statusOrder.find? fun known => status = .str known with
  | none =>
    return authorized.note (some (.conflict s!"unknown status {status.pyRepr} at rowid {rowid}"))
  | some known => diagnoseKnown db receiptId authorized known rowid payload

def ChainDiagnosis.sound (diagnosis : ChainDiagnosis) : Bool :=
  diagnosis.conflicts.isEmpty && diagnosis.predecessorMissing.isEmpty

/-- Another receipt of the task has been consumed since the receipt was authorized. -/
def superseded (receiptId : String) (diagnosis : ChainDiagnosis) (consumed : List ConsumedReceipt) :
    Bool :=
  diagnosis.workspaceId.truthy && diagnosis.taskId.truthy &&
    match diagnosis.authorizedRowid with
    | none => false
    | some authorized => consumed.any fun other =>
        other.receiptId ≠ .str receiptId && other.workspaceId = diagnosis.workspaceId &&
          other.taskId = diagnosis.taskId && decide (authorized < other.rowid)

/-- `now > expires_at`, which compares texts. -/
def pastText (now : String) : Json → Except Exn Bool
  | .str expiresAt => return decide (expiresAt < now)
  | _ => throw (Exn.type "'>' not supported between instances")

/-- The window of the authorization is over at the time. -/
def windowOver (diagnosis : ChainDiagnosis) (now : String) : Except Exn Bool :=
  let expiresAt := diagnosis.authorizedPayload.get "expires_at"
  if diagnosis.authorizedPayload.truthy ∧ expiresAt.truthy then pastText now expiresAt
  else return false

def chainStatuses (chain : List NumberedEvent) : Json :=
  .arr (chain.map fun event => .arr [.int event.1, statusOf event.2])

def listOf (texts : List String) : Json := .arr (texts.map .str)

def problemFindings (workspaceId receiptId : String) (chain : List NumberedEvent)
    (diagnosis : ChainDiagnosis) : List Finding :=
  (if diagnosis.conflicts.isEmpty then [] else [receiptFinding workspaceId receiptId
    .receiptChainConflict .error
    [("chain_length", .int chain.length), ("chain_statuses", chainStatuses chain),
      ("conflicts", listOf diagnosis.conflicts)]
    "Escalate: receipt event chain has conflicting workspace/task/actor/fingerprint linkage."]) ++
  (if diagnosis.predecessorMissing.isEmpty then [] else [receiptFinding workspaceId receiptId
    .receiptChainIncomplete .error
    [("chain_length", .int chain.length), ("chain_statuses", chainStatuses chain),
      ("missing_predecessors", listOf diagnosis.predecessorMissing)]
    "Escalate: receipt chain is missing required predecessor transitions."])

def terminalFindings (workspaceId receiptId : String) (chain : List NumberedEvent)
    (diagnosis : ChainDiagnosis) : List Finding :=
  match chain.find? fun event => statusOf event.2 = .str statusConsumed with
  | none => []
  | some consumed =>
    if diagnosis.seenStatuses.contains statusConsumed ∧ diagnosis.sound then
      [receiptFinding workspaceId receiptId .receiptTerminal .info
        [("actor", diagnosis.actor), ("consumed_event_id", .str consumed.2.row.id),
          ("consumed_event_rowid", .int consumed.1), ("task_id", diagnosis.taskId),
          ("workspace_id", diagnosis.workspaceId)] "Receipt is consumed; no further action."]
    else []

/-- Only a receipt that has not been superseded expires. -/
def expiredUnused (replaced : Bool) (diagnosis : ChainDiagnosis) (now : String) : Except Exn Bool :=
  if replaced then return false else windowOver diagnosis now

def unusedFinding (workspaceId receiptId : String) (diagnosis : ChainDiagnosis)
    (replaced expired : Bool) : Finding :=
  receiptFinding workspaceId receiptId .receiptAuthorizationUnused .warning
    [("authorized_rowid", (diagnosis.authorizedRowid.map fun (n : Nat) => Json.int n).getD .null),
      ("expired", .bool expired), ("superseded", .bool replaced), ("task_id", diagnosis.taskId),
      ("workspace_id", diagnosis.workspaceId)]
    "Receipt is unused and superseded/expired; no action required unless it was applied."

def unusedFindings (workspaceId receiptId : String) (diagnosis : ChainDiagnosis)
    (consumed : List ConsumedReceipt) (now : String) : Except Exn (List Finding) :=
  if diagnosis.seenStatuses.contains statusAuthorized ∧
      ¬ diagnosis.seenStatuses.contains statusClaimed ∧ diagnosis.sound then do
    let replaced := superseded receiptId diagnosis consumed
    let expired ← expiredUnused replaced diagnosis now
    return if replaced ∨ expired then
        [unusedFinding workspaceId receiptId diagnosis replaced expired]
      else []
  else return []

def diagnoseOneReceiptChain (db : Db) (workspaceId receiptId : String)
    (chain : List NumberedEvent) (consumed : List ConsumedReceipt) (now : String) :
    Except Exn (List Finding) := do
  let diagnosis ← chain.foldlM (diagnoseEvent db receiptId) {}
  let unused ← unusedFindings workspaceId receiptId diagnosis consumed now
  return problemFindings workspaceId receiptId chain diagnosis ++
    terminalFindings workspaceId receiptId chain diagnosis ++ unused

/-- `_diagnose_receipts` at the time `now`; a receipt whose id is no text is named by its `str`. -/
def diagnoseReceipts (db : Db) (workspaceId now : String) : Except Exn (List Finding) := do
  let receipts ← receiptEvents db workspaceId
  let chains ← receiptChains receipts
  let found ← chains.mapM fun chain =>
    diagnoseOneReceiptChain db workspaceId chain.1.pyStr chain.2 (chains.filterMap consumedReceipt) now
  return found.flatten

end Diagnosis

end Coordinate

import Coordinate.Model.AgentReport
import Coordinate.Model.Store

/-! # Channel bindings

`bind_channel_workspace` and `release_channel_workspace` of `db.py`: a canonical channel is bound to
at most one workspace, and every change of the table is recorded as an event under the idempotency
key of the call. A call that finds nothing to change records nothing.
-/

namespace Coordinate

variable [Platform]

def channelBindingMaxCodePoints : Nat := 128

def boundEvent : String := "channel.binding.bound"

def releasedEvent : String := "channel.binding.released"

/-- `_normalize_channel_platform`. -/
def normalizeChannelPlatform (value : String) : Except Exn String := do
  let platform := AgentReport.lowerText (Text.strip value)
  raiseIf (platform ≠ "discord" ∧ platform ≠ "kook")
    (Exn.value s!"invalid platform: {Text.repr value}")
  return platform

/-- `_normalize_channel_id`. -/
def normalizeChannelId (channelId : String) : Except Exn String := do
  raiseIf (channelId = "") (Exn.value "channel_id is required")
  raiseIf (channelId ≠ Text.strip channelId) (Exn.value
    s!"channel_id must not have leading/trailing whitespace: {Text.repr channelId}")
  raiseIf (channelBindingMaxCodePoints < channelId.toList.length) (Exn.value
    (s!"channel_id exceeds {channelBindingMaxCodePoints} code points: " ++ Text.repr channelId))
  raiseIf (Text.hasControl channelId) (Exn.value
    s!"channel_id must not contain control characters: {Text.repr channelId}")
  return channelId

/-- `_require_non_empty`. -/
def requireNonEmpty (value : Option String) (field : String) : Except Exn String := do
  let text := (value.map Text.strip).getD ""
  raiseIf (text = "") (Exn.value s!"{field} is required")
  return text

/-- The arguments of a binding or of a release, which names the workspace that it expects. -/
structure ChannelRequest where
  platform : String
  channelId : String
  workspaceId : Option String
  actor : Option String
  reason : Option String
  idempotencyKey : Option String
deriving DecidableEq, Repr

/-- The arguments after their normalization. -/
structure ChannelMutation where
  platform : String
  channelId : String
  workspaceId : String
  actor : String
  reason : String
  idempotencyKey : String
deriving DecidableEq, Repr

def ChannelRequest.normalize (request : ChannelRequest) (workspaceField : String) :
    Except Exn ChannelMutation := do
  let platform ← normalizeChannelPlatform request.platform
  let channelId ← normalizeChannelId request.channelId
  let workspaceId ← requireNonEmpty request.workspaceId workspaceField
  let actor ← requireNonEmpty request.actor "actor"
  let reason ← requireNonEmpty request.reason "reason"
  let idempotencyKey ← requireNonEmpty request.idempotencyKey "idempotency_key"
  return ⟨platform, channelId, workspaceId, actor, reason, idempotencyKey⟩

/-- `_canonical_channel_target`. -/
def ChannelMutation.target (mutation : ChannelMutation) : String :=
  s!"{mutation.platform}:{mutation.channelId}"

def ChannelMutation.payload (mutation : ChannelMutation) : Json :=
  .obj [("platform", .str mutation.platform), ("channel_id", .str mutation.channelId),
    ("workspace_id", .str mutation.workspaceId), ("reason", .str mutation.reason)]

/-- The audit event of a mutation. -/
def ChannelMutation.event (mutation : ChannelMutation) (eventType : String) : NewEvent where
  workspaceId := some mutation.workspaceId
  eventType
  actor := mutation.actor
  target := some mutation.target
  taskId := none
  idempotencyKey := some mutation.idempotencyKey
  payload := mutation.payload

inductive ChannelStatus where
  | bound
  | alreadyBound
  | released
  | alreadyUnbound
  | replayed
deriving DecidableEq, Repr

structure ChannelReceipt where
  platform : String
  channelId : String
  workspaceId : String
  target : String
  idempotencyKey : String
  status : ChannelStatus
  eventId : Option String
deriving DecidableEq, Repr

def ChannelMutation.receipt (mutation : ChannelMutation) (status : ChannelStatus)
    (eventId : Option String) : ChannelReceipt :=
  ⟨mutation.platform, mutation.channelId, mutation.workspaceId, mutation.target,
    mutation.idempotencyKey, status, eventId⟩

/-- `_get_channel_binding_row`. -/
def getChannelBindingRow (db : Db) (mutation : ChannelMutation) : Option ChannelBindingRow :=
  db.channelBindings.find? fun row =>
    row.platform = mutation.platform && row.channelId = mutation.channelId

/-- `resolve_channel_workspace`. -/
def resolveChannelWorkspace (db : Db) (platform channelId : String) :
    Except Exn (Option ChannelBindingRow) := do
  let canonicalPlatform ← normalizeChannelPlatform platform
  let canonicalChannelId ← normalizeChannelId channelId
  return db.channelBindings.find? fun row =>
    row.platform = canonicalPlatform && row.channelId = canonicalChannelId

/-- `_assert_channel_binding_event_matches`. -/
def assertChannelBindingEventMatches (row : EventRow) (mutation : ChannelMutation)
    (eventType : String) : Except Exn Unit :=
  raiseIf (¬ (row.eventType = eventType ∧ row.workspaceId = some mutation.workspaceId ∧
      row.target = some mutation.target ∧ row.payloadJson = .dumps mutation.payload))
    (Exn.value (s!"idempotency key conflict: {Text.repr mutation.idempotencyKey} was already " ++
      "used with different parameters"))

/-- `_check_channel_binding_idempotency`. -/
def checkChannelBindingIdempotency (db : Db) (mutation : ChannelMutation) (eventType : String) :
    Except Exn (Option EventRow) :=
  match findEventByKey db mutation.idempotencyKey with
  | none => return none
  | some row => do
    assertChannelBindingEventMatches row mutation eventType
    return some row

abbrev ChannelBindingTable :=
  Table (keyedBy fun row : ChannelBindingRow => (row.platform, row.channelId))

def writeChannelBindings (next : ChannelBindingTable → Option ChannelBindingTable) : DbTxn Unit :=
  replaceTable (fun db => next db.channelBindings)
    (fun db channelBindings => { db with channelBindings }) fun _ _ _ => .of_eq rfl rfl rfl rfl rfl

/-- The writes of a binding: the event, and the row unless the event is there already. -/
def writeBinding (mutation : ChannelMutation) : DbTxn ChannelReceipt := do
  let event ← appendEvent (mutation.event boundEvent)
  if event.created then
    let boundAt ← utcNow
    writeChannelBindings fun bindings => bindings.insert?
      ⟨mutation.platform, mutation.channelId, mutation.workspaceId, boundAt⟩
    return mutation.receipt .bound (some event.row.id)
  else
    orRaise id (assertChannelBindingEventMatches event.row mutation boundEvent)
    return mutation.receipt .replayed (some event.row.id)

/-- What `bind_channel_workspace` checks before its first write; a receipt settles the call. -/
def checkBinding (request : ChannelRequest) (db : Db) :
    Except Exn (ChannelMutation × Option ChannelReceipt) := do
  let mutation ← request.normalize "workspace_id"
  raiseIf (getWorkspace db mutation.workspaceId).isNone
    (Exn.value s!"unknown workspace: {mutation.workspaceId}")
  match ← checkChannelBindingIdempotency db mutation boundEvent with
  | some event => return (mutation, some (mutation.receipt .replayed (some event.id)))
  | none =>
    match getChannelBindingRow db mutation with
    | some row =>
      raiseIf (row.workspaceId ≠ mutation.workspaceId) (Exn.value
        (s!"channel {Text.repr mutation.target} is already bound to workspace " ++
          s!"{Text.repr row.workspaceId}; release it before rebinding to " ++
          Text.repr mutation.workspaceId))
      return (mutation, some (mutation.receipt .alreadyBound none))
    | none => return (mutation, none)

/-- The row that a release deletes, if it still has the expected workspace. -/
def isExpectedBinding (mutation : ChannelMutation) (row : ChannelBindingRow) : Bool :=
  row.platform = mutation.platform && row.channelId = mutation.channelId &&
    row.workspaceId = mutation.workspaceId

/-- The writes of a release: the event, and the deletion unless the event is there already. -/
def writeRelease (mutation : ChannelMutation) : DbTxn ChannelReceipt := do
  let event ← appendEvent (mutation.event releasedEvent)
  if event.created then
    let matched ← Txn.read fun db => (db.channelBindings.filter (isExpectedBinding mutation)).length
    writeChannelBindings fun bindings => some (bindings.delete (isExpectedBinding mutation))
    raiseIf (matched ≠ 1) (Exn.value
      (s!"channel {Text.repr mutation.target} active row changed concurrently; " ++
        s!"release of expected workspace {Text.repr mutation.workspaceId} aborted"))
    return mutation.receipt .released (some event.row.id)
  else
    orRaise id (assertChannelBindingEventMatches event.row mutation releasedEvent)
    return mutation.receipt .replayed (some event.row.id)

/-- What `release_channel_workspace` checks before its first write. -/
def checkReleasing (request : ChannelRequest) (db : Db) :
    Except Exn (ChannelMutation × Option ChannelReceipt) := do
  let mutation ← request.normalize "expected_workspace_id"
  raiseIf (getWorkspace db mutation.workspaceId).isNone
    (Exn.value s!"unknown workspace: {mutation.workspaceId}")
  match ← checkChannelBindingIdempotency db mutation releasedEvent with
  | some event => return (mutation, some (mutation.receipt .replayed (some event.id)))
  | none =>
    match getChannelBindingRow db mutation with
    | none => return (mutation, some (mutation.receipt .alreadyUnbound none))
    | some row =>
      raiseIf (row.workspaceId ≠ mutation.workspaceId) (Exn.value
        (s!"channel {Text.repr mutation.target} is bound to workspace " ++
          s!"{Text.repr row.workspaceId}, not expected workspace " ++
          Text.repr mutation.workspaceId))
      return (mutation, none)

/-- A mutation that its checks do not settle writes under a savepoint and commits. -/
def mutateChannel (check : Db → Except Exn (ChannelMutation × Option ChannelReceipt))
    (write : ChannelMutation → DbTxn ChannelReceipt) : DbTx ChannelReceipt := do
  let checked ← Tx.query check
  match ← orRaise id checked with
  | (_, some receipt) => return receipt
  | (mutation, none) =>
    let receipt ← Tx.savepoint (write mutation)
    Tx.commit
    return receipt

/-- `bind_channel_workspace`. -/
def bindChannelWorkspace (request : ChannelRequest) : DbTx ChannelReceipt :=
  mutateChannel (checkBinding request) writeBinding

/-- `release_channel_workspace`. -/
def releaseChannelWorkspace (request : ChannelRequest) : DbTx ChannelReceipt :=
  mutateChannel (checkReleasing request) writeRelease

/-- A call on the bindings. -/
inductive ChannelCall where
  | bind (request : ChannelRequest)
  | release (request : ChannelRequest)
deriving DecidableEq, Repr

namespace ChannelCall

def check : ChannelCall → Db → Except Exn (ChannelMutation × Option ChannelReceipt)
  | bind request => checkBinding request
  | release request => checkReleasing request

def write : ChannelCall → ChannelMutation → DbTxn ChannelReceipt
  | bind _ => writeBinding
  | release _ => writeRelease

def run (call : ChannelCall) : DbTx ChannelReceipt :=
  match call with
  | bind request => bindChannelWorkspace request
  | release request => releaseChannelWorkspace request

/-- How a call on a fresh connection ends; its reads outside a transaction see `view`. -/
def outcome (call : ChannelCall) (work : Work Db) (view : Db) :
    EStateM.Result Exn (Session Db) ChannelReceipt :=
  call.run.run (Session.connect work view)

/-- The state that a call leaves to the next one. -/
def after (call : ChannelCall) (work : Work Db) (view : Db) : Work Db :=
  (call.outcome work view).final.settle

end ChannelCall

/-- A sequential run of calls on the bindings. -/
def runChannelCalls (work : Work Db) : List ChannelCall → Work Db
  | [] => work
  | call :: rest => runChannelCalls (call.after work work.store) rest

end Coordinate

import Coordinate.Library.Machine
import Coordinate.Model.Store

/-! # Requests for a Discord channel

`channel_provisioning.py`: a client asks for the channel of a workspace, the daemon lists the requests
that are pending and records one outcome for each. Requests and outcomes are events, and what a request
has come to is read from them. The calls run beside each other; every SQL statement outside a
transaction, and every transaction, is one step of one call.
-/

namespace Coordinate.Provisioning

def requestEventType : String := "channel.provision.requested"

def provisionedEventType : String := "channel.provisioned"

def failedEventType : String := "channel.provision.failed"

def failureReasonCodes : List String :=
  ["unknown_workspace", "binding_conflict", "recovery_marker_conflict",
    "control_channel_unavailable", "discord_api_unavailable", "internal"]

def discordChannelNameMaxCodePoints : Nat := 100

def idempotencyKeyMaxCodePoints : Nat := 200

/-- `_request_target`. -/
def requestTarget (workspaceId : String) : String := "discord-workspace:" ++ workspaceId

/-- `_request_key`. -/
def requestKey (workspaceId idempotencyKey : String) : String :=
  workspaceId ++ ":discord-channel-provision-request:" ++ idempotencyKey

/-- `_terminal_key`. -/
def terminalKey (requestEventId : String) : String :=
  "discord-channel-provision-request:" ++ requestEventId ++ ":terminal"

/-- `_validate_idempotency_key`. -/
def validateIdempotencyKey (key : String) : Except Exn Unit := do
  raiseIf (key = "" ∨ key ≠ Text.strip key)
    (Exn.value "idempotency_key is required without surrounding whitespace")
  raiseIf (idempotencyKeyMaxCodePoints < key.toList.length)
    (Exn.value "idempotency_key is too long")
  raiseIf (Text.hasControl key)
    (Exn.value "idempotency_key must not contain control characters")

/-- `normalize_discord_channel_name`, which changes nothing. -/
def normalizeDiscordChannelName (name : String) : Except Exn Unit := do
  raiseIf (name = "") (Exn.value "channel_name is required")
  raiseIf (name ≠ Text.strip name)
    (Exn.value "channel_name must not have leading/trailing whitespace")
  raiseIf (discordChannelNameMaxCodePoints < name.toList.length)
    (Exn.value s!"channel_name exceeds {discordChannelNameMaxCodePoints} code points")
  raiseIf (Text.hasControl name)
    (Exn.value "channel_name must not contain control characters")

/-- `get_event`. -/
def getEvent (db : Db) (eventId : String) : Except Exn EventRow :=
  match db.events.find? (·.id = eventId) with
  | none => throw (Exn.key eventId)
  | some row => return row

/-- An outcome of a request. -/
def isTerminal (row : EventRow) : Bool :=
  row.eventType = provisionedEventType || row.eventType = failedEventType

def terminalsOf (db : Db) (requestEventId : String) : List EventRow :=
  db.events.filter fun row => row.causationId = some requestEventId && isTerminal row

/-- `_terminal_for_request`. -/
def terminalForRequest (db : Db) (requestEventId : String) : Except Exn (Option EventRow) :=
  match terminalsOf db requestEventId with
  | [] => return none
  | [row] => return some row
  | _ => throw (Exn.value "channel provisioning request has multiple terminal events")

/-- `_pending_requests`. -/
def pendingRequests (db : Db) (workspaceId : Option String) : List EventRow :=
  db.events.filter fun row =>
    row.eventType = requestEventType && (terminalsOf db row.id).isEmpty &&
      (workspaceId.isNone || row.workspaceId = workspaceId)

inductive ProjectionStatus where
  | pending
  | provisioned (channelId : Json)
  | failed (reasonCode : Json)
deriving DecidableEq, Repr

structure Projection where
  workspaceId : Option String
  channelName : Json
  requestEventId : String
  status : ProjectionStatus
  terminalEventId : Option String
deriving DecidableEq, Repr

/-- `payload[key]`. -/
def payloadField (payload : Json) (key : String) : Except Exn Json :=
  match payload.field? key with
  | some value => return value
  | none => throw (Exn.key key)

/-- `json.loads(row["payload_json"] or "{}")`. -/
def eventPayload (row : EventRow) : Except Exn Json :=
  match row.payloadJson with
  | .blank => return .obj []
  | text => decodeColumn text

/-- What the terminal event says. -/
def terminalStatus (terminal : EventRow) : Except Exn ProjectionStatus := do
  let payload ← eventPayload terminal
  if terminal.eventType = provisionedEventType then
    .provisioned <$> payloadField payload "channel_id"
  else .failed <$> payloadField payload "reason_code"

/-- `_project_request`. -/
def projectRequest (db : Db) (request : EventRow) : Except Exn Projection := do
  let payload ← eventPayload request
  let channelName ← payloadField payload "channel_name"
  let terminal ← terminalForRequest db request.id
  match terminal with
  | none => return ⟨request.workspaceId, channelName, request.id, .pending, none⟩
  | some terminal => do
    let status ← terminalStatus terminal
    return ⟨request.workspaceId, channelName, request.id, status, some terminal.id⟩

/-- The arguments of `request_discord_channel_provision`. -/
structure ProvisionArguments where
  workspaceId : Option String
  channelName : String
  actor : Option String
  idempotencyKey : Option String
deriving DecidableEq, Repr

/-- The arguments as they are recorded. -/
structure Asked where
  workspace : String
  principal : String
  name : String
  callerKey : String
deriving DecidableEq, Repr

def ProvisionArguments.asked (arguments : ProvisionArguments) : Asked where
  workspace := (arguments.workspaceId.map Text.strip).getD ""
  principal := (arguments.actor.map Text.strip).getD ""
  name := arguments.channelName
  callerKey := arguments.idempotencyKey.getD ""

namespace Asked

def key (asked : Asked) : String := requestKey asked.workspace asked.callerKey

def payload (asked : Asked) : Json :=
  .obj [("platform", .str "discord"), ("channel_name", .str asked.name)]

def event (asked : Asked) : NewEvent where
  workspaceId := some asked.workspace
  eventType := requestEventType
  actor := asked.principal
  target := some (requestTarget asked.workspace)
  taskId := none
  idempotencyKey := some asked.key
  payload := asked.payload

/-- The tests before the first look for an earlier request. -/
def check (asked : Asked) (db : Db) : Except Exn Unit := do
  raiseIf (asked.workspace = "" ∨ asked.principal = "")
    (Exn.value "workspace_id and actor are required")
  raiseIf (getWorkspace db asked.workspace).isNone
    (Exn.value s!"unknown workspace: {asked.workspace}")
  normalizeDiscordChannelName asked.name
  validateIdempotencyKey asked.callerKey

end Asked

/-- `_assert_request_matches`. -/
def assertRequestMatches (row : EventRow) (asked : Asked) : Except Exn Unit :=
  raiseIf (¬ (row.eventType = requestEventType ∧ row.actor = asked.principal ∧
      row.workspaceId = some asked.workspace ∧ row.target = some (requestTarget asked.workspace) ∧
      row.payloadJson = .value asked.payload))
    (Exn.value "request replay: idempotency key parameters differ")

/-- The transaction of `request_discord_channel_provision`. -/
def recordRequest [Platform] (asked : Asked) : DbTxn EventRow := do
  let existing ← Txn.read (findEventByKey · asked.key)
  match existing with
  | some row =>
    orRaise id (assertRequestMatches row asked)
    return row
  | none =>
    let pending ← Txn.read (pendingRequests · (some asked.workspace))
    raiseIf (pending ≠ []) (Exn.value "request replay: channel provisioning already pending")
    let result ← appendEvent asked.event
    raiseIf (¬ result.created) (Exn.value "request replay: concurrent idempotency conflict")
    return result.row

/-- The arguments of `finish_discord_channel_request`. -/
structure FinishArguments where
  requestEventId : String
  channelId : Option String
  reasonCode : Option String
deriving DecidableEq, Repr

/-- The type and the payload of the outcome, of which there must be exactly one. -/
def FinishArguments.outcome (arguments : FinishArguments) : Except Exn (String × Json) :=
  match arguments.channelId, arguments.reasonCode with
  | some channelId, none => return (provisionedEventType,
      .obj [("platform", .str "discord"), ("channel_id", .str channelId)])
  | none, some reasonCode => do
    raiseIf (reasonCode ∉ failureReasonCodes)
      (Exn.value "invalid channel provisioning failure reason")
    return (failedEventType,
      .obj [("platform", .str "discord"), ("reason_code", .str reasonCode)])
  | _, _ => throw (Exn.value "exactly one terminal outcome is required")

def terminalEvent (request : EventRow) (outcome : String × Json) : NewEvent where
  workspaceId := request.workspaceId
  eventType := outcome.1
  actor := "coordinator-daemon"
  target := request.target
  taskId := none
  causationId := some request.id
  idempotencyKey := some (terminalKey request.id)
  payload := outcome.2

/-- The row that a taken terminal key must have. -/
def matchesTerminal (row : EventRow) (event : NewEvent) : Bool :=
  row.eventType = event.eventType && row.actor = event.actor &&
    row.workspaceId = event.workspaceId && row.target = event.target &&
    row.causationId = event.causationId && row.payloadJson = .value event.payload

/-- The append of `finish_discord_channel_request`. -/
def recordTerminal [Platform] (request : EventRow) (outcome : String × Json) : DbTxn Unit := do
  let event := terminalEvent request outcome
  let result ← appendEvent event
  raiseIf (¬ result.created ∧ ¬ matchesTerminal result.row event)
    (Exn.value "channel provisioning terminal idempotency conflict")

/-- The next statement of a request. -/
inductive RequestPoint where
  /-- before `get_workspace` -/
  | entering
  /-- before the first look for an earlier request -/
  | looking
  /-- before the transaction -/
  | writing
  /-- before the projection of a request that has been found or recorded -/
  | projecting (request : EventRow)
deriving DecidableEq, Repr

/-- The next statement of a finish. -/
inductive FinishPoint where
  /-- before `get_event` -/
  | finding
  /-- before the look for an earlier outcome -/
  | checking (request : EventRow)
  /-- before the append -/
  | appending (request : EventRow) (outcome : String × Json)
  | projecting (request : EventRow)
deriving DecidableEq, Repr

inductive Outcome where
  | projected (projection : Projection)
  | listed (rows : List EventRow)
  | raised (error : Exn)
deriving DecidableEq, Repr

inductive Phase where
  | idle
  | requesting (asked : Asked) (point : RequestPoint)
  | finishing (arguments : FinishArguments) (point : FinishPoint)
  | listing
  | returned (outcome : Outcome)
deriving DecidableEq, Repr

inductive Call where
  | request (arguments : ProvisionArguments)
  | finish (arguments : FinishArguments)
  | list
deriving DecidableEq, Repr

def Call.begin : Call → Phase
  | request arguments => .requesting arguments.asked .entering
  | finish arguments => .finishing arguments .finding
  | list => .listing

structure State where
  work : Work Db
  phase : Nat → Phase

abbrev State.db (s : State) : Db := s.work.store

/-- Where the call goes on, or the exception that ends it. -/
def resume (next : Except Exn Phase) : Phase :=
  match next with
  | .ok phase => phase
  | .error error => .returned (.raised error)

/-- A transaction, and where the call goes on: what it has written is taken back when it raises. -/
def transact {α : Type} (work : Work Db) (body : DbTxn α) (next : α → Phase) : Work Db × Phase :=
  match body.run work with
  | .ok a after => (after, next a)
  | .error e after => ({ after with store := work.store }, .returned (.raised e))

section Steps

variable [Platform]

def requestStep (work : Work Db) (asked : Asked) : RequestPoint → Work Db × Phase
  | .entering => (work, resume do
      asked.check work.store
      return .requesting asked .looking)
  | .looking => (work, resume do
      match findEventByKey work.store asked.key with
      | none => return .requesting asked .writing
      | some row => do
        assertRequestMatches row asked
        return .requesting asked (.projecting row))
  | .writing =>
    transact work (recordRequest asked) fun row => .requesting asked (.projecting row)
  | .projecting row => (work, resume do
      let projection ← projectRequest work.store row
      return .returned (.projected projection))

def finishStep (work : Work Db) (arguments : FinishArguments) : FinishPoint → Work Db × Phase
  | .finding => (work, resume do
      let row ← getEvent work.store arguments.requestEventId
      raiseIf (row.eventType ≠ requestEventType)
        (Exn.value "channel provisioning terminal causation is not a request")
      return .finishing arguments (.checking row))
  | .checking row => (work, resume do
      let prior ← terminalForRequest work.store arguments.requestEventId
      match prior with
      | some _ => return .finishing arguments (.projecting row)
      | none => do
        let outcome ← arguments.outcome
        return .finishing arguments (.appending row outcome))
  | .appending row outcome =>
    transact work (recordTerminal row outcome) fun _ => .finishing arguments (.projecting row)
  | .projecting row => (work, resume do
      let projection ← projectRequest work.store row
      return .returned (.projected projection))

/-- The next step of a call. -/
def callStep (work : Work Db) : Phase → Option (Work Db × Phase)
  | .idle => none
  | .requesting asked point => some (requestStep work asked point)
  | .finishing arguments point => some (finishStep work arguments point)
  | .listing => some (work, .returned (.listed (pendingRequests work.store none)))
  | .returned _ => none

inductive Label where
  | start (call : Nat) (arguments : Call)
  | proceed (call : Nat)
  /-- another program records an event that is none of these -/
  | record (row : EventRow)
  /-- another program registers a workspace -/
  | register (workspace : Workspace)

def isForeign (row : EventRow) : Bool := row.eventType ≠ requestEventType && !isTerminal row

def step (s : State) : Label → Option State
  | .start call arguments =>
    if s.phase call = .idle then
      some { s with phase := Function.update s.phase call arguments.begin }
    else none
  | .proceed call =>
    (callStep s.work (s.phase call)).map fun (work, phase) =>
      ⟨work, Function.update s.phase call phase⟩
  | .record row =>
    if isForeign row then
      (s.db.events.insert? row).map fun events =>
        { s with work := { s.work with store := { s.db with events } } }
    else none
  | .register workspace =>
    (s.db.workspaces.insert? workspace).map fun workspaces =>
      { s with work := { s.work with store := { s.db with workspaces } } }

/-- The calls on one database, one step of one of them at a time. -/
def calls : Machine State Label := ⟨step⟩

end Steps

/-- No request and no outcome is recorded, and no call is in progress. -/
structure Initial (s : State) : Prop where
  foreign : ∀ row ∈ s.db.events, isForeign row = true
  idle : ∀ call, s.phase call = .idle

end Coordinate.Provisioning

import Coordinate.Model.AgentRegistry
import Coordinate.Model.Completion

/-! # The event pump

How the daemon turns events into deliveries: the rendering of an event and its extra deliveries, the
creation of the rows, `pump_events` over the events of a workspace and the cycle `_do_pump` with its
cursor (`policy.py`, `daemon.py`). Every delivery is committed on its own, so what a cycle has written
stays when it raises. The texts of the presentation modules and the sending of pending deliveries are
parameters.
-/

namespace Coordinate

section Parameters

/-- The base payload of a supported event with its embed, by the registry of presentation modules. -/
class EventRenderer where
  renderEventPayload : EventRow → Json → Except Exn Json

/-- What sending changes of a delivery: everything else of the row stays. -/
def DeliveryRow.sameMessage (old new : DeliveryRow) : Prop :=
  new.id = old.id ∧ new.eventId = old.eventId ∧ new.platform = old.platform ∧
    new.destination = old.destination ∧ new.messageKey = old.messageKey ∧
    new.payloadJson = old.payloadJson

/-- `pump_deliveries` of the bus, which catches the failures of its sends: the deliveries it leaves, and
how many were sent and how many failed. -/
class DeliveryBus where
  pumpDeliveries : Db → Table deliverySchema × Nat × Nat
  sameMessages : ∀ db, List.Forall₂ DeliveryRow.sameMessage db.deliveries.rows
    (pumpDeliveries db).1.rows

end Parameters

def supportedEventTypes : List String :=
  ["agent.reported", "assignment.accepted", "assignment.requested", "blocker.raised",
    "blocker.resolved", "ci.failed", "ci.passed", "closeout.requested", "handoff.requested",
    "harness.mutation_failed", "issue.spotted", "issue.triaged", "issue.materialized",
    "job.completed", "job.failed", "plan.ready", "plan.approved", "plan.rejected",
    "plan.review_requested", "pr.created", "pr.linked", "pr_review.approved",
    "pr_review.changes_requested", "pr_review.required", "progress.reported", "publish.blocked",
    "push.required", "reconciliation.completed", "review.completed", "review.rejected", "task.done",
    "task_mirror.created", "task_mirror.updated", "worker.handoff.prepared"]

def supportedPlatforms : List String := ["discord", "discord_webhook", "kook", "stdout"]

/-- `PolicyError` is a `RuntimeError`. -/
def policyError (message : String) : Exn := .runtime message

section Rendering

structure RenderEventResult where
  supported : Bool
  event : EventDict
  payload : Option Json
  messageKey : Option String
  reason : Option String := none
deriving DecidableEq, Repr

def ensureSupportedPlatform (platform : String) : Except Exn Unit :=
  raiseIf (¬ supportedPlatforms.contains platform) (policyError
    (s!"unsupported policy platform: {platform}; supported: " ++
      Text.join ", " supportedPlatforms))

/-- `_event_payload`. -/
def eventPayload (row : EventRow) : Except Exn Json := do
  let value ← decodeColumn row.payloadJson
  raiseIf (¬ value.isObj)
    (policyError s!"event {row.id} payload_json must decode to an object")
  return value

def isRuntimeDialogJobEvent (row : EventRow) (payload : Json) : Bool :=
  (row.eventType = "job.completed" || row.eventType = "job.failed") &&
    (payload.get "job_id").asStr?.any (Text.startsWith · "request:") &&
    ["response_text", "text", "summary"].any fun key => (payload.field? key).isSome

def messageKeyForEvent (row : EventRow) (platform destination : String) : Except Exn String :=
  match row.workspaceId.filter (· ≠ "") with
  | none => throw (policyError s!"event {row.id} has no workspace_id")
  | some workspaceId => return s!"{workspaceId}:{row.id}:{platform}:{destination}"

/-- Why an event of a supported type is not rendered. -/
def unrenderedReason (row : EventRow) (payload : Json) : Except Exn (Option String) :=
  let source := payload.get "source"
  let action := payload.get "action"
  if isRuntimeDialogJobEvent row payload then
    return some "runtime dialog job result is delivered via bridge reply, not status card"
  else if row.eventType = "progress.reported" ∧ source = .str "discord" then
    return some "discord agent progress report is already visible in channel"
  else if row.eventType = "agent.reported" ∧ source = .str "discord" then do
    raiseIf (¬ isHashable action) unhashable
    return if action = .str "accept" ∨ action = .str "progress" then
      some "discord agent accept/progress report is already visible in channel" else none
  else if row.eventType = "agent.reported" ∧ source = .str "runtime" then
    return some ("runtime agent.reported is covered by the bridge job reply delivery; " ++
      "skip status-card render to avoid duplicate delivery")
  else return none

def unsupported (event : EventDict) (reason : String) : RenderEventResult where
  supported := false
  event
  payload := none
  messageKey := none
  reason := some reason

def supportedResult (event : EventDict) (payload : Json) (messageKey : String) :
    RenderEventResult where
  supported := true
  event
  payload := some payload
  messageKey := some messageKey

variable [EventRenderer]

def renderEvent (db : Db) (eventId platform destination : String) :
    Except Exn RenderEventResult := do
  ensureSupportedPlatform platform
  match db.events.find? (·.id = eventId) with
  | none => throw (Exn.key eventId)
  | some row => do
    let event ← row.toDict
    if ¬ supportedEventTypes.contains row.eventType then
      return unsupported event s!"unsupported event type: {row.eventType}"
    else do
      let payload ← eventPayload row
      let reason ← unrenderedReason row payload
      match reason with
      | some reason => return unsupported event reason
      | none => do
        let rendered ← EventRenderer.renderEventPayload row payload
        let messageKey ← messageKeyForEvent row platform destination
        return supportedResult event rendered messageKey

end Rendering

section Extras

/-- `shlex.quote`. -/
def shellQuote (text : String) : String :=
  let isSafe (c : Char) : Bool := Text.isAsciiAlnum c || "_@%+=:,./-".toList.contains c
  if text = "" then "''"
  else if text.toList.all isSafe then text
  else
    let quoted := text.toList.flatMap fun c =>
      if c = Char.ofNat 39 then "'\"'\"'".toList else [c]
    "'" ++ String.ofList quoted ++ "'"

/-- `shlex.quote` of a field, which must be a text. -/
def quoteField : Json → Except Exn String
  | .str text => return shellQuote text
  | _ => throw (Exn.type "expected string or bytes-like object")

/-- `get_agent_discord_id` at a time; a name that is no text is in no registry. -/
def getAgentDiscordId (db : Db) (current : Nat) (workspaceId : String) (agentName : Json) :
    Except Exn (Option String) := do
  let effective ← resolveEffectiveAgents db workspaceId (Calendar.isoformat current)
  raiseIf (¬ isHashable agentName) unhashable
  return (effective.find? fun entry => agentName = .str entry.agentName).map (·.discordUserId)

/-- A line of the machine block, if its field is given. -/
def machineLine (before : String) (value : Json) : Except Exn String := do
  if value.truthy then
    let quoted ← quoteField value
    return before ++ quoted ++ "\n"
  else return ""

/-- The `[handoff]` text for the target of an event. -/
def handoffText (workspaceId discordId : String) (payload : Json) : Except Exn String := do
  let action := if (payload.field? "role").getD (.str "worker") = .str "reviewer"
    then "action=review.begin" else "action=assignment.accept"
  let profile := (payload.get "execution_profile").orElse (.obj [])
  raiseIf (¬ profile.isObj) (Exn.type "object has no attribute 'get'")
  let taskId := ((payload.field? "task_id").getD (.str "")).pyStr
  let bootstrap := ((payload.field? "bootstrap_path").getD (.str "")).pyStr
  let workspacePath ← machineLine "context_version=1 workspace_path=" (profile.get "workspace_path")
  let harnessRoot ← machineLine "harness_root=" (profile.get "harness_root")
  let branch ← machineLine "branch=" (payload.get "branch")
  return s!"[handoff] <@{discordId}>\nworkspace_id={workspaceId}\ntask_id={taskId}\n" ++
    s!"bootstrap={bootstrap}\n{action}\n" ++ workspacePath ++ harnessRoot ++ branch

def mentionPayload (text discordId : String) : Json :=
  .obj [("text", .str text), ("mention_users", .arr [.str discordId])]

/-- `_agent_handoff_delivery` at a time. -/
def agentHandoffDelivery (db : Db) (current : Nat) (event : EventDict)
    (platform destination : String) : Except Exn (Option RenderEventResult) :=
  let target := event.payload.get "target_agent"
  match event.row.workspaceId.filter (· ≠ "") with
  | none => return none
  | some workspaceId =>
    if platform ≠ "discord_webhook" ∨ ¬ target.truthy then return none
    else do
      let discordId ← getAgentDiscordId db current workspaceId target
      match discordId.filter (· ≠ "") with
      | none => return none
      | some id => do
        let text ← handoffText workspaceId id event.payload
        return some (supportedResult event (mentionPayload text id)
          s!"{workspaceId}:{event.row.id}:agent_handoff:{platform}:{destination}")

/-- The rows that tell who owns a task, newest first. -/
def ownerRows (db : Db) (workspaceId taskId : String) : List EventRow :=
  let rows := (db.events.rows.zipIdx.filter fun (row, _) =>
    row.workspaceId = some workspaceId && row.taskId = some taskId &&
      (row.eventType = "assignment.accepted" || row.eventType = "task_mirror.updated"))
  let newer (a b : EventRow × Nat) : Bool :=
    b.1.createdAt < a.1.createdAt || (a.1.createdAt = b.1.createdAt && b.2 < a.2)
  ((sortBy newer rows).take 20).map Prod.fst

/-- The owner that the first of the rows with one names; what is not JSON is passed over. -/
def firstOwner : List EventRow → Except Exn (Option Json)
  | [] => return none
  | row :: rest =>
    match row.payloadJson with
    | .value payload =>
      if ¬ payload.isObj then throw (Exn.type "object has no attribute 'get'")
      else if (payload.get "owner").truthy then return some (payload.get "owner")
      else firstOwner rest
    | _ => firstOwner rest

/-- `_task_owner_for_event`. -/
def taskOwnerForEvent (db : Db) (workspaceId taskId : String) : Except Exn (Option Json) :=
  let mirror := db.tasks.find? fun row => row.workspaceId = workspaceId && row.taskId = taskId
  match mirror.bind fun row => row.owner.filter (· ≠ "") with
  | some owner => return some (.str owner)
  | none => firstOwner (ownerRows db workspaceId taskId)

/-- `_agent_lifecycle_delivery` at a time. -/
def agentLifecycleDelivery (db : Db) (current : Nat) (event : EventDict)
    (platform destination : String) : Except Exn (Option RenderEventResult) :=
  let eventType := event.row.eventType
  let task := (Json.ofOption event.row.taskId).orElse (event.payload.get "task_id")
  match event.row.workspaceId.filter (· ≠ "") with
  | none => return none
  | some workspaceId =>
    if platform ≠ "discord_webhook" ∨ (eventType ≠ "closeout.requested" ∧ eventType ≠ "task.done") ∨
        ¬ task.truthy then return none
    else do
      let taskId ← boundText task
      let owner ← taskOwnerForEvent db workspaceId (taskId.getD "")
      match owner with
      | none => return none
      | some name => do
        let discordId ← getAgentDiscordId db current workspaceId name
        match discordId.filter (· ≠ "") with
        | none => return none
        | some id =>
          let action := if eventType = "closeout.requested" then "assignment.closeout" else "task.done"
          let text := s!"[lifecycle] <@{id}>\nworkspace_id={workspaceId}\ntask_id={task.pyStr}\n" ++
            s!"action={action}"
          return some (supportedResult event (mentionPayload text id)
            (s!"{workspaceId}:{event.row.id}:agent_lifecycle:{platform}:{destination}:" ++
              s!"target_{name.pyStr}"))

variable [EventRenderer]

/-- `render_event_deliveries` with the times at which the registry is read. -/
def renderEventDeliveries (db : Db) (handoffAt lifecycleAt : Nat)
    (eventId platform destination : String) : Except Exn (List RenderEventResult) := do
  let rendered ← renderEvent db eventId platform destination
  if ¬ rendered.supported then return [rendered]
  else do
    let handoff ← agentHandoffDelivery db handoffAt rendered.event platform destination
    let lifecycle ← agentLifecycleDelivery db lifecycleAt rendered.event platform destination
    return rendered :: handoff.toList ++ lifecycle.toList

end Extras

section Deliveries

variable [Platform] [EventRenderer]

structure PolicyDeliveryResult where
  supported : Bool
  created : Bool
  skipped : Bool
  event : EventDict
  delivery : Option DeliveryDict
  payload : Option Json
  messageKey : Option String
  reason : Option String := none
deriving DecidableEq, Repr

/-- The delivery of one rendered result. -/
def createRendered (eventId platform destination : String) (rendered : RenderEventResult) :
    DbTxn PolicyDeliveryResult := do
  if ¬ rendered.supported then
    return ⟨false, false, true, rendered.event, none, none, none, rendered.reason⟩
  else
    match rendered.payload, rendered.messageKey with
    | some payload, some messageKey => do
      let (delivery, created) ← createDelivery ⟨eventId, platform, destination, messageKey, payload⟩
      let stored ← orRaise id delivery.toDict
      return ⟨true, created, false, rendered.event, some stored, some payload, some messageKey, none⟩
    | _, _ => throw (policyError s!"event {eventId} delivery did not render a payload")

def createEach (eventId platform destination : String) :
    List RenderEventResult → DbTxn (List PolicyDeliveryResult)
  | [] => return []
  | rendered :: rest => do
    let result ← createRendered eventId platform destination rendered
    let results ← createEach eventId platform destination rest
    return result :: results

def createDeliveriesForEvent (eventId platform destination : String) :
    DbTxn (List PolicyDeliveryResult) := do
  let handoffAt ← utcNow
  let lifecycleAt ← utcNow
  let rendered ← readOrRaise (renderEventDeliveries · handoffAt lifecycleAt eventId platform destination)
  createEach eventId platform destination rendered

end Deliveries

section Pump

variable [Platform] [EventRenderer]

/-- The arguments of `pump_events`. -/
structure PumpRequest where
  workspaceId : String
  platform : String
  destination : String
  limit : Nat := 20
  taskId : Option String := none
  eventType : Option String := none
  allowBackfill : Bool := false
  minRowid : Option Nat := none
  maxRowid : Option Nat := none
deriving DecidableEq, Repr

structure PumpEventsResult where
  workspaceId : String
  considered : Nat := 0
  supported : Nat := 0
  created : Nat := 0
  existing : Nat := 0
  skipped : List (String × String × Option String) := []
  deliveries : List DeliveryDict := []
deriving DecidableEq, Repr

/-- The filters of `pump_events`. -/
def PumpRequest.considers (request : PumpRequest) (rowid : Nat) (row : EventRow) : Bool :=
  ((request.taskId.filter (· ≠ "")).all fun taskId => row.taskId = some taskId) &&
  ((request.eventType.filter (· ≠ "")).all fun eventType => row.eventType = eventType) &&
  (request.minRowid.all fun bound => bound < rowid) &&
  (request.maxRowid.all fun bound => rowid ≤ bound)

/-- What one result adds to the counts. -/
def PumpEventsResult.add (summary : PumpEventsResult) (row : EventRow)
    (result : PolicyDeliveryResult) : PumpEventsResult :=
  if ¬ result.supported then
    { summary with skipped := summary.skipped ++ [(row.id, row.eventType, result.reason)] }
  else if result.created then
    { summary with
      created := summary.created + 1
      deliveries := summary.deliveries ++ result.delivery.toList }
  else { summary with existing := summary.existing + 1 }

def PumpEventsResult.addEvent (summary : PumpEventsResult) (row : EventRow)
    (results : List PolicyDeliveryResult) : PumpEventsResult :=
  let counted := results.foldl (·.add row) { summary with considered := summary.considered + 1 }
  if results.any (·.supported) then { counted with supported := counted.supported + 1 } else counted

/-- The loop of `pump_events` over the considered events; it ends once enough has been created. -/
def pumpEach (request : PumpRequest) : PumpEventsResult → List EventRow → DbTxn PumpEventsResult
  | summary, [] => return summary
  | summary, row :: rest => do
    let results ← createDeliveriesForEvent row.id request.platform request.destination
    let next := summary.addEvent row results
    if request.limit ≤ next.created then return next
    else pumpEach request next rest

def livePlatforms : List String := ["discord", "discord_webhook", "kook"]

def pumpEvents (request : PumpRequest) : DbTxn PumpEventsResult := do
  orRaise id (ensureSupportedPlatform request.platform)
  raiseIf (request.limit < 1) (policyError "limit must be at least 1")
  raiseIf (livePlatforms.contains request.platform ∧ ¬ request.allowBackfill ∧
      ¬ ((request.taskId.any (· ≠ "")) ∨ (request.eventType.any (· ≠ "")) ∨
        (request.minRowid.isSome ∧ request.maxRowid.isSome))) (policyError
    ("refusing broad live event backfill; use policy create-deliveries <event-id>, " ++
      "add --task-id/--event-type, or pass --allow-backfill intentionally"))
  let events ← Txn.read (listEvents · request.workspaceId)
  let considered := events.filter fun (rowid, row) => request.considers rowid row
  pumpEach request { workspaceId := request.workspaceId } (considered.map Prod.snd)

end Pump

section Daemon

variable [Platform] [EventRenderer] [DeliveryBus]

/-- The request of a cycle for a workspace. -/
def cycleRequest (workspace : Workspace) (cursor cutoff : Nat) : PumpRequest where
  workspaceId := workspace.id
  platform := "discord_webhook"
  destination := workspace.defaultDestination.getD ""
  minRowid := some cursor
  maxRowid := some cutoff

/-- `list_workspaces`. -/
def listWorkspaces (db : Db) : List Workspace :=
  sortBy (fun a b => a.id < b.id) db.workspaces.rows

/-- The loop of a cycle over the workspaces of the webhook: the number of created deliveries. -/
def pumpWorkspaces (cursor cutoff : Nat) : Nat → List Workspace → DbTxn Nat
  | created, [] => return created
  | created, workspace :: rest =>
    if workspace.defaultBus = some "discord_webhook" then do
      let result ← pumpEvents (cycleRequest workspace cursor cutoff)
      pumpWorkspaces cursor cutoff (created + result.created) rest
    else pumpWorkspaces cursor cutoff created rest

/-- `SELECT COALESCE(MAX(rowid), 0) FROM events`. -/
def maxRowid (db : Db) : Nat := db.events.rows.length

/-- The events of a cycle up to its cutoff, and the rows created for them. -/
def createDue (cursor : Nat) : DbTxn (Nat × Nat) := do
  let cutoff ← Txn.read maxRowid
  let workspaces ← Txn.read listWorkspaces
  let created ← pumpWorkspaces cursor cutoff 0 workspaces
  return (cutoff, created)

/-- The daemon as far as the pump goes. Two fields are not its own: `initialCursor` is the cursor that
its first cycle has set, and `cutoff` the cutoff of its last cycle, however that has ended. -/
structure PumpDaemon where
  work : Work Db
  cursor : Option Nat := none
  initialCursor : Option Nat := none
  cutoff : Option Nat := none

/-- `_do_pump`: a cycle that raises keeps the cursor that it started with. -/
def PumpDaemon.doPump (daemon : PumpDaemon) : Except Exn String × PumpDaemon :=
  let latest := maxRowid daemon.work.store
  let cursor := daemon.cursor.getD latest
  let started : PumpDaemon :=
    { daemon with
      cursor := some cursor
      initialCursor := some (daemon.initialCursor.getD cursor)
      cutoff := some latest }
  match (createDue cursor).run daemon.work with
  | .error e work => (.error e, { started with work })
  | .ok (cutoff, created) work =>
    let (deliveries, sent, failed) := DeliveryBus.pumpDeliveries work.store
    let sends := { work with store := { work.store with deliveries } }
    (.ok s!"Pump 完成：创建 {created} 条，发送 {sent} 条，失败 {failed} 条",
      { started with work := sends, cursor := some cutoff })

end Daemon

end Coordinate

import Coordinate.Model.AgentReport
import Coordinate.Model.RuntimeLease
import Coordinate.Model.UsageEvidence

/-! # Terminal events and deliveries of a reported result

The normalization of a submitted result, the events and the response delivery of an accepted
terminal report (`runtime_lease.py`), and the delivery of a late result (`runtime.py`). The body of
an accepted report is commit-free.
-/

namespace Coordinate

variable [Platform]

/-- The statuses that a report may carry. -/
inductive ReportStatus where
  | done
  | failed
  | timedOut
deriving DecidableEq, Repr

namespace ReportStatus

def jobStatus : ReportStatus → JobStatus
  | done => .done
  | failed => .failed
  | timedOut => .timedOut

def text (status : ReportStatus) : String :=
  status.jobStatus.text

/-- `_terminal_event_type`. -/
def eventType : ReportStatus → String
  | timedOut => "job.timed_out"
  | done => "job.completed"
  | failed => "job.failed"

/-- `_validate_report_status`. -/
def parse? (text : String) : Option ReportStatus :=
  [done, failed, timedOut].find? fun status => status.text = text

end ReportStatus

/-- `_job_payload` of `runtime_lease.py`: anything but a stored object counts as empty. -/
def lenientPayload (text : JsonText) : Json :=
  match text with
  | .value (.obj fields) => .obj fields
  | _ => .obj []

/-- `_job_payload` of `runtime.py` and `jobs.py`, which raises on malformed text. -/
def strictPayload (text : JsonText) : Except Exn Json :=
  match text with
  | .blank => return .obj []
  | .malformed problem => throw (Exn.value problem)
  | .value (.obj fields) => return .obj fields
  | .value _ => return .obj []

def ofTime : Option Nat → Json
  | none => .null
  | some time => .str (Calendar.isoformat time)

def defaultTimeoutText : String :=
  "Agent timed out; progress was saved and recovery is available."

/-- The `timeout` object of a reported timeout. -/
def normalizeTimeout (normalized : Json) (job : JobRow) (current : Nat) : Json :=
  let timeout := objectAt normalized "timeout"
  .obj [
    ("kind", ((timeout.get "kind").orElse (normalized.get "timeout_kind")).orElse
      (.str "recoverable")),
    ("configured_budget_seconds",
      ((timeout.get "configured_budget_seconds").orElse (normalized.get "timeout_seconds")).orElse
        (Usage.ofInt job.timeoutSeconds)),
    ("last_activity_at", ((timeout.get "last_activity_at").orElse
      (ofTime job.lastActivityAt)).orElse (.str (Calendar.isoformat current))),
    ("session_id", (((timeout.get "session_id").orElse (normalized.get "session_id")).orElse
      (.ofOption job.terminalSessionId)).orElse (.str "")),
    ("progress", (timeout.get "progress").orElse (jobProgress job)),
    ("resume_allowed", .bool (getOr timeout "resume_allowed" (.bool true)).truthy)]

/-- `_normalize_result`. -/
def normalizeResult (status : ReportStatus) (result : Json) (job : JobRow) (current : Nat) : Json :=
  let normalized := match result.get "session_id" with
    | .str session => if Text.isBlank session then result
      else result.set "session_id" (.str (Text.strip session))
    | _ => result
  match status with
  | .timedOut =>
    let timeout := normalizeTimeout normalized job current
    let timed := (normalized.set "timeout" timeout).set "recoverable"
      (.bool (timeout.get "resume_allowed").truthy)
    if (timed.field? "response_text").isSome then timed
    else timed.set "response_text" (.str defaultTimeoutText)
  | _ => normalized

/-- What `_parse_job_agent_report` finds in a result. -/
structure ReportOutcome where
  parsed : Option AgentReport.Report
  decision : Option String
  resultSummary : Option String
deriving DecidableEq, Repr

/-- The response text of a result, as a delivery sends it. -/
def responseText (result : Json) : Json :=
  ((result.get "response_text").orElse (result.get "text")).orElse (result.get "summary")

/-- `_parse_job_agent_report`. -/
def parseJobAgentReport (result : Json) (job : JobRow) : ReportOutcome :=
  let parsed := match ((result.get "response_text").orElse (result.get "text")).orElse (.str "") with
    | .str text => AgentReport.parseAgentReport text (some job.workspaceId) job.taskId
    | _ => none
  let decision := parsed.bind (·.decision)
  let raw := ((result.get "summary").orElse (result.get "response_text")).orElse (result.get "text")
  let resultSummary := match raw with
    | .str text => if Text.isBlank text then none
      else some (Text.takePrefix (Text.collapseSpaces text) 500)
    | _ => none
  ⟨parsed, decision, resultSummary⟩

/-- `actor or agent_id`. -/
def actorOr (actor : Option String) (agentId : String) : String :=
  match actor with
  | none | some "" => agentId
  | some name => name

def optionalField (name : String) : Option String → List (String × Json)
  | none | some "" => []
  | some text => [(name, .str text)]

/-- The `agent.reported` event of a terminal report. -/
def agentReportedEvent (job : JobRow) (agentId : String) (status : ReportStatus)
    (outcome : ReportOutcome) (actor : Option String) : NewEvent where
  workspaceId := some job.workspaceId
  eventType := "agent.reported"
  actor := actorOr actor agentId
  target := some agentId
  taskId := job.taskId
  idempotencyKey := some
    (s!"runtime:job:{job.id}:agent-reported:{status.text}:" ++
      outcome.decision.getD "nodecision")
  payload := .obj ([("source", .str "runtime"), ("job_id", .str job.id), ("agent_id", .str agentId),
    ("status", .str status.text),
    ("action", .str (if status = .done then "done" else "blocker"))] ++
    optionalField "decision" outcome.decision ++
    optionalField "result_summary" outcome.resultSummary)

/-- The review event of a decided report. -/
def reviewEvent (job : JobRow) (agentId decision : String) (outcome : ReportOutcome)
    (actor : Option String) : NewEvent where
  workspaceId := some job.workspaceId
  eventType := if decision = "approve" then "review.completed" else "review.rejected"
  actor := actorOr actor agentId
  target := none
  taskId := job.taskId
  idempotencyKey := some s!"runtime:job:{job.id}:review-decision:{decision}"
  payload := .obj [("reviewer", .str agentId), ("decision", .str decision),
    ("reason", .ofOption (outcome.parsed.bind (·.reason))),
    ("summary", (Json.ofOption (outcome.parsed.bind (·.summary))).orElse
      (.ofOption outcome.resultSummary)),
    ("source", .str "runtime"), ("job_id", .str job.id)]

/-- A statement parameter that a column with text affinity stores; a container cannot be bound. -/
def bindText : Json → Except Exn String
  | .str text => return text
  | .int n => return toString n
  | .bool value => return if value then "1" else "0"
  | .null => throw Exn.integrity
  | .arr _ | .obj _ => throw (Exn.operational "Error binding parameter: type is not supported")

/-- The payload of a response delivery. -/
def responsePayload (job : JobRow) (payload : Json) (text : String) : Json :=
  .obj [("text", .str text), ("workspace_id", .str job.workspaceId),
    ("task_id", .ofOption job.taskId), ("job_id", .str job.id), ("origin", payload.get "origin")]

def responseMessageKey (jobId eventId : String) (platform destination : Json) : String :=
  s!"runtime:job:{jobId}:response:{eventId}:{platform.pyStr}:{destination.pyStr}"

/-- The platform that answers are sent to: `discord` only where the workspace's bus is Discord. -/
def replyPlatform (db : Db) (workspaceId : String) (platform : Json) : Json :=
  let bus := (getWorkspace db workspaceId).bind (·.defaultBus)
  if platform = .str "discord" ∧ bus ≠ some "discord" then .str "discord_webhook" else platform

/-- Insert the response delivery of an event, unless its platform is `none`. -/
def sendResponse (job : JobRow) (eventId : String) (payload : Json) (platform destination : Json)
    (text : String) : DbTxn (Option (DeliveryRow × Bool)) := do
  if platform = .str "none" then return none
  let bound ← orRaise id (bindText platform)
  let delivery ← createDelivery
    { eventId, platform := bound, destination := destination.pyStr,
      messageKey := responseMessageKey job.id eventId platform destination,
      payload := responsePayload job payload text }
  return some delivery

/-- `_create_response_delivery` of `runtime_lease.py`. -/
def createResponseDelivery (job : JobRow) (eventId : String) (result : Json) :
    DbTxn (Option (DeliveryRow × Bool)) := do
  let payload := lenientPayload job.payloadJson
  let reply := payload.get "reply"
  if ¬ reply.isObj then return none
  match responseText result with
  | .str text =>
    if Text.isBlank text then return none
    if ¬ (reply.get "platform").truthy ∨ ¬ (reply.get "destination").truthy then return none
    let platform ← Txn.read fun db => replyPlatform db job.workspaceId (reply.get "platform")
    sendResponse job eventId payload platform (reply.get "destination") text
  | _ => return none

/-- What an accepted terminal report has written. -/
structure TerminalOutcome where
  event : EventDict
  eventCreated : Bool
  delivery : Option DeliveryDict
  deliveryCreated : Bool
deriving DecidableEq, Repr

def decodeDelivery (delivery : Option (DeliveryRow × Bool)) :
    Except Exn (Option DeliveryDict × Bool) :=
  match delivery with
  | none => return (none, false)
  | some (row, created) => do
    let dict ← row.toDict
    return (some dict, created)

def terminalEventKey (jobId : String) (status : ReportStatus) : String :=
  s!"runtime:job:{jobId}:result:{status.text}"

/-- The terminal event of a report. -/
def terminalEvent (job : JobRow) (agentId : String) (status : ReportStatus) (result : Json)
    (actor : Option String) : NewEvent where
  workspaceId := some job.workspaceId
  eventType := status.eventType
  actor := actorOr actor agentId
  target := some agentId
  taskId := job.taskId
  idempotencyKey := some (terminalEventKey job.id status)
  payload := (Json.obj [("job_id", .str job.id), ("agent_id", .str agentId),
    ("status", .str status.text)]).update result

/-- `append_terminal_events_and_delivery`. -/
def appendTerminalEventsAndDelivery (job : JobRow) (agentId : String) (status : ReportStatus)
    (result : Json) (actor : Option String) : DbTxn TerminalOutcome := do
  let event ← appendEvent (terminalEvent job agentId status result actor)
  let outcome := parseJobAgentReport result job
  let _ ← appendEvent (agentReportedEvent job agentId status outcome actor)
  match outcome.decision with
  | some decision =>
    let _ ← appendEvent (reviewEvent job agentId decision outcome actor)
  | none => pure ()
  let stored ← readOrRaise (getJob · job.id)
  let delivery ← createResponseDelivery stored event.row.id result
  let eventDict ← orRaise id event.row.toDict
  let (deliveryDict, created) ← orRaise id (decodeDelivery delivery)
  return ⟨eventDict, event.created, deliveryDict, created⟩

/-- `_validate_destination`. -/
def validateDestination (value : Json) (label : String) : Except Exn Unit := do
  raiseIf (¬ value.isObj) (Exn.runtime s!"{label} must be an object")
  raiseIf (¬ (value.get "platform").truthy) (Exn.runtime s!"{label}.platform is required")
  raiseIf (¬ (value.get "destination").truthy) (Exn.runtime s!"{label}.destination is required")

/-- `_create_response_delivery` of `runtime.py`, for a late result. -/
def createLateResponseDelivery (job : JobRow) (eventId : String) (result : Json) :
    DbTxn (Option (DeliveryRow × Bool)) := do
  let payload ← orRaise id (strictPayload job.payloadJson)
  let reply := payload.get "reply"
  if ¬ reply.isObj then return none
  match responseText result with
  | .str text =>
    if Text.isBlank text then return none
    orRaise id (validateDestination reply "reply")
    let platform ← Txn.read fun db =>
      replyPlatform db job.workspaceId (.str (reply.get "platform").pyStr)
    sendResponse job eventId payload platform (reply.get "destination") text
  | _ => return none

end Coordinate

import Coordinate.Model.Calls
import Coordinate.Model.EventPump

/-! # The triage of issues

`triage_issue` of `issues.py`, with the delivery attempt of `policy.py` that it ends with. It looks for an
earlier decision, writes the task mirror of an accepted issue, and appends `issue.triaged`.
-/

namespace Coordinate.IssueTriage

open DbCall

def spottedType : String := "issue.spotted"

def triagedType : String := "issue.triaged"

/-- The arguments of `triage_issue`. -/
structure TriageArguments where
  workspaceId : String
  eventId : String
  decision : String
  taskId : Option String := none
  title : Option String := none
  owner : Option String := none
  phase : String := "phase-8"
  actor : String := "operator"
  reason : Option String := none
  platform : Option String := none
  destination : Option String := none
deriving DecidableEq, Repr

/-- What `triage_issue` takes from the spotted event. -/
structure Issue where
  repo : Json
  number : Json
  url : Json
  title : Json
  bodyExcerpt : Json
deriving DecidableEq, Repr

section Checks

/-- `value or {}`, of which fields are read. -/
def fieldsOf (payload : Json) : Except Exn Json := do
  let fields := payload.orElse (.obj [])
  raiseIf (¬ fields.isObj) (Exn.type "object has no attribute 'get'")
  return fields

/-- The tests on the spotted event and on the arguments. -/
def readIssue (arguments : TriageArguments) (spotted : Option EventRow) : Except Exn Issue :=
  match spotted with
  | none => throw (Exn.value s!"issue.spotted event not found: {arguments.eventId}")
  | some row => do
    let event ← row.toDict
    raiseIf (row.workspaceId ≠ some arguments.workspaceId) (Exn.value
      (s!"event {arguments.eventId} belongs to workspace {(Json.ofOption row.workspaceId).pyStr}, " ++
        s!"not {arguments.workspaceId}"))
    raiseIf (row.eventType ≠ spottedType) (Exn.value
      s!"event {arguments.eventId} is {row.eventType}, not issue.spotted")
    let payload ← fieldsOf event.payload
    raiseIf (arguments.decision = "accept" ∧ arguments.taskId.getD "" = "") (Exn.value
      "task_id is required when decision is accept")
    return ⟨(payload.get "repo").orElse ((Json.ofOption row.target).orElse (.str "")),
      payload.get "number", (payload.get "url").orElse (.str ""),
      (payload.get "title").orElse (.str ""), payload.get "body_excerpt"⟩

/-- The `issue.triaged` events of a workspace. -/
def triageRows (workspaceId : String) (db : Db) : List EventRow :=
  db.events.filter fun row => row.workspaceId = some workspaceId && row.eventType = triagedType

/-- The earlier triage of the issue, which has to be the same decision. -/
def priorTriage (arguments : TriageArguments) : List EventRow → Except Exn (Option EventDict)
  | [] => return none
  | row :: rest => do
    let prior ← row.toDict
    let payload ← fieldsOf prior.payload
    let task := payload.get "task_id"
    if payload.get "source_event_id" ≠ .str arguments.eventId then priorTriage arguments rest
    else if payload.get "decision" = .str arguments.decision ∧ task = Json.ofOption arguments.taskId then
      return some prior
    else throw (Exn.value
      (s!"issue {arguments.eventId} already triaged as " ++ (payload.get "decision").pyStr ++
        (if task.truthy then s!" (task_id={task.pyStr})" else "") ++
        s!"; refusing conflicting decision={arguments.decision}"))

end Checks

section Deliveries

/-- `resolve_delivery_intent`. -/
def resolveDeliveryIntent (platform destination : Option String) (workspace : Workspace) :
    Except Exn (Option (String × String)) :=
  let platform := ((platform.filter (· ≠ "")).or workspace.defaultBus).filter (· ≠ "")
  let destination := ((destination.filter (· ≠ "")).or workspace.defaultDestination).filter (· ≠ "")
  match platform, destination with
  | some platform, some destination => do
    ensureSupportedPlatform platform
    return some (platform, destination)
  | _, _ => return none

structure BoundedDeliveryResult where
  delivery : Option DeliveryDict := none
  deliveryCreated : Option Bool := none
  deliveryError : Option String := none
deriving DecidableEq, Repr

/-- `_bounded_delivery_error_text`. -/
def boundedErrorText (error : Exn) : String :=
  let text := Text.collapseSpaces error.message
  "delivery failed: " ++
    if text.length ≤ 283 then text else Text.takePrefix text 280 ++ "..."

variable [Platform] [EventRenderer]

/-- `create_delivery_for_event`. -/
def createDeliveryForEvent (eventId platform destination : String) : DbTxn PolicyDeliveryResult := do
  let rendered ← readOrRaise (renderEvent · eventId platform destination)
  createRendered eventId platform destination rendered

/-- `attempt_delivery_for_event`, whose failures are part of its result. -/
def attemptDelivery (arguments : TriageArguments) (workspace : Workspace) (eventId : String) :
    DbCall BoundedDeliveryResult := do
  match resolveDeliveryIntent arguments.platform arguments.destination workspace with
  | .error e => return ⟨none, some false, some (boundedErrorText e)⟩
  | .ok none => return {}
  | .ok (some (platform, destination)) => do
    match ← attempt (createDeliveryForEvent eventId platform destination) with
    | .error e => return ⟨none, some false, some (boundedErrorText e)⟩
    | .ok result => return ⟨if result.supported then result.delivery else none, some result.created, none⟩

end Deliveries

section Triage

/-- A field of a payload that is there only where it is not empty. -/
def optionalField (key : String) (value : Json) : List (String × Json) :=
  if value.truthy then [(key, value)] else []

def taskPayload (arguments : TriageArguments) (taskId : String) (issue : Issue) : Json :=
  .obj ([("task_id", .str taskId),
    ("title", (Json.ofOption arguments.title).orElse (issue.title.orElse (.str taskId))),
    ("source", .str "github_issue"), ("repo", issue.repo), ("issue_number", issue.number),
    ("issue_url", issue.url), ("content_trust", .str "untrusted"),
    ("triage_phase", .str arguments.phase)] ++
    optionalField "issue_body_excerpt" issue.bodyExcerpt ++
    optionalField "owner" (Json.ofOption arguments.owner))

def triagePayload (arguments : TriageArguments) (issue : Issue) : Json :=
  .obj ([("source_event_id", .str arguments.eventId), ("decision", .str arguments.decision),
    ("repo", issue.repo), ("number", issue.number), ("url", issue.url), ("title", issue.title),
    ("content_trust", .str "untrusted")] ++
    optionalField "task_id" (Json.ofOption arguments.taskId) ++
    optionalField "reason" (Json.ofOption arguments.reason) ++
    optionalField "issue_body_excerpt" issue.bodyExcerpt)

def TriageArguments.key (arguments : TriageArguments) : String :=
  s!"{arguments.workspaceId}:issue.triaged:{arguments.eventId}:{arguments.decision}:" ++
    arguments.taskId.getD ""

def triageEvent (arguments : TriageArguments) (issue : Issue) (target : Option String) : NewEvent where
  workspaceId := some arguments.workspaceId
  eventType := triagedType
  actor := arguments.actor
  target
  taskId := arguments.taskId
  idempotencyKey := some arguments.key
  payload := triagePayload arguments issue

/-- The columns of the mirror of an accepted issue. -/
def acceptedColumns (arguments : TriageArguments) (taskId : String) (issue : Issue) : MirrorColumns where
  phase := some arguments.phase
  owner := arguments.owner
  branch := none
  pr := none
  lastEventId := none
  payload := taskPayload arguments taskId issue

structure IssueTriageResult where
  workspaceId : String
  sourceEventId : String
  decision : String
  taskId : Option String
  event : EventDict
  eventCreated : Bool
  task : Option TaskDict
  delivery : BoundedDeliveryResult
deriving DecidableEq, Repr

variable [Platform] [EventRenderer]

/-- The mirror of an accepted issue; the task was tested to be given. -/
def mirrorAccepted (arguments : TriageArguments) (issue : Issue) : DbCall (Option TaskDict) :=
  if arguments.decision = "accept" then do
    let taskId := arguments.taskId.getD ""
    let (row, _) ← upsertMirror arguments.workspaceId taskId (acceptedColumns arguments taskId issue)
    let task ← orRaise id row.toDict
    return some task
  else return none

/-- The triage event and its delivery. -/
def recordTriage (arguments : TriageArguments) (workspace : Workspace) (issue : Issue)
    (task : Option TaskDict) : DbCall IssueTriageResult := do
  let target ← orRaise id (boundText ((Json.ofOption arguments.taskId).orElse issue.repo))
  let result ← DbCall.recordEvent (triageEvent arguments issue target)
  let event ← orRaise id result.row.toDict
  let delivery ← attemptDelivery arguments workspace result.row.id
  return ⟨arguments.workspaceId, arguments.eventId, arguments.decision, arguments.taskId, event,
    result.created, task, delivery⟩

/-- The answer to a triage that is there already. -/
def repeatTriage (arguments : TriageArguments) (workspace : Workspace) (prior : EventDict) :
    DbCall IssueTriageResult := do
  let delivery ← attemptDelivery arguments workspace prior.row.id
  return ⟨arguments.workspaceId, arguments.eventId, arguments.decision, arguments.taskId, prior, false,
    none, delivery⟩

/-- `triage_issue`. -/
def triageIssue (arguments : TriageArguments) : DbCall IssueTriageResult := do
  raiseIf (¬ ["accept", "reject", "defer"].contains arguments.decision) (Exn.value
    s!"decision must be one of ('accept', 'reject', 'defer'), got: {arguments.decision}")
  let workspace ← DbCall.requireWorkspace arguments.workspaceId
  let spotted ← query fun db => db.events.find? (·.id = arguments.eventId)
  let issue ← orRaise id (readIssue arguments spotted)
  let rows ← query (triageRows arguments.workspaceId)
  let prior ← orRaise id (priorTriage arguments rows)
  match prior with
  | some prior => repeatTriage arguments workspace prior
  | none => do
    let _ ← orRaise id (resolveDeliveryIntent arguments.platform arguments.destination workspace)
    let task ← mirrorAccepted arguments issue
    recordTriage arguments workspace issue task

end Triage

end Coordinate.IssueTriage

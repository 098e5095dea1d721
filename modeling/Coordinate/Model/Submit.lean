import Coordinate.Model.Claim

/-! # Submitting a request

`submit_request` of `runtime.py`, for an exact target and for a routed request. The lookups and
checks of a submit precede its transaction, which appends the request event and its job; a taken
idempotency key replays the stored pair without a write.
-/

namespace Coordinate

variable [Platform]

/-- The arguments of `submit_request`. -/
structure SubmitRequest where
  workspaceId : String
  targetAgent : Option String := none
  prompt : String
  origin : Json
  reply : Json
  actor : String := "bridge"
  taskId : Option String := none
  idempotencyKey : Option String := none
  routingRequest : Option Json := none
  worktreePath : Option String := none
deriving DecidableEq, Repr

structure RuntimeRequestResult where
  event : EventDict
  eventCreated : Bool
  job : JobDict
  jobCreated : Bool
deriving DecidableEq, Repr

/-- The id of the job that belongs to a request event. -/
def requestJobId (eventId : String) : String :=
  "request:" ++ eventId

def preflightJobId : String := "request:preflight"

/-- `_resolve_submit_context`. -/
def resolveSubmitContext (db : Db) (workspaceId targetAgent : String) (taskId : Option String)
    (origin : Json) (jobId : String) (jobWorktreePath : Option String) :
    Except Exn ExecutionContextV1 := do
  match (getAgent db targetAgent).bind (·.hostId) with
  | none | some "" => throw (runtimeFailure s!"agent {targetAgent} has no host_id")
  | some hostId =>
    match ← getWorkspaceHostProfile db workspaceId hostId with
    | none => throw (missingProfile workspaceId hostId)
    | some profile => do
      let task ← match taskId with
        | none => pure none
        | some taskId => do
          match ← taskMirror db workspaceId taskId with
          | none => throw (runtimeFailure s!"task mirror not found: {workspaceId}/{taskId}")
          | some task => pure (some task)
      match getWorkspace db workspaceId with
      | none => throw (Exn.type "'NoneType' object has no attribute 'id'")
      | some workspace =>
        orRaise (fun e : ContextError => runtimeFailure s!"invalid execution context: {e.message}")
          (resolveExecutionContextV1 jobId workspace task targetAgent hostId profile origin none
            jobWorktreePath none)

section Replay

def conflict (what : String) : Exn := runtimeFailure s!"request replay: {what}"

/-- The origin, reply and task of a stored request. -/
def checkStoredRequest (request : SubmitRequest) (event : EventRow) (job : JobRow)
    (eventPayload jobPayload : Json) : Except Exn Unit := do
  raiseIf (¬ (jobPayload.get "origin").pyEq request.origin)
    (conflict "origin conflicts with stored job")
  raiseIf (¬ (eventPayload.get "origin").pyEq request.origin)
    (conflict "origin conflicts with stored event")
  raiseIf (¬ (eventPayload.get "reply").pyEq request.reply)
    (conflict "reply conflicts with stored event")
  raiseIf (eventPayload.get "task_id" ≠ .ofOption request.taskId)
    (conflict "task_id conflicts with stored event")
  raiseIf (event.taskId ≠ request.taskId) (conflict "event row task_id conflicts with request")
  raiseIf (job.taskId ≠ request.taskId) (conflict "stored job task_id conflicts with request")

/-- The request of a job that was stored before jobs had a context snapshot. -/
def checkPreUpgradeRequest (request : SubmitRequest) (event : EventRow) (job : JobRow)
    (eventPayload jobPayload : Json) : Except Exn Unit := do
  raiseIf (¬ (eventPayload.get "origin").pyEq request.origin)
    (conflict "origin conflicts with stored event")
  raiseIf (¬ (eventPayload.get "reply").pyEq request.reply)
    (conflict "reply conflicts with stored event")
  raiseIf (eventPayload.get "task_id" ≠ .ofOption request.taskId)
    (conflict "task_id conflicts with stored event")
  raiseIf (¬ (jobPayload.get "origin").pyEq request.origin)
    (conflict "origin conflicts with stored job")
  raiseIf (event.taskId ≠ request.taskId) (conflict "event row task_id conflicts with request")
  raiseIf (job.taskId ≠ request.taskId) (conflict "task_id conflicts with stored job")

/-- A stored binding must be the current one of the target. -/
def checkStoredBinding (db : Db) (targetAgent : String) (stored : Json) : Except Exn Unit := do
  match ← resolveExactExecutorBinding db targetAgent with
  | none => throw (conflict "executor_binding was removed from the catalog")
  | some current => do
    let storedDict ← orRaise Exn.identity (bindingSnapshotCanonicalDict stored)
    raiseIf (¬ storedDict.pyEq current.canonicalDict)
      (conflict "executor_binding conflicts with stored snapshot")

/-- A stored context must be the one that the current authority resolves to. -/
def checkStoredContext (db : Db) (request : SubmitRequest) (targetAgent jobId : String)
    (worktreePath : Option String) (stored : Json) : Except Exn Unit := do
  let expected ← resolveSubmitContext db request.workspaceId targetAgent request.taskId
    request.origin jobId worktreePath
  let same ← orRaise Exn.context (executionContextDictMatches stored expected.toDict)
  raiseIf (!same) (conflict "execution_context conflicts with stored snapshot")

/-- The rows of a stored request event and its job. -/
structure StoredRequest where
  event : EventRow
  eventPayload : Json
  job : JobRow
  jobPayload : Json

def StoredRequest.result (stored : StoredRequest) : Except Exn RuntimeRequestResult := do
  let event ← stored.event.toDict
  let job ← stored.job.toDict
  return ⟨event, false, job, false⟩

/-- The event and job checks of `_replay_exact_request` that need no authority. -/
def readExactRequest (db : Db) (request : SubmitRequest) (targetAgent : String)
    (worktreePath : Option String) (event : EventRow) : Except Exn StoredRequest := do
  raiseIf (event.eventType ≠ "request.received")
    (conflict "idempotency key conflicts with existing non-request event")
  raiseIf (event.workspaceId ≠ some request.workspaceId)
    (conflict "stored event workspace_id conflicts")
  raiseIf (event.target ≠ some targetAgent) (conflict "stored event target conflicts")
  let eventPayload ← strictPayload event.payloadJson
  raiseIf (eventPayload.get "target_agent" ≠ .str targetAgent)
    (conflict "stored event payload target_agent conflicts")
  raiseIf (eventPayload.get "prompt" ≠ .str request.prompt)
    (conflict "prompt conflicts with stored event")
  raiseIf (eventPayload.get "worktree_path" ≠ .ofOption worktreePath)
    (conflict "worktree_path conflicts with stored event")
  raiseIf (isRoutedJob eventPayload)
    (runtimeFailure "explicit idempotency key conflicts with routed request")
  match findJob db (requestJobId event.id) with
  | none => throw (conflict "stored event exists but job is missing")
  | some job => do
    raiseIf (job.workspaceId ≠ request.workspaceId) (conflict "stored job workspace_id conflicts")
    raiseIf (job.assignedAgent ≠ targetAgent) (conflict "stored job assignment conflicts")
    raiseIf (job.worktreePath ≠ worktreePath) (conflict "stored job worktree_path conflicts")
    let jobPayload ← strictPayload job.payloadJson
    raiseIf (jobPayload.get "request_event_id" ≠ .str event.id)
      (conflict "stored job request_event_id conflicts with event")
    raiseIf (jobPayload.get "prompt" ≠ .str request.prompt)
      (conflict "prompt conflicts with stored job")
    raiseIf (¬ (jobPayload.get "reply").pyEq request.reply)
      (conflict "reply conflicts with stored job")
    return ⟨event, eventPayload, job, jobPayload⟩

/-- `_replay_exact_request`. -/
def replayExactRequest (db : Db) (request : SubmitRequest) (targetAgent : String)
    (worktreePath : Option String) (event : EventRow) : Except Exn RuntimeRequestResult := do
  let stored ← readExactRequest db request targetAgent worktreePath event
  match stored.jobPayload.get "execution_context" with
  | .null =>
    checkPreUpgradeRequest request event stored.job stored.eventPayload stored.jobPayload
  | context => do
    checkStoredContext db request targetAgent stored.job.id worktreePath context
    checkStoredRequest request event stored.job stored.eventPayload stored.jobPayload
    match stored.jobPayload.get "executor_binding" with
    | .null => pure ()
    | binding => checkStoredBinding db targetAgent binding
  stored.result

/-- The request and decision checks of `_replay_routed_request` on the event. -/
def checkRoutedEvent (request : SubmitRequest) (routing : RoutingRequest) (event : EventRow)
    (eventPayload : Json) : Except Exn Unit := do
  raiseIf (eventPayload.get "prompt" ≠ .str request.prompt)
    (conflict "prompt conflicts with stored event")
  raiseIf (¬ (eventPayload.get "origin").pyEq request.origin)
    (conflict "origin conflicts with stored event")
  raiseIf (¬ (eventPayload.get "reply").pyEq request.reply)
    (conflict "reply conflicts with stored event")
  raiseIf (eventPayload.get "task_id" ≠ .ofOption request.taskId)
    (conflict "payload task_id conflicts with stored event")
  raiseIf (¬ (eventPayload.get "routing_request").pyEq (Routing.requestToDict routing))
    (conflict "routing_request conflicts with stored event")
  let decision := eventPayload.get "routing_decision"
  raiseIf (¬ decision.isObj) (conflict "routing_decision missing in stored event")
  routingClaimEvidence.checkHashable decision routing
  orRaise (fun e : ExecutorRoutingError => conflict s!"invalid stored routing_decision: {e.message}")
    (validateRoutingDecision decision routing)
  raiseIf (¬ (eventPayload.get "target_agent").pyEq (decision.get "selected_agent_id"))
    (conflict "stored event payload target_agent conflicts with stored decision")
  raiseIf (Json.ofOption event.target ≠ decision.get "selected_agent_id")
    (conflict "stored event target conflicts with stored decision")

/-- The job checks of `_replay_routed_request`. -/
def checkRoutedJob (request : SubmitRequest) (event : EventRow) (eventPayload : Json)
    (job : JobRow) (jobPayload : Json) : Except Exn Unit := do
  raiseIf (jobPayload.get "prompt" ≠ .str request.prompt)
    (conflict "prompt conflicts with stored job")
  raiseIf (¬ (jobPayload.get "origin").pyEq request.origin)
    (conflict "origin conflicts with stored job")
  raiseIf (¬ (jobPayload.get "reply").pyEq request.reply)
    (conflict "reply conflicts with stored job")
  raiseIf (jobPayload.get "request_event_id" ≠ .str event.id)
    (conflict "stored job request_event_id conflicts with event")
  raiseIf (¬ (jobPayload.get "routing_request").pyEq (eventPayload.get "routing_request"))
    (conflict "routing_request conflicts with stored job")
  raiseIf (¬ (jobPayload.get "routing_decision").pyEq (eventPayload.get "routing_decision"))
    (conflict "routing_decision conflicts with stored job")
  raiseIf (jobPayload.get "executor_binding" = .null ∨ jobPayload.get "execution_context" = .null)
    (conflict "routed job requires executor_binding and execution_context snapshots")
  orRaise (fun e : ExecutorRoutingError => conflict s!"invalid routing cross-links: {e.message}")
    (validateRoutingCrossLinks (eventPayload.get "routing_decision") job
      (jobPayload.get "executor_binding") (jobPayload.get "execution_context"))

/-- `_replay_routed_request`. -/
def replayRoutedRequest (db : Db) (request : SubmitRequest) (routing : RoutingRequest)
    (event : EventRow) : Except Exn RuntimeRequestResult := do
  raiseIf (event.eventType ≠ "request.received")
    (conflict "idempotency key conflicts with existing non-request event")
  raiseIf (event.workspaceId ≠ some request.workspaceId)
    (conflict "stored event workspace_id conflicts")
  raiseIf (event.taskId ≠ request.taskId) (conflict "event row task_id conflicts with request")
  let eventPayload ← strictPayload event.payloadJson
  checkRoutedEvent request routing event eventPayload
  match findJob db (requestJobId event.id) with
  | none => throw (conflict "stored event exists but job is missing")
  | some job => do
    raiseIf (job.workspaceId ≠ request.workspaceId)
      (conflict "stored job workspace_id conflicts with event")
    raiseIf (job.taskId ≠ request.taskId) (conflict "stored job task_id conflicts with request")
    let jobPayload ← strictPayload job.payloadJson
    checkRoutedJob request event eventPayload job jobPayload
    checkStoredBinding db job.assignedAgent (jobPayload.get "executor_binding")
    checkStoredContext db request job.assignedAgent job.id none (jobPayload.get "execution_context")
    (StoredRequest.mk event eventPayload job jobPayload).result

end Replay

section Exact

/-- `_request_key`. -/
def requestKey (workspaceId targetAgent : String) (origin : Json) : Except Exn String := do
  raiseIf (¬ (origin.get "message_id").truthy)
    (runtimeFailure "origin.message_id is required when idempotency_key is omitted")
  let platform := (origin.get "platform").pyStr
  let destination := (origin.get "destination").pyStr
  let messageId := (origin.get "message_id").pyStr
  return s!"runtime:request:{workspaceId}:{platform}:{destination}:{messageId}:{targetAgent}"

/-- What an exact submit resolves before its transaction. -/
structure ExactPlan where
  eventKey : String
  binding : Option BindingSnapshot
  worktreePath : Option String
  authoritativeWorktree : Bool
deriving DecidableEq, Repr

/-- The worktree that an exact submit stores: resolved on the control host, or the normalized
sibling that its context found. -/
def planWorktree (db : Db) (request : SubmitRequest) (targetAgent : String) :
    Except Exn (Option String × Bool) := do
  let preflight ← resolveSubmitContext db request.workspaceId targetAgent request.taskId
    request.origin preflightJobId request.worktreePath
  match request.worktreePath, getWorkspace db request.workspaceId with
  | some raw, some workspace =>
    match classifyWorktreeRawPath workspace.path raw with
    | .control => do
      let resolved := Platform.absolutePath raw none
      let _ ← resolveSubmitContext db request.workspaceId targetAgent request.taskId
        request.origin preflightJobId (some resolved)
      return (some resolved, false)
    | .hostNative => return (some preflight.worktreePath, true)
  | _, _ => return (none, false)

/-- The lookups of `_submit_exact_request` before its first write. -/
def planExactRequest (db : Db) (request : SubmitRequest) (targetAgent : String) :
    Except Exn ExactPlan := do
  raiseIf (getAgent db targetAgent).isNone (runtimeFailure s!"unknown agent: {targetAgent}")
  let eventKey ← match nonEmpty request.idempotencyKey with
    | some key => pure key
    | none => requestKey request.workspaceId targetAgent request.origin
  let binding ← resolveExactExecutorBinding db targetAgent
  let (worktreePath, authoritativeWorktree) ← planWorktree db request targetAgent
  return ⟨eventKey, binding, worktreePath, authoritativeWorktree⟩

/-- The event of an exact request. -/
def exactRequestEvent (request : SubmitRequest) (targetAgent : String) (plan : ExactPlan) :
    NewEvent where
  workspaceId := some request.workspaceId
  eventType := "request.received"
  actor := request.actor
  target := some targetAgent
  taskId := request.taskId
  idempotencyKey := some plan.eventKey
  payload := .obj ([("target_agent", .str targetAgent), ("prompt", .str request.prompt),
    ("origin", request.origin), ("reply", request.reply), ("task_id", .ofOption request.taskId)] ++
    match plan.worktreePath with
    | none => []
    | some path => [("worktree_path", .str path)])

/-- The payload of the job of an exact request. -/
def exactJobPayload (request : SubmitRequest) (eventId : String) (ctx : ExecutionContextV1)
    (binding : Option BindingSnapshot) : Json :=
  .obj ([("prompt", .str request.prompt), ("origin", request.origin), ("reply", request.reply),
    ("request_event_id", .str eventId), ("execution_context", ctx.toDict)] ++
    match binding with
    | none => []
    | some binding => [("executor_binding", binding.toDict)])

def checkJobPrompt (request : SubmitRequest) (payload : Json) : Except Exn Unit :=
  raiseIf (payload.get "prompt" ≠ .str request.prompt) (conflict "prompt conflicts with stored job")

def checkJobOrigin (request : SubmitRequest) (payload : Json) : Except Exn Unit :=
  raiseIf (¬ (payload.get "origin").pyEq request.origin)
    (conflict "origin conflicts with stored job")

def checkJobReply (request : SubmitRequest) (payload : Json) : Except Exn Unit :=
  raiseIf (¬ (payload.get "reply").pyEq request.reply) (conflict "reply conflicts with stored job")

/-- The checks of a job that exists although its event is new. -/
def checkExistingExactJob (db : Db) (request : SubmitRequest) (targetAgent : String)
    (plan : ExactPlan) (job : JobRow) : Except Exn Unit := do
  let payload ← strictPayload job.payloadJson
  match payload.get "execution_context" with
  | .null => do
    checkJobOrigin request payload
    raiseIf (job.taskId ≠ request.taskId) (conflict "task_id conflicts with stored job")
    checkJobPrompt request payload
    checkJobReply request payload
  | context => do
    checkStoredContext db request targetAgent job.id plan.worktreePath context
    checkJobPrompt request payload
    checkJobOrigin request payload
    checkJobReply request payload
    match payload.get "executor_binding", plan.binding with
    | .null, _ => pure ()
    | _, none => throw (conflict "executor_binding was removed from the catalog")
    | binding, some current => do
      let storedDict ← orRaise Exn.identity (bindingSnapshotCanonicalDict binding)
      raiseIf (¬ storedDict.pyEq current.canonicalDict)
        (conflict "executor_binding conflicts with stored snapshot")

/-- Create the job of a new exact request event, or check the one that is there. -/
def pairExactJob (request : SubmitRequest) (targetAgent : String) (plan : ExactPlan)
    (event : EventRow) : DbTxn (JobRow × Bool) := do
  let jobId := requestJobId event.id
  let db ← Txn.read id
  match findJob db jobId with
  | some existing =>
    orRaise id (checkExistingExactJob db request targetAgent plan existing)
    return (existing, false)
  | none =>
    let ctx ← orRaise id (resolveSubmitContext db request.workspaceId targetAgent request.taskId
      request.origin jobId plan.worktreePath)
    let job ← createJob
      { workspaceId := request.workspaceId, taskId := request.taskId,
        runnerProfileId := (plan.binding.map (·.runnerProfileId)).getD targetAgent,
        assignedAgent := some targetAgent, worktreePath := plan.worktreePath,
        payload := exactJobPayload request event.id ctx plan.binding, jobId := some jobId,
        authoritativeWorktreePath := plan.authoritativeWorktree }
    return (job, true)

end Exact

/-- How the transaction of a submit ends. -/
inductive SubmitOutcome where
  | stored (event : EventRow) (job : JobRow) (jobCreated : Bool)
  | replayed (result : RuntimeRequestResult)

/-- The transaction of a submit: append the event, pair it with its job, commit. An event that
another call has stored in between rolls back and is replayed. -/
def submitTransaction (event : NewEvent) (pair : EventRow → DbTxn (JobRow × Bool))
    (replay : Db → EventRow → Except Exn RuntimeRequestResult) : DbTx RuntimeRequestResult := do
  let outcome ← tryCatch (do
    let appended ← Tx.within (appendEvent event)
    if !appended.created then
      Tx.rollback
      let result ← Tx.query (replay · appended.row)
      SubmitOutcome.replayed <$> orRaise id result
    else
      let (job, created) ← Tx.within (pair appended.row)
      Tx.commit
      return SubmitOutcome.stored appended.row job created) fun e => do
        Tx.rollback
        throw e
  match outcome with
  | .replayed result => return result
  | .stored event job jobCreated => do
    let eventDict ← orRaise id event.toDict
    let jobDict ← orRaise id job.toDict
    return ⟨eventDict, true, jobDict, jobCreated⟩

/-- `_submit_exact_request`. -/
def submitExactRequest (request : SubmitRequest) (targetAgent : String) :
    DbTx RuntimeRequestResult := do
  let planned ← Tx.query (planExactRequest · request targetAgent)
  let plan ← orRaise id planned
  let replay (db : Db) (event : EventRow) : Except Exn RuntimeRequestResult :=
    replayExactRequest db request targetAgent plan.worktreePath event
  match ← Tx.query (findEventByKey · plan.eventKey) with
  | some event =>
    let result ← Tx.query (replay · event)
    orRaise id result
  | none =>
    submitTransaction (exactRequestEvent request targetAgent plan)
      (pairExactJob request targetAgent plan) replay

section Routed

/-- `_routed_request_key`. -/
def routedRequestKey (workspaceId : String) (routing : RoutingRequest) (origin : Json) : String :=
  let platform := (origin.get "platform").pyStr
  let destination := (origin.get "destination").pyStr
  let messageId := (getOr origin "message_id" (.str "")).pyStr
  s!"runtime:request:{workspaceId}:{platform}:{destination}:{messageId}:" ++
    routing.routingRequestId

/-- The decision of a routed submit, after the preflight of its context. -/
def planRoutedRequest (db : Db) (current : Nat) (request : SubmitRequest)
    (routing : RoutingRequest) : Except Exn RoutingDecision := do
  let candidates ← resolveRoutingCandidates db current request.workspaceId routing
  let decision ← orRaise (fun e : ExecutorRoutingError => runtimeFailure e.message)
    (selectRoutingDecision routing candidates)
  let _ ← resolveSubmitContext db request.workspaceId decision.selected.agentId request.taskId
    request.origin preflightJobId none
  return decision

/-- The event of a routed request. -/
def routedRequestEvent (request : SubmitRequest) (routing : RoutingRequest)
    (decision : RoutingDecision) (eventKey : String) : NewEvent where
  workspaceId := some request.workspaceId
  eventType := "request.received"
  actor := request.actor
  target := some decision.selected.agentId
  taskId := request.taskId
  idempotencyKey := some eventKey
  payload := .obj [("target_agent", .str decision.selected.agentId),
    ("prompt", .str request.prompt), ("origin", request.origin), ("reply", request.reply),
    ("task_id", .ofOption request.taskId), ("routing_request", Routing.requestToDict routing),
    ("routing_decision", decision.toDict)]

/-- The payload of the job of a routed request. -/
def routedJobPayload (request : SubmitRequest) (routing : RoutingRequest)
    (decision : RoutingDecision) (eventId : String) (ctx : ExecutionContextV1) : Json :=
  .obj [("prompt", .str request.prompt), ("origin", request.origin), ("reply", request.reply),
    ("request_event_id", .str eventId), ("execution_context", ctx.toDict),
    ("executor_binding", decision.selected.binding.toDict),
    ("routing_request", Routing.requestToDict routing), ("routing_decision", decision.toDict)]

/-- Create the job of a new routed request event, or check the one that is there. -/
def pairRoutedJob (request : SubmitRequest) (routing : RoutingRequest) (decision : RoutingDecision)
    (event : EventRow) : DbTxn (JobRow × Bool) := do
  let jobId := requestJobId event.id
  let db ← Txn.read id
  match findJob db jobId with
  | some existing =>
    let payload ← orRaise id (strictPayload existing.payloadJson)
    raiseIf (¬ (payload.get "routing_request").pyEq (Routing.requestToDict routing))
      (conflict "routing_request conflicts with stored job")
    raiseIf (¬ (payload.get "routing_decision").pyEq decision.toDict)
      (conflict "routing_decision conflicts with stored job")
    return (existing, false)
  | none =>
    let ctx ← orRaise id (resolveSubmitContext db request.workspaceId decision.selected.agentId
      request.taskId request.origin jobId none)
    let job ← createJob
      { workspaceId := request.workspaceId, taskId := request.taskId,
        runnerProfileId := decision.selected.runnerProfileId,
        assignedAgent := some decision.selected.agentId,
        payload := routedJobPayload request routing decision event.id ctx, jobId := some jobId }
    return (job, true)

/-- `_submit_routed_request`. -/
def submitRoutedRequest (request : SubmitRequest) (routingData : Json) :
    DbTx RuntimeRequestResult := do
  let routing ← orRaise Exn.routing (Routing.parseRequest routingData)
  let eventKey := (nonEmpty request.idempotencyKey).getD
    (routedRequestKey request.workspaceId routing request.origin)
  let replay (db : Db) (event : EventRow) : Except Exn RuntimeRequestResult :=
    replayRoutedRequest db request routing event
  match ← Tx.query (findEventByKey · eventKey) with
  | some event =>
    let result ← Tx.query (replay · event)
    orRaise id result
  | none =>
    let current ← Tx.clock now
    let planned ← Tx.query (planRoutedRequest · current request routing)
    let decision ← orRaise id planned
    submitTransaction (routedRequestEvent request routing decision eventKey)
      (pairRoutedJob request routing decision) replay

end Routed

/-- The argument checks of `submit_request`. -/
def validateSubmit (db : Db) (request : SubmitRequest) : Except Exn Unit := do
  raiseIf (getWorkspace db request.workspaceId).isNone
    (runtimeFailure s!"unknown workspace: {request.workspaceId}")
  raiseIf (Text.isBlank request.prompt) (runtimeFailure "prompt is required")
  validateDestination request.origin "origin"
  validateDestination request.reply "reply"
  raiseIf (request.targetAgent.isSome ∧ request.routingRequest.isSome) (runtimeFailure
    "exact-plus-routed: target_agent and routing_request are mutually exclusive")
  raiseIf (request.targetAgent.isNone ∧ request.routingRequest.isNone)
    (runtimeFailure "neither-mode: target_agent or routing_request is required")
  raiseIf (request.targetAgent.isNone ∧ request.worktreePath.isSome)
    (runtimeFailure "routed request does not support worktree_path")

/-- `submit_request`. -/
def submitRequest (request : SubmitRequest) : DbTx RuntimeRequestResult := do
  let checked ← Tx.query (validateSubmit · request)
  orRaise id checked
  match request.targetAgent, request.routingRequest with
  | some targetAgent, _ => submitExactRequest request targetAgent
  | none, some routingData => submitRoutedRequest request routingData
  | none, none => throw (runtimeFailure "routing_request must be a dict or RoutingRequest")

end Coordinate

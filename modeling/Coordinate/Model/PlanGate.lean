import Coordinate.Library.Machine
import Coordinate.Model.EventPump
import Coordinate.Model.TaskMirrors

/-! # The plan gate and the handoff

`plan_gate.py` records the decisions on the plan of a task, `prepare_handoff` of `handoff.py` tests the
latest one. The texts of a handoff are a parameter, and so is what the harness preflight finds. Each
statement of these calls commits on its own, so what a call has written stays when it raises.
-/

namespace Coordinate.PlanGate

def planReadyType : String := "plan.ready"

def approvedType : String := "plan.approved"

def rejectedType : String := "plan.rejected"

def handoffType : String := "worker.handoff.prepared"

def requireWorkspace (db : Db) (workspaceId : String) : Except Exn Workspace :=
  match getWorkspace db workspaceId with
  | some workspace => return workspace
  | none => throw (Exn.value s!"unknown workspace: {workspaceId}")

def requireTask (db : Db) (workspaceId taskId : String) : Except Exn TaskDict :=
  match findTask db workspaceId taskId with
  | some row => row.toDict
  | none => throw (Exn.value s!"task mirror not found: {workspaceId}/{taskId}")

/-- The rows of a task of one type. -/
def rowsOfType (db : Db) (workspaceId taskId eventType : String) : List EventRow :=
  db.events.filter fun row =>
    row.workspaceId = some workspaceId && row.taskId = some taskId && row.eventType = eventType

/-- The last `plan.ready` of a task. -/
def planReadyRow (db : Db) (workspaceId taskId : String) : Option EventRow :=
  (rowsOfType db workspaceId taskId planReadyType).getLast?

/-- `_latest_plan_ready`. -/
def latestPlanReady (db : Db) (workspaceId taskId : String) : Except Exn (Option EventDict) :=
  match planReadyRow db workspaceId taskId with
  | none => return none
  | some row => some <$> row.toDict

/-- `_gate_counter`. -/
def gateCounter (db : Db) (workspaceId taskId eventType : String) : Nat :=
  (rowsOfType db workspaceId taskId eventType).length

/-- `plan_event.get("payload", {})`, of which the callers read fields. -/
def planPayload : Option EventDict → Except Exn Json
  | none => return .obj []
  | some event => do
    raiseIf (¬ event.payload.isObj) (Exn.type "object has no attribute 'get'")
    return event.payload

/-- `payload.get("plan_doc") or payload.get("absolute_plan_doc", "")`. -/
def sourcePlan (payload : Json) : Json :=
  (payload.get "plan_doc").orElse ((payload.field? "absolute_plan_doc").getD (.str ""))

/-- The arguments of `approve_plan` and of `reject_plan`; `notes` is the reason of a rejection. -/
structure DecisionArguments where
  workspaceId : String
  taskId : String
  scope : String
  reviewer : Option String := none
  notes : Option String := none
  actor : String := "operator"
  idempotencyKey : Option String := none
deriving DecidableEq, Repr

/-- The two decisions. -/
inductive Decision where
  | approved
  | rejected
deriving DecidableEq, Repr

namespace Decision

def eventType : Decision → String
  | approved => approvedType
  | rejected => rejectedType

/-- The decision whose rows the key counts. -/
def opposite : Decision → Decision
  | approved => rejected
  | rejected => approved

def countName : Decision → String
  | approved => "approves"
  | rejected => "rejects"

/-- The default key of a decision after a number of opposite ones. -/
def key (decision : Decision) (workspaceId taskId scope : String) (count : Nat) : String :=
  s!"{workspaceId}:{taskId}:{decision.eventType}:{scope}:after_{count}_{decision.opposite.countName}"

end Decision

def approvalPayload (arguments : DecisionArguments) (plan : Option EventDict) : Except Exn Json := do
  let payload ← planPayload plan
  return .obj [("task_id", .str arguments.taskId), ("reviewer", Json.ofOption arguments.reviewer),
    ("decision", .str "approved"), ("scope", .str arguments.scope),
    ("source_plan", sourcePlan payload),
    ("plan_ready_event_id", Json.ofOption (plan.map (·.row.id))),
    ("notes", Json.ofOption arguments.notes)]

def rejectionPayload (arguments : DecisionArguments) : Json :=
  .obj [("task_id", .str arguments.taskId), ("reviewer", Json.ofOption arguments.reviewer),
    ("decision", .str "rejected"), ("scope", .str arguments.scope),
    ("reason", Json.ofOption arguments.notes)]

structure PlanGateResult where
  workspace : Workspace
  task : TaskDict
  event : EventDict
  eventCreated : Bool
deriving DecidableEq, Repr

section Decisions

variable [Platform]

/-- The append of a decision and the task mirror that names it. -/
def recordDecision (decision : Decision) (arguments : DecisionArguments) (workspace : Workspace)
    (task : TaskDict) (count : Nat) (payload : Json) : DbTxn PlanGateResult := do
  let defaultKey := decision.key arguments.workspaceId arguments.taskId arguments.scope count
  let result ← appendEvent
    { workspaceId := some arguments.workspaceId, eventType := decision.eventType,
      actor := arguments.actor, target := some "worker", taskId := some arguments.taskId,
      idempotencyKey := some ((arguments.idempotencyKey.filter (· ≠ "")).getD defaultKey),
      payload }
  let lastEventId := if result.created then some result.row.id else task.row.lastEventId
  let (mirror, _) ← upsertTaskMirror arguments.workspaceId arguments.taskId
    ⟨task.row.phase, task.row.owner, task.row.branch, task.row.pr, lastEventId, task.payload⟩
  let taskDict ← orRaise id mirror.toDict
  let event ← orRaise id result.row.toDict
  return ⟨workspace, taskDict, event, result.created⟩

/-- `approve_plan`. -/
def approvePlan (arguments : DecisionArguments) : DbTxn PlanGateResult := do
  let workspace ← readOrRaise (requireWorkspace · arguments.workspaceId)
  let task ← readOrRaise (requireTask · arguments.workspaceId arguments.taskId)
  let plan ← readOrRaise (latestPlanReady · arguments.workspaceId arguments.taskId)
  let rejections ← Txn.read (gateCounter · arguments.workspaceId arguments.taskId rejectedType)
  let payload ← orRaise id (approvalPayload arguments plan)
  recordDecision .approved arguments workspace task rejections payload

/-- `reject_plan`. -/
def rejectPlan (arguments : DecisionArguments) : DbTxn PlanGateResult := do
  let workspace ← readOrRaise (requireWorkspace · arguments.workspaceId)
  let task ← readOrRaise (requireTask · arguments.workspaceId arguments.taskId)
  let approvals ← Txn.read (gateCounter · arguments.workspaceId arguments.taskId approvedType)
  recordDecision .rejected arguments workspace task approvals (rejectionPayload arguments)

end Decisions

/-- The first row, from the latest on, whose scope is the given one. -/
def firstOfScope (scope : String) : List EventRow → Except Exn (Option EventRow)
  | [] => return none
  | row :: rest =>
    match row.payloadJson with
    | .value payload =>
      if payload.get "scope" = .str scope then return some row else firstOfScope scope rest
    | _ => throw (Exn.operational "malformed JSON")

/-- The decisions on a task, in the order of their rows. -/
def decisionRows (db : Db) (workspaceId taskId : String) : List EventRow :=
  db.events.filter fun row => row.workspaceId = some workspaceId && row.taskId = some taskId &&
    (row.eventType = approvedType || row.eventType = rejectedType)

/-- `_require_latest_gate_approved` for a role that has a gate. -/
def requireLatestGateApproved (db : Db) (workspaceId taskId requiredScope : String) :
    Except Exn EventDict := do
  let found ← firstOfScope requiredScope (decisionRows db workspaceId taskId).reverse
  match found with
  | none => throw (Exn.value (s!"no plan gate event with scope '{requiredScope}' found for " ++
      s!"{workspaceId}/{taskId}; approve the plan with this scope before generating worker handoff"))
  | some row => do
    let gate ← row.toDict
    raiseIf (gate.row.eventType ≠ approvedType) (Exn.value
      (s!"latest gate decision for {workspaceId}/{taskId} scope '{requiredScope}' is " ++
        s!"{gate.row.eventType}, not plan.approved; approve the plan before generating " ++
        "worker handoff"))
    return gate

/-- `_plan_ready_by_id`. -/
def planReadyById (db : Db) (eventId : Json) : Except Exn (Option EventDict) :=
  match db.events.find? (fun row => eventId = .str row.id) with
  | none => return none
  | some row => some <$> row.toDict

/-- The plan that an approval names, which must be the latest one. -/
def approvedPlan (db : Db) (workspaceId taskId requiredScope : String) (gate : EventDict) :
    Except Exn (Option EventDict) := do
  raiseIf (¬ gate.payload.isObj) (Exn.type "object has no attribute 'get'")
  let approvedId := gate.payload.get "plan_ready_event_id"
  raiseIf (¬ approvedId.truthy) (Exn.value
    (s!"plan.approved event {gate.row.id} for {workspaceId}/{taskId} " ++
      "lacks plan_ready_event_id (legacy approval). " ++
      s!"Re-approve with: plan approve --scope '{requiredScope}'"))
  let latest ← latestPlanReady db workspaceId taskId
  match latest with
  | none => pure ()
  | some plan => raiseIf (approvedId ≠ .str plan.row.id) (Exn.value
      (s!"plan.ready was updated after approval for {workspaceId}/{taskId}; " ++
        s!"approved plan_ready_event_id={approvedId.pyStr}, current latest={plan.row.id}. " ++
        "Re-review and re-approve the updated plan before generating handoff."))
  planReadyById db approvedId

/-- The arguments of `prepare_handoff`. -/
structure HandoffArguments where
  workspaceId : String
  taskId : String
  role : String
  requiredScope : String := "implementation plan"
  actor : String := "operator"
  idempotencyKey : Option String := none
  targetAgent : Option String := none
  reviewType : String := "code"
deriving DecidableEq, Repr

/-- The texts of a handoff and the profile in its payload. -/
structure HandoffTexts where
  handoffText : String
  bootstrapText : String
  bootstrapPath : String
  executionProfile : Json
deriving DecidableEq, Repr

/-- What a handoff takes from the files of the workspace: what `_require_harness_task` finds, and the
texts about a task and its plan, which name paths. -/
structure HandoffFiles where
  requireHarnessTask : Except Exn Unit
  texts : Workspace → TaskDict → Json → Option WorkspaceHostProfile → Except Exn HandoffTexts

/-- `_execution_profile_for_target`. -/
def executionProfileForTarget [Platform] (db : Db) (arguments : HandoffArguments) :
    Except Exn (Option WorkspaceHostProfile) := do
  match arguments.targetAgent.filter (· ≠ "") with
  | none => return none
  | some target =>
    match ((getAgent db target).bind (·.hostId)).filter (· ≠ "") with
    | none => return none
    | some hostId => do
      let profile ← getWorkspaceHostProfile db arguments.workspaceId hostId
      raiseIf profile.isNone (Exn.value
        (s!"target agent '{target}' is registered on host '{hostId}', but workspace " ++
          s!"'{arguments.workspaceId}' has no execution profile for that host; " ++
          "run `workspace host-profile set` before generating handoff"))
      return profile

/-- The registration of the target, and the profile of its host. -/
def resolveTarget [Platform] (db : Db) (current : Nat) (arguments : HandoffArguments) :
    Except Exn (Option WorkspaceHostProfile) := do
  match arguments.targetAgent with
  | none => pure ()
  | some target => do
    let discordId ← getAgentDiscordId db current arguments.workspaceId (.str target)
    raiseIf ((discordId.filter (· ≠ "")).isNone) (Exn.value
      (s!"target agent '{target}' not registered in workspace '{arguments.workspaceId}'; " ++
        s!"run: workspace agent add {arguments.workspaceId} --name {target} " ++
        "--discord-user-id <id>"))
  executionProfileForTarget db arguments

/-- `_require_latest_gate_approved`, which a reviewer skips: he is the gate of a plan. -/
def gateFor (db : Db) (arguments : HandoffArguments) : Except Exn (Option EventDict) :=
  if arguments.role = "reviewer" then return none
  else some <$> requireLatestGateApproved db arguments.workspaceId arguments.taskId
    arguments.requiredScope

/-- The event that a handoff names, and the plan. -/
structure Passage where
  gateEventId : String
  plan : Option EventDict
deriving DecidableEq, Repr

/-- The plan that is handed over: the approved one, or for a reviewer the latest. -/
def handedPlan (db : Db) (arguments : HandoffArguments) : Option EventDict → Except Exn Passage
  | some gate => do
    let plan ← approvedPlan db arguments.workspaceId arguments.taskId arguments.requiredScope gate
    return ⟨gate.row.id, plan⟩
  | none => do
    let plan ← latestPlanReady db arguments.workspaceId arguments.taskId
    match plan with
    | none => throw (Exn.value (s!"no plan.ready found for " ++
        s!"{arguments.workspaceId}/{arguments.taskId}; create the task (task create) before " ++
        "reviewer handoff"))
    | some event => return ⟨event.row.id, some event⟩

def handoffPayload (arguments : HandoffArguments) (workspace : Workspace) (task : TaskDict)
    (passage : Passage) (plan : Json) (texts : HandoffTexts) : Json :=
  .obj [("task_id", .str arguments.taskId), ("workspace_id", .str arguments.workspaceId),
    ("role", .str arguments.role), ("handoff_text", .str texts.handoffText),
    ("source_plan", sourcePlan plan),
    ("branch", Json.ofOption ((task.row.branch.filter (· ≠ "")).or workspace.baseBranch)),
    ("workspace_path", .str workspace.path), ("control_workspace_path", .str workspace.path),
    ("execution_profile", texts.executionProfile), ("bootstrap_text", .str texts.bootstrapText),
    ("approved_gate_event_id", .str passage.gateEventId),
    ("constraints", .obj [("human_gate_required", .bool true),
      ("no_merge_without_approval", .bool true), ("no_deploy_without_approval", .bool true)]),
    ("target_agent", Json.ofOption arguments.targetAgent),
    ("bootstrap_path", .str texts.bootstrapPath)]

def handoffKey (arguments : HandoffArguments) (passage : Passage) : String :=
  let segment :=
    if arguments.role = "reviewer" then s!"reviewer_{passage.gateEventId}_{arguments.reviewType}"
    else s!"gate_{passage.gateEventId}"
  let suffix := match arguments.targetAgent.filter (· ≠ "") with
    | some target => ":target_" ++ target
    | none => ""
  s!"{arguments.workspaceId}:{arguments.taskId}:worker.handoff.prepared.v2:" ++ segment ++ suffix

structure HandoffPreparedResult where
  workspace : Workspace
  task : TaskDict
  texts : HandoffTexts
  event : EventDict
  eventCreated : Bool
deriving DecidableEq, Repr

/-- `prepare_handoff`. -/
def prepareHandoff [Platform] (arguments : HandoffArguments) (files : HandoffFiles) :
    DbTxn HandoffPreparedResult := do
  let workspace ← readOrRaise (requireWorkspace · arguments.workspaceId)
  let task ← readOrRaise (requireTask · arguments.workspaceId arguments.taskId)
  let gate ← readOrRaise (gateFor · arguments)
  let current ← utcNow
  let profile ← readOrRaise (resolveTarget · current arguments)
  let passage ← readOrRaise (handedPlan · arguments gate)
  orRaise id files.requireHarnessTask
  let plan ← orRaise id (planPayload passage.plan)
  let texts ← orRaise id (files.texts workspace task plan profile)
  let result ← appendEvent
    { workspaceId := some arguments.workspaceId, eventType := handoffType, actor := arguments.actor,
      target := some arguments.role, taskId := some arguments.taskId,
      idempotencyKey := some
        ((arguments.idempotencyKey.filter (· ≠ "")).getD (handoffKey arguments passage)),
      payload := handoffPayload arguments workspace task passage plan texts }
  let event ← orRaise id result.row.toDict
  return ⟨workspace, task, texts, event, result.created⟩

/-- A key that was not given. -/
def isDefault (key : Option String) : Bool := (key.filter (· ≠ "")).isNone

/-- The beginning of the keys of a decision on a task. -/
def keyStart (decision : Decision) (workspaceId taskId : String) : String :=
  s!"{workspaceId}:{taskId}:{decision.eventType}:"

/-- No key of a decision on the task. -/
def isPlainKey (workspaceId taskId key : String) : Bool :=
  !Text.startsWith key (keyStart .approved workspaceId taskId) &&
    !Text.startsWith key (keyStart .rejected workspaceId taskId)

/-- A row that is neither a plan of the task nor a decision on it. -/
def isForeign (workspaceId taskId : String) (row : EventRow) : Bool :=
  isPlainKey workspaceId taskId row.idempotencyKey &&
    !(row.workspaceId = some workspaceId && row.taskId = some taskId &&
      (row.eventType = planReadyType || row.eventType = approvedType ||
        row.eventType = rejectedType))

/-- A call in the history of one task. -/
inductive Label where
  | planReady (actor : String) (target key : Option String) (payload : Json)
  | approve (arguments : DecisionArguments)
  | reject (arguments : DecisionArguments)
  | handoff (arguments : HandoffArguments) (files : HandoffFiles)
  /-- another program records an event -/
  | record (row : EventRow)
  /-- other programs write other tables -/
  | elsewhere (db : Db)

section History

variable [Platform]

def planReadyEvent (workspaceId taskId actor : String) (target key : Option String)
    (payload : Json) : NewEvent where
  workspaceId := some workspaceId
  eventType := planReadyType
  actor
  target
  taskId := some taskId
  idempotencyKey := key
  payload

/-- A decision on the task with the default key. -/
def DecisionArguments.isAbout (arguments : DecisionArguments) (workspaceId taskId : String) : Bool :=
  arguments.workspaceId = workspaceId && arguments.taskId = taskId &&
    isDefault arguments.idempotencyKey

def HandoffArguments.isAbout (arguments : HandoffArguments) (workspaceId taskId : String) : Bool :=
  arguments.workspaceId = workspaceId && arguments.taskId = taskId &&
    isDefault arguments.idempotencyKey

def step (workspaceId taskId : String) (s : Work Db) : Label → Option (Work Db)
  | .planReady actor target key payload =>
    if key.all (isPlainKey workspaceId taskId) then
      some ((appendEvent (planReadyEvent workspaceId taskId actor target key payload)).run s).final
    else none
  | .approve arguments =>
    if arguments.isAbout workspaceId taskId then some ((approvePlan arguments).run s).final else none
  | .reject arguments =>
    if arguments.isAbout workspaceId taskId then some ((rejectPlan arguments).run s).final else none
  | .handoff arguments files =>
    if arguments.isAbout workspaceId taskId then
      some ((prepareHandoff arguments files).run s).final
    else none
  | .record row =>
    if isForeign workspaceId taskId row then
      (s.store.events.insert? row).map fun events =>
        { s with store := { s.store with events } }
    else none
  | .elsewhere db => if db.events = s.store.events then some { s with store := db } else none

/-- The calls on one task, one after the other. -/
def history (workspaceId taskId : String) : Machine (Work Db) Label := ⟨step workspaceId taskId⟩

end History

/-- The history of the task has not begun. -/
def Initial (workspaceId taskId : String) (s : Work Db) : Prop :=
  ∀ row ∈ s.store.events, isForeign workspaceId taskId row = true

end Coordinate.PlanGate

import Coordinate.Model.Completion

/-! # Task transitions

The operations of `transitions.py` that run a mutation of the harness and record its outcome: accept,
handoff, blocker, unblock and mark-done, and the repair that records a completion alone. A transition
looks for the stored outcome of its hint first, and a failed mutation is an outcome as well. The
reconciliation that follows a new event raises nothing and records events of its own only, so it counts
among the other programs that use the ledger.
-/

namespace Coordinate

section Mutations

/-- What a run of `harnessctl` leaves. -/
structure CompletedProcess where
  command : List String
  returncode : Int
  stdout : String
  stderr : String
deriving DecidableEq, Repr

/-- The successive runs of `harnessctl` by the mutations of a ledger: a run that exits with another code
than zero, and one that cannot be started, leave the checklist as it was. -/
class Harness where
  runner : Nat → MutationRequest → Except AdapterError CompletedProcess

structure HarnessMutationResult where
  operation : String
  taskId : String
  actor : String
  idempotencyHint : String
  startedAt : String
  completedAt : String
  command : List String
  exitCode : Int
  stdout : String
  stderr : String
  success : Bool
deriving DecidableEq, Repr

def HarnessMutationResult.toDict (mutation : HarnessMutationResult) : Json :=
  .obj [("operation", .str mutation.operation), ("task_id", .str mutation.taskId),
    ("actor", .str mutation.actor), ("idempotency_hint", .str mutation.idempotencyHint),
    ("started_at", .str mutation.startedAt), ("completed_at", .str mutation.completedAt),
    ("command", .arr (mutation.command.map Json.str)), ("exit_code", .int mutation.exitCode),
    ("stdout", .str mutation.stdout), ("stderr", .str mutation.stderr),
    ("success", .bool mutation.success)]

/-- `datetime.isoformat()` of an instant in microseconds. -/
def isoInstant (instant : Nat) : String :=
  let seconds := Text.takePrefix (Calendar.isoformat (instant / 1000000)) 19
  let micros := instant % 1000000
  let fraction := if micros = 0 then [] else
    '.' :: Calendar.twoDigits (micros / 10000) ++ Calendar.fourDigits (micros % 10000)
  seconds ++ String.ofList fraction ++ "+00:00"

variable [Platform] [Deployment] [Harness]

/-- The result of a run between two readings of the clock. -/
def mutationResult (request : MutationRequest) (startedAt completedAt : Nat)
    (completed : CompletedProcess) : HarnessMutationResult where
  operation := request.operation
  taskId := request.taskId
  actor := request.actor
  idempotencyHint := request.idempotencyHint
  startedAt := isoInstant startedAt
  completedAt := isoInstant completedAt
  command := completed.command
  exitCode := completed.returncode
  stdout := completed.stdout
  stderr := completed.stderr
  success := completed.returncode = 0

/-- What `run_mutation` makes of the run with a number. -/
def mutationOutcome (attempt tick : Nat) (request : MutationRequest) :
    Except AdapterError HarnessMutationResult := do
  raiseIf (request.operation = "" ∨ request.taskId = "")
    (AdapterError.harness "operation and task_id must be non-empty strings")
  let completed ← Harness.runner attempt request
  return mutationResult request (instantAt tick) (instantAt (tick + 1)) completed

def tookEffect : Except AdapterError HarnessMutationResult → Bool
  | .ok mutation => mutation.success
  | .error _ => false

def runMutation (request : MutationRequest) :
    LedgerProgram (Except AdapterError HarnessMutationResult) :=
  Program.statement .mutation fun ledger =>
    let outcome := mutationOutcome ledger.mutations.length ledger.work.tick request
    (.ok outcome, { ledger with
      work := { ledger.work with tick := ledger.work.tick + 2 }
      mutations := ledger.mutations ++ [(request, tookEffect outcome)] })

/-- `_failed_mutation_result`. -/
def failedMutationResult (request : MutationRequest) (timestamp stderr : String) :
    HarnessMutationResult where
  operation := request.operation
  taskId := request.taskId
  actor := request.actor
  idempotencyHint := request.idempotencyHint
  startedAt := timestamp
  completedAt := timestamp
  command := []
  exitCode := 1
  stdout := ""
  stderr
  success := false

/-- Run a mutation; an adapter that raises has failed. -/
def attemptMutation (request : MutationRequest) : LedgerProgram HarnessMutationResult := do
  let outcome ← runMutation request
  match outcome with
  | .ok mutation => return mutation
  | .error error => do
    let instant ← readInstant
    return failedMutationResult request (isoInstant instant) error.message

end Mutations

/-- `value or fallback` of an optional string. -/
def orText (value : Option String) (fallback : String) : String :=
  (value.filter (· ≠ "")).getD fallback

section Recording

/-- A transition of a task: its mutation, its event and the keys of both outcomes. -/
structure TaskTransition where
  operation : String
  eventType : String
  workspaceId : String
  taskId : String
  actor : String
  target : String
  args : List String
  adapter : Option Adapter
  hint : String
  /-- The fields of its own in the payload of either outcome. -/
  fields : List (String × Json) := []
  /-- The fields of its own in the payload of a success. -/
  successFields : List (String × Json) := []
deriving DecidableEq, Repr

namespace TaskTransition

def successKey (transition : TaskTransition) : String :=
  s!"{transition.hint}:{transition.eventType}"

def failedKey (transition : TaskTransition) : String :=
  s!"{transition.hint}:harness.mutation_failed"

def request (transition : TaskTransition) (adapter : Adapter) : MutationRequest where
  adapter
  operation := transition.operation
  taskId := transition.taskId
  actor := transition.actor
  args := transition.args
  idempotencyHint := transition.hint

def successPayload (transition : TaskTransition) (mutation : HarnessMutationResult) : Json :=
  .obj ([("task_id", .str transition.taskId)] ++ transition.fields ++
    [("mutation", mutation.toDict)] ++ transition.successFields)

def failurePayload (transition : TaskTransition) (mutation : HarnessMutationResult) : Json :=
  .obj ([("operation", .str transition.operation), ("task_id", .str transition.taskId)] ++
    transition.fields ++ [("mutation", mutation.toDict), ("stderr", .str mutation.stderr),
      ("exit_code", .int mutation.exitCode)])

/-- The event of an outcome. -/
def outcomeEvent (transition : TaskTransition) (mutation : HarnessMutationResult) : NewEvent where
  eventType := if mutation.success then transition.eventType else "harness.mutation_failed"
  actor := transition.actor
  workspaceId := some transition.workspaceId
  target := some transition.target
  taskId := some transition.taskId
  idempotencyKey := some (if mutation.success then transition.successKey else transition.failedKey)
  payload := if mutation.success then transition.successPayload mutation
    else transition.failurePayload mutation

end TaskTransition

structure TaskTransitionResult where
  mutation : Option HarnessMutationResult
  event : EventDict
  eventCreated : Bool
deriving DecidableEq, Repr

/-- The stored event of a key. -/
def storedEvent (db : Db) (key : String) : Except Exn (Option EventDict) :=
  match findEventByKey db key with
  | none => return none
  | some row => some <$> row.toDict

/-- The stored outcome of a transition, a success before a failure. -/
def storedOutcome (transition : TaskTransition) : LedgerProgram (Option EventDict) := do
  let existing ← lookUp (storedEvent · transition.successKey)
  match existing with
  | some event => return some event
  | none => lookUp (storedEvent · transition.failedKey)

def adapterOf (adapter : Option Adapter) (workspaceId : String) : LedgerProgram Adapter :=
  match adapter with
  | some adapter => return adapter
  | none => do
    let workspace ← lookUp fun db => return getWorkspace db workspaceId
    match workspace with
    | some workspace => return .ofWorkspace workspace.id
    | none => throw (Exn.value s!"unknown workspace: {workspaceId}")

variable [Platform] [Deployment] [Harness]

/-- The statement that records an event: `task.done` completes the task without looking for an earlier
completion. -/
def recordingOf (event : NewEvent) : Statement :=
  if event.eventType = "task.done" then .terminal ⟨.actor event.actor, event.workspaceId,
    event.taskId, event.idempotencyKey.getD "", none⟩
  else .append event

/-- The handlers of both outcomes of a mutation. -/
def recordOutcome (transition : TaskTransition) (mutation : HarnessMutationResult) :
    LedgerProgram TaskTransitionResult := do
  let event := transition.outcomeEvent mutation
  let result ← transaction (recordingOf event) (appendEvent event)
  let stored ← orRaise id result.row.toDict
  return ⟨some mutation, stored, result.created⟩

/-- Run the mutation of a transition and record its outcome. -/
def mutateTask (transition : TaskTransition) (adapter : Adapter) :
    LedgerProgram TaskTransitionResult := do
  let mutation ← attemptMutation (transition.request adapter)
  recordOutcome transition mutation

/-- A transition with a check of its arguments, once nothing is stored. -/
def transitionTask (transition : TaskTransition) (check : Except Exn Unit) :
    LedgerProgram TaskTransitionResult := do
  let stored ← storedOutcome transition
  match stored with
  | some event => return ⟨none, event, false⟩
  | none => do
    orRaise id check
    let adapter ← adapterOf transition.adapter transition.workspaceId
    mutateTask transition adapter

end Recording

section Transitions

/-- The arguments of `accept_task`. -/
structure AcceptRequest where
  workspaceId : String
  taskId : String
  owner : String
  session : String
  actor : Option String := none
  branch : Option String := none
  adapter : Option Adapter := none
  idempotencyHint : Option String := none
deriving DecidableEq, Repr

/-- An optional argument of a command line. -/
def optionArgs (option : String) (value : Option String) : List String :=
  match value.filter (· ≠ "") with
  | some given => [option, given]
  | none => []

def AcceptRequest.transition (request : AcceptRequest) : TaskTransition where
  operation := "accept"
  eventType := "assignment.accepted"
  workspaceId := request.workspaceId
  taskId := request.taskId
  actor := orText request.actor request.owner
  target := request.owner
  args := [request.owner, request.session] ++ optionArgs "--branch" request.branch
  adapter := request.adapter
  hint := orText request.idempotencyHint
    s!"{request.workspaceId}:accept:{request.taskId}:{request.owner}:{request.session}"
  fields := [("owner", .str request.owner), ("session", .str request.session),
    ("branch", .ofOption request.branch)]

/-- The arguments of `handoff_task`. -/
structure HandoffRequest where
  workspaceId : String
  taskId : String
  target : String
  actor : String := "operator"
  reason : Option String := none
  adapter : Option Adapter := none
  idempotencyHint : Option String := none
deriving DecidableEq, Repr

def HandoffRequest.transition (request : HandoffRequest) : TaskTransition where
  operation := "handoff"
  eventType := "handoff.requested"
  workspaceId := request.workspaceId
  taskId := request.taskId
  actor := request.actor
  target := request.target
  args := [request.target, "--actor", request.actor] ++ optionArgs "--reason" request.reason
  adapter := request.adapter
  hint := orText request.idempotencyHint
    s!"{request.workspaceId}:handoff:{request.taskId}:{request.target}:{request.actor}"
  fields := [("target", .str request.target), ("reason", .ofOption request.reason)]

/-- The arguments of `blocker_task`. -/
structure BlockerRequest where
  workspaceId : String
  taskId : String
  actor : String := "operator"
  reason : Option String := none
  adapter : Option Adapter := none
  idempotencyHint : Option String := none
  unblockOwner : String := "human"
deriving DecidableEq, Repr

def BlockerRequest.transition (request : BlockerRequest) : TaskTransition where
  operation := "blocker"
  eventType := "blocker.raised"
  workspaceId := request.workspaceId
  taskId := request.taskId
  actor := request.actor
  target := request.taskId
  args := ["--actor", request.actor, "--unblock-owner", request.unblockOwner] ++
    optionArgs "--reason" request.reason
  adapter := request.adapter
  hint := orText request.idempotencyHint
    s!"{request.workspaceId}:blocker:{request.taskId}:{request.actor}"
  fields := [("reason", .ofOption request.reason), ("unblock_owner", .str request.unblockOwner)]

/-- The check of `unblock_owner`. -/
def BlockerRequest.check (request : BlockerRequest) : Except Exn Unit :=
  raiseIf (Text.isBlank request.unblockOwner)
    (Exn.value "unblock_owner must be a non-empty string")

/-- The arguments of `unblock_task`. -/
structure UnblockRequest where
  workspaceId : String
  taskId : String
  actor : String
  decision : String
  force : Bool := false
  reason : Option String := none
  adapter : Option Adapter := none
  idempotencyHint : Option String := none
deriving DecidableEq, Repr

def UnblockRequest.transition (request : UnblockRequest) : TaskTransition where
  operation := "unblock"
  eventType := "blocker.resolved"
  workspaceId := request.workspaceId
  taskId := request.taskId
  actor := request.actor
  target := request.taskId
  args := [request.actor, "--decision", request.decision] ++
    (if request.force then ["--force"] else []) ++ optionArgs "--reason" request.reason
  adapter := request.adapter
  hint := orText request.idempotencyHint
    s!"{request.workspaceId}:unblock:{request.taskId}:{request.actor}:{request.decision}"
  fields := [("decision", .str request.decision), ("force", .bool request.force),
    ("reason", .ofOption request.reason)]

variable [Platform] [Deployment] [Harness]

def acceptTask (request : AcceptRequest) : LedgerProgram TaskTransitionResult :=
  transitionTask request.transition (pure ())

def handoffTask (request : HandoffRequest) : LedgerProgram TaskTransitionResult :=
  transitionTask request.transition (pure ())

def blockerTask (request : BlockerRequest) : LedgerProgram TaskTransitionResult :=
  transitionTask request.transition request.check

def unblockTask (request : UnblockRequest) : LedgerProgram TaskTransitionResult :=
  transitionTask request.transition (pure ())

end Transitions

section MarkDone

variable [Platform] [Deployment]

/-- The arguments of `mark_done_task`. -/
structure MarkDoneRequest where
  workspaceId : String
  taskId : String
  actor : String := "operator"
  adapter : Option Adapter := none
  idempotencyHint : Option String := none
  verification : Option String := none
deriving DecidableEq, Repr

def legacyMarkDoneHostAwareWarning : String :=
  "`assignment mark-done` writes both the resolved checklist and the DB event. " ++
    "For host-aware workflows, use `assignment mark-done-files` on the coding " ++
    "host, commit/deploy, then `assignment mark-done-record` against the runtime DB."

/-- A refusal has no event. -/
structure MarkDoneTaskResult where
  mutation : Option HarnessMutationResult
  event : Option EventDict
  eventCreated : Bool
  gate : Option MarkDoneGateResult
  hostAwareWarning : String
deriving DecidableEq, Repr

def MarkDoneRequest.transition (request : MarkDoneRequest) (verification : String) :
    TaskTransition where
  operation := "mark-done"
  eventType := "task.done"
  workspaceId := request.workspaceId
  taskId := request.taskId
  actor := request.actor
  target := request.taskId
  args := [request.actor, "--verification", verification]
  adapter := request.adapter
  hint := orText request.idempotencyHint
    s!"{request.workspaceId}:mark-done:{request.taskId}:{request.actor}"
  successFields := if verification = "" then [] else [("verification", .str verification)]

/-- `_resolve_mark_done_verification`: the given text, or that of the checklist item. -/
def resolveMarkDoneVerification (adapter : Adapter) (taskId : String)
    (verification : Option String) : LedgerProgram String := do
  let explicit := Text.strip (verification.getD "")
  if explicit ≠ "" then return explicit
  else do
    let read ← readChecklist adapter
    match read with
    | .error _ => return ""
    | .ok checklist =>
      match findItem checklist (.str taskId) with
      | some item => return Text.strip ((item.get "verification").orElse (.str "")).pyStr
      | none => return ""

/-- The gate of a completion without a verification. -/
def unverifiedGate (taskId : String) : MarkDoneGateResult where
  passed := false
  reason := some (s!"task {taskId} has no verification; pass --verification " ++
    "with non-empty text or set the item's verification first")
  taskStatus := .null

def markDoneTask [Harness] (request : MarkDoneRequest) : LedgerProgram MarkDoneTaskResult := do
  let stored ← storedOutcome (request.transition "")
  match stored with
  | some event => return ⟨none, some event, false, none, legacyMarkDoneHostAwareWarning⟩
  | none => do
    let adapter ← adapterOf request.adapter request.workspaceId
    let gate ← checkMarkDoneGate adapter request.taskId
    if ¬ gate.passed then
      return ⟨none, none, false, some gate, legacyMarkDoneHostAwareWarning⟩
    else do
      let verification ← resolveMarkDoneVerification adapter request.taskId request.verification
      if verification = "" then
        let gate := unverifiedGate request.taskId
        return ⟨none, none, false, some gate, legacyMarkDoneHostAwareWarning⟩
      else do
        let result ← mutateTask (request.transition verification) adapter
        return ⟨result.mutation, some result.event, result.eventCreated, none,
          legacyMarkDoneHostAwareWarning⟩

/-- The arguments of `mark_done_record`. -/
structure MarkDoneRecordRequest where
  workspaceId : String
  taskId : String
  actor : String := "operator"
  verification : Option String := none
  idempotencyHint : Option String := none
  repairReason : Option String := none
deriving DecidableEq, Repr

structure MarkDoneRecordResult where
  workspaceId : String
  taskId : String
  event : EventDict
  eventCreated : Bool
deriving DecidableEq, Repr

/-- The first of the completions whose payload names the task. -/
def priorCompletion (taskId : String) : List EventRow → Except Exn (Option EventDict)
  | [] => return none
  | row :: rest => do
    let prior ← row.toDict
    if (payloadOf prior).get "task_id" = .str taskId then return some prior
    else priorCompletion taskId rest

def repairPayload (request : MarkDoneRecordRequest) (reason : String) : Json :=
  .obj ([("task_id", .str request.taskId), ("host_aware", .str "record-only"),
    ("repair_only", .bool true), ("repair_reason", .str reason)] ++
    match request.verification.filter (· ≠ "") with
    | some verification => [("verification", .str verification)]
    | none => [])

def repairEvent (request : MarkDoneRecordRequest) (reason : String) : NewEvent where
  eventType := "task.done"
  actor := request.actor
  workspaceId := some request.workspaceId
  target := some request.taskId
  taskId := some request.taskId
  idempotencyKey := some ((orText request.idempotencyHint
    s!"{request.workspaceId}:mark-done-record:{request.taskId}:{request.actor}") ++ ":task.done")
  payload := repairPayload request reason

omit [Deployment] in
def markDoneRecord (request : MarkDoneRecordRequest) : LedgerProgram MarkDoneRecordResult := do
  let reason := request.repairReason.getD ""
  raiseIf (Text.isBlank reason)
    (Exn.value "mark_done_record is repair-only; a non-empty repair_reason is required")
  let workspace ← lookUp fun db => return getWorkspace db request.workspaceId
  raiseIf workspace.isNone (Exn.value s!"unknown workspace: {request.workspaceId}")
  let (prior, scanned) ← lookUp fun db => do
    let prior ← priorCompletion request.taskId (db.events.filter fun row =>
      row.workspaceId = some request.workspaceId && row.eventType = "task.done")
    return (prior, db.events.rows.length)
  match prior with
  | some event => return ⟨request.workspaceId, request.taskId, event, false⟩
  | none => do
    let event := repairEvent request reason
    let result ← transaction (.terminal ⟨.actor request.actor, event.workspaceId, event.taskId,
      event.idempotencyKey.getD "", scanned⟩) (appendEvent event)
    let stored ← orRaise id result.row.toDict
    return ⟨request.workspaceId, request.taskId, stored, result.created⟩

end MarkDone

end Coordinate

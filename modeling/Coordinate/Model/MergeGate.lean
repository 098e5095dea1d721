import Coordinate.Library.Machine
import Coordinate.Model.GitHub
import Coordinate.Model.TaskMirrors

/-! # Observations of a pull request, and the merge gate

`ci.py` and `reviews.py`: a call asks GitHub for the checks or for the review decision of the pull
request of a task, asks for its head, and records what it has seen under that head; the gate compares the
latest row of both kinds with the head that it asks for itself. The calls run beside each other and beside
GitHub; every SQL statement, and every command, is one step of one call.
-/

namespace Coordinate.MergeGate

open GitHub

/-- The two kinds of observations. -/
inductive Signal where
  | ci
  | review
deriving DecidableEq, Repr

/-- What an observation says. -/
inductive Verdict where
  | positive
  | negative
  | undecided
deriving DecidableEq, Repr

namespace Signal

/-- The value of `status` and of `review_decision`. -/
def text : Signal → Verdict → String
  | ci, .positive => "passed"
  | ci, .negative => "failed"
  | ci, .undecided => "pending"
  | review, .positive => "approved"
  | review, .negative => "changes_requested"
  | review, .undecided => "review_required"

def eventType : Signal → Verdict → String
  | ci, .positive => "ci.passed"
  | ci, .negative => "ci.failed"
  | ci, .undecided => "ci.pending"
  | review, .positive => "pr_review.approved"
  | review, .negative => "pr_review.changes_requested"
  | review, .undecided => "pr_review.required"

/-- The field that holds the verdict. -/
def field : Signal → String
  | ci => "status"
  | review => "review_decision"

/-- What a call checks, in its messages. -/
def subject : Signal → String
  | ci => "CI"
  | review => "review"

/-- The name of the rows in the messages of the gate. -/
def rowName : Signal → String
  | ci => "ci"
  | review => "review"

def streamName : Signal → String
  | ci => "ci"
  | review => "pr_review"

/-- A row of this kind. -/
def isRow (signal : Signal) (row : EventRow) : Bool :=
  row.eventType = signal.eventType .positive || row.eventType = signal.eventType .negative ||
    row.eventType = signal.eventType .undecided

end Signal

inductive CheckStatus where
  | passed
  | failed
  | pending
  | skipped
deriving DecidableEq, Repr

def CheckStatus.text : CheckStatus → String
  | passed => "passed"
  | failed => "failed"
  | pending => "pending"
  | skipped => "skipped"

/-- `CheckResult`. -/
structure CheckResult where
  name : Json
  status : CheckStatus
deriving DecidableEq, Repr

def CheckResult.toDict (check : CheckResult) : Json :=
  .obj [("name", check.name), ("status", .str check.status.text)]

/-- `_BUCKET_MAP.get(bucket, "pending")`. -/
def bucketStatus : Json → Except Exn CheckStatus
  | .str "pass" => return .passed
  | .str "fail" => return .failed
  | .str "pending" => return .pending
  | .str "skipping" => return .skipped
  | .str "cancel" => return .failed
  | .arr _ => throw (Exn.type "unhashable type: 'list'")
  | .obj _ => throw (Exn.type "unhashable type: 'dict'")
  | _ => return .pending

/-- One entry of the answer to `gh pr checks`. -/
def readCheck (item : Json) : Except Exn CheckResult := do
  raiseIf (¬ item.isObj) (Exn.type "object has no attribute 'get'")
  let status ← bucketStatus (item.get "bucket")
  return ⟨(item.field? "name").getD (.str ""), status⟩

/-- `no checks reported(?: on the '.+' branch)?`, for the whole text. -/
def saysNoChecks (text : String) : Bool :=
  let before := "no checks reported on the '"
  let after := "' branch"
  let name := (Text.dropPrefix text before.length).toList
  text = "no checks reported" ||
    (Text.startsWith text before && after.toList.isSuffixOf name &&
      after.length < name.length && '\n' ∉ name.take (name.length - after.length))

/-- The list that `gh pr checks` has printed, or the empty one when it says that there are none. -/
def printedChecks (process : CompletedProcess) : Option (List Json) :=
  match process.stdout.loads with
  | .ok (.arr items) => some items
  | _ =>
    if process.returncode = 1 ∧ process.stdout = .blank ∧ saysNoChecks (Text.strip process.stderr) then
      some []
    else none

/-- `_query_checks`. -/
def queryChecks : Answer → Except Exn (List CheckResult)
  | .missing => throw (Exn.value "gh CLI not available")
  | .raised error => throw error
  | .completed process =>
    match printedChecks process with
    | none => do
      raiseIf (process.returncode ≠ 0) (Exn.value s!"gh pr checks failed: {process.stderr}")
      throw (Exn.value "gh pr checks returned invalid JSON")
    | some items => do
      raiseIf (process.returncode ∉ [0, 1, 8])
        (Exn.value s!"gh pr checks failed: {process.stderr}")
      items.mapM readCheck

/-- `_aggregate_status`. -/
def aggregateStatus (checks : List CheckResult) : Verdict :=
  if checks.isEmpty then .undecided
  else if checks.any (·.status = .failed) then .negative
  else if checks.any (·.status = .pending) then .undecided
  else .positive

/-- `_REVIEW_DECISION_MAP.get(decision, "review_required")`. -/
def reviewVerdict : Json → Except Exn Verdict
  | .str "APPROVED" => return .positive
  | .str "CHANGES_REQUESTED" => return .negative
  | .arr _ => throw (Exn.type "unhashable type: 'list'")
  | .obj _ => throw (Exn.type "unhashable type: 'dict'")
  | _ => return .undecided

/-- `_query_pr_review`. -/
def queryPrReview : Answer → Except Exn Verdict
  | .missing => throw (Exn.value "gh CLI not available")
  | .raised error => throw error
  | .completed process => do
    raiseIf (process.returncode ≠ 0) (Exn.value s!"gh pr view failed: {process.stderr}")
    match process.stdout.loads with
    | .ok (.obj fields) => reviewVerdict ((Json.obj fields).get "reviewDecision")
    | _ => throw (Exn.value "gh pr view returned invalid JSON")

/-- What a call has observed, and the head on which it was observed, which the code does not know. -/
structure Observation where
  pr : String
  head : String
  verdict : Verdict
  checks : List CheckResult := []
deriving DecidableEq, Repr

/-- The first of the two questions of a call. -/
def Signal.observe (signal : Signal) (pr head : String) (answer : Answer) :
    Except Exn Observation :=
  match signal with
  | .ci => do
    let checks ← queryChecks answer
    return ⟨pr, head, aggregateStatus checks, checks⟩
  | .review => do
    let verdict ← queryPrReview answer
    return ⟨pr, head, verdict, []⟩

/-- The arguments of `check_ci` and of `check_pr_review`. -/
structure CheckArguments where
  workspaceId : String
  taskId : String
  prUrl : Option String := none
  branch : Option String := none
  actor : String := "operator"
deriving DecidableEq, Repr

/-- The pull request that is checked: the one of the task, or a given one that does not contradict it. -/
def resolvePr (signal : Signal) (arguments : CheckArguments) (task : Option TaskMirror) :
    Except Exn String :=
  match arguments.prUrl, task.bind (·.pr) with
  | some url, some pr => do
    raiseIf (url ≠ pr) (Exn.value
      s!"task {arguments.taskId} already has pr '{pr}', cannot check {signal.subject} for '{url}'")
    return url
  | some url, none => return url
  | none, mirrorPr =>
    match mirrorPr.filter (· ≠ "") with
    | some pr => return pr
    | none =>
      throw (Exn.value s!"task {arguments.taskId} has no PR; cannot check {signal.subject}")

/-- `branch or existing_row["branch"]`. -/
def resolveBranch (arguments : CheckArguments) (task : Option TaskMirror) : Option String :=
  (arguments.branch.filter (· ≠ "")).or (task.bind (·.branch))

/-- What a call asks GitHub about. -/
structure Target where
  workspace : Workspace
  pr : String
  branch : Option String
deriving DecidableEq, Repr

/-- The rows of one kind that a task has. -/
def rowsOf (db : Db) (workspaceId taskId : String) (signal : Signal) : List EventRow :=
  db.events.filter fun row =>
    row.workspaceId = some workspaceId && row.taskId = some taskId && signal.isRow row

def newer (best : Option EventRow) (row : EventRow) : Option EventRow :=
  match best with
  | some earlier => if earlier.createdAt ≤ row.createdAt then some row else some earlier
  | none => some row

/-- `ORDER BY created_at DESC, rowid DESC LIMIT 1`. -/
def latest (db : Db) (workspaceId taskId : String) (signal : Signal) : Option EventRow :=
  (rowsOf db workspaceId taskId signal).foldl newer none

def observationPayload (signal : Signal) (arguments : CheckArguments) (target : Target)
    (seen : Observation) (headSha : String) : Json :=
  .obj ([("task_id", .str arguments.taskId), ("pr", .str target.pr), ("pr_url", .str target.pr),
    ("head_sha", .str headSha), ("branch", Json.ofOption target.branch),
    (signal.field, .str (signal.text seen.verdict))] ++
    (match signal with
      | .ci => [("checks", .arr (seen.checks.map CheckResult.toDict))]
      | .review => []) ++
    [("base_branch", Json.ofOption target.workspace.baseBranch),
      ("branch_namespace", Json.ofOption target.workspace.branchNamespace)])

def observationEvent (signal : Signal) (arguments : CheckArguments) (target : Target)
    (seen : Observation) (headSha : String) : NewEvent where
  workspaceId := some arguments.workspaceId
  eventType := signal.eventType seen.verdict
  actor := arguments.actor
  target := none
  taskId := some arguments.taskId
  idempotencyKey := none
  payload := observationPayload signal arguments target seen headSha

/-- Whether the latest row already says this. -/
def repeats (signal : Signal) (pr headSha : String) (verdict : Verdict) (row : EventRow) :
    Except Exn Bool := do
  let payload ← decodeColumn row.payloadJson
  raiseIf (¬ payload.isObj) (Exn.type "object has no attribute 'get'")
  return payload.get signal.field = .str (signal.text verdict) && payload.get "pr" = .str pr &&
    payload.get "head_sha" = .str headSha

/-- `CheckCiResult` and `PrReviewResult`. -/
structure ObservationResult where
  workspaceId : String
  taskId : String
  prUrl : String
  headSha : String
  seen : Observation
  event : EventDict
  eventCreated : Bool
  existing : Bool
deriving DecidableEq, Repr

/-- One part of the answer of the gate: what has passed, or why it has not. -/
inductive GateCheck where
  | passed (field value : String)
  | failed (reason : String)
deriving DecidableEq, Repr

def GateCheck.isPassed : GateCheck → Bool
  | passed _ _ => true
  | failed _ => false

structure MergeGateResult where
  workspaceId : String
  taskId : String
  humanGateRequired : Bool := true
  hasPr : GateCheck
  currentHead : GateCheck
  reviewApproved : GateCheck
  ciPassed : GateCheck
deriving DecidableEq, Repr

def MergeGateResult.ready (result : MergeGateResult) : Bool :=
  result.hasPr.isPassed && result.currentHead.isPassed && result.reviewApproved.isPassed &&
    result.ciPassed.isPassed

/-- The comparison of a latest row with the pull request and the head of the task. -/
def gateCheck (signal : Signal) (pr headSha : String) : Option EventRow → Except Exn GateCheck
  | none => return .failed s!"no {signal.streamName} event"
  | some row =>
    if row.eventType ≠ signal.eventType .positive then
      return .failed s!"latest {signal.rowName} event is {row.eventType}"
    else do
      let payload ← decodeColumn row.payloadJson
      raiseIf (¬ payload.isObj) (Exn.type "object has no attribute 'get'")
      let eventPr := payload.get "pr"
      let eventHead := payload.get "head_sha"
      return if eventPr ≠ .str pr then
          .failed (s!"{signal.rowName} event PR mismatch: event pr={eventPr.pyStr}, " ++
            s!"current pr={pr}")
        else if ¬ eventHead.truthy then .failed s!"{signal.rowName} event missing head_sha"
        else if eventHead ≠ .str headSha then
          .failed (s!"{signal.rowName} event head mismatch: event head={eventHead.pyStr}, " ++
            s!"current head={headSha}")
        else .passed "head_sha" headSha

/-- The answer of the gate when the task has no pull request. -/
def withoutPr (workspaceId taskId : String) (task : Option TaskMirror) : MergeGateResult where
  workspaceId
  taskId
  hasPr := .failed (if task.isNone then "no task mirror" else "no PR linked")
  currentHead := .failed "no PR linked"
  reviewApproved := .failed "no PR linked"
  ciPassed := .failed "no PR linked"

/-- The answer of the gate when GitHub does not tell the head. -/
def withoutHead (workspaceId taskId pr : String) (error : Exn) : MergeGateResult :=
  let reason := s!"current PR head unavailable: {error.message}"
  ⟨workspaceId, taskId, true, .passed "pr" pr, .failed reason, .failed reason, .failed reason⟩

/-- The next statement or command of a check. -/
inductive CheckPoint where
  /-- before `get_workspace` -/
  | entering
  /-- before the task is read -/
  | selecting (workspace : Workspace)
  /-- before the checks or the decision are asked for -/
  | observing (target : Target)
  /-- before the head is asked for -/
  | heading (target : Target) (seen : Observation)
  /-- before the latest row is read -/
  | comparing (target : Target) (seen : Observation) (headSha : String)
  /-- before the append -/
  | appending (target : Target) (seen : Observation) (headSha : String)
deriving DecidableEq, Repr

/-- The next statement or command of the gate. -/
inductive GatePoint where
  | entering
  | selecting (workspace : Workspace)
  /-- before the head is asked for -/
  | heading (pr : String)
  /-- before the latest review row is read -/
  | reviewing (pr headSha : String)
  /-- before the latest CI row is read -/
  | concluding (pr headSha : String) (review : Option EventRow)
deriving DecidableEq, Repr

inductive Outcome where
  | observed (signal : Signal) (result : ObservationResult)
  | gated (result : MergeGateResult)
  | raised (error : Exn)
deriving DecidableEq, Repr

inductive Phase where
  | idle
  | checking (signal : Signal) (arguments : CheckArguments) (point : CheckPoint)
  | gating (workspaceId taskId : String) (point : GatePoint)
  | returned (outcome : Outcome)
deriving DecidableEq, Repr

inductive Call where
  | check (signal : Signal) (arguments : CheckArguments)
  | gate (workspaceId taskId : String)
deriving DecidableEq, Repr

/-- `check_ci`. -/
def checkCi (arguments : CheckArguments) : Call := .check .ci arguments

/-- `check_pr_review`. -/
def checkPrReview (arguments : CheckArguments) : Call := .check .review arguments

/-- `check_merge_gate`. -/
def checkMergeGate (workspaceId taskId : String) : Call := .gate workspaceId taskId

def Call.begin : Call → Phase
  | check signal arguments => .checking signal arguments .entering
  | gate workspaceId taskId => .gating workspaceId taskId .entering

/-- The store, the calls, and the head of each pull request at GitHub. -/
structure State where
  work : Work Db
  phase : Nat → Phase
  heads : String → String

abbrev State.db (s : State) : Db := s.work.store

/-- Where the call goes on, or the exception that ends it. -/
def resume (next : Except Exn Phase) : Phase :=
  match next with
  | .ok phase => phase
  | .error error => .returned (.raised error)

def knownWorkspace (db : Db) (workspaceId : String) : Except Exn Workspace :=
  match getWorkspace db workspaceId with
  | some workspace => return workspace
  | none => throw (Exn.value s!"unknown workspace: {workspaceId}")

section Steps

variable [Platform]

/-- The append of a check: without a key of its own the row is new. -/
def recordObservation (signal : Signal) (arguments : CheckArguments) (target : Target)
    (seen : Observation) (headSha : String) : DbTxn ObservationResult := do
  let result ← appendEvent (observationEvent signal arguments target seen headSha)
  let event ← orRaise id result.row.toDict
  return ⟨arguments.workspaceId, arguments.taskId, target.pr, headSha, seen, event, result.created,
    false⟩

/-- The comparison with the latest row, which ends the call when there is nothing new. -/
def compare (db : Db) (signal : Signal) (arguments : CheckArguments) (target : Target)
    (seen : Observation) (headSha : String) : Except Exn Phase :=
  match latest db arguments.workspaceId arguments.taskId signal with
  | none => return .checking signal arguments (.appending target seen headSha)
  | some row => do
    let same ← repeats signal target.pr headSha seen.verdict row
    if same then do
      let event ← row.toDict
      return .returned (.observed signal ⟨arguments.workspaceId, arguments.taskId, target.pr, headSha,
        seen, event, false, true⟩)
    else return .checking signal arguments (.appending target seen headSha)

/-- The next SQL statement of a check, if that is what it needs. -/
def checkStep (work : Work Db) (signal : Signal) (arguments : CheckArguments) :
    CheckPoint → Option (Work Db × Phase)
  | .entering => some (work, resume do
      let workspace ← knownWorkspace work.store arguments.workspaceId
      return .checking signal arguments (.selecting workspace))
  | .selecting workspace => some (work, resume do
      let task := findTask work.store arguments.workspaceId arguments.taskId
      let pr ← resolvePr signal arguments task
      return .checking signal arguments (.observing ⟨workspace, pr, resolveBranch arguments task⟩))
  | .comparing target seen headSha =>
    some (work, resume (compare work.store signal arguments target seen headSha))
  | .appending target seen headSha =>
    match (recordObservation signal arguments target seen headSha).run work with
    | .ok result after => some (after, .returned (.observed signal result))
    | .error error after => some (after, .returned (.raised error))
  | .observing _ | .heading .. => none

/-- The next SQL statement of the gate. -/
def gateStep (db : Db) (workspaceId taskId : String) : GatePoint → Option Phase
  | .entering => some (resume do
      let workspace ← knownWorkspace db workspaceId
      return .gating workspaceId taskId (.selecting workspace))
  | .selecting _ =>
    let task := findTask db workspaceId taskId
    match (task.bind (·.pr)).filter (· ≠ "") with
    | none => some (.returned (.gated (withoutPr workspaceId taskId task)))
    | some pr => some (.gating workspaceId taskId (.heading pr))
  | .reviewing pr headSha =>
    some (.gating workspaceId taskId (.concluding pr headSha (latest db workspaceId taskId .review)))
  | .concluding pr headSha review => some (resume do
      let reviewApproved ← gateCheck .review pr headSha review
      let ciPassed ← gateCheck .ci pr headSha (latest db workspaceId taskId .ci)
      return .returned (.gated ⟨workspaceId, taskId, true, .passed "pr" pr,
        .passed "head_sha" headSha, reviewApproved, ciPassed⟩))
  | .heading _ => none

def callStep (work : Work Db) : Phase → Option (Work Db × Phase)
  | .checking signal arguments point => checkStep work signal arguments point
  | .gating workspaceId taskId point =>
    (gateStep work.store workspaceId taskId point).map fun phase => (work, phase)
  | _ => none

/-- GitHub tells no head but the current one. -/
def truthful (answer : Answer) (head : String) : Bool :=
  match queryPrHeadSha answer with
  | .ok headSha => headSha = head
  | .error _ => true

/-- The next command of a call and the answer to it. -/
def queryStep (heads : String → String) (answer : Answer) : Phase → Option Phase
  | .checking signal arguments (.observing target) => some (resume do
      let seen ← signal.observe target.pr (heads target.pr) answer
      return .checking signal arguments (.heading target seen))
  | .checking signal arguments (.heading target seen) =>
    if truthful answer (heads target.pr) then some (resume do
      let headSha ← queryPrHeadSha answer
      return .checking signal arguments (.comparing target seen headSha))
    else none
  | .gating workspaceId taskId (.heading pr) =>
    if truthful answer (heads pr) then
      match queryPrHeadSha answer with
      | .ok headSha => some (.gating workspaceId taskId (.reviewing pr headSha))
      | .error error =>
        if error.isValueError then
          some (.returned (.gated (withoutHead workspaceId taskId pr error)))
        else some (.returned (.raised error))
    else none
  | _ => none

inductive Label where
  | start (call : Nat) (arguments : Call)
  | proceed (call : Nat)
  /-- a command of the call and the answer to it, at the head of that moment -/
  | query (call : Nat) (answer : Answer)
  /-- a push to the branch of a pull request -/
  | push (pr head : String)
  /-- another program writes the tasks -/
  | relink (tasks : Table taskSchema)
  /-- another program records an event that is no observation -/
  | record (row : EventRow)
  /-- another program registers a workspace -/
  | register (workspace : Workspace)

def isForeign (row : EventRow) : Bool := !Signal.ci.isRow row && !Signal.review.isRow row

def step (s : State) : Label → Option State
  | .start call arguments =>
    if s.phase call = .idle then
      some { s with phase := Function.update s.phase call arguments.begin }
    else none
  | .proceed call =>
    (callStep s.work (s.phase call)).map fun (work, phase) =>
      { s with work, phase := Function.update s.phase call phase }
  | .query call answer =>
    (queryStep s.heads answer (s.phase call)).map fun phase =>
      { s with phase := Function.update s.phase call phase }
  | .push pr head => some { s with heads := Function.update s.heads pr head }
  | .relink tasks =>
    some { s with work := { s.work with store := { s.db with tasks := tasks } } }
  | .record row =>
    if isForeign row then
      (s.db.events.insert? row).map fun events =>
        { s with work := { s.work with store := { s.db with events } } }
    else none
  | .register workspace =>
    (s.db.workspaces.insert? workspace).map fun workspaces =>
      { s with work := { s.work with store := { s.db with workspaces } } }

/-- The calls on one database and GitHub, one step of one of them at a time. -/
def calls : Machine State Label := ⟨step⟩

end Steps

/-- No observation is recorded, and no call is in progress. -/
structure Initial (s : State) : Prop where
  foreign : ∀ row ∈ s.db.events, isForeign row = true
  idle : ∀ call, s.phase call = .idle

end Coordinate.MergeGate

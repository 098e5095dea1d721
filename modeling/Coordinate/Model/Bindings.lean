import Coordinate.Model.AgentReport
import Coordinate.Model.Calls
import Coordinate.Model.GitHub

/-! # Branches and pull requests of a task

`allocate_branch` of `branches.py` and `link_pr` of `prs.py`. Each appends its event and then writes the
task mirror, without a transaction around the two.
-/

namespace Coordinate.Bindings

open DbCall

section Names

variable [Platform]

/-- The characters of `[a-z0-9.\-]`. -/
def isNameChar (c : Char) : Bool :=
  ('a' ≤ c && c ≤ 'z') || ('0' ≤ c && c ≤ '9') || c = '.' || c = '-'

/-- `re.sub(r"-\{2,}", "-", ...)`. -/
def collapseDashes : List Char → List Char
  | '-' :: '-' :: rest => collapseDashes ('-' :: rest)
  | c :: rest => c :: collapseDashes rest
  | [] => []

/-- `_sanitize_component`. -/
def sanitizeComponent (value : String) : String :=
  let replaced := (AgentReport.lowerText value).toList.map fun c => if isNameChar c then c else '-'
  Text.stripOf ['-'] (String.ofList (collapseDashes replaced))

def orName (text default : String) : String := if text = "" then default else text

/-- `generate_branch_name`. -/
def generateBranchName (workspace : Workspace) (taskId owner : String) : String :=
  let owner := orName (sanitizeComponent owner) "agent"
  let task := orName (sanitizeComponent taskId) "task"
  let namespace_ := Text.stripOf ['/'] (workspace.branchNamespace.getD "")
  if namespace_ = "" then s!"{owner}/{task}" else s!"{namespace_}/{owner}/{task}"

end Names

section Allocation

variable [Platform]

structure AllocateArguments where
  workspaceId : String
  taskId : String
  owner : Option String := none
  actor : String := "operator"
deriving DecidableEq, Repr

structure BranchAllocationResult where
  workspaceId : String
  taskId : String
  branch : String
  owner : String
  event : EventDict
  eventCreated : Bool
  existing : Bool
deriving DecidableEq, Repr

/-- The owner that goes into the name and into the mirror. -/
def resolveOwner (owner : Option String) (existing : Option TaskMirror) : String :=
  let raw := (owner.or (existing.bind (·.owner))).getD "agent"
  orName (sanitizeComponent raw) "agent"

def allocationEvent (arguments : AllocateArguments) (workspace : Workspace) (owner branch : String) :
    NewEvent :=
  { workspaceId := some arguments.workspaceId, eventType := "branch.allocated", actor := arguments.actor,
    target := none, taskId := some arguments.taskId,
    idempotencyKey := some s!"{arguments.workspaceId}:branch:{arguments.taskId}:{branch}",
    payload := .obj [("task_id", .str arguments.taskId), ("owner", .str owner), ("branch", .str branch),
      ("base_branch", Json.ofOption workspace.baseBranch),
      ("branch_namespace", Json.ofOption workspace.branchNamespace)] }

/-- `json.loads(row["payload_json"]) if row["payload_json"] else None`. -/
def payloadOrNone : JsonText → Except Exn Json
  | .blank => return .null
  | text => decodeColumn text

/-- The append and the upsert that both ways of `allocate_branch` end with. -/
def allocate (arguments : AllocateArguments) (workspace : Workspace) (owner branch : String)
    (existing : Option TaskMirror) (held : Bool) : DbCall BranchAllocationResult := do
  let result ← DbCall.recordEvent (allocationEvent arguments workspace owner branch)
  let event ← orRaise id result.row.toDict
  let payload ← orRaise id (match existing with
    | some row => payloadOrNone row.payloadJson
    | none => return .null)
  let _ ← upsertMirror arguments.workspaceId arguments.taskId
    ⟨existing.bind (·.phase), some owner, some branch, existing.bind (·.pr), some result.row.id, payload⟩
  return ⟨arguments.workspaceId, arguments.taskId, branch, owner, event, result.created, held⟩

/-- The task that holds a branch, other than the one that asks. -/
def branchHolder (db : Db) (workspaceId taskId branch : String) : Option TaskMirror :=
  db.tasks.find? fun row => row.workspaceId = workspaceId && row.branch = some branch &&
    row.taskId ≠ taskId && row.phase ≠ some "closed"

/-- `allocate_branch`. -/
def allocateBranch (arguments : AllocateArguments) : DbCall BranchAllocationResult := do
  let workspace ← DbCall.requireWorkspace arguments.workspaceId
  let existing ← readTask arguments.workspaceId arguments.taskId
  let owner := resolveOwner arguments.owner existing
  let branch := generateBranchName workspace arguments.taskId owner
  match existing.bind (·.branch) with
  | some current =>
    if current = branch then allocate arguments workspace owner branch existing true
    else throw (Exn.value
      s!"task {arguments.taskId} already has branch '{current}', cannot reallocate to '{branch}'")
  | none => do
    let holder ← query (branchHolder · arguments.workspaceId arguments.taskId branch)
    match holder with
    | some other => throw (Exn.value (s!"branch '{branch}' already allocated to task {other.taskId} in " ++
        s!"workspace {arguments.workspaceId}"))
    | none => allocate arguments workspace owner branch existing false

end Allocation

section Links

variable [Platform]

/-- `_discover_pr`, of the answer of `gh pr list`. -/
def discoverPr : GitHub.Answer → Except Exn (Option Json)
  | .missing => throw (Exn.value "gh CLI not available")
  | .raised error => throw error
  | .completed process => do
    raiseIf (process.returncode ≠ 0) (Exn.value s!"gh pr list failed: {process.stderr}")
    match process.stdout.loads with
    | .ok (.arr []) => return none
    | .ok (.arr (first :: _)) => return if first.isObj then first.field? "url" else none
    | _ => throw (Exn.value "gh pr list returned invalid JSON")

/-- The arguments of `link_pr`, and what `gh` would answer. -/
structure LinkArguments where
  workspaceId : String
  taskId : String
  prUrl : Option String := none
  branch : Option String := none
  actor : String := "operator"
  answer : GitHub.Answer := .missing
deriving DecidableEq, Repr

structure LinkPrResult where
  workspaceId : String
  taskId : String
  prUrl : String
  branch : Option String
  event : EventDict
  eventCreated : Bool
  existing : Bool
deriving DecidableEq, Repr

/-- `first or second`. -/
def orText (first second : Option String) : Option String :=
  if (first.getD "") = "" then second else first

/-- The pull request, given or discovered. -/
def resolvePr (arguments : LinkArguments) (branch : Option String) : Except Exn String :=
  match arguments.prUrl with
  | some url => return url
  | none => do
    let branch := branch.getD ""
    raiseIf (branch = "") (Exn.value s!"task {arguments.taskId} has no branch; cannot discover PR")
    match ← discoverPr arguments.answer with
    | some (.str url) => return url
    | none | some .null => throw (Exn.value s!"no open PR found for branch '{branch}'")
    | some _ => throw (Exn.operational "type of the parameter is not supported")

def linkEvent (arguments : LinkArguments) (workspace : Workspace) (pr : String) (branch : Option String) :
    NewEvent :=
  { workspaceId := some arguments.workspaceId, eventType := "pr.linked", actor := arguments.actor,
    target := none, taskId := some arguments.taskId,
    idempotencyKey := some s!"{arguments.workspaceId}:pr:{arguments.taskId}:{pr}",
    payload := .obj [("task_id", .str arguments.taskId), ("pr", .str pr), ("pr_url", .str pr),
      ("branch", Json.ofOption branch), ("base_branch", Json.ofOption workspace.baseBranch),
      ("branch_namespace", Json.ofOption workspace.branchNamespace)] }

/-- The append and the upsert of `link_pr`. -/
def link (arguments : LinkArguments) (workspace : Workspace) (pr : String) (branch : Option String)
    (existing : Option TaskMirror) : DbCall LinkPrResult := do
  let result ← DbCall.recordEvent (linkEvent arguments workspace pr branch)
  let columns ← orRaise id (match existing with
    | some row => do
      let payload ← decodeColumn row.payloadJson
      return ⟨row.phase, row.owner, orText branch row.branch, some pr, some result.row.id, payload⟩
    | none => return ⟨none, none, branch, some pr, some result.row.id, .null⟩)
  let _ ← upsertMirror arguments.workspaceId arguments.taskId columns
  let event ← orRaise id result.row.toDict
  return ⟨arguments.workspaceId, arguments.taskId, pr, branch, event, result.created,
    existing.any (·.pr = some pr)⟩

/-- The task that has a pull request, other than the one that asks. -/
def prHolder (db : Db) (workspaceId taskId pr : String) : Option TaskMirror :=
  db.tasks.find? fun row => row.workspaceId = workspaceId && row.pr = some pr && row.taskId ≠ taskId

/-- The tests of `link_pr` on the mirror that it has read. -/
def checkMirror (arguments : LinkArguments) (existing : Option TaskMirror) :
    Except Exn (Option String × String) := do
  let current := existing.bind (·.branch)
  raiseIf (arguments.branch.isSome ∧ current.isSome ∧ arguments.branch ≠ current) (Exn.value
    (s!"task {arguments.taskId} already has branch '{current.getD default}', " ++
      s!"cannot link PR from branch '{arguments.branch.getD default}'"))
  let branch := orText arguments.branch current
  let pr ← resolvePr arguments branch
  let bound := existing.bind (·.pr)
  raiseIf (bound.isSome ∧ bound ≠ some pr) (Exn.value
    s!"task {arguments.taskId} already has pr '{bound.getD default}', cannot relink to '{pr}'")
  return (branch, pr)

/-- `link_pr`. -/
def linkPr (arguments : LinkArguments) : DbCall LinkPrResult := do
  let workspace ← DbCall.requireWorkspace arguments.workspaceId
  let existing ← readTask arguments.workspaceId arguments.taskId
  let (branch, pr) ← orRaise id (checkMirror arguments existing)
  let holder ← query (prHolder · arguments.workspaceId arguments.taskId pr)
  match holder with
  | some other => throw (Exn.value (s!"pr '{pr}' already linked to task {other.taskId} " ++
      s!"in workspace {arguments.workspaceId}"))
  | none => link arguments workspace pr branch existing

end Links

section Requests

variable [Platform]

/-- A call of `allocate_branch` or of `link_pr`. -/
inductive Request where
  | allocate (arguments : AllocateArguments)
  | link (arguments : LinkArguments)
deriving DecidableEq, Repr

inductive Outcome where
  | allocated (result : BranchAllocationResult)
  | linked (result : LinkPrResult)
deriving DecidableEq, Repr

def Request.body : Request → DbCall Outcome
  | allocate arguments => .allocated <$> allocateBranch arguments
  | link arguments => .linked <$> linkPr arguments

end Requests

end Coordinate.Bindings

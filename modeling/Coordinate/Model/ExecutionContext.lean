import Coordinate.Model.ExecutionResources
import Coordinate.Model.Records

/-! # The versioned execution context of a managed job

The producer of a context (`resolveExecutionContextV1`) and the consumer of a stored snapshot
(`validateExecutionContextSnapshot`), with their separate grammars (`execution_context.py`).
-/

namespace Coordinate

variable [Platform]

def contextContractVersion : Int := 1
def maxScopeLen : Nat := 256
def maxLegacyScopes : Nat := 10

/-- The class of `_SAFE_SCOPE_RE`. -/
def isScopeChar (c : Char) : Bool :=
  Text.isAsciiAlnum c || c == '_' || c == '.' || c == ':' || c == '/' || c == '-'

def v1SnapshotKeys : List String :=
  ["assigned_agent", "branch", "contract_version", "context_id", "harness_root", "host_id",
    "job_id", "legacy_scope_ids", "log_handle", "session_scope_id", "task_id", "worktree_path",
    "workspace_id", "workspace_path"]

def logHandleKeys : List String := ["kind", "job_id", "logs_path"]

/-- The frozen `log_handle` of a context; its `kind` is always `coordinate_job`. -/
structure LogHandle where
  jobId : String
  logsPath : Option String
deriving DecidableEq, Repr

def LogHandle.toDict (handle : LogHandle) : Json :=
  .obj [("kind", .str "coordinate_job"), ("job_id", .str handle.jobId),
    ("logs_path", .ofOption handle.logsPath)]

structure ExecutionContextV1 where
  contextId : String
  jobId : String
  workspaceId : String
  taskId : Option String
  assignedAgent : String
  hostId : String
  workspacePath : String
  worktreePath : String
  harnessRoot : String
  branch : Option String
  sessionScopeId : String
  legacyScopeIds : List String
  logHandle : LogHandle
deriving DecidableEq, Repr

namespace ExecutionContextV1

/-- The full public snapshot. -/
def toDict (ctx : ExecutionContextV1) : Json :=
  .obj [
    ("contract_version", .int contextContractVersion),
    ("context_id", .str ctx.contextId),
    ("job_id", .str ctx.jobId),
    ("workspace_id", .str ctx.workspaceId),
    ("task_id", .ofOption ctx.taskId),
    ("assigned_agent", .str ctx.assignedAgent),
    ("host_id", .str ctx.hostId),
    ("workspace_path", .str ctx.workspacePath),
    ("worktree_path", .str ctx.worktreePath),
    ("harness_root", .str ctx.harnessRoot),
    ("branch", .ofOption ctx.branch),
    ("session_scope_id", .str ctx.sessionScopeId),
    ("legacy_scope_ids", .arr (ctx.legacyScopeIds.map .str)),
    ("log_handle", ctx.logHandle.toDict)]

/-- The fields under the digest: all but the context id itself. -/
def canonicalSnapshotDict (ctx : ExecutionContextV1) : Json :=
  .obj [
    ("assigned_agent", .str ctx.assignedAgent),
    ("branch", .ofOption ctx.branch),
    ("contract_version", .int contextContractVersion),
    ("harness_root", .str ctx.harnessRoot),
    ("host_id", .str ctx.hostId),
    ("job_id", .str ctx.jobId),
    ("legacy_scope_ids", .arr (ctx.legacyScopeIds.map .str)),
    ("log_handle", ctx.logHandle.toDict),
    ("session_scope_id", .str ctx.sessionScopeId),
    ("task_id", .ofOption ctx.taskId),
    ("worktree_path", .str ctx.worktreePath),
    ("workspace_id", .str ctx.workspaceId),
    ("workspace_path", .str ctx.workspacePath)]

end ExecutionContextV1

def computeContextId (canonical : Json) : String :=
  "sha256:" ++ sha256 canonical.text

/-- A POSIX, drive or UNC absolute path. -/
def isAbs (path : String) : Bool :=
  match path.toList with
  | '/' :: _ => true
  | '\\' :: '\\' :: _ => true
  | letter :: ':' :: sep :: _ => Text.isAsciiAlpha letter && (sep == '\\' || sep == '/')
  | _ => false

def hasLineBreak (path : String) : Bool :=
  path.toList.any fun c => c.toNat == 0 || c == '\n' || c == '\r'

/-- `_validate_path` of a value that is a string already. -/
def validatePathText (value label : String) : Except ContextError String := do
  raiseIf (value = "") (ContextError.mk s!"{label} is required")
  raiseIf (hasLineBreak value) (ContextError.mk s!"{label} contains NUL or newline")
  raiseIf (¬ isAbs value) (ContextError.mk s!"{label} must be absolute: {Text.repr value}")
  raiseIf (hasTraversalSegments value)
    (ContextError.mk s!"{label} contains traversal: {Text.repr value}")
  return value

def validatePath (value : Json) (label : String) : Except ContextError String :=
  match value with
  | .str text => validatePathText text label
  | _ => throw (ContextError.mk s!"{label} is required")

/-- The host-native separator of a root that is host-native already. -/
def hostSeparator (hostRoot : String) : Char :=
  if hostRoot.toList.contains '\\' || (hostRoot.toList.drop 1).head? = some ':' then '\\' else '/'

def joinHostPath (hostRoot relativePath : String) : Except ContextError String := do
  if relativePath = "" then return hostRoot
  let sep := hostSeparator hostRoot
  let rel := Text.stripChar sep (Text.replaceChar '\\' sep (Text.replaceChar '/' sep relativePath))
  raiseIf ((Text.split sep rel).any isTraversal)
    (ContextError.mk s!"relative path contains traversal: {Text.repr relativePath}")
  return Text.rstripChar sep hostRoot ++ String.ofList [sep] ++ rel

/-- Map a control-plane path below the control workspace onto the host workspace. -/
def mapForeignPath (controlRoot hostRoot pathText : String) : Except ContextError String := do
  if pathText = "" then return pathText
  raiseIf (hasLineBreak pathText) (ContextError.mk "path contains NUL or newline")
  raiseIf (¬ isAbs pathText)
    (ContextError.mk s!"path must be absolute under workspace: {Text.repr pathText}")
  let controlRoot := Text.rstripChar '/' (normalizeControlPathSeparators controlRoot)
  let normalized := normalizeControlPathSeparators pathText
  raiseIf ((Text.split '/' normalized).any isTraversal)
    (ContextError.mk s!"path contains traversal: {Text.repr pathText}")
  if normalized = controlRoot then return hostRoot
  let start := controlRoot ++ "/"
  if Text.startsWith normalized start then
    joinHostPath hostRoot (Text.dropPrefix normalized start.toList.length)
  else throw (ContextError.mk (s!"path is outside control workspace {Text.repr controlRoot}: " ++
    Text.repr pathText))

/-- `_validate_scope` of a value that is a string already. -/
def validateScopeText (value label : String) : Except ContextError String := do
  raiseIf (value = "") (ContextError.mk s!"{label} is required")
  raiseIf (value.toList.length > maxScopeLen ∨ ¬ Text.matchLine isScopeChar value)
    (ContextError.mk s!"{label} contains unsafe characters or is too long: {Text.repr value}")
  return value

def validateScope (value : Json) (label : String) : Except ContextError String :=
  match value with
  | .str text => validateScopeText text label
  | _ => throw (ContextError.mk s!"{label} is required")

/-- The origin's legacy scopes in order, without repetitions of `seen`. -/
def parseLegacyScopes : List String → List Json → Except ContextError (List String)
  | _, [] => return []
  | seen, item :: rest => do
    let scopeId ← validateScope item "origin.legacy_scope_ids item"
    if scopeId ∈ seen then parseLegacyScopes seen rest
    else
      let later ← parseLegacyScopes (scopeId :: seen) rest
      return scopeId :: later

/-- The session scope and legacy scopes of a bridge origin. -/
def parseOriginScope (origin : Json) (workspaceId : String) (taskId : Option String) :
    Except ContextError (String × List String) := do
  let sessionScopeId ← match taskId with
    | some task => pure s!"task:{workspaceId}:{task}"
    | none => validateScope (origin.get "session_scope_id") "origin.session_scope_id"
  match origin.get "legacy_scope_ids" with
  | .null => return (sessionScopeId, [])
  | .arr items =>
    raiseIf (items.length > maxLegacyScopes)
      (ContextError.mk s!"origin.legacy_scope_ids exceeds {maxLegacyScopes}")
    let legacy ← parseLegacyScopes [sessionScopeId] items
    return (sessionScopeId, legacy)
  | _ => throw (ContextError.mk "origin.legacy_scope_ids must be a list")

/-- The first candidate that is not blank, stripped. -/
def chooseBranch : List (Option String) → Option String
  | [] => none
  | some candidate :: rest =>
    if Text.isBlank candidate then chooseBranch rest else some (Text.strip candidate)
  | none :: rest => chooseBranch rest

/-- The raw worktree of a context: the host workspace, a mapped control path or a sibling root. -/
def resolveRawWorktree (workspacePath controlRoot : String) (roots : List String) :
    Option String → Except ContextError String
  | none => return workspacePath
  | some raw =>
    match classifyWorktreeRawPath controlRoot raw with
    | .control => mapForeignPath controlRoot workspacePath raw
    | .hostNative =>
      orRaise (fun e : ResourceIdentityError => ContextError.mk s!"worktree_path is invalid: {e.message}")
        (resolveAllowlistedWorktreePath raw roots)

def resolveHarnessRoot (workspacePath controlRoot controlHarnessRoot : String) :
    Option String → Except ContextError String
  | some root =>
    if root = "" then mapped else validatePathText root "harness_root"
  | none => mapped
where
  mapped : Except ContextError String := do
    let mapped ← mapForeignPath controlRoot workspacePath controlHarnessRoot
    let absolute ← if isAbs mapped then pure mapped else joinHostPath workspacePath mapped
    validatePathText absolute "harness_root"

/-- Build the authoritative context of a managed job; `task` is its mirror, if it has one. -/
def resolveExecutionContextV1 (jobId : String) (workspace : Workspace) (task : Option TaskMirror)
    (assignedAgent hostId : String) (profile : WorkspaceHostProfile) (origin : Json)
    (jobBranch jobWorktreePath jobLogsPath : Option String) :
    Except ContextError ExecutionContextV1 := do
  raiseIf (jobId = "") (ContextError.mk "job_id is required")
  raiseIf (assignedAgent = "") (ContextError.mk "assigned_agent is required")
  raiseIf (Text.isBlank hostId) (ContextError.mk "agent host_id is required")
  raiseIf (Text.isBlank profile.workspacePath)
    (ContextError.mk "workspace host profile workspace_path is required")
  raiseIf ((task.map (·.taskId)) = some "") (ContextError.mk "task mirror has no task_id")
  raiseIf (¬ origin.isObj) (ContextError.mk "origin must be a dict")
  let taskId := task.map (·.taskId)
  let scopes ← parseOriginScope origin workspace.id taskId
  let branch := chooseBranch [jobBranch, task.bind (·.branch), workspace.baseBranch]
  let workspacePath ← validatePathText profile.workspacePath "workspace_path"
  let rawWorktree ←
    resolveRawWorktree workspacePath workspace.path profile.worktreeRoots jobWorktreePath
  let worktree := if rawWorktree = "" then workspacePath else rawWorktree
  let worktree ← validatePathText worktree "worktree_path"
  let worktreePath ← orRaise
    (fun e : ResourceIdentityError => ContextError.mk s!"worktree_path is invalid: {e.message}")
    (normalizeWorktreePath worktree)
  let harnessRoot ←
    resolveHarnessRoot workspacePath workspace.path workspace.harnessRoot profile.harnessRoot
  let logsPath ← match jobLogsPath with
    | none => pure none
    | some raw => do
      let mapped ← mapForeignPath workspace.path workspacePath raw
      let valid ← validatePathText mapped "logs_path"
      pure (some valid)
  let ctx : ExecutionContextV1 :=
    { contextId := "", jobId, workspaceId := workspace.id, taskId, assignedAgent, hostId,
      workspacePath, worktreePath, harnessRoot, branch, sessionScopeId := scopes.1,
      legacyScopeIds := scopes.2, logHandle := ⟨jobId, logsPath⟩ }
  return { ctx with contextId := computeContextId ctx.canonicalSnapshotDict }

def validateStringOrNone (value : Json) (label : String) : Except ContextError (Option String) :=
  match value with
  | .null => return none
  | .str text => do
    raiseIf (Text.isBlank text) (ContextError.mk s!"{label} must be a non-empty string or null")
    return some text
  | _ => throw (ContextError.mk s!"{label} must be a string or null")

def validateRequiredString (value : Json) (label : String) : Except ContextError String :=
  match value with
  | .str text => do
    raiseIf (text = "") (ContextError.mk s!"{label} is required")
    raiseIf (Text.isBlank text) (ContextError.mk s!"{label} must be a non-empty string")
    return text
  | _ => throw (ContextError.mk s!"{label} is required")

def validateLogHandle (value : Json) (expectedJobId : String) : Except ContextError LogHandle := do
  raiseIf (¬ value.isObj) (ContextError.mk "log_handle must be an object")
  raiseIf (¬ value.hasExactlyKeys logHandleKeys)
    (ContextError.mk (s!"log_handle has incorrect keys: expected {displayKeys logHandleKeys}, " ++
      s!"got {displayKeys value.keys}"))
  raiseIf (value.get "kind" ≠ .str "coordinate_job")
    (ContextError.mk
      ("log_handle.kind must be 'coordinate_job': " ++ (value.get "kind").dumps))
  let jobId ← match value.get "job_id" with
    | .str "" => throw (ContextError.mk "log_handle.job_id is required")
    | .str text => pure text
    | _ => throw (ContextError.mk "log_handle.job_id is required")
  raiseIf (jobId ≠ expectedJobId) (ContextError.mk
    s!"log_handle.job_id mismatch: {Text.repr jobId} != {Text.repr expectedJobId}")
  let logsPath ← match value.get "logs_path" with
    | .null => pure none
    | .str "" =>
      throw (ContextError.mk "log_handle.logs_path must be a non-empty string or null")
    | .str text => do
      let valid ← validatePathText text "log_handle.logs_path"
      pure (some valid)
    | _ => throw (ContextError.mk "log_handle.logs_path must be a non-empty string or null")
  return ⟨jobId, logsPath⟩

/-- The unique legacy scopes of a stored snapshot; `seen` starts with the primary scope. -/
def validateLegacyScopes : List String → List Json → Except ContextError (List String)
  | _, [] => return []
  | seen, item :: rest => do
    let scopeId ← validateScope item "execution_context.legacy_scope_ids item"
    raiseIf (scopeId ∈ seen) (ContextError.mk
      s!"execution_context.legacy_scope_ids contains duplicate: {Text.repr scopeId}")
    let later ← validateLegacyScopes (scopeId :: seen) rest
    return scopeId :: later

/-- Parse a stored snapshot and check its digest, before any identity is compared. -/
def parseExecutionContextSnapshot (data : Json) : Except ContextError ExecutionContextV1 := do
  raiseIf (¬ data.isObj) (ContextError.mk "execution_context must be an object")
  raiseIf (¬ data.hasExactlyKeys v1SnapshotKeys)
    (ContextError.mk (s!"execution_context has incorrect keys: " ++
      s!"expected {displayKeys v1SnapshotKeys}, got {displayKeys data.keys}"))
  raiseIf (¬ (data.get "contract_version").pyEq (.int contextContractVersion))
    (ContextError.mk "execution_context contract_version must be 1")
  let suppliedId ← match data.get "context_id" with
    | .str text => do
      raiseIf (¬ Text.matchSha256 text)
        (ContextError.mk "execution_context.context_id must be sha256:<64-hex>")
      pure text
    | _ => throw (ContextError.mk "execution_context.context_id must be sha256:<64-hex>")
  let jobId ← validateRequiredString (data.get "job_id") "execution_context.job_id"
  let workspaceId ←
    validateRequiredString (data.get "workspace_id") "execution_context.workspace_id"
  let assignedAgent ←
    validateRequiredString (data.get "assigned_agent") "execution_context.assigned_agent"
  let hostId ← validateRequiredString (data.get "host_id") "execution_context.host_id"
  let workspacePath ← validatePath (data.get "workspace_path") "execution_context.workspace_path"
  let worktreePath ← validatePath (data.get "worktree_path") "execution_context.worktree_path"
  let harnessRoot ← validatePath (data.get "harness_root") "execution_context.harness_root"
  let sessionScopeId ←
    validateScope (data.get "session_scope_id") "execution_context.session_scope_id"
  let branch ← validateStringOrNone (data.get "branch") "execution_context.branch"
  let taskId ← validateStringOrNone (data.get "task_id") "execution_context.task_id"
  let legacyScopeIds ← match data.get "legacy_scope_ids" with
    | .arr items => do
      raiseIf (items.length > maxLegacyScopes)
        (ContextError.mk s!"execution_context.legacy_scope_ids exceeds {maxLegacyScopes}")
      validateLegacyScopes [sessionScopeId] items
    | _ => throw (ContextError.mk "execution_context.legacy_scope_ids must be a list")
  let logHandle ← validateLogHandle (data.get "log_handle") jobId
  let ctx : ExecutionContextV1 :=
    { contextId := suppliedId, jobId, workspaceId, taskId, assignedAgent, hostId, workspacePath,
      worktreePath, harnessRoot, branch, sessionScopeId, legacyScopeIds, logHandle }
  let expectedId := computeContextId ctx.canonicalSnapshotDict
  raiseIf (expectedId ≠ suppliedId) (ContextError.mk
    s!"execution_context digest mismatch: expected {expectedId}, got {suppliedId}")
  return ctx

/-- `None` where Python prints it. -/
def displayOption : Option String → String
  | none => "None"
  | some text => text

/-- Refuse a field that differs from a supplied identity. -/
def requireIdentity (field : String) (stored : Option String) :
    Option String → Except ContextError Unit
  | none => return ()
  | some expected => raiseIf (stored ≠ some expected) (ContextError.mk
      s!"execution_context {field} mismatch: {displayOption stored} != {expected}")

/-- Parse and validate a stored snapshot against the identities that the caller supplies. -/
def validateExecutionContextSnapshot (data : Json)
    (jobId workspaceId taskId assignedAgent hostId : Option String := none) :
    Except ContextError ExecutionContextV1 := do
  let ctx ← parseExecutionContextSnapshot data
  requireIdentity "job_id" (some ctx.jobId) jobId
  requireIdentity "workspace_id" (some ctx.workspaceId) workspaceId
  requireIdentity "assigned_agent" (some ctx.assignedAgent) assignedAgent
  requireIdentity "host_id" (some ctx.hostId) hostId
  requireIdentity "task_id" ctx.taskId taskId
  return ctx

/-- Compare two snapshots without their context ids. -/
def executionContextDictMatches (snapshot other : Json) : Except ContextError Bool := do
  let a ← validateExecutionContextSnapshot snapshot
  let b ← validateExecutionContextSnapshot other
  return a.canonicalSnapshotDict = b.canonicalSnapshotDict

end Coordinate

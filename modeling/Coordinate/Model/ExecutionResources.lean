import Coordinate.Library.Path
import Coordinate.Model.Platform

/-! # Host-scoped worktree resource identity

Lexical normalization of worktree paths, the allowlist of sibling roots and the resource key that
an active lease holds (`execution_resources.py`).
-/

namespace Coordinate

variable [Platform]

def resourceContractVersion : Int := 1
def maxPathLen : Nat := 4096
def maxHostIdLen : Nat := 64

structure WorktreeResource where
  hostId : String
  normalizedPath : String
deriving DecidableEq, Repr

def WorktreeResource.canonicalDict (resource : WorktreeResource) : Json :=
  .obj [("contract_version", .int resourceContractVersion), ("resource_kind", .str "worktree"),
    ("host_id", .str resource.hostId), ("normalized_path", .str resource.normalizedPath)]

/-- `_validate_host_id`, of a value that is a string already. -/
def validateHostId (hostId : String) : Except ResourceIdentityError String := do
  raiseIf (hostId = "") (ResourceIdentityError.mk "host_id is required")
  raiseIf (hostId ≠ Text.strip hostId)
    (ResourceIdentityError.mk "host_id must not have surrounding whitespace")
  raiseIf (hostId.toList.length > maxHostIdLen)
    (ResourceIdentityError.mk s!"host_id exceeds {maxHostIdLen} characters")
  raiseIf (Text.hasControl hostId)
    (ResourceIdentityError.mk "host_id contains control characters")
  return hostId

def isWindowsDrive (cs : List Char) : Bool :=
  match cs with
  | letter :: ':' :: _ => Platform.isalpha letter
  | _ => false

def isWindowsUnc (cs : List Char) : Bool :=
  cs.take 2 = ['\\', '\\'] || cs.take 2 = ['/', '/']

def isTraversal (segment : String) : Bool :=
  segment = "." || segment = ".."

/-- True when any `/` or `\` separated segment is `.` or `..`. -/
def hasTraversalSegments (path : String) : Bool :=
  (Text.split '/' (Text.replaceChar '\\' '/' path)).any isTraversal

inductive PathFlavour where
  | posix
  | drive
  | unc
deriving DecidableEq, Repr

def pathFlavour (normalized : String) : PathFlavour :=
  match normalized.toList with
  | '\\' :: '\\' :: _ => .unc
  | _ :: ':' :: _ => .drive
  | _ => .posix

def isFilesystemRoot (normalized : String) : Bool :=
  match normalized.toList with
  | ['/'] => true
  | [_, ':', '\\'] => true
  | '\\' :: '\\' :: _ => ((Text.split '\\' normalized).filter (· ≠ "")).length ≤ 2
  | _ => false

def normalizeControlPathSeparators (path : String) : String :=
  Text.replaceChar '\\' '/' path

inductive RawPathClass where
  | control
  | hostNative
deriving DecidableEq, Repr

/-- Classify a submitted worktree path against the control workspace root. -/
def classifyWorktreeRawPath (controlRoot rawPath : String) : RawPathClass :=
  let control := Text.rstripChar '/' (normalizeControlPathSeparators controlRoot)
  let raw := normalizeControlPathSeparators rawPath
  if raw = control then .control
  else if Text.startsWith raw (control ++ "/") then .control
  else .hostNative

/-- The strict-descendant test on normalized host-native paths. -/
def isStrictDescendant (candidate root : String) : Bool :=
  if candidate = root then false
  else
    let sep := if pathFlavour root = .posix then '/' else '\\'
    Text.startsWith candidate (Text.rstripChar sep root ++ String.ofList [sep])

/-- The lexical identity of a host-resolved worktree path. -/
def normalizeWorktreePath (path : String) : Except ResourceIdentityError String := do
  let path := Text.strip path
  raiseIf (path = "") (ResourceIdentityError.mk "path is required")
  raiseIf (path.toList.length > maxPathLen)
    (ResourceIdentityError.mk s!"path exceeds {maxPathLen} characters")
  raiseIf (Text.hasControl path) (ResourceIdentityError.mk "path contains control characters")
  if isWindowsUnc path.toList then
    let normalized := Path.ntNormpath path
    raiseIf (normalized = "." ∨ normalized = "")
      (ResourceIdentityError.mk "UNC path collapsed to relative")
    return Platform.casefold (Platform.nfc (Text.replaceChar '/' '\\' normalized))
  else if isWindowsDrive path.toList then
    raiseIf (¬ ((path.toList.drop 2).head? = some '\\' ∨ (path.toList.drop 2).head? = some '/'))
      (ResourceIdentityError.mk "Windows drive path must be absolute")
    let normalized := Path.ntNormpath path
    raiseIf (normalized = "." ∨ normalized = "")
      (ResourceIdentityError.mk "drive path collapsed to relative")
    let normalized := Text.replaceChar '/' '\\' normalized
    let drive := (normalized.toList.head?.map Platform.lower).getD ""
    return Platform.casefold (Platform.nfc (drive ++ ":" ++ Text.dropPrefix normalized 2))
  else
    raiseIf (¬ Text.startsWith path "/")
      (ResourceIdentityError.mk "POSIX path must be absolute")
    return Platform.nfc (Path.posixNormpath path)

def normalizeHostNativeWorktreePath (path : String) : Except ResourceIdentityError String := do
  raiseIf (path = "") (ResourceIdentityError.mk "path is required")
  raiseIf (Text.hasControl path) (ResourceIdentityError.mk "path contains control characters")
  raiseIf (hasTraversalSegments path)
    (ResourceIdentityError.mk "path contains traversal components")
  normalizeWorktreePath path

/-- One allowlisted sibling worktree root, normalized. -/
def validateWorktreeRoot (root workspacePath : String) : Except ResourceIdentityError String := do
  let normalized ← normalizeHostNativeWorktreePath root
  raiseIf (isFilesystemRoot normalized)
    (ResourceIdentityError.mk s!"root must not be a filesystem/drive/share root: {Text.repr root}")
  let normalizedWorkspace ← normalizeWorktreePath workspacePath
  raiseIf (pathFlavour normalized ≠ pathFlavour normalizedWorkspace)
    (ResourceIdentityError.mk s!"root path flavour must match workspace_path: {Text.repr root}")
  raiseIf (normalized = normalizedWorkspace ∨ isStrictDescendant normalizedWorkspace normalized)
    (ResourceIdentityError.mk s!"root must not be the canonical workspace_path or an ancestor: {Text.repr root}")
  return normalized

/-- A host-native worktree below one of the (already normalized) allowlisted roots. -/
def resolveAllowlistedWorktreePath (path : String) (roots : List String) :
    Except ResourceIdentityError String := do
  let normalized ← normalizeHostNativeWorktreePath path
  raiseIf (¬ roots.any (isStrictDescendant normalized))
    (ResourceIdentityError.mk s!"path is outside every configured worktree root: {Text.repr path}")
  return normalized

/-- The shared loop over a root list; `seen` holds the roots accepted so far. -/
def normalizeRootsFrom (workspacePath entryLabel : String) (dedupe : Bool) :
    List String → List Json → Except Exn (List String)
  | _, [] => return []
  | seen, .str item :: rest => do
    let normalized ← orRaise
      (fun e : ResourceIdentityError => Exn.value s!"invalid {entryLabel}: {e.message}")
      (validateWorktreeRoot item workspacePath)
    raiseIf (!dedupe ∧ normalized ≠ item) (Exn.value
      s!"{entryLabel} entry is not canonical: {Text.repr item} != {Text.repr normalized}")
    if normalized ∈ seen then
      raiseIf (!dedupe) (Exn.value s!"{entryLabel} contains duplicate: {Text.repr item}")
      normalizeRootsFrom workspacePath entryLabel dedupe seen rest
    else
      let later ← normalizeRootsFrom workspacePath entryLabel dedupe (normalized :: seen) rest
      return normalized :: later
  | _, _ :: _ => throw (Exn.value s!"{entryLabel} entries must be strings")

def normalizeWorktreeRootList (items : List Json) (workspacePath entryLabel : String)
    (dedupe : Bool) : Except Exn (List String) :=
  normalizeRootsFrom workspacePath entryLabel dedupe [] items

/-- Read a stored `worktree_roots_json`; anything but a canonical list fails closed. -/
def parseNormalizedWorktreeRoots (raw : JsonText) (workspacePath : String) :
    Except Exn (List String) := do
  let decoded ← orRaise
    (fun problem => Exn.value s!"worktree_roots_json is invalid JSON: {problem}") raw.loads
  match decoded with
  | .arr items => normalizeWorktreeRootList items workspacePath "worktree_roots_json" false
  | _ => throw (Exn.value "worktree_roots_json must be a JSON array of strings")

/-- The claim-time gate: the stored path lies in the current checkout or an allowlisted root. -/
def checkWorktreeContainmentPolicy (worktreePath canonicalWorkspacePath : String)
    (worktreeRoots : List String) : Except ResourceIdentityError String := do
  let normalized ← normalizeWorktreePath worktreePath
  let canonical ← normalizeWorktreePath canonicalWorkspacePath
  raiseIf (¬ (normalized = canonical ∨ isStrictDescendant normalized canonical ∨
      worktreeRoots.any (isStrictDescendant normalized)))
    (ResourceIdentityError.mk (s!"worktree path {Text.repr worktreePath} is not contained in " ++
      "the current canonical checkout or any allowlisted worktree root"))
  return normalized

def buildWorktreeResource (hostId worktreePath : String) :
    Except ResourceIdentityError WorktreeResource := do
  let hostId ← validateHostId hostId
  let normalizedPath ← normalizeWorktreePath worktreePath
  return ⟨hostId, normalizedPath⟩

/-- `sha256:<digest>` of the canonical resource object. -/
def computeResourceKey (resource : WorktreeResource) : String :=
  "sha256:" ++ sha256 resource.canonicalDict.text

/-- Validate a stored resource snapshot against its digest. -/
def validateResourceKeyMatches (resourceKind : String) (resource : WorktreeResource)
    (resourceKey : String) : Except ResourceIdentityError Unit := do
  raiseIf (¬ Text.matchSha256 resourceKey)
    (ResourceIdentityError.mk "resource_key must be sha256:<64 lowercase hex>")
  raiseIf (resourceKind ≠ "worktree")
    (ResourceIdentityError.mk "resource_kind must be 'worktree'")
  let _ ← validateHostId resource.hostId
  let normalized ← normalizeWorktreePath resource.normalizedPath
  raiseIf (normalized ≠ resource.normalizedPath)
    (ResourceIdentityError.mk (s!"normalized_path is not canonical: " ++
      s!"{Text.repr resource.normalizedPath} != {Text.repr normalized}"))
  let expected := computeResourceKey resource
  raiseIf (resourceKey ≠ expected)
    (ResourceIdentityError.mk s!"resource digest mismatch: expected {expected}, got {resourceKey}")

end Coordinate

import Coordinate.Model.Store

/-! # Host execution profiles of a workspace

`upsert_workspace_host_profile` (`db.py`). Without a root list the stored one is kept, after the checks of a
new one against the workspace path of the call.
-/

namespace Coordinate

variable [Platform]

/-- The arguments of `upsert_workspace_host_profile` that its checks and readers use. -/
structure HostProfileArguments where
  workspaceId : String
  hostId : String
  workspacePath : String
  harnessRoot : Option String := none
  metadata : Json := .null
  worktreeRoots : Option Json := none
deriving DecidableEq

/-- The column of a root list. -/
def storedRoots (roots : List String) : JsonText :=
  .value (.arr (roots.map .str))

/-- The normalized root list that a call stores. -/
def acceptedRoots (arguments : HostProfileArguments) : DbTx (List String) :=
  match arguments.worktreeRoots with
  | none => do
    let existing ← Tx.query (getWorkspaceHostProfile · arguments.workspaceId arguments.hostId)
    let existing ← orRaise id existing
    let preserved := (existing.map (·.worktreeRoots)).getD []
    if preserved = [] then return []
    orRaise id (normalizeWorktreeRootList (preserved.map .str) arguments.workspacePath "worktree root" true)
  | some (.arr items) =>
    orRaise id (normalizeWorktreeRootList items arguments.workspacePath "worktree root" true)
  | some _ => throw (Exn.value "worktree_roots must be a list of path strings")

/-- The row that a call writes. -/
def HostProfileArguments.row (arguments : HostProfileArguments) (roots : List String) : HostProfileRow where
  workspaceId := arguments.workspaceId
  hostId := arguments.hostId
  workspacePath := arguments.workspacePath
  harnessRoot := arguments.harnessRoot
  metadataJson := .dumps arguments.metadata
  worktreeRootsJson := storedRoots roots

def HostProfileRow.hasKey (workspaceId hostId : String) (row : HostProfileRow) : Bool :=
  row.workspaceId = workspaceId && row.hostId = hostId

/-- `INSERT INTO workspace_host_profiles ... ON CONFLICT(workspace_id, host_id) DO UPDATE`. -/
def writeHostProfile (row : HostProfileRow) : DbTxn Unit :=
  replaceTable
    (fun db =>
      if db.hostProfiles.any (HostProfileRow.hasKey row.workspaceId row.hostId) then
        db.hostProfiles.update? (HostProfileRow.hasKey row.workspaceId row.hostId) fun _ => row
      else db.hostProfiles.insert? row)
    (fun db hostProfiles => { db with hostProfiles }) fun _ _ _ => .of_eq rfl rfl rfl rfl rfl

/-- Upsert the profile of a workspace on a host, and read it back. -/
def upsertWorkspaceHostProfile (arguments : HostProfileArguments) : DbTx WorkspaceHostProfile := do
  let workspace ← Tx.query (getWorkspace · arguments.workspaceId)
  raiseIf workspace.isNone (Exn.value s!"unknown workspace: {arguments.workspaceId}")
  raiseIf (Text.isBlank arguments.hostId) (Exn.value "host_id is required")
  raiseIf (Text.isBlank arguments.workspacePath) (Exn.value "workspace_path is required")
  let normalizedRoots ← acceptedRoots arguments
  let _ ← Tx.clock now
  Tx.within (writeHostProfile (arguments.row normalizedRoots))
  Tx.commit
  let stored ← Tx.query (getWorkspaceHostProfile · arguments.workspaceId arguments.hostId)
  match ← orRaise id stored with
  | none => throw (Exn.runtime (s!"workspace host profile was not written: " ++
      s!"{arguments.workspaceId}/{arguments.hostId}"))
  | some profile => return profile

end Coordinate

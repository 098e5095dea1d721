import Coordinate.Model.AgentRegistry
import Coordinate.Model.Calls

/-! # Calls on the agent registry that share the database

`set_workspace_agent`, `remove_workspace_agent_override` and `sync_workspace_agents` of several processes.
What a call checks it reads before its savepoint, one query at a time.
-/

namespace Coordinate.RegistryCalls

variable [Platform]

/-- `_utc_now_str`. -/
def utcNowStr : Option String → DbCall String
  | some supplied => return supplied
  | none => DbCall.clock stamp

/-- `_parse_expires_at`. -/
def parseExpiresAt (value supplied : Option String) : DbCall (Option String) := do
  match value with
  | none => return none
  | some text =>
    raiseIf (¬ Calendar.hasShape text)
      (Exn.value "expires_at must be exactly YYYY-MM-DDTHH:MM:SSZ in UTC")
    raiseIf (Calendar.parse text).isNone
      (Exn.value s!"time data {Text.repr text} does not match format '%Y-%m-%dT%H:%M:%SZ'")
    let current ← utcNowStr supplied
    raiseIf (text ≤ current) (Exn.value "expires_at must be in the future")
    return some text

/-- `set_workspace_agent`. -/
def setWorkspaceAgent (request : OverrideRequest) : DbCall Unit := do
  let _ ← DbCall.requireWorkspace request.workspaceId
  let agentName ← orRaise id (requireAgentName request.agentName)
  orRaise id (requireText request.reason "reason")
  orRaise id (requireText request.actor "actor")
  let did ← orRaise id (validateDiscordUserId request.discordUserId)
  let expiry ← parseExpiresAt request.expiresAt request.now
  let _ ← utcNowStr request.now
  let existing ← DbCall.query fun db =>
    db.registryEntries.any (isOverrideOf request.workspaceId agentName)
  let current ← utcNowStr request.now
  let effective ← DbCall.queryOrRaise (resolveEffectiveAgents · request.workspaceId current)
  raiseIf (effective.any fun row => row.agentName ≠ agentName && row.discordUserId = did)
    (Exn.value s!"discord_user_id {did} is already effective for another agent")
  DbCall.execute .transaction (writeOverride request ⟨agentName, did, expiry, existing⟩)
  return ()

/-- The override row that a removal is about. -/
def findOverride (workspaceId agentName : String) (db : Db) : Except Exn RegistryEntryRow :=
  match db.registryEntries.find? (isOverrideOf workspaceId agentName) with
  | some row => .ok row
  | none => .error (Exn.value (s!"no override found for {Text.repr agentName} in workspace " ++
      Text.repr workspaceId))

/-- `remove_workspace_agent_override`. -/
def removeWorkspaceAgentOverride (removal : OverrideRemoval) : DbCall RegistryEntryRow := do
  let _ ← DbCall.requireWorkspace removal.workspaceId
  let agentName ← orRaise id (requireAgentName removal.agentName)
  orRaise id (requireText removal.reason "reason")
  orRaise id (requireText removal.actor "actor")
  let row ← DbCall.queryOrRaise (findOverride removal.workspaceId agentName)
  DbCall.execute .transaction (writeRemoval removal row)
  return row

/-- What a repeated sync reports, with one query for each part. -/
def reportUnchanged (sync : RosterSync) (sourceId : String) : DbCall SyncResult := do
  let revision ← DbCall.query (registryRevision · sync.workspaceId)
  let unchanged ← DbCall.query fun db => sortBy (· < ·) ((db.registryEntries.filter fun row =>
    row.workspaceId = sync.workspaceId && row.entryKind = .authoritative).map (·.agentName))
  let current ← utcNowStr sync.now
  let shadowed ← DbCall.query (shadowedNames · sync.workspaceId current)
  return ⟨sync.workspaceId, sourceId, sync.sourceVersion, sync.sourceHash, revision, [], [], [],
    unchanged, shadowed⟩

/-- The replacement of the roster, planned on the roster before it. -/
def replaceRoster (sync : RosterSync) (sourceId : String) (roster : List RosterAgent) :
    DbCall SyncResult := do
  let before ← DbCall.query (rosterBefore · sync.workspaceId)
  DbCall.execute .transaction (writeRoster sync sourceId roster before)

/-- `sync_workspace_agents`. -/
def syncWorkspaceAgents (sync : RosterSync) : DbCall SyncResult := do
  let (sourceId, roster) ← DbCall.queryOrRaise (validateSync · sync)
  let repeated ← DbCall.queryOrRaise (checkRosterSource · sync sourceId)
  if repeated then reportUnchanged sync sourceId else replaceRoster sync sourceId roster

/-- A call on the agent registry. -/
def body : RegistryCall → DbCall RegistryResponse
  | .set request => (fun _ => .overridden) <$> setWorkspaceAgent request
  | .remove removal => .removed <$> removeWorkspaceAgentOverride removal
  | .sync request => .synced <$> syncWorkspaceAgents request

/-- The calls in progress, with a record of their statements; time passes in between. -/
def calls : Machine (Pool RegistryCall DbStatement (Work Db) Exn RegistryResponse ×
    List (Nat × Program.Performed DbStatement (Work Db))) (Pool.Move RegistryCall Nat) :=
  Pool.recorded body DbCall.wait

end Coordinate.RegistryCalls

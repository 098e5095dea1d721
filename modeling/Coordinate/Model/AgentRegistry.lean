import Coordinate.Model.AgentReport
import Coordinate.Model.ExecutorIdentity

/-! # The agent registry of a workspace

Roster rows, which a sync replaces, and manual overrides, which may expire: `resolve_effective_agents`,
the registry map of the daemon and the three writers (`db.py`). Expiry times and readings of the clock
are compared as texts.
-/

namespace Coordinate

section Resolution

/-- The registry entry of a name with the best kind that is not expired. -/
def effectiveEntries (db : Db) (workspaceId current : String) : List RegistryEntryRow :=
  let live := db.registryEntries.filter fun row => row.workspaceId = workspaceId &&
    !(row.entryKind = .override && row.expiresAt.any (· ≤ current))
  let ranked := live.filter (·.entryKind = .override) ++
    live.filter (·.entryKind = .authoritative) ++ live.filter (·.entryKind = .legacy)
  ranked.foldl (fun kept row =>
    if kept.any (·.agentName = row.agentName) then kept else kept ++ [row]) []

/-- The first two effective names that share a discord id. -/
def duplicateDiscordId (seen : List RegistryEntryRow) :
    List RegistryEntryRow → Option (RegistryEntryRow × RegistryEntryRow)
  | [] => none
  | row :: rest =>
    match seen.find? (·.discordUserId = row.discordUserId) with
    | some earlier => some (earlier, row)
    | none => duplicateDiscordId (row :: seen) rest

/-- `resolve_effective_agents`; of an entry only the id, the display name and the type are part of
the result. -/
def resolveEffectiveAgents (db : Db) (workspaceId current : String) :
    Except Exn (List RegistryEntryRow) :=
  let entries := effectiveEntries db workspaceId current
  match duplicateDiscordId [] entries with
  | some (earlier, row) => throw (Exn.value
      (s!"duplicate effective discord_user_id {row.discordUserId} for {earlier.agentName} and " ++
        row.agentName))
  | none => return entries

/-- `int(text)` of a text of decimal digits. -/
def decimalValue (text : String) : Nat :=
  text.toList.foldl (fun value digit => 10 * value + (digit.toNat - 48)) 0

/-- One assignment `registry.setdefault(discord_id, {})[workspace_id] = agent_name`. -/
def assignAgent (registry : List (Nat × String × String)) (discordId : Nat)
    (workspaceId agentName : String) : List (Nat × String × String) :=
  if registry.any fun entry => entry.1 = discordId && entry.2.1 = workspaceId then
    registry.map fun entry => if entry.1 = discordId ∧ entry.2.1 = workspaceId then
      (discordId, workspaceId, agentName) else entry
  else registry ++ [(discordId, workspaceId, agentName)]

/-- The part of the registry map that one workspace contributes. -/
def assignAgents (registry : List (Nat × String × String)) (workspaceId : String)
    (entries : List RegistryEntryRow) : List (Nat × String × String) :=
  entries.foldl (fun registry row =>
    assignAgent registry (decimalValue row.discordUserId) workspaceId row.agentName) registry

/-- `build_agent_registry_map`, as the list of its entries. -/
def buildAgentRegistryMap (db : Db) (current : String) :
    Except Exn (List (Nat × String × String)) :=
  db.workspaces.rows.foldlM (fun registry workspace => do
    let entries ← resolveEffectiveAgents db workspace.id current
    return assignAgents registry workspace.id entries) []

/-- The effective map as JSON. -/
def agentsProjection (entries : List RegistryEntryRow) : Json :=
  .obj (entries.map fun row => (row.agentName, .obj [("discord_user_id", .str row.discordUserId),
    ("display_name", .str row.displayName), ("agent_type", .str row.agentType)]))

end Resolution

variable [Platform]

section Validation

/-- The longest text of digits that `int` converts. -/
def maxDigits : Nat := 4300

/-- `_validate_discord_user_id`. -/
def validateDiscordUserId (value : String) : Except Exn String := do
  let did := Text.strip value
  raiseIf (¬ Text.fullmatch Text.isDigit did)
    (Exn.value s!"invalid discord_user_id: {Text.repr value}")
  raiseIf (maxDigits < did.toList.length) (Exn.value
    (s!"Exceeds the limit ({maxDigits} digits) for integer string conversion: value has " ++
      s!"{did.toList.length} digits; use sys.set_int_max_str_digits() to increase the limit"))
  raiseIf (decimalValue did = 0) (Exn.value s!"invalid discord_user_id: {Text.repr value}")
  return did

/-- A text argument that must not be blank. -/
def requireText (value label : String) : Except Exn Unit :=
  raiseIf (Text.isBlank value) (Exn.value s!"{label} is required")

/-- `str(agent_name).strip()`, which must not be empty. -/
def requireAgentName (agentName : String) : Except Exn String := do
  let name := Text.strip agentName
  raiseIf (name = "") (Exn.value "agent_name is required")
  return name

def requireWorkspace (db : Db) (workspaceId : String) : Except Exn Unit :=
  raiseIf (getWorkspace db workspaceId).isNone (Exn.value s!"unknown workspace: {workspaceId}")

/-- A reading of the clock as a column value. -/
def stamp (tick : Nat) : String :=
  Calendar.isoformat (now tick)

/-- `_utc_now_str` outside a transaction. -/
def utcNowStr : Option String → DbTx String
  | some supplied => return supplied
  | none => Tx.clock stamp

/-- `_utc_now_str` inside a transaction. -/
def utcNowStrInside : Option String → DbTxn String
  | some supplied => return supplied
  | none => Txn.clock stamp

/-- `_parse_expires_at`. -/
def parseExpiresAt (value supplied : Option String) : DbTx (Option String) := do
  match value with
  | none => return none
  | some text =>
    raiseIf (¬ Calendar.hasShape text)
      (Exn.value "expires_at must be exactly YYYY-MM-DDTHH:MM:SSZ in UTC")
    raiseIf (Calendar.parse text).isNone
      (Exn.value s!"time data {Text.repr text} does not match format '%Y-%m-%dT%H:%M:%SZ'")
    let current ← utcNowStr supplied
    raiseIf (text ≤ current) (Exn.value "expires_at must be in the future")
    return some text

end Validation

section Statements

abbrev RegistryTable :=
  Table (keyedBy fun row : RegistryEntryRow => (row.workspaceId, row.agentName, row.entryKind))

def updateWorkspaces (p : Workspace → Bool) (f : Workspace → Workspace) : DbTxn Unit :=
  replaceTable (·.workspaces.update? p f) (fun db workspaces => { db with workspaces })
    fun _ _ _ => .of_eq rfl rfl rfl rfl rfl

def writeRegistryEntries (next : RegistryTable → Option RegistryTable) : DbTxn Unit :=
  replaceTable (fun db => next db.registryEntries)
    (fun db registryEntries => { db with registryEntries }) fun _ _ _ => .of_eq rfl rfl rfl rfl rfl

/-- `INSERT INTO workspace_agent_registry_sources ... ON CONFLICT(workspace_id) DO UPDATE`. -/
def upsertRegistrySource (row : RegistrySourceRow) : DbTxn Unit :=
  replaceTable
    (fun db => (db.registrySources.delete (·.workspaceId = row.workspaceId)).insert? row)
    (fun db registrySources => { db with registrySources }) fun _ _ _ => .of_eq rfl rfl rfl rfl rfl

/-- `_write_agents_json_projection`. -/
def writeAgentsJsonProjection (workspaceId : String) (supplied : Option String) : DbTxn Unit := do
  let current ← utcNowStrInside supplied
  let effective ← readOrRaise (resolveEffectiveAgents · workspaceId current)
  let _ ← utcNowStrInside supplied
  updateWorkspaces (·.id = workspaceId) fun row =>
    { row with agentsJson := agentsProjection effective
               agentRegistryRevision := row.agentRegistryRevision + 1 }

end Statements

section Overrides

def isOverrideOf (workspaceId agentName : String) (row : RegistryEntryRow) : Bool :=
  row.workspaceId = workspaceId && row.agentName = agentName && row.entryKind = .override

/-- The arguments of `set_workspace_agent`. -/
structure OverrideRequest where
  workspaceId : String
  agentName : String
  discordUserId : String
  actor : String
  reason : String
  expiresAt : Option String := none
  now : Option String := none
deriving DecidableEq, Repr

/-- A checked override; `existing` says whether the agent has an override row. -/
structure OverridePlan where
  agentName : String
  did : String
  expiry : Option String
  existing : Bool
deriving DecidableEq, Repr

/-- What `set_workspace_agent` checks before its first write. -/
def checkOverride (request : OverrideRequest) : DbTx OverridePlan := do
  let known ← Tx.query (requireWorkspace · request.workspaceId)
  orRaise id known
  let agentName ← orRaise id (requireAgentName request.agentName)
  orRaise id (requireText request.reason "reason")
  orRaise id (requireText request.actor "actor")
  let did ← orRaise id (validateDiscordUserId request.discordUserId)
  let expiry ← parseExpiresAt request.expiresAt request.now
  let _ ← utcNowStr request.now
  let existing ← Tx.query fun db =>
    db.registryEntries.any (isOverrideOf request.workspaceId agentName)
  let current ← utcNowStr request.now
  let effective ← Tx.query (resolveEffectiveAgents · request.workspaceId current)
  let effective ← orRaise id effective
  raiseIf (effective.any fun row => row.agentName ≠ agentName && row.discordUserId = did)
    (Exn.value s!"discord_user_id {did} is already effective for another agent")
  return ⟨agentName, did, expiry, existing⟩

/-- The writes of `set_workspace_agent`. -/
def writeOverride (request : OverrideRequest) (plan : OverridePlan) : DbTxn Unit := do
  if plan.existing then
    writeRegistryEntries fun entries =>
      entries.update? (isOverrideOf request.workspaceId plan.agentName) fun row =>
        { row with discordUserId := plan.did, expiresAt := plan.expiry }
  else
    writeRegistryEntries fun entries => entries.insert?
      { workspaceId := request.workspaceId, agentName := plan.agentName, entryKind := .override,
        discordUserId := plan.did, displayName := plan.agentName, agentType := "override",
        expiresAt := plan.expiry }
  writeAgentsJsonProjection request.workspaceId request.now
  let key ← newUuid
  let _ ← appendEvent
    { workspaceId := some request.workspaceId, eventType := "workspace.agent_override.set",
      actor := request.actor, target := some request.workspaceId, taskId := none,
      idempotencyKey := some key
      payload := .obj [("agent_name", .str plan.agentName), ("discord_user_id", .str plan.did),
        ("reason", .str request.reason), ("expires_at", .ofOption plan.expiry)] }

/-- `set_workspace_agent`. -/
def setWorkspaceAgent (request : OverrideRequest) : DbTx Unit := do
  let plan ← checkOverride request
  Tx.savepoint (writeOverride request plan)
  Tx.commit
  return ()

/-- The arguments of `remove_workspace_agent_override`. -/
structure OverrideRemoval where
  workspaceId : String
  agentName : String
  actor : String
  reason : String
  now : Option String := none
deriving DecidableEq, Repr

/-- The override row that a removal is about, after its checks. -/
def checkRemoval (removal : OverrideRemoval) (db : Db) : Except Exn RegistryEntryRow := do
  requireWorkspace db removal.workspaceId
  let agentName ← requireAgentName removal.agentName
  requireText removal.reason "reason"
  requireText removal.actor "actor"
  match db.registryEntries.find? (isOverrideOf removal.workspaceId agentName) with
  | some row => return row
  | none => throw (Exn.value (s!"no override found for {Text.repr agentName} in workspace " ++
      Text.repr removal.workspaceId))

/-- The writes of `remove_workspace_agent_override`. -/
def writeRemoval (removal : OverrideRemoval) (row : RegistryEntryRow) : DbTxn Unit := do
  writeRegistryEntries fun entries =>
    some (entries.delete (isOverrideOf removal.workspaceId row.agentName))
  writeAgentsJsonProjection removal.workspaceId removal.now
  let key ← newUuid
  let _ ← appendEvent
    { workspaceId := some removal.workspaceId, eventType := "workspace.agent_override.removed",
      actor := removal.actor, target := some removal.workspaceId, taskId := none,
      idempotencyKey := some key
      payload := .obj [("agent_name", .str row.agentName),
        ("discord_user_id", .str row.discordUserId), ("reason", .str removal.reason),
        ("expires_at", .ofOption row.expiresAt)] }

/-- `remove_workspace_agent_override`; it returns the removed row. -/
def removeWorkspaceAgentOverride (removal : OverrideRemoval) : DbTx RegistryEntryRow := do
  let checked ← Tx.query (checkRemoval removal)
  let row ← orRaise id checked
  Tx.savepoint (writeRemoval removal row)
  Tx.commit
  return row

end Overrides

section Sync

/-- A roster entry of a sync, as it is given. -/
structure RosterEntry where
  id : String
  discordUserId : String
  displayName : Option String := none
  agentType : Option String := none
deriving DecidableEq, Repr

/-- A checked roster entry. -/
structure RosterAgent where
  name : String
  did : String
  displayName : String
  agentType : String
deriving DecidableEq, Repr

/-- The arguments of `sync_workspace_agents`. -/
structure RosterSync where
  workspaceId : String
  sourceId : String
  sourceVersion : Int
  sourceHash : String
  entries : List RosterEntry
  replace : Bool := true
  syncedBy : String := "operator"
  now : Option String := none
deriving DecidableEq, Repr

/-- One turn of the loop that normalizes the entries of a roster. -/
def normalizeRosterEntry (known : List RosterAgent) (raw : RosterEntry) :
    Except Exn RosterAgent := do
  let name := Text.strip raw.id
  raiseIf (name = "") (Exn.value "entry missing id")
  raiseIf (known.any (·.name = name)) (Exn.value s!"duplicate agent id {Text.repr name}")
  let did ← validateDiscordUserId raw.discordUserId
  raiseIf (known.any (·.did = did)) (Exn.value s!"duplicate discord_user_id {Text.repr did}")
  let displayName := Text.strip (raw.displayName.getD name)
  let agentType := AgentReport.lowerText (Text.strip (raw.agentType.getD "managed"))
  raiseIf (agentType ≠ "managed" ∧ agentType ≠ "external")
    (Exn.value s!"invalid agent_type {Text.repr agentType} for {Text.repr name}")
  return ⟨name, did, if displayName = "" then name else displayName, agentType⟩

def normalizeRoster (known : List RosterAgent) : List RosterEntry → Except Exn (List RosterAgent)
  | [] => return known
  | raw :: rest => do
    let agent ← normalizeRosterEntry known raw
    normalizeRoster (known ++ [agent]) rest

/-- The argument checks of `sync_workspace_agents`: the stripped source id and the roster. -/
def validateSync (db : Db) (sync : RosterSync) : Except Exn (String × List RosterAgent) := do
  requireWorkspace db sync.workspaceId
  raiseIf (!sync.replace) (Exn.value "authoritative sync requires --replace")
  requireText sync.sourceId "source_id"
  requireText sync.syncedBy "synced_by"
  raiseIf (sync.sourceVersion < 0) (Exn.value "source_version must be a non-negative integer")
  raiseIf (sync.sourceHash.toList.length ≠ 64 ∨ ¬ sync.sourceHash.toList.all Text.isLowerHex)
    (Exn.value "source_hash must be a lowercase 64-character SHA-256 hex string")
  let roster ← normalizeRoster [] sync.entries
  return (Text.strip sync.sourceId, roster)

/-- The rules against the stored source; `true` is the repetition of a sync. -/
def checkRosterSource (db : Db) (sync : RosterSync) (sourceId : String) : Except Exn Bool := do
  match db.registrySources.find? (·.workspaceId = sync.workspaceId) with
  | none => return false
  | some source =>
    raiseIf (sourceId ≠ source.sourceId) (Exn.value
      (s!"source takeover rejected: existing source is {Text.repr source.sourceId}, got " ++
        Text.repr sourceId))
    raiseIf (sync.sourceVersion < source.sourceVersion) (Exn.value
      (s!"rollback rejected: existing version {source.sourceVersion}, got " ++
        s!"{sync.sourceVersion}"))
    raiseIf (sync.sourceVersion = source.sourceVersion ∧ sync.sourceHash ≠ source.sourceHash)
      (Exn.value (s!"version conflict: source version {sync.sourceVersion} already has hash " ++
        source.sourceHash))
    return sync.sourceVersion = source.sourceVersion

/-- The sorted names of a set of rows. -/
def sortedNames (names : List String) : List String :=
  sortBy (· < ·) names.dedup

/-- The roster agents that an unexpired override hides. -/
def shadowedNames (db : Db) (workspaceId current : String) : List String :=
  sortedNames ((db.registryEntries.filter fun row => row.workspaceId = workspaceId &&
    row.entryKind = .authoritative && db.registryEntries.any fun other =>
      isOverrideOf workspaceId row.agentName other && other.expiresAt.all (current < ·)).map
        (·.agentName))

/-- What a sync compares of an agent. -/
abbrev RosterInfo := String × String × String × String

/-- The roster before a sync, by name; an authoritative row goes before a legacy row. -/
def rosterBefore (db : Db) (workspaceId : String) : List RosterInfo :=
  let rows (kind : RegistryEntryKind) := db.registryEntries.filter fun row =>
    row.workspaceId = workspaceId && row.entryKind = kind
  (rows .authoritative ++ rows .legacy).foldl (fun known row =>
    if known.any (·.1 = row.agentName) then known
    else known ++ [(row.agentName, row.discordUserId, row.displayName, row.agentType)]) []

def RosterAgent.info (agent : RosterAgent) : RosterInfo :=
  (agent.name, agent.did, agent.displayName, agent.agentType)

structure SyncResult where
  workspaceId : String
  sourceId : String
  sourceVersion : Int
  sourceHash : String
  revision : Nat
  added : List String
  updated : List String
  removed : List String
  unchanged : List String
  shadowed : List String
deriving DecidableEq, Repr

def registryRevision (db : Db) (workspaceId : String) : Nat :=
  ((getWorkspace db workspaceId).map (·.agentRegistryRevision)).getD 0

/-- The roster rows of a workspace, which a sync deletes. -/
def isRosterRow (workspaceId : String) (row : RegistryEntryRow) : Bool :=
  row.workspaceId = workspaceId && (row.entryKind = .authoritative || row.entryKind = .legacy)

def RosterAgent.row (workspaceId : String) (agent : RosterAgent) : RegistryEntryRow where
  workspaceId
  agentName := agent.name
  entryKind := .authoritative
  discordUserId := agent.did
  displayName := agent.displayName
  agentType := agent.agentType

def insertRoster (workspaceId : String) : List RosterAgent → DbTxn Unit
  | [] => return ()
  | agent :: rest => do
    writeRegistryEntries fun entries => entries.insert? (agent.row workspaceId)
    insertRoster workspaceId rest

/-- The writes of `sync_workspace_agents`. -/
def writeRoster (sync : RosterSync) (sourceId : String) (roster : List RosterAgent)
    (before : List RosterInfo) : DbTxn SyncResult := do
  writeRegistryEntries fun entries => some (entries.delete (isRosterRow sync.workspaceId))
  let _ ← utcNowStrInside sync.now
  insertRoster sync.workspaceId roster
  upsertRegistrySource ⟨sync.workspaceId, sourceId, sync.sourceVersion, sync.sourceHash⟩
  writeAgentsJsonProjection sync.workspaceId sync.now
  let current ← utcNowStrInside sync.now
  let shadowed ← Txn.read (shadowedNames · sync.workspaceId current)
  let after := roster.map RosterAgent.info
  let names (rows : List RosterInfo) := rows.map (·.1)
  let added := sortedNames ((names after).filter (· ∉ names before))
  let updated := sortedNames (names (after.filter fun info =>
    info.1 ∈ names before && info ∉ before))
  let removed := sortedNames ((names before).filter (· ∉ names after))
  let unchanged := sortedNames (names (after.filter (· ∈ before)))
  let _ ← appendEvent
    { workspaceId := some sync.workspaceId, eventType := "workspace.agent_registry.synced",
      actor := sync.syncedBy, target := some sync.workspaceId, taskId := none,
      idempotencyKey := some (s!"{sync.workspaceId}:agent-registry-sync:{sourceId}:" ++
        s!"{sync.sourceVersion}:{sync.sourceHash}")
      payload := .obj [("source_id", .str sourceId), ("source_version", .int sync.sourceVersion),
        ("source_hash", .str sync.sourceHash), ("added", .arr (added.map .str)),
        ("updated", .arr (updated.map .str)), ("removed", .arr (removed.map .str)),
        ("unchanged", .arr (unchanged.map .str)), ("shadowed", .arr (shadowed.map .str))] }
  let revision ← Txn.read (registryRevision · sync.workspaceId)
  return ⟨sync.workspaceId, sourceId, sync.sourceVersion, sync.sourceHash, revision, added, updated,
    removed, unchanged, shadowed⟩

/-- What a repeated sync reports. -/
def unchangedSync (db : Db) (sync : RosterSync) (sourceId current : String) : SyncResult :=
  ⟨sync.workspaceId, sourceId, sync.sourceVersion, sync.sourceHash,
    registryRevision db sync.workspaceId, [], [], [],
    sortBy (· < ·) ((db.registryEntries.filter fun row => row.workspaceId = sync.workspaceId &&
      row.entryKind = .authoritative).map (·.agentName)),
    shadowedNames db sync.workspaceId current⟩

/-- `sync_workspace_agents`. -/
def syncWorkspaceAgents (sync : RosterSync) : DbTx SyncResult := do
  let validated ← Tx.query (validateSync · sync)
  let (sourceId, roster) ← orRaise id validated
  let checked ← Tx.query (checkRosterSource · sync sourceId)
  if ← orRaise id checked then
    let current ← utcNowStr sync.now
    Tx.query (unchangedSync · sync sourceId current)
  else
    let before ← Tx.query (rosterBefore · sync.workspaceId)
    let result ← Tx.savepoint (writeRoster sync sourceId roster before)
    Tx.commit
    return result

end Sync

/-- A call on the agent registry. -/
inductive RegistryCall where
  | set (request : OverrideRequest)
  | remove (removal : OverrideRemoval)
  | sync (sync : RosterSync)
deriving DecidableEq, Repr

inductive RegistryResponse where
  | overridden
  | removed (row : RegistryEntryRow)
  | synced (result : SyncResult)
deriving DecidableEq, Repr

namespace RegistryCall

def run : RegistryCall → DbTx RegistryResponse
  | set request => (fun _ => .overridden) <$> setWorkspaceAgent request
  | remove removal => .removed <$> removeWorkspaceAgentOverride removal
  | sync request => .synced <$> syncWorkspaceAgents request

/-- The time that a call is given, if it does not read the clock. -/
def supplied : RegistryCall → Option String
  | set request => request.now
  | remove removal => removal.now
  | sync request => request.now

/-- How a call on a fresh connection ends, when it is alone on the store. -/
def outcome (call : RegistryCall) (work : Work Db) : EStateM.Result Exn (Session Db) RegistryResponse :=
  call.run.run (Session.connect work work.store)

/-- The state that a call leaves to the next one. -/
def after (call : RegistryCall) (work : Work Db) : Work Db :=
  (call.outcome work).final.settle

end RegistryCall

end Coordinate

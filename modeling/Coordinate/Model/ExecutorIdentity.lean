import Coordinate.Model.Store

/-! # Executor catalog and binding snapshots

The catalog grammar, the atomic catalog sync with its in-flight guard, the current binding snapshot
of an agent and the validation of a stored one before a claim (`executor_identity.py`). A catalog
file is the value that the TOML reader returns.
-/

namespace Coordinate

variable [Platform]

def executorContractVersion : Int := 1
def identityMaxLabelLen : Nat := 64
def maxCapabilityLen : Nat := 64
def maxCapabilities : Nat := 32

/-- The class of `_SAFE_LABEL_RE`, shared by the executor modules. -/
def isSafeLabelChar (c : Char) : Bool :=
  Text.isAsciiAlnum c || c == '_' || c == '.' || c == '-'

structure ExecutorDefinition where
  id : String
  provider : String
  adapter : String
  capabilities : List String
deriving DecidableEq, Repr

structure ExecutorInstanceBinding where
  agentId : String
  executorDefinitionId : String
  runnerProfileId : String
  enabled : Bool
deriving DecidableEq, Repr

def ExecutorDefinition.canonicalDict (d : ExecutorDefinition) : Json :=
  .obj [("id", .str d.id), ("provider", .str d.provider), ("adapter", .str d.adapter),
    ("capabilities", .arr (d.capabilities.map .str))]

def ExecutorInstanceBinding.canonicalDict (b : ExecutorInstanceBinding) : Json :=
  .obj [("agent_id", .str b.agentId), ("executor_definition_id", .str b.executorDefinitionId),
    ("runner_profile_id", .str b.runnerProfileId), ("enabled", .bool b.enabled)]

structure ExecutorCatalog where
  sourceId : String
  sourceVersion : Int
  catalogHash : String
  definitions : List ExecutorDefinition
  bindings : List ExecutorInstanceBinding
deriving DecidableEq, Repr

namespace ExecutorIdentity

def validateBoundedLabel (value : Json) (label : String) : Except ExecutorIdentityError String :=
  match value with
  | .str text => do
    raiseIf (text ≠ Text.strip text)
      (ExecutorIdentityError.mk s!"{label} must not have surrounding whitespace")
    raiseIf (text = "") (ExecutorIdentityError.mk s!"{label} is required")
    raiseIf (text.toList.length > identityMaxLabelLen)
      (ExecutorIdentityError.mk s!"{label} exceeds {identityMaxLabelLen} characters")
    raiseIf (¬ Text.matchLine isSafeLabelChar text)
      (ExecutorIdentityError.mk s!"{label} contains unsafe characters: {Text.repr text}")
    return text
  | _ => throw (ExecutorIdentityError.mk s!"{label} must be a string")

/-- The capabilities of one definition; `seen` are the ones before. -/
def validateCapabilityItems (label : String) :
    List String → List Json → Except ExecutorIdentityError (List String)
  | _, [] => return []
  | seen, item :: rest => do
    let cap ← validateBoundedLabel item s!"{label} item"
    raiseIf (cap.toList.length > maxCapabilityLen)
      (ExecutorIdentityError.mk s!"{label} item exceeds {maxCapabilityLen} characters")
    raiseIf (cap ∈ seen)
      (ExecutorIdentityError.mk s!"{label} contains duplicate capability: {Text.repr cap}")
    let later ← validateCapabilityItems label (cap :: seen) rest
    return cap :: later

/-- Whether `sorted(items) == items`. -/
def isSorted (items : List String) : Bool :=
  items.Pairwise (· ≤ ·)

def validateCapabilities (value : Json) (label : String) :
    Except ExecutorIdentityError (List String) :=
  match value with
  | .arr items => do
    raiseIf (items.length > maxCapabilities)
      (ExecutorIdentityError.mk s!"{label} exceeds {maxCapabilities} items")
    let normalized ← validateCapabilityItems label [] items
    raiseIf (¬ isSorted normalized) (ExecutorIdentityError.mk s!"{label} must be sorted")
    return normalized
  | _ => throw (ExecutorIdentityError.mk s!"{label} must be a list")

end ExecutorIdentity

open ExecutorIdentity

/-- `sorted(items, key=...)`. -/
def sortBy {α : Type} (before : α → α → Bool) : List α → List α
  | [] => []
  | item :: rest => insert item (sortBy before rest)
where
  insert (item : α) : List α → List α
    | [] => [item]
    | head :: rest => if before head item then head :: insert item rest else item :: head :: rest

/-- The canonical object whose encoding is hashed. -/
def canonicalExecutorCatalogDict (catalog : ExecutorCatalog) : Json :=
  let definitions := sortBy (fun a b => a.id < b.id) catalog.definitions
  let bindings := sortBy (fun a b => a.agentId < b.agentId) catalog.bindings
  .obj [("contract_version", .int executorContractVersion), ("source_id", .str catalog.sourceId),
    ("source_version", .int catalog.sourceVersion),
    ("executor_definitions", .arr (definitions.map (·.canonicalDict))),
    ("executor_instance_bindings", .arr (bindings.map (·.canonicalDict)))]

def computeExecutorCatalogHash (catalog : ExecutorCatalog) : String :=
  sha256 (canonicalExecutorCatalogDict catalog).text

section Catalog

def allowedRootKeys : List String :=
  ["registry", "agents", "external_agents", "executor_definitions", "capacity_registry",
    "executor_capacities"]
def allowedRegistryKeys : List String := ["id", "version"]
def allowedDefinitionKeys : List String := ["id", "provider", "adapter", "capabilities"]
def allowedAgentKeys : List String :=
  ["id", "display_name", "discord_user_id", "executor_definition_id", "runner_profile_id",
    "enabled"]

def unknownKeys (value : Json) (allowed : List String) : List String :=
  value.keys.filter fun key => !allowed.contains key

/-- An absent key, or the value `default` of `dict.get`. -/
def getOr (value : Json) (key : String) (default : Json) : Json :=
  (value.field? key).getD default

def parseDefinition (seen : List String) (raw : Json) :
    Except ExecutorIdentityError ExecutorDefinition := do
  raiseIf (¬ raw.isObj)
    (ExecutorIdentityError.mk "executor_definitions entry must be a table")
  raiseIf (unknownKeys raw allowedDefinitionKeys ≠ []) (ExecutorIdentityError.mk
    s!"unknown keys in executor_definitions entry: {unknownKeys raw allowedDefinitionKeys}")
  let id ← validateBoundedLabel (raw.get "id") "executor_definition.id"
  raiseIf (id ∈ seen)
    (ExecutorIdentityError.mk s!"duplicate executor_definition id: {Text.repr id}")
  let provider ← validateBoundedLabel (raw.get "provider") "executor_definition.provider"
  let adapter ← validateBoundedLabel (raw.get "adapter") "executor_definition.adapter"
  let capabilities ←
    validateCapabilities (getOr raw "capabilities" (.arr [])) "executor_definition.capabilities"
  return ⟨id, provider, adapter, capabilities⟩

def parseDefinitions (seen : List String) :
    List Json → Except ExecutorIdentityError (List ExecutorDefinition)
  | [] => return []
  | raw :: rest => do
    let definition ← parseDefinition seen raw
    let later ← parseDefinitions (definition.id :: seen) rest
    return definition :: later

/-- One `[[agents]]` entry: its binding, if it carries one. -/
def parseAgentEntry (definitionIds seen : List String) (raw : Json) :
    Except ExecutorIdentityError (Option ExecutorInstanceBinding) := do
  let agentId ← validateBoundedLabel (raw.get "id") "agents.id"
  raiseIf (unknownKeys raw allowedAgentKeys ≠ []) (ExecutorIdentityError.mk
    s!"unknown keys in agents entry '{agentId}': {unknownKeys raw allowedAgentKeys}")
  let definitionValue := raw.get "executor_definition_id"
  let profileValue := raw.get "runner_profile_id"
  if definitionValue = .null ∧ profileValue = .null then return none
  raiseIf (definitionValue = .null ∨ profileValue = .null) (ExecutorIdentityError.mk
    s!"agent '{agentId}' must set both executor_definition_id and runner_profile_id")
  let executorDefinitionId ←
    validateBoundedLabel definitionValue s!"agent '{agentId}'.executor_definition_id"
  let runnerProfileId ← validateBoundedLabel profileValue s!"agent '{agentId}'.runner_profile_id"
  raiseIf (executorDefinitionId ∉ definitionIds)
    (ExecutorIdentityError.mk (s!"agent '{agentId}' references unknown executor_definition_id: " ++
      Text.repr executorDefinitionId))
  raiseIf (runnerProfileId ≠ agentId)
    (ExecutorIdentityError.mk (s!"agent '{agentId}' runner_profile_id must equal agent_id in " ++
      s!"P9-2A: got {Text.repr runnerProfileId}"))
  raiseIf (agentId ∈ seen)
    (ExecutorIdentityError.mk s!"duplicate agent id in executor bindings: {Text.repr agentId}")
  match getOr raw "enabled" (.bool true) with
  | .bool enabled => return some ⟨agentId, executorDefinitionId, runnerProfileId, enabled⟩
  | _ => throw (ExecutorIdentityError.mk s!"agent '{agentId}'.enabled must be a boolean")

def parseAgents (definitionIds seen : List String) :
    List Json → Except ExecutorIdentityError (List ExecutorInstanceBinding)
  | [] => return []
  | raw :: rest => do
    match ← parseAgentEntry definitionIds seen raw with
    | none => parseAgents definitionIds seen rest
    | some binding => do
      let later ← parseAgents definitionIds (binding.agentId :: seen) rest
      return binding :: later

def checkExternalAgent (raw : Json) : Except ExecutorIdentityError Unit := do
  let agentId ← validateBoundedLabel (raw.get "id") "external_agents.id"
  raiseIf (unknownKeys raw allowedAgentKeys ≠ []) (ExecutorIdentityError.mk
    s!"unknown keys in external_agents entry '{agentId}': {unknownKeys raw allowedAgentKeys}")
  raiseIf (raw.get "executor_definition_id" ≠ .null ∨ raw.get "runner_profile_id" ≠ .null ∨
      (raw.field? "enabled").isSome) (ExecutorIdentityError.mk
    s!"external agent '{agentId}' must not carry executor bindings")

def itemsOf : Json → List Json
  | .arr items => items
  | _ => []

/-- `parse_executor_catalog` of the decoded file. -/
def parseExecutorCatalog (data : Json) : Except ExecutorIdentityError ExecutorCatalog := do
  raiseIf (unknownKeys data allowedRootKeys ≠ []) (ExecutorIdentityError.mk
    s!"unknown root keys: {unknownKeys data allowedRootKeys}")
  let registry := data.get "registry"
  raiseIf (¬ registry.isObj) (ExecutorIdentityError.mk "missing [registry] metadata")
  raiseIf (unknownKeys registry allowedRegistryKeys ≠ []) (ExecutorIdentityError.mk
    s!"unknown [registry] keys: {unknownKeys registry allowedRegistryKeys}")
  let sourceId := Text.strip (match registry.get "id" with
    | .str text => text
    | .null => ""
    | other => other.dumps)
  raiseIf (sourceId = "") (ExecutorIdentityError.mk "[registry].id is required")
  let _ ← validateBoundedLabel (.str sourceId) "[registry].id"
  let sourceVersion ← match registry.get "version" with
    | .int version => do
      raiseIf (version < 0)
        (ExecutorIdentityError.mk "[registry].version must be a non-negative integer")
      pure version
    | _ => throw (ExecutorIdentityError.mk "[registry].version must be a non-negative integer")
  let definitions ← parseDefinitions [] (itemsOf (data.get "executor_definitions"))
  let bindings ← parseAgents (definitions.map (·.id)) [] (itemsOf (data.get "agents"))
  for raw in itemsOf (data.get "external_agents") do checkExternalAgent raw
  let catalog : ExecutorCatalog :=
    { sourceId, sourceVersion, catalogHash := "", definitions, bindings }
  return { catalog with catalogHash := computeExecutorCatalogHash catalog }

end Catalog

section Binding

def bindingSnapshotKeys : List String :=
  ["contract_version", "source_id", "source_version", "catalog_hash", "executor_definition_id",
    "executor_instance_id", "runner_profile_id", "provider", "adapter", "capabilities"]

/-- The keys of a snapshot without its self-referential digest. -/
def fieldMismatchMessage (label : String) (actual expected : List String) : String :=
  s!"{label} has incorrect fields: " ++
    s!"missing={expected.filter fun key => !actual.contains key}, unexpected_count=" ++
    s!"{(actual.filter fun key => !expected.contains key).length}, total_count={actual.length}"

/-- The fields of a snapshot under its digest. -/
def bindingSnapshotCanonicalDict (snapshot : Json) : Except ExecutorIdentityError Json := do
  let keys := snapshot.keys.filter (· ≠ "binding_id")
  raiseIf (¬ (keys.all (bindingSnapshotKeys.contains ·) && bindingSnapshotKeys.all (keys.contains ·)))
    (ExecutorIdentityError.mk (fieldMismatchMessage "binding snapshot" keys bindingSnapshotKeys))
  return .obj (bindingSnapshotKeys.map fun key => (key, snapshot.get key))

def computeExecutorBindingId (snapshot : Json) : Except ExecutorIdentityError String := do
  let canonical ← bindingSnapshotCanonicalDict snapshot
  return "sha256:" ++ sha256 canonical.text

/-- A binding snapshot before its digest is added. -/
structure BindingSnapshot where
  sourceId : String
  sourceVersion : Int
  catalogHash : String
  executorDefinitionId : String
  executorInstanceId : String
  runnerProfileId : String
  provider : String
  adapter : String
  capabilities : List Json
deriving DecidableEq, Repr

def BindingSnapshot.canonicalDict (b : BindingSnapshot) : Json :=
  .obj [("contract_version", .int executorContractVersion), ("source_id", .str b.sourceId),
    ("source_version", .int b.sourceVersion), ("catalog_hash", .str b.catalogHash),
    ("executor_definition_id", .str b.executorDefinitionId),
    ("executor_instance_id", .str b.executorInstanceId),
    ("runner_profile_id", .str b.runnerProfileId), ("provider", .str b.provider),
    ("adapter", .str b.adapter), ("capabilities", .arr b.capabilities)]

def BindingSnapshot.bindingId (b : BindingSnapshot) : String :=
  "sha256:" ++ sha256 b.canonicalDict.text

/-- `_build_executor_binding_snapshot`. -/
def BindingSnapshot.toDict (b : BindingSnapshot) : Json :=
  b.canonicalDict.set "binding_id" (.str b.bindingId)

/-- `tuple(value)` of a decoded column. -/
def tupleOf : Json → Except Exn (List Json)
  | .arr items => return items
  | .obj fields => return fields.map fun field => .str field.1
  | .str text => return text.toList.map fun c => .str (String.ofList [c])
  | _ => throw (Exn.type "object is not iterable")

def identityFailure (message : String) : Exn := .identity ⟨message⟩

/-- The current binding snapshot of an agent, or `none` for an untyped agent. -/
def resolveExactExecutorBinding (db : Db) (agentId : String) :
    Except Exn (Option BindingSnapshot) := do
  match db.bindings.find? (·.agentId = agentId) with
  | none => return none
  | some binding =>
    if !binding.enabled then return none
    raiseIf (binding.runnerProfileId ≠ agentId)
      (identityFailure (s!"binding for {Text.repr agentId} has runner_profile_id " ++
        s!"{Text.repr binding.runnerProfileId} != agent_id"))
    raiseIf (db.runnerProfiles.find? (·.id = binding.runnerProfileId)).isNone
      (identityFailure (s!"binding for {Text.repr agentId} references missing runner profile " ++
        Text.repr binding.runnerProfileId))
    match db.definitions.find? (fun row =>
      row.id = binding.executorDefinitionId && row.sourceId = binding.sourceId) with
    | none => throw (identityFailure (s!"binding for {Text.repr agentId} references missing " ++
        s!"definition {Text.repr binding.executorDefinitionId}"))
    | some definition =>
      match db.catalogSources.find? (·.sourceId = binding.sourceId) with
      | none => throw (identityFailure (s!"binding for {Text.repr agentId} references missing " ++
          s!"source {Text.repr binding.sourceId}"))
      | some source => do
        let decoded ← decodeColumn definition.capabilitiesJson
        let capabilities ← tupleOf decoded
        return some ⟨binding.sourceId, source.sourceVersion, source.catalogHash, definition.id,
          agentId, binding.runnerProfileId, definition.provider, definition.adapter, capabilities⟩

def storedBindingKeys : List String :=
  "binding_id" :: bindingSnapshotKeys

/-- `_validate_binding_snapshot`: the shape and the digest of a stored snapshot. -/
def validateBindingSnapshot (snapshot : Json) : Except ExecutorIdentityError Unit := do
  raiseIf (¬ snapshot.isObj) (ExecutorIdentityError.mk "executor_binding must be an object")
  raiseIf (¬ snapshot.hasExactlyKeys storedBindingKeys)
    (ExecutorIdentityError.mk
      (fieldMismatchMessage "executor_binding" snapshot.keys storedBindingKeys))
  raiseIf (¬ (snapshot.get "contract_version").pyEq (.int executorContractVersion))
    (ExecutorIdentityError.mk "executor_binding contract_version must be 1")
  match snapshot.get "binding_id" with
  | .str bindingId => do
    raiseIf (¬ Text.matchSha256 bindingId) (ExecutorIdentityError.mk
      "executor_binding.binding_id must be sha256:<64-lowercase-hex>")
    let expected ← computeExecutorBindingId snapshot
    raiseIf (bindingId ≠ expected) (ExecutorIdentityError.mk
      s!"executor_binding digest mismatch: expected {expected}, got {bindingId}")
  | _ => throw (ExecutorIdentityError.mk
      "executor_binding.binding_id must be sha256:<64-lowercase-hex>")

/-- Whether a stored snapshot equals the current one of its own instance. -/
def currentSnapshotMatches (db : Db) (instance_ : String) (stored : Json) : Except Exn Bool := do
  match ← resolveExactExecutorBinding db instance_ with
  | none => return false
  | some current => do
    let storedDict ← orRaise Exn.identity (bindingSnapshotCanonicalDict stored)
    return current.canonicalDict.pyEq storedDict

/-- Validate a stored binding before a claim. -/
def validateStoredExecutorBinding (db : Db) (snapshot : Json) (job : JobRow) :
    Except Exn Unit := do
  orRaise (fun e : ExecutorIdentityError =>
    identityFailure s!"executor_binding_mismatch: {e.message}") (validateBindingSnapshot snapshot)
  raiseIf (snapshot.get "executor_instance_id" ≠ .str job.assignedAgent)
    (identityFailure (s!"executor_binding_mismatch: job assigned_agent " ++
      s!"{Text.repr job.assignedAgent} != binding instance " ++
      (snapshot.get "executor_instance_id").dumps))
  raiseIf (snapshot.get "runner_profile_id" ≠ .str job.runnerProfileId)
    (identityFailure (s!"executor_binding_mismatch: job runner_profile_id " ++
      s!"{Text.repr job.runnerProfileId} != binding runner_profile_id " ++
      (snapshot.get "runner_profile_id").dumps))
  let current ← currentSnapshotMatches db job.assignedAgent snapshot
  raiseIf (!current) (identityFailure
    "executor_binding_mismatch: stored binding no longer matches current catalog")

/-- Redacted evidence for a `job.claimed` event; a missing key raises `KeyError`. -/
def executorBindingClaimEvidence (snapshot : Json) : Except Exn Json := do
  let names := [("executor_binding_id", "binding_id"),
    ("executor_definition_id", "executor_definition_id"),
    ("executor_instance_id", "executor_instance_id"), ("runner_profile_id", "runner_profile_id"),
    ("source_id", "source_id"), ("source_version", "source_version"),
    ("catalog_hash", "catalog_hash")]
  let fields ← names.mapM fun name => match snapshot.field? name.2 with
    | some value => pure (name.1, value)
    | none => throw (Exn.key name.2)
  return .obj fields

end Binding

section Sync

/-- `json_extract(payload_json, '$.executor_binding.source_id')`. -/
def payloadBindingSource : JsonText → Except Exn Json
  | .value payload => return (payload.get "executor_binding").get "source_id"
  | _ => throw (Exn.operational "malformed JSON")

/-- True if a pending or running job of the list carries a binding of the source. -/
def hasInFlightIn (sourceId : String) : List JobRow → Except Exn Bool
  | [] => return false
  | job :: rest => do
    if job.status = .pending ∨ job.status = .running then
      let source ← payloadBindingSource job.payloadJson
      if source = .str sourceId then return true
      hasInFlightIn sourceId rest
    else hasInFlightIn sourceId rest

def hasInFlightTypedJobs (db : Db) (sourceId : String) : Except Exn Bool :=
  hasInFlightIn sourceId db.jobs.rows

/-- The ownership guard: no id of the catalog belongs to another source. -/
def checkOwnership (db : Db) (catalog : ExecutorCatalog) : Except Exn Unit := do
  match db.definitions.find? (fun row =>
    catalog.definitions.any (·.id = row.id) && row.sourceId ≠ catalog.sourceId) with
  | some row => throw (identityFailure
      s!"executor_definition id {Text.repr row.id} is owned by source {Text.repr row.sourceId}")
  | none => pure ()
  match db.bindings.find? (fun row =>
    catalog.bindings.any (·.agentId = row.agentId) && row.sourceId ≠ catalog.sourceId) with
  | some row => throw (identityFailure (s!"executor_instance_binding {Text.repr row.agentId} " ++
      s!"is owned by source {Text.repr row.sourceId}"))
  | none => pure ()

/-- The reference guard: every binding names an agentd agent and an agentd runner profile. -/
def checkReference (db : Db) (binding : ExecutorInstanceBinding) : Except Exn Unit := do
  match getAgent db binding.agentId with
  | none => throw (identityFailure
      s!"executor binding references unknown agent: {Text.repr binding.agentId}")
  | some agent => raiseIf (agent.clientType ≠ some "agentd") (identityFailure
      s!"executor binding references non-agentd instance: {Text.repr binding.agentId}")
  match db.runnerProfiles.find? (·.id = binding.runnerProfileId) with
  | none => throw (identityFailure
      s!"executor binding references unknown runner profile: {Text.repr binding.runnerProfileId}")
  | some profile => raiseIf (profile.runnerType ≠ "agentd") (identityFailure
      (s!"executor binding references non-agentd runner profile: " ++
        Text.repr binding.runnerProfileId))

def insertDefinitions (sourceId : String) :
    List ExecutorDefinition → Table (keyedBy DefinitionRow.id) →
      Option (Table (keyedBy DefinitionRow.id))
  | [], table => some table
  | d :: rest, table => do
    let next ← table.insert? ⟨d.id, sourceId, d.provider, d.adapter,
      .dumps (.arr (d.capabilities.map .str))⟩
    insertDefinitions sourceId rest next

def insertBindings (sourceId : String) :
    List ExecutorInstanceBinding → Table (keyedBy BindingRow.agentId) →
      Option (Table (keyedBy BindingRow.agentId))
  | [], table => some table
  | b :: rest, table => do
    let next ← table.insert? ⟨b.agentId, sourceId, b.executorDefinitionId, b.runnerProfileId,
      b.enabled⟩
    insertBindings sourceId rest next

/-- The statements of a changing sync: upsert the source, replace its definitions and bindings. -/
def replaceCatalog (catalog : ExecutorCatalog) (db : Db) : Option Db := do
  let source : CatalogSourceRow := ⟨catalog.sourceId, catalog.sourceVersion, catalog.catalogHash⟩
  let catalogSources ← (db.catalogSources.delete (·.sourceId = catalog.sourceId)).insert? source
  let bindings ← insertBindings catalog.sourceId catalog.bindings
    (db.bindings.delete (·.sourceId = catalog.sourceId))
  let definitions ← insertDefinitions catalog.sourceId catalog.definitions
    (db.definitions.delete (·.sourceId = catalog.sourceId))
  return { db with catalogSources, bindings, definitions }

omit [Platform] in
theorem replaceCatalog_grows (catalog : ExecutorCatalog) (db next : Db)
    (replaced : replaceCatalog catalog db = some next) : db.Grows next := by
  simp only [replaceCatalog, Option.bind_eq_bind, Option.bind_eq_some_iff, Option.pure_def,
    Option.some.injEq] at replaced
  obtain ⟨_, _, _, _, _, _, rfl⟩ := replaced
  exact .of_eq rfl rfl rfl rfl rfl

/-- The stored source of a catalog. -/
def findSource (db : Db) (sourceId : String) : Option CatalogSourceRow :=
  db.catalogSources.find? (·.sourceId = sourceId)

/-- The version guard: no downgrade, and no other catalog under the same version. -/
def checkVersion (db : Db) (catalog : ExecutorCatalog) : Except Exn Unit :=
  match findSource db catalog.sourceId with
  | none => return ()
  | some source => do
    raiseIf (catalog.sourceVersion < source.sourceVersion)
      (identityFailure (s!"catalog version downgrade for {Text.repr catalog.sourceId}: " ++
        s!"{catalog.sourceVersion} < {source.sourceVersion}"))
    raiseIf (catalog.sourceVersion = source.sourceVersion ∧
        catalog.catalogHash ≠ source.catalogHash)
      (identityFailure
        s!"catalog hash changed without version bump for {Text.repr catalog.sourceId}")

/-- Whether a catalog is the stored one already. -/
def isCurrentCatalog (db : Db) (catalog : ExecutorCatalog) : Bool :=
  (findSource db catalog.sourceId).any fun source =>
    catalog.sourceVersion = source.sourceVersion && catalog.catalogHash = source.catalogHash

/-- The checks of a changing sync. -/
def checkSync (db : Db) (catalog : ExecutorCatalog) : Except Exn Unit := do
  checkOwnership db catalog
  catalog.bindings.forM (checkReference db)
  let inFlight ← hasInFlightTypedJobs db catalog.sourceId
  raiseIf inFlight (identityFailure (s!"catalog {Text.repr catalog.sourceId} has in-flight typed " ++
    "jobs; drain or resolve before sync"))
  -- the diff for the summary parses the stored capabilities
  (db.definitions.filter (·.sourceId = catalog.sourceId)).forM fun row => do
    let _ ← decodeColumn row.capabilitiesJson

/-- The body of the sync transaction; the result says whether the catalog changed. -/
def syncExecutorCatalogBody (catalog : ExecutorCatalog) : DbTxn Bool := do
  let db ← Txn.read id
  orRaise id (checkVersion db catalog)
  if isCurrentCatalog db catalog then return false
  orRaise id (checkSync db catalog)
  Txn.write Exn.integrity (replaceCatalog catalog) (replaceCatalog_grows catalog)
  return true

/-- `sync_executor_catalog`. -/
def syncExecutorCatalog (catalog : ExecutorCatalog) : DbTx Bool :=
  Tx.atomically Exn.nestedBegin (syncExecutorCatalogBody catalog)

end Sync

end Coordinate

import Coordinate.Model.ExecutionLeases

/-! # Executor capacity policies

The capacity catalog grammar, its digests, and the sync that replaces the policies of one source
under the guards on versions, bindings, owners, coverage and active leases
(`executor_capacity.py`).
-/

namespace Coordinate

variable [Platform]

def capacityContractVersion : Int := 1
def maxConcurrentJobsLimit : Int := 32

def capacityFailure (message : String) : Exn := .capacity ⟨message⟩

structure CapacityPolicy where
  agentId : String
  maxConcurrentJobs : Int
deriving DecidableEq, Repr

structure CapacityCatalog where
  sourceId : String
  sourceVersion : Int
  catalogHash : String
  sourcePath : Option String
  policies : List CapacityPolicy
deriving DecidableEq, Repr

def CapacityPolicy.canonicalDict (policy : CapacityPolicy) : Json :=
  .obj [("agent_id", .str policy.agentId), ("max_concurrent_jobs", .int policy.maxConcurrentJobs)]

/-- The canonical object whose encoding is hashed. -/
def canonicalCapacityCatalogDict (catalog : CapacityCatalog) : Json :=
  let policies := sortBy (fun a b => a.agentId < b.agentId) catalog.policies
  .obj [("contract_version", .int capacityContractVersion), ("source_id", .str catalog.sourceId),
    ("source_version", .int catalog.sourceVersion),
    ("policies", .arr (policies.map (·.canonicalDict)))]

def computeCapacityCatalogHash (catalog : CapacityCatalog) : String :=
  sha256 (canonicalCapacityCatalogDict catalog).text

/-- The object whose digest is a policy id. -/
def capacityPolicyDict (agentId catalogHash : String) (maxConcurrentJobs : Int) (sourceId : String)
    (sourceVersion : Int) : Json :=
  .obj [("agent_id", .str agentId), ("catalog_hash", .str catalogHash),
    ("contract_version", .int capacityContractVersion),
    ("max_concurrent_jobs", .int maxConcurrentJobs), ("source_id", .str sourceId),
    ("source_version", .int sourceVersion)]

def computeCapacityPolicyId (agentId catalogHash : String) (maxConcurrentJobs : Int)
    (sourceId : String) (sourceVersion : Int) : String :=
  "sha256:" ++
    sha256 (capacityPolicyDict agentId catalogHash maxConcurrentJobs sourceId sourceVersion).text

/-- `sorted(set(names))` in a message. -/
def displaySorted (names : List String) : String :=
  "[" ++ Text.join ", " ((sortBy (· < ·) names.dedup).map Text.repr) ++ "]"

namespace ExecutorCapacity

/-- The label checks of this module are the ones of `executor_identity.py`, limit and texts. -/
def validateBoundedLabel (value : Json) (label : String) : Except CapacityError String :=
  orRaise (fun e : ExecutorIdentityError => CapacityError.mk e.message)
    (ExecutorIdentity.validateBoundedLabel value label)

def validateMaxConcurrentJobs (value : Json) (label : String) : Except CapacityError Int :=
  match value with
  | .int count => do
    raiseIf (count < 1 ∨ count > maxConcurrentJobsLimit)
      (CapacityError.mk s!"{label} must be between 1 and {maxConcurrentJobsLimit}: got {count}")
    return count
  | _ => throw (CapacityError.mk s!"{label} must be an integer")

end ExecutorCapacity

open ExecutorCapacity

section Catalog

def allowedSharedRootKeys : List String :=
  ["registry", "executor_definitions", "agents", "external_agents", "capacity_registry",
    "executor_capacities"]
def allowedCapacityRegistryKeys : List String := ["id", "version"]
def allowedCapacityPolicyKeys : List String := ["agent_id", "max_concurrent_jobs"]

def parseCapacityPolicy (seen : List String) (raw : Json) :
    Except CapacityError CapacityPolicy := do
  raiseIf (¬ raw.isObj) (CapacityError.mk "executor_capacities entry must be a table")
  raiseIf (unknownKeys raw allowedCapacityPolicyKeys ≠ []) (CapacityError.mk
    ("unknown keys in executor_capacities entry: " ++
      displaySorted (unknownKeys raw allowedCapacityPolicyKeys)))
  let agentId ← validateBoundedLabel (raw.get "agent_id") "executor_capacity.agent_id"
  raiseIf (agentId ∈ seen)
    (CapacityError.mk s!"duplicate executor_capacity agent_id: {Text.repr agentId}")
  let maxJobs ← validateMaxConcurrentJobs (raw.get "max_concurrent_jobs")
    s!"executor_capacity '{agentId}'.max_concurrent_jobs"
  return ⟨agentId, maxJobs⟩

def parseCapacityPolicies (seen : List String) :
    List Json → Except CapacityError (List CapacityPolicy)
  | [] => return []
  | raw :: rest => do
    let policy ← parseCapacityPolicy seen raw
    let later ← parseCapacityPolicies (policy.agentId :: seen) rest
    return policy :: later

def parseCapacityVersion (value : Json) : Except Exn Int :=
  match value with
  | .int version => do
    raiseIf (version < 0)
      (capacityFailure "[capacity_registry].version must be a non-negative integer")
    return version
  | _ => throw (capacityFailure "[capacity_registry].version must be a non-negative integer")

/-- `parse_capacity_catalog` of the decoded file at `path`. -/
def parseCapacityCatalog (path : String) (data : Json) : Except Exn CapacityCatalog := do
  raiseIf (unknownKeys data allowedSharedRootKeys ≠ [])
    (capacityFailure s!"unknown root keys: {displaySorted (unknownKeys data allowedSharedRootKeys)}")
  let registry := data.get "capacity_registry"
  raiseIf (¬ registry.isObj) (capacityFailure "missing [capacity_registry] metadata")
  raiseIf (unknownKeys registry allowedCapacityRegistryKeys ≠ [])
    (capacityFailure ("unknown [capacity_registry] keys: " ++
      displaySorted (unknownKeys registry allowedCapacityRegistryKeys)))
  let sourceId ← orRaise Exn.capacity
    (validateBoundedLabel (registry.get "id") "[capacity_registry].id")
  let sourceVersion ← parseCapacityVersion (registry.get "version")
  let entries ← tupleOf (getOr data "executor_capacities" (.arr []))
  let policies ← orRaise Exn.capacity (parseCapacityPolicies [] entries)
  let catalog : CapacityCatalog :=
    { sourceId, sourceVersion, catalogHash := "", sourcePath := some path, policies }
  return { catalog with catalogHash := computeCapacityCatalogHash catalog }

end Catalog

section Guards

/-- The agents with a typed executor binding, enabled or not. -/
def allTypedAgentIds (db : Db) : List String :=
  db.bindings.rows.map (·.agentId)

def enabledTypedAgentIds (db : Db) : List String :=
  (db.bindings.filter (·.enabled)).map (·.agentId)

def otherSourcePolicyAgents (db : Db) (sourceId : String) : List String :=
  (db.capacityPolicies.filter (·.sourceId ≠ sourceId)).map (·.agentId)

def thisSourcePolicies (db : Db) (sourceId : String) : List CapacityPolicyRow :=
  db.capacityPolicies.filter (·.sourceId = sourceId)

/-- The policies that active leases refer to. -/
def activeLeasePolicyIds (db : Db) : List String :=
  ((db.leases.filter (·.status = .active)).map (·.capacityPolicyId)).filter (· ≠ "")

def getCapacitySource (db : Db) (sourceId : String) : Option CapacitySourceRow :=
  db.capacitySources.find? (·.sourceId = sourceId)

/-- The version and hash gate of a known source. -/
def checkCapacityVersion (db : Db) (catalog : CapacityCatalog) : Except Exn Unit :=
  match getCapacitySource db catalog.sourceId with
  | none => return ()
  | some source => do
    raiseIf (catalog.sourceVersion < source.sourceVersion)
      (capacityFailure (s!"capacity version downgrade for {Text.repr catalog.sourceId}: " ++
        s!"{catalog.sourceVersion} < {source.sourceVersion}"))
    raiseIf (catalog.sourceVersion = source.sourceVersion ∧
        catalog.catalogHash ≠ source.catalogHash)
      (capacityFailure
        s!"capacity hash changed without version bump for {Text.repr catalog.sourceId}")

def CapacityCatalog.agents (catalog : CapacityCatalog) : List String :=
  catalog.policies.map (·.agentId)

/-- The agents of the catalog or of a stored policy of any source that have no typed binding. -/
def unknownCapacityAgents (db : Db) (catalog : CapacityCatalog) : List String :=
  (catalog.agents ++ db.capacityPolicies.rows.map (·.agentId)).filter
    (· ∉ allTypedAgentIds db)

/-- The ownership guard: no agent of the catalog has a policy of another source. -/
def checkCapacityOwnership (db : Db) (catalog : CapacityCatalog) : Except Exn Unit :=
  let taken := db.capacityPolicies.filter fun row =>
    catalog.agents.contains row.agentId && row.sourceId ≠ catalog.sourceId
  match sortBy (fun a b => a.agentId < b.agentId) taken with
  | [] => return ()
  | row :: _ => throw (capacityFailure (s!"capacity agent_id {Text.repr row.agentId} is owned by " ++
      s!"source {Text.repr row.sourceId}"))

/-- The enabled typed agents that no policy would cover after the sync. -/
def missingCapacityAgents (db : Db) (catalog : CapacityCatalog) : List String :=
  (enabledTypedAgentIds db).filter fun agentId =>
    agentId ∉ catalog.agents ++ otherSourcePolicyAgents db catalog.sourceId

/-- The global invariants, checked before an exact retry too. -/
def checkCapacityInvariants (db : Db) (catalog : CapacityCatalog) : Except Exn Unit := do
  raiseIf (unknownCapacityAgents db catalog ≠ [])
    (capacityFailure ("capacity present for unknown/untyped agents: " ++
      displaySorted (unknownCapacityAgents db catalog)))
  checkCapacityOwnership db catalog
  raiseIf (missingCapacityAgents db catalog ≠ [])
    (capacityFailure ("capacity missing for enabled typed agents: " ++
      displaySorted (missingCapacityAgents db catalog)))

/-- Whether a catalog is the stored one already. -/
def isCurrentCapacityCatalog (db : Db) (catalog : CapacityCatalog) : Bool :=
  (getCapacitySource db catalog.sourceId).any fun source =>
    catalog.sourceVersion = source.sourceVersion && catalog.catalogHash = source.catalogHash

def CapacityCatalog.policyId (catalog : CapacityCatalog) (policy : CapacityPolicy) : String :=
  computeCapacityPolicyId policy.agentId catalog.catalogHash policy.maxConcurrentJobs
    catalog.sourceId catalog.sourceVersion

/-- The active-lease guard: no policy id that an active lease refers to is dropped. -/
def checkActiveLeases (db : Db) (catalog : CapacityCatalog) : Except Exn Unit :=
  let blocked := (thisSourcePolicies db catalog.sourceId).filter fun row =>
    row.capacityPolicyId ∉ catalog.policies.map catalog.policyId ∧
      row.capacityPolicyId ∈ activeLeasePolicyIds db
  match sortBy (fun a b => a.agentId < b.agentId) blocked with
  | [] => return ()
  | row :: _ => throw (capacityFailure (s!"cannot replace capacity policy for " ++
      s!"{Text.repr row.agentId}: referenced by active lease"))

end Guards

/-- How a call on a fresh connection ends when it is alone on the store. -/
def alone {α : Type} (call : DbTx α) (work : Work Db) : EStateM.Result Exn (Session Db) α :=
  call.run (Session.connect work work.store)

section Sync

structure CapacitySyncResult where
  sourceId : String
  sourceVersion : Int
  catalogHash : String
  changed : Bool
  added : List String
  updated : List String
  removed : List String
  unchanged : List String
deriving DecidableEq, Repr

/-- The summary of an exact retry. -/
def unchangedCapacitySync (catalog : CapacityCatalog) : CapacitySyncResult :=
  ⟨catalog.sourceId, catalog.sourceVersion, catalog.catalogHash, false, [], [], [],
    sortBy (· < ·) catalog.agents⟩

/-- The summary of a changing sync of a catalog over the store before it. -/
def changedCapacitySync (db : Db) (catalog : CapacityCatalog) : CapacitySyncResult :=
  let old := (thisSourcePolicies db catalog.sourceId).map fun row =>
    (row.agentId, row.capacityPolicyId, row.maxConcurrentJobs)
  let new := catalog.policies.map fun policy =>
    (policy.agentId, catalog.policyId policy, policy.maxConcurrentJobs)
  let names (entries : List (String × String × Int)) := entries.map (·.1)
  let sorted (entries : List String) := sortBy (· < ·) entries.dedup
  ⟨catalog.sourceId, catalog.sourceVersion, catalog.catalogHash, true,
    sorted ((names new).filter (· ∉ names old)),
    sorted (names (new.filter fun entry => entry.1 ∈ names old && entry ∉ old)),
    sorted ((names old).filter (· ∉ names new)), sorted (names (new.filter (· ∈ old)))⟩

/-- An integer that a column can hold. -/
def fitsInteger (value : Int) : Bool :=
  -(2 ^ 63) ≤ value && value < 2 ^ 63

/-- Bind an integer to a parameter of a statement. -/
def bindInteger (value : Int) : DbTxn Unit :=
  raiseIf (!fitsInteger value) (Exn.overflow "Python int too large to convert to SQLite INTEGER")

def writeCapacitySources
    (next : Table (keyedBy CapacitySourceRow.sourceId) →
      Option (Table (keyedBy CapacitySourceRow.sourceId))) : DbTxn Unit :=
  replaceTable (fun db => next db.capacitySources)
    (fun db capacitySources => { db with capacitySources }) fun _ _ _ => .of_eq rfl rfl rfl rfl rfl

def deleteCapacityPolicies (sourceId : String) : DbTxn Unit :=
  replaceTable (fun db => some (db.capacityPolicies.delete (·.sourceId = sourceId)))
    (fun db capacityPolicies => { db with capacityPolicies })
    fun _ _ _ => .of_eq rfl rfl rfl rfl rfl

def insertCapacityPolicy (row : CapacityPolicyRow) : DbTxn Unit := do
  bindInteger row.sourceVersion
  bindInteger row.maxConcurrentJobs
  replaceTable (·.capacityPolicies.insert? row)
    (fun db capacityPolicies => { db with capacityPolicies })
    fun _ _ _ => .of_eq rfl rfl rfl rfl rfl

def insertCapacityPolicies : List CapacityPolicyRow → DbTxn Unit
  | [] => return ()
  | row :: rest => do
    insertCapacityPolicy row
    insertCapacityPolicies rest

def CapacityCatalog.sourceRow (catalog : CapacityCatalog) (sourcePath : Option String)
    (updatedAt : String) : CapacitySourceRow :=
  ⟨catalog.sourceId, catalog.sourceVersion, catalog.catalogHash,
    (sourcePath.filter (· ≠ "")).or catalog.sourcePath, updatedAt⟩

def CapacityCatalog.policyRow (catalog : CapacityCatalog) (current : String)
    (policy : CapacityPolicy) : CapacityPolicyRow :=
  ⟨policy.agentId, catalog.sourceId, catalog.sourceVersion, catalog.catalogHash,
    catalog.policyId policy, policy.maxConcurrentJobs, current, current⟩

/-- The writes of a changing sync: upsert the source, replace its policies. -/
def writeCapacityCatalog (catalog : CapacityCatalog) (sourcePath : Option String)
    (current : String) : DbTxn Unit := do
  bindInteger catalog.sourceVersion
  writeCapacitySources fun sources =>
    (sources.delete (·.sourceId = catalog.sourceId)).insert? (catalog.sourceRow sourcePath current)
  deleteCapacityPolicies catalog.sourceId
  insertCapacityPolicies (catalog.policies.map (catalog.policyRow current))

/-- The body of the sync transaction. -/
def syncCapacityCatalogBody (catalog : CapacityCatalog) (sourcePath : Option String) :
    DbTxn CapacitySyncResult := do
  let readAt ← utcNow
  let db ← Txn.read id
  orRaise id (checkCapacityVersion db catalog)
  orRaise id (checkCapacityInvariants db catalog)
  if isCurrentCapacityCatalog db catalog then return unchangedCapacitySync catalog
  orRaise id (checkActiveLeases db catalog)
  writeCapacityCatalog catalog sourcePath (Calendar.isoformat readAt)
  return changedCapacitySync db catalog

/-- `sync_capacity_catalog`. -/
def syncCapacityCatalog (catalog : CapacityCatalog) (sourcePath : Option String) :
    DbTx CapacitySyncResult :=
  Tx.atomically Exn.nestedBegin (syncCapacityCatalogBody catalog sourcePath)

end Sync

end Coordinate

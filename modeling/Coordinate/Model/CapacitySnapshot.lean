import Coordinate.Model.ExecutorCapacity

/-! # Capacity snapshots

Capture of the policies of one source into a digest-bound envelope, and their restore
(`executor_capacity.py`). The file of a snapshot is its characters with the value that `json.loads`
reads from them; the checks of a stored or supplied object return the row that they accept.
-/

namespace Coordinate

variable [Platform]

open ExecutorCapacity

def snapshotContractVersion : Int := 2
def maxSourcePathLen : Nat := 4096

def envelopeKeys : List String := ["snapshot", "snapshot_sha256"]
def innerSnapshotKeysV1 : List String := ["contract_version", "target_source_id", "captured_state"]
def innerSnapshotKeysV2 : List String :=
  ["contract_version", "target_source_id", "captured_state", "preserved_state"]
def capturedStateKeys : List String := ["source", "policies"]
def preservedStateKeys : List String := ["sources", "policies"]
def snapshotSourceKeys : List String :=
  ["source_id", "source_version", "catalog_hash", "source_path", "updated_at"]
def snapshotPolicyKeys : List String :=
  ["agent_id", "source_id", "source_version", "catalog_hash", "capacity_policy_id",
    "max_concurrent_jobs", "created_at", "updated_at"]

section Columns

/-- The exact text of a date and time in UTC. -/
def validateSnapshotTimestamp (value : Json) (label : String) : Except CapacityError String :=
  match value with
  | .str text => do
    raiseIf (¬ Calendar.hasShape (String.ofList (Text.lineBody text.toList)))
      (CapacityError.mk s!"{label} has invalid timestamp shape: {Text.repr text}")
    match Calendar.parse text with
    | none => throw (CapacityError.mk s!"{label} is not a valid UTC datetime: {Text.repr text}")
    | some parsed => do
      raiseIf (Calendar.isoformat parsed ≠ text)
        (CapacityError.mk s!"{label} is not canonical UTC Z-suffix: {Text.repr text}")
      return text
  | _ => throw (CapacityError.mk s!"{label} must be a string")

/-- `re.match(r"^[0-9a-f]{64}$", text)`. -/
def matchHash (text : String) : Bool :=
  let body := Text.lineBody text.toList
  body.length == 64 && body.all Text.isLowerHex

def validateSnapshotHash (value : Json) (label : String) : Except CapacityError String :=
  match value with
  | .str text => do
    raiseIf (¬ matchHash text)
      (CapacityError.mk s!"{label} must be 64 lowercase hex digits: {Text.repr text}")
    return text
  | _ => throw (CapacityError.mk s!"{label} must be a string")

def validateSnapshotPolicyId (value : Json) (label : String) : Except CapacityError String :=
  match value with
  | .str text => do
    raiseIf (¬ Text.matchSha256 text)
      (CapacityError.mk s!"{label} must be sha256:<64 lowercase hex>: {Text.repr text}")
    return text
  | _ => throw (CapacityError.mk s!"{label} must be a string")

def validateSnapshotSourceVersion (value : Json) (label : String) : Except CapacityError Int :=
  match value with
  | .int version => do
    raiseIf (version < 0) (CapacityError.mk s!"{label} must be a non-negative integer")
    return version
  | _ => throw (CapacityError.mk s!"{label} must be a non-negative integer")

/-- Unicode category `Cc`. -/
def isCategoryControl (c : Char) : Bool :=
  c.toNat < 32 || (127 ≤ c.toNat && c.toNat < 160)

/-- `f"{number:04X}"` of a code point below 256. -/
def codePointText (number : Nat) : String :=
  let digit (n : Nat) := if n < 10 then Char.ofNat (48 + n) else Char.ofNat (55 + n)
  String.ofList ['0', '0', digit (number / 16), digit (number % 16)]

def validateSourcePath (value : Json) (label : String) : Except CapacityError (Option String) :=
  match value with
  | .null => return none
  | .str text => do
    raiseIf (text.toList.length > maxSourcePathLen)
      (CapacityError.mk s!"{label} exceeds {maxSourcePathLen} characters")
    match text.toList.find? isCategoryControl with
    | some c =>
      throw (CapacityError.mk s!"{label} contains control character U+{codePointText c.toNat}")
    | none => return some text
  | _ => throw (CapacityError.mk s!"{label} must be null or a string")

end Columns

section Rows

def canonicalSourceDict (source : CapacitySourceRow) : Json :=
  .obj [("source_id", .str source.sourceId), ("source_version", .int source.sourceVersion),
    ("catalog_hash", .str source.catalogHash), ("source_path", .ofOption source.sourcePath),
    ("updated_at", .str source.updatedAt)]

def canonicalPolicyDict (policy : CapacityPolicyRow) : Json :=
  .obj [("agent_id", .str policy.agentId), ("source_id", .str policy.sourceId),
    ("source_version", .int policy.sourceVersion), ("catalog_hash", .str policy.catalogHash),
    ("capacity_policy_id", .str policy.capacityPolicyId),
    ("max_concurrent_jobs", .int policy.maxConcurrentJobs), ("created_at", .str policy.createdAt),
    ("updated_at", .str policy.updatedAt)]

/-- The columns of a source after its id. -/
def validateSourceColumns (label sourceId : String) (source : Json) :
    Except CapacityError CapacitySourceRow := do
  let sourceVersion ← validateSnapshotSourceVersion (source.get "source_version")
    s!"{label}.source_version"
  let catalogHash ← validateSnapshotHash (source.get "catalog_hash") s!"{label}.catalog_hash"
  let sourcePath ← validateSourcePath (source.get "source_path") s!"{label}.source_path"
  let updatedAt ← validateSnapshotTimestamp (source.get "updated_at") s!"{label}.updated_at"
  return ⟨sourceId, sourceVersion, catalogHash, sourcePath, updatedAt⟩

/-- The columns of a policy after its agent and source, which must agree with the source. -/
def validateOwnedPolicy (label : String) (source : CapacitySourceRow) (agentId : String)
    (policy : Json) : Except CapacityError CapacityPolicyRow := do
  let sourceVersion ← validateSnapshotSourceVersion (policy.get "source_version")
    s!"{label}.source_version"
  raiseIf (sourceVersion ≠ source.sourceVersion) (CapacityError.mk
    s!"{label} source_version mismatch: {sourceVersion} != {source.sourceVersion}")
  let catalogHash ← validateSnapshotHash (policy.get "catalog_hash") s!"{label}.catalog_hash"
  raiseIf (catalogHash ≠ source.catalogHash) (CapacityError.mk s!"{label} catalog_hash mismatch")
  let maxConcurrentJobs ← validateMaxConcurrentJobs (policy.get "max_concurrent_jobs")
    s!"{label}.max_concurrent_jobs"
  let policyId ← validateSnapshotPolicyId (policy.get "capacity_policy_id")
    s!"{label}.capacity_policy_id"
  let expected :=
    computeCapacityPolicyId agentId catalogHash maxConcurrentJobs source.sourceId sourceVersion
  raiseIf (expected ≠ policyId) (CapacityError.mk
    s!"{label} capacity_policy_id mismatch: expected {expected}, got {policyId}")
  let createdAt ← validateSnapshotTimestamp (policy.get "created_at") s!"{label}.created_at"
  let updatedAt ← validateSnapshotTimestamp (policy.get "updated_at") s!"{label}.updated_at"
  return ⟨agentId, source.sourceId, sourceVersion, catalogHash, policyId, maxConcurrentJobs,
    createdAt, updatedAt⟩

/-- Check items in their order; a check sees the position and what the item before gave. -/
def checkItems {ε α β : Type} (check : Nat → Option β → α → Except ε β) :
    Nat → Option β → List α → Except ε (List β)
  | _, _, [] => return []
  | i, before, item :: rest => do
    let checked ← check i before item
    let later ← checkItems check (i + 1) (some checked) rest
    return checked :: later

/-- The keys that the object must have, no more and no less. -/
def requireKeys (label : String) (value : Json) (expected : List String) :
    Except CapacityError Unit := do
  raiseIf (¬ value.isObj) (CapacityError.mk s!"{label} must be an object")
  raiseIf (¬ value.hasExactlyKeys expected)
    (CapacityError.mk s!"{label} has unknown or missing keys: {displaySorted value.keys}")

/-- An id is greater than the one before it. -/
def requireIncreasing (what : String) (i : Nat) (before : Option String) (id : String) :
    Except CapacityError Unit :=
  match before with
  | none => return ()
  | some earlier => raiseIf (id ≤ earlier)
      (CapacityError.mk s!"{what} at index {i}: {Text.repr id} <= {Text.repr earlier}")

end Rows

section Captured

/-- The captured rows of the target source. -/
structure CapturedState where
  source : CapacitySourceRow
  policies : List CapacityPolicyRow
deriving DecidableEq, Repr

def validateCapturedPolicy (targetSourceId : String) (source : CapacitySourceRow) (i : Nat)
    (before : Option CapacityPolicyRow) (policy : Json) :
    Except CapacityError CapacityPolicyRow := do
  let label := s!"policy[{i}]"
  requireKeys label policy snapshotPolicyKeys
  let agentId ← validateBoundedLabel (policy.get "agent_id") s!"{label}.agent_id"
  requireIncreasing "policies not strictly increasing by agent_id" i (before.map (·.agentId)) agentId
  let sourceId := policy.get "source_id"
  raiseIf (sourceId ≠ .str targetSourceId) (CapacityError.mk
    s!"{label} source_id mismatch: {sourceId.pyRepr} != {Text.repr targetSourceId}")
  let _ ← validateBoundedLabel sourceId s!"{label}.source_id"
  validateOwnedPolicy label source agentId policy

def validateCapturedSource (targetSourceId : String) (source : Json) :
    Except CapacityError CapacitySourceRow := do
  requireKeys "captured_state.source" source snapshotSourceKeys
  let _ ← validateBoundedLabel (.str targetSourceId) "target_source_id"
  let stored := source.get "source_id"
  raiseIf (stored ≠ .str targetSourceId) (CapacityError.mk
    s!"source.source_id mismatch: {stored.pyRepr} != {Text.repr targetSourceId}")
  let sourceId ← validateBoundedLabel stored "source.source_id"
  validateSourceColumns "source" sourceId source

/-- `_strict_validate_captured_state`. -/
def strictValidateCapturedState (captured : Json) (targetSourceId : String) :
    Except CapacityError (Option CapturedState) :=
  match captured with
  | .null => return none
  | captured => do
    raiseIf (¬ captured.isObj) (CapacityError.mk "captured_state must be an object or null")
    raiseIf (¬ captured.hasExactlyKeys capturedStateKeys) (CapacityError.mk
      s!"captured_state has unknown or missing keys: {displaySorted captured.keys}")
    let source ← validateCapturedSource targetSourceId (captured.get "source")
    match captured.get "policies" with
    | .arr items => do
      let policies ← checkItems (validateCapturedPolicy targetSourceId source) 0 none items
      return some ⟨source, policies⟩
    | _ => throw (CapacityError.mk "captured_state.policies must be a list")

end Captured

section Current

def listCapacitySources (db : Db) : List CapacitySourceRow :=
  sortBy (fun a b => a.sourceId < b.sourceId) db.capacitySources.rows

def listCapacityPolicies (db : Db) : List CapacityPolicyRow :=
  sortBy (fun a b => a.agentId < b.agentId) db.capacityPolicies.rows

/-- The rows come in the order of their ids, so a repeated id would follow its first one. -/
def validateCurrentSource (i : Nat) (before : Option CapacitySourceRow)
    (source : CapacitySourceRow) : Except CapacityError CapacitySourceRow := do
  let label := s!"current source[{i}]"
  let sourceId ← validateBoundedLabel (.str source.sourceId) s!"{label}.source_id"
  raiseIf (before.any (·.sourceId = sourceId))
    (CapacityError.mk s!"duplicate current source_id: {Text.repr sourceId}")
  validateSourceColumns label sourceId (canonicalSourceDict source)

def validateCurrentPolicy (sources : List CapacitySourceRow) (typed : List String) (i : Nat)
    (before : Option CapacityPolicyRow) (policy : CapacityPolicyRow) :
    Except CapacityError CapacityPolicyRow := do
  let label := s!"current policy[{i}]"
  let agentId ← validateBoundedLabel (.str policy.agentId) s!"{label}.agent_id"
  raiseIf (before.any (·.agentId = agentId))
    (CapacityError.mk s!"duplicate current agent_id across policies: {Text.repr agentId}")
  let sourceId ← validateBoundedLabel (.str policy.sourceId) s!"{label}.source_id"
  match sources.find? (·.sourceId = sourceId) with
  | none => throw (CapacityError.mk (s!"orphan current policy: agent {Text.repr agentId} has no " ++
      s!"source {Text.repr sourceId}"))
  | some source => do
    let checked ← validateOwnedPolicy label source agentId (canonicalPolicyDict policy)
    raiseIf (agentId ∉ typed) (CapacityError.mk
      s!"current capacity present for unknown/untyped agent: {Text.repr agentId}")
    return checked

/-- `_strict_validate_current_projection`. -/
def strictValidateCurrentProjection (db : Db) :
    Except CapacityError (List CapacitySourceRow × List CapacityPolicyRow) := do
  let sources ← checkItems validateCurrentSource 0 none (listCapacitySources db)
  let policies ← checkItems (validateCurrentPolicy sources (allTypedAgentIds db)) 0 none
    (listCapacityPolicies db)
  let missing := (enabledTypedAgentIds db).filter fun agentId =>
    agentId ∉ policies.map (·.agentId)
  raiseIf (missing ≠ []) (CapacityError.mk
    s!"current coverage drift: enabled bindings {displaySorted missing} have no capacity policy")
  return (sources, policies)

end Current

section Preserved

/-- The keys of a list increase strictly. -/
def checkIncreasing (what : String) : Option String → List String → Except CapacityError Unit
  | _, [] => return ()
  | before, key :: rest => do
    raiseIf (before.any (key ≤ ·))
      (CapacityError.mk s!"preserved {what} not strictly increasing: {Text.repr key}")
    checkIncreasing what (some key) rest

/-- The witness of the rows that do not belong to the target source. -/
def buildPreservedState (sources : List CapacitySourceRow) (policies : List CapacityPolicyRow)
    (targetSourceId : String) : Except CapacityError Json := do
  let sources := sortBy (fun a b => a.sourceId < b.sourceId)
    (sources.filter (·.sourceId ≠ targetSourceId))
  let policies := sortBy (fun a b => a.agentId < b.agentId)
    (policies.filter (·.sourceId ≠ targetSourceId))
  checkIncreasing "sources" none (sources.map (·.sourceId))
  checkIncreasing "policies" none (policies.map (·.agentId))
  return .obj [("sources", .arr (sources.map canonicalSourceDict)),
    ("policies", .arr (policies.map canonicalPolicyDict))]

def validatePreservedSource (i : Nat) (before : Option CapacitySourceRow) (source : Json) :
    Except CapacityError CapacitySourceRow := do
  let label := s!"preserved_state.source[{i}]"
  requireKeys label source snapshotSourceKeys
  let sourceId ← validateBoundedLabel (source.get "source_id") s!"{label}.source_id"
  requireIncreasing "preserved_state.sources not strictly increasing" i (before.map (·.sourceId))
    sourceId
  validateSourceColumns label sourceId source

def validatePreservedPolicy (i : Nat) (before : Option CapacityPolicyRow) (policy : Json) :
    Except CapacityError CapacityPolicyRow := do
  let label := s!"preserved_state.policy[{i}]"
  requireKeys label policy snapshotPolicyKeys
  let agentId ← validateBoundedLabel (policy.get "agent_id") s!"{label}.agent_id"
  requireIncreasing "preserved_state.policies not strictly increasing" i (before.map (·.agentId))
    agentId
  let sourceId ← validateBoundedLabel (policy.get "source_id") s!"{label}.source_id"
  let sourceVersion ← validateSnapshotSourceVersion (policy.get "source_version")
    s!"{label}.source_version"
  let catalogHash ← validateSnapshotHash (policy.get "catalog_hash") s!"{label}.catalog_hash"
  let policyId ← validateSnapshotPolicyId (policy.get "capacity_policy_id")
    s!"{label}.capacity_policy_id"
  let maxConcurrentJobs ← validateMaxConcurrentJobs (policy.get "max_concurrent_jobs")
    s!"{label}.max_concurrent_jobs"
  let createdAt ← validateSnapshotTimestamp (policy.get "created_at") s!"{label}.created_at"
  let updatedAt ← validateSnapshotTimestamp (policy.get "updated_at") s!"{label}.updated_at"
  return ⟨agentId, sourceId, sourceVersion, catalogHash, policyId, maxConcurrentJobs, createdAt,
    updatedAt⟩

/-- `_validate_preserved_state`; the result is the preserved policies. -/
def validatePreservedState (preserved : Json) : Except CapacityError (List CapacityPolicyRow) := do
  requireKeys "preserved_state" preserved preservedStateKeys
  match preserved.get "sources", preserved.get "policies" with
  | .arr sources, .arr policies => do
    let _ ← checkItems validatePreservedSource 0 none sources
    checkItems validatePreservedPolicy 0 none policies
  | .arr _, _ => throw (CapacityError.mk "preserved_state.policies must be a list")
  | _, _ => throw (CapacityError.mk "preserved_state.sources must be a list")

end Preserved

section Capture

/-- The file of a snapshot. -/
structure SnapshotFile where
  raw : List Char
  decoded : Option Json

/-- The file that a capture writes. -/
def SnapshotFile.written (envelope : Json) : SnapshotFile :=
  ⟨envelope.text, some envelope.reload⟩

def innerSnapshot (captured preserved : Json) (targetSourceId : String) : Json :=
  .obj [("contract_version", .int snapshotContractVersion),
    ("target_source_id", .str targetSourceId), ("captured_state", captured),
    ("preserved_state", preserved)]

/-- `_build_snapshot_envelope`. -/
def buildSnapshotEnvelope (captured preserved : Json) (targetSourceId : String) : Json :=
  let inner := innerSnapshot captured preserved targetSourceId
  .obj [("snapshot", inner), ("snapshot_sha256", .str (sha256 inner.text))]

/-- The captured state of the target, which is `null` when the target has no source. -/
def captureTarget (sources : List CapacitySourceRow) (policies : List CapacityPolicyRow)
    (targetSourceId : String) : Except CapacityError Json :=
  let owned := policies.filter (·.sourceId = targetSourceId)
  match sources.find? (·.sourceId = targetSourceId) with
  | none => do
    raiseIf (owned ≠ []) (CapacityError.mk
      s!"target source absent but {owned.length} target polic(ies) exist")
    return .null
  | some source => do
    let sorted := sortBy (fun a b => a.agentId < b.agentId) owned
    let captured : Json := .obj [("source", canonicalSourceDict source),
      ("policies", .arr (sorted.map canonicalPolicyDict))]
    let _ ← strictValidateCapturedState captured targetSourceId
    return captured

/-- The envelope of the current projection. -/
def captureEnvelope (db : Db) (targetSourceId : String) : Except CapacityError Json := do
  let (sources, policies) ← strictValidateCurrentProjection db
  let captured ← captureTarget sources policies targetSourceId
  let preserved ← buildPreservedState sources policies targetSourceId
  return buildSnapshotEnvelope captured preserved targetSourceId

def captureCapacityBody (targetSourceId : String) : DbTxn Json := do
  let captured ← Txn.read (captureEnvelope · targetSourceId)
  orRaise Exn.capacity captured

/-- `capture_capacity_snapshot`, which returns the envelope that it writes to the file. -/
def captureCapacitySnapshot (targetSourceId : String) : DbTx Json := do
  let _ ← orRaise Exn.capacity (validateBoundedLabel (.str targetSourceId) "target_source_id")
  Tx.atomically Exn.nestedBegin (captureCapacityBody targetSourceId)

end Capture

section Restore

/-- A parsed and validated snapshot. -/
structure RestoreRequest where
  contractVersion : Int
  captured : Option CapturedState
  witness : Json
  preservedPolicies : List CapacityPolicyRow
  envelope : Json

def emptyWitness : Json :=
  .obj [("sources", .arr []), ("policies", .arr [])]

/-- The inner keys and the witness of a contract version. -/
def parseWitness (contractVersion : Int) (snapshot : Json) :
    Except CapacityError (Json × List CapacityPolicyRow) :=
  if contractVersion = 1 then do
    raiseIf (¬ snapshot.hasExactlyKeys innerSnapshotKeysV1) (CapacityError.mk
      s!"v1 snapshot.snapshot has unknown or missing keys: {displaySorted snapshot.keys}")
    return (emptyWitness, [])
  else do
    raiseIf (¬ snapshot.hasExactlyKeys innerSnapshotKeysV2) (CapacityError.mk
      s!"v2 snapshot.snapshot has unknown or missing keys: {displaySorted snapshot.keys}")
    let preserved ← validatePreservedState (snapshot.get "preserved_state")
    return (snapshot.get "preserved_state", preserved)

/-- The part of a snapshot under the digest of its envelope. -/
def digestedSnapshot (contractVersion : Int) (snapshot : Json) : Json :=
  let keys := if contractVersion = 2 then innerSnapshotKeysV2 else innerSnapshotKeysV1
  .obj (keys.map fun key => (key, snapshot.get key))

def parseContractVersion (value : Json) : Except CapacityError Int :=
  match value with
  | .int version => do
    raiseIf (version ≠ 1 ∧ version ≠ 2)
      (CapacityError.mk s!"snapshot contract_version must be 1 or 2: got {version}")
    return version
  | other => throw (CapacityError.mk
      s!"snapshot contract_version must be 1 or 2: got {other.pyRepr}")

/-- The checks of the envelope that hold before its parts are read. -/
def checkEnvelope (file : SnapshotFile) : Except CapacityError Json :=
  match file.decoded with
  | none => throw (CapacityError.mk "snapshot is malformed JSON")
  | some envelope => do
    raiseIf (¬ envelope.isObj) (CapacityError.mk "snapshot envelope must be a JSON object")
    raiseIf (file.raw ≠ envelope.text) (CapacityError.mk "snapshot raw bytes are not canonical")
    raiseIf (¬ envelope.hasExactlyKeys envelopeKeys) (CapacityError.mk
      s!"snapshot envelope has unknown or missing keys: {displaySorted envelope.keys}")
    let _ ← validateSnapshotHash (envelope.get "snapshot_sha256") "snapshot_sha256"
    raiseIf (¬ (envelope.get "snapshot").isObj)
      (CapacityError.mk "snapshot.snapshot must be a JSON object")
    return envelope

/-- `_parse_restore_request`. -/
def parseRestoreRequest (file : SnapshotFile) (targetSourceId : String) :
    Except CapacityError RestoreRequest := do
  let envelope ← checkEnvelope file
  let snapshot := envelope.get "snapshot"
  let contractVersion ← parseContractVersion (snapshot.get "contract_version")
  let (witness, preservedPolicies) ← parseWitness contractVersion snapshot
  let target := snapshot.get "target_source_id"
  raiseIf (target ≠ .str targetSourceId) (CapacityError.mk
    (s!"snapshot target_source_id mismatch: expected {Text.repr targetSourceId}, " ++
      s!"got {target.pyRepr}"))
  let _ ← validateBoundedLabel target "snapshot.target_source_id"
  let expected := sha256 (digestedSnapshot contractVersion snapshot).text
  let digest := envelope.get "snapshot_sha256"
  raiseIf (digest ≠ .str expected)
    (CapacityError.mk s!"snapshot digest mismatch: expected {expected}, got {digest.pyRepr}")
  let captured ← strictValidateCapturedState (snapshot.get "captured_state") targetSourceId
  return { contractVersion, captured, witness, preservedPolicies, envelope }

def RestoreRequest.targetAgents (request : RestoreRequest) : List String :=
  (request.captured.map (·.policies)).getD [] |>.map (·.agentId)

def activeLeaseCount (db : Db) : Nat :=
  (db.leases.filter (·.status = .active)).length

/-- The agents that the target would take over from a preserved source. -/
def RestoreRequest.takenOver (request : RestoreRequest) : List CapacityPolicyRow :=
  request.preservedPolicies.filter (request.targetAgents.contains ·.agentId)

/-- The checks of a restore before its first write. -/
def checkRestore (db : Db) (targetSourceId : String) (request : RestoreRequest) :
    Except CapacityError Unit := do
  let (sources, policies) ← strictValidateCurrentProjection db
  raiseIf (activeLeaseCount db ≠ 0)
    (CapacityError.mk "cannot restore capacity snapshot while active lease(s) exist")
  raiseIf (request.contractVersion = 1 ∧ (sources.any (·.sourceId ≠ targetSourceId) ∨
      policies.any (·.sourceId ≠ targetSourceId)))
    (CapacityError.mk "v1 snapshot cannot restore a multi-source capacity projection")
  let current ← buildPreservedState sources policies targetSourceId
  raiseIf (¬ current.pyEq request.witness)
    (CapacityError.mk "witness mismatch: non-target capacity state changed since snapshot")
  let proposed := request.targetAgents ++ request.preservedPolicies.map (·.agentId)
  let unknown := proposed.filter (· ∉ allTypedAgentIds db)
  raiseIf (unknown ≠ []) (CapacityError.mk
    s!"snapshot present for unknown/untyped agents: {displaySorted unknown}")
  let missing := (enabledTypedAgentIds db).filter (· ∉ proposed)
  raiseIf (missing ≠ []) (CapacityError.mk
    s!"snapshot coverage drift: missing from proposed union: {displaySorted missing}")
  match request.takenOver with
  | [] => return ()
  | row :: _ => throw (CapacityError.mk (s!"snapshot target claims agent {Text.repr row.agentId} " ++
      s!"owned by preserved source {Text.repr row.sourceId}"))

/-- The restored policies agree with the captured ones, column by column; both are ordered by
agent. -/
def verifyPolicies : List CapacityPolicyRow → List CapacityPolicyRow → Except CapacityError Unit
  | expected :: rest, actual :: more =>
    let wanted := canonicalPolicyDict expected
    let found := canonicalPolicyDict actual
    match snapshotPolicyKeys.find? fun key => found.get key ≠ wanted.get key with
    | some key => throw (CapacityError.mk
        (s!"restore verification failed: policy {Text.repr expected.agentId} {key} mismatch: " ++
          s!"expected {(wanted.get key).pyRepr}, got {(found.get key).pyRepr}"))
    | none => verifyPolicies rest more
  | _, _ => return ()

/-- `_assert_exact_state_match`, or the absence of the target source. -/
def verifyTarget (db : Db) (targetSourceId : String) :
    Option CapturedState → Except CapacityError Unit
  | none => raiseIf (getCapacitySource db targetSourceId).isSome
      (CapacityError.mk "restore verification failed: target source still present")
  | some captured =>
    match getCapacitySource db captured.source.sourceId with
    | none => throw (CapacityError.mk
        "restore verification failed: source missing after restore")
    | some source => do
      raiseIf (source ≠ captured.source) (CapacityError.mk
        ("restore verification failed: source mismatch: expected " ++
          (canonicalSourceDict captured.source).pyRepr ++ ", got " ++
          (canonicalSourceDict source).pyRepr))
      let actual := (listCapacityPolicies db).filter (·.sourceId = captured.source.sourceId)
      let expectedAgents := captured.policies.map (·.agentId)
      let actualAgents := actual.map (·.agentId)
      raiseIf (actualAgents ≠ expectedAgents) (CapacityError.mk
        (s!"restore verification failed: policy set mismatch: " ++
          s!"expected {displaySorted expectedAgents}, got {displaySorted actualAgents}"))
      verifyPolicies captured.policies actual

/-- The verification after the writes. -/
def verifyRestore (db : Db) (targetSourceId : String) (request : RestoreRequest) :
    Except CapacityError Unit := do
  verifyTarget db targetSourceId request.captured
  let actual ← buildPreservedState (listCapacitySources db) (listCapacityPolicies db) targetSourceId
  raiseIf (¬ actual.pyEq request.witness) (CapacityError.mk
    (s!"restore verification failed: witness mismatch: expected {request.witness.pyRepr}, " ++
      s!"got {actual.pyRepr}"))
  raiseIf (activeLeaseCount db ≠ 0) (CapacityError.mk
    "restore verification failed: active lease appeared during restore")

def insertCaptured : Option CapturedState → DbTxn Unit
  | none => return ()
  | some captured => do
    bindInteger captured.source.sourceVersion
    writeCapacitySources (·.insert? captured.source)
    insertCapacityPolicies captured.policies

/-- The transaction of a restore; the policies of the target go before the source they refer to. -/
def restoreCapacityBody (targetSourceId : String) (request : RestoreRequest) : DbTxn Json := do
  let checked ← Txn.read (checkRestore · targetSourceId request)
  orRaise Exn.capacity checked
  deleteCapacityPolicies targetSourceId
  writeCapacitySources fun sources => some (sources.delete (·.sourceId = targetSourceId))
  insertCaptured request.captured
  let verified ← Txn.read (verifyRestore · targetSourceId request)
  orRaise Exn.capacity verified
  return request.envelope

/-- `restore_capacity_snapshot` of the file at the given path. -/
def restoreCapacitySnapshot (targetSourceId : String) (file : SnapshotFile) : DbTx Json := do
  let _ ← orRaise Exn.capacity (validateBoundedLabel (.str targetSourceId) "target_source_id")
  let request ← orRaise Exn.capacity (parseRestoreRequest file targetSourceId)
  Tx.atomically Exn.nestedBegin (restoreCapacityBody targetSourceId request)

end Restore

end Coordinate

import Coordinate.Model.Store

/-! # Usage evidence of a terminal report

The strict `usage_evidence` contract (`usage_evidence.py`): the parser of one block, its canonical
form and digest, and the split of a submitted result into a bounded result and its evidence. The
usage ledger and the task warning that an accepted report may raise follow (`usage_policy.py`).
-/

namespace Coordinate

variable [Platform]

namespace Usage

def contractVersion : Int := 1
def maxRecords : Nat := 8
def maxTokenValue : Int := 2 ^ 53 - 1
def maxCostMicrousd : Int := 2 ^ 63 - 1
def maxProviderLen : Nat := 128
def maxModelLen : Nat := 256

def sources : List String := ["provider_reported", "estimated", "unknown"]
def completenessNames : List String := ["complete", "partial", "unknown"]
def blockFields : List String := ["contract_version", "records"]
def recordFields : List String :=
  ["provider", "model", "input_tokens", "output_tokens", "cache_read_tokens",
    "cache_write_tokens", "provider_cost_microusd", "source", "completeness"]

structure UsageRecord where
  provider : String
  model : Option String
  inputTokens : Option Int
  outputTokens : Option Int
  cacheReadTokens : Option Int
  cacheWriteTokens : Option Int
  providerCostMicrousd : Option Int
  source : String
  completeness : String
deriving DecidableEq, Repr

def ofInt : Option Int → Json
  | none => .null
  | some n => .int n

namespace UsageRecord

/-- The key of uniqueness and of the canonical order. -/
def uniqueKey (record : UsageRecord) : String × String :=
  (record.provider, record.model.getD "")

def tokens (record : UsageRecord) : List (Option Int) :=
  [record.inputTokens, record.outputTokens, record.cacheReadTokens, record.cacheWriteTokens]

def toDict (record : UsageRecord) : Json :=
  .obj [("provider", .str record.provider), ("model", .ofOption record.model),
    ("input_tokens", ofInt record.inputTokens), ("output_tokens", ofInt record.outputTokens),
    ("cache_read_tokens", ofInt record.cacheReadTokens),
    ("cache_write_tokens", ofInt record.cacheWriteTokens),
    ("provider_cost_microusd", ofInt record.providerCostMicrousd), ("source", .str record.source),
    ("completeness", .str record.completeness)]

def toSummaryDict (record : UsageRecord) : Json :=
  .obj [("provider", .str record.provider), ("model", .ofOption record.model),
    ("source", .str record.source), ("completeness", .str record.completeness)]

end UsageRecord

structure UsageEvidence where
  records : List UsageRecord
  observedTokens : Option Int
  providerCostMicrousd : Option Int
  completeness : String
  digest : String
deriving DecidableEq, Repr

def canonicalOf (records : List UsageRecord) : Json :=
  .obj [("contract_version", .int contractVersion), ("records", .arr (records.map (·.toDict)))]

def UsageEvidence.canonicalDict (evidence : UsageEvidence) : Json :=
  canonicalOf evidence.records

def UsageEvidence.toSummaryDict (evidence : UsageEvidence) : Json :=
  .obj [("contract_version", .int contractVersion), ("digest", .str evidence.digest),
    ("completeness", .str evidence.completeness),
    ("observed_tokens", ofInt evidence.observedTokens),
    ("provider_cost_microusd", ofInt evidence.providerCostMicrousd),
    ("record_count", .int evidence.records.length),
    ("records", .arr (evidence.records.map (·.toSummaryDict)))]

def failure (message : String) : UsageEvidenceError := ⟨message⟩

def hasLowControl (s : String) : Bool :=
  s.toList.any fun c => c.toNat < 32

def validateProvider (value : Json) : Except UsageEvidenceError String :=
  match value with
  | .str text => do
    raiseIf (text ≠ Text.strip text ∨ text = "")
      (failure "record provider must be non-blank without surrounding whitespace")
    raiseIf (text.toList.length > maxProviderLen)
      (failure s!"record provider exceeds {maxProviderLen} characters")
    raiseIf (hasLowControl text) (failure "record provider contains control characters")
    return text
  | _ => throw (failure "record provider must be a string")

def validateModel (value : Json) : Except UsageEvidenceError (Option String) :=
  match value with
  | .null => return none
  | .str text => do
    raiseIf (text ≠ Text.strip text ∨ text = "")
      (failure "record model must be a non-empty string or null")
    raiseIf (text.toList.length > maxModelLen)
      (failure s!"record model exceeds {maxModelLen} characters")
    raiseIf (hasLowControl text) (failure "record model contains control characters")
    return some text
  | _ => throw (failure "record model must be a string or null")

def validateNumeric (raw : Json) (field : String) (index : Nat) (limit : Int) :
    Except UsageEvidenceError (Option Int) :=
  match raw.get field with
  | .null => return none
  | .int n => do
    raiseIf (n < 0)
      (failure s!"record {index} field {Text.repr field} must be non-negative, got {n}")
    raiseIf (n > limit)
      (failure (s!"record {index} field {Text.repr field} exceeds limit {limit}; " ++
        "producer must degrade, Coordinate never truncates"))
    return some n
  | _ => throw (failure
      s!"record {index} field {Text.repr field} must be a non-negative integer or null")

/-- The completeness that the null pattern of a record implies. -/
def deriveCompleteness (source : String) (numerics : List (Option Int)) : String :=
  if numerics.all (·.isSome) then "complete"
  else if source = "unknown" ∧ numerics.all (·.isNone) then "unknown"
  else "partial"

def oneOf (raw : Json) (field : String) (index : Nat) (allowed : List String) :
    Except UsageEvidenceError String :=
  match raw.get field with
  | .str text => do
    raiseIf (text ∉ allowed)
      (failure s!"record {index} {field} must be one of {allowed}, got {Text.repr text}")
    return text
  | other => throw (failure s!"record {index} {field} must be one of {allowed}, got {other.dumps}")

def parseRecord (index : Nat) (raw : Json) : Except UsageEvidenceError UsageRecord := do
  raiseIf (¬ raw.isObj) (failure s!"record {index} must be an object")
  raiseIf (raw.keys.any fun key => !recordFields.contains key)
    (failure (s!"record {index} has unknown fields: " ++
      s!"{raw.keys.filter fun key => !recordFields.contains key}"))
  raiseIf (recordFields.any fun key => !raw.keys.contains key)
    (failure (s!"record {index} is missing fields: " ++
      s!"{recordFields.filter fun key => !raw.keys.contains key}"))
  let provider ← validateProvider (raw.get "provider")
  let model ← validateModel (raw.get "model")
  let inputTokens ← validateNumeric raw "input_tokens" index maxTokenValue
  let outputTokens ← validateNumeric raw "output_tokens" index maxTokenValue
  let cacheReadTokens ← validateNumeric raw "cache_read_tokens" index maxTokenValue
  let cacheWriteTokens ← validateNumeric raw "cache_write_tokens" index maxTokenValue
  let providerCostMicrousd ← validateNumeric raw "provider_cost_microusd" index maxCostMicrousd
  let numerics :=
    [inputTokens, outputTokens, cacheReadTokens, cacheWriteTokens, providerCostMicrousd]
  let source ← oneOf raw "source" index sources
  raiseIf (source = "unknown" ∧ numerics.any (·.isSome))
    (failure s!"record {index} source=unknown requires all numeric fields to be null")
  let completeness ← oneOf raw "completeness" index completenessNames
  let derived := deriveCompleteness source numerics
  raiseIf (completeness ≠ derived)
    (failure (s!"record {index} declares completeness={Text.repr completeness} but the null " ++
      s!"pattern derives {Text.repr derived}"))
  return ⟨provider, model, inputTokens, outputTokens, cacheReadTokens, cacheWriteTokens,
    providerCostMicrousd, source, completeness⟩

def parseRecords (index : Nat) : List Json → Except UsageEvidenceError (List UsageRecord)
  | [] => return []
  | raw :: rest => do
    let record ← parseRecord index raw
    let later ← parseRecords (index + 1) rest
    return record :: later

/-- The first key that occurs twice. -/
def duplicateKey : List UsageRecord → Option (String × String)
  | [] => none
  | record :: rest =>
    if rest.any (·.uniqueKey = record.uniqueKey) then some record.uniqueKey else duplicateKey rest

/-- `sorted(records, key=lambda record: record.unique_key)`. -/
def sortRecords : List UsageRecord → List UsageRecord
  | [] => []
  | record :: rest => insert record (sortRecords rest)
where
  insert (record : UsageRecord) : List UsageRecord → List UsageRecord
    | [] => [record]
    | head :: rest =>
      let (p, m) := record.uniqueKey
      let (q, n) := head.uniqueKey
      if q < p ∨ (q = p ∧ n < m) then head :: insert record rest else record :: head :: rest

/-- The sum of the known costs; it raises as soon as the sum leaves 64 bits. -/
def sumCosts : Int → List UsageRecord → Except UsageEvidenceError Int
  | total, [] => return total
  | total, record :: rest =>
    match record.providerCostMicrousd with
    | none => sumCosts total rest
    | some cost => do
      raiseIf (total + cost > maxCostMicrousd)
        (failure ("aggregate provider_cost_microusd exceeds signed 64-bit limit; " ++
          "producer must degrade one or more costs to null"))
      sumCosts (total + cost) rest

def aggregate (records : List UsageRecord) :
    Except UsageEvidenceError (Option Int × Option Int × String) := do
  let known := (records.flatMap (·.tokens)).filterMap id
  let cost ← sumCosts 0 records
  let completeness :=
    if records.all (·.completeness = "complete") then "complete"
    else if records.all (·.completeness = "unknown") then "unknown" else "partial"
  return (if known = [] then none else some known.sum,
    if records.all (·.providerCostMicrousd.isSome) then some cost else none, completeness)

/-- `parse_usage_evidence`; missing evidence is `none`. -/
def parseUsageEvidence (raw : Json) : Except UsageEvidenceError (Option UsageEvidence) := do
  if raw = .null then return none
  raiseIf (¬ raw.isObj) (failure "usage_evidence must be an object")
  if raw.keys = [] then return none
  if raw.get "records" = .arr [] ∧ raw.keys.all (blockFields.contains ·) then return none
  raiseIf (raw.get "contract_version" ≠ .int contractVersion)
    (failure ("unsupported usage_evidence contract_version: " ++
      (raw.get "contract_version").dumps))
  raiseIf (raw.keys.any fun key => !blockFields.contains key)
    (failure (s!"usage_evidence has unknown fields: " ++
      s!"{raw.keys.filter fun key => !blockFields.contains key}"))
  raiseIf (¬ raw.keys.contains "records") (failure "usage_evidence is missing field: 'records'")
  match raw.get "records" with
  | .arr items => do
    raiseIf (¬ (1 ≤ items.length ∧ items.length ≤ maxRecords))
      (failure (s!"usage_evidence.records must contain 1..{maxRecords} records, " ++
        s!"got {items.length}"))
    let parsed ← parseRecords 0 items
    match duplicateKey parsed with
    | some key => throw (failure
        s!"duplicate (provider, model) record: {Text.repr key.1}/{Text.repr key.2}")
    | none => pure ()
    let records := sortRecords parsed
    let (observedTokens, providerCostMicrousd, completeness) ← aggregate records
    return some ⟨records, observedTokens, providerCostMicrousd, completeness,
      sha256 (canonicalOf records).text⟩
  | _ => throw (failure "usage_evidence.records must be a list")

/-- `split_usage_evidence`: the result with a bounded summary, and the evidence. -/
def splitUsageEvidence (result : Json) :
    Except UsageEvidenceError (Json × Option UsageEvidence) := do
  match ← parseUsageEvidence (result.get "usage_evidence") with
  | none => return (result, none)
  | some evidence => return (result.set "usage_evidence" evidence.toSummaryDict, some evidence)

end Usage

open Usage

/-- `get_attempt_usage`. -/
def getAttemptUsage (db : Db) (jobId : String) (attemptToken : Nat) : Option UsageRow :=
  db.usage.find? fun row => row.jobId = jobId && row.attemptToken = attemptToken

/-- `insert_attempt_usage`, which does nothing for an attempt that has its row. -/
def insertAttemptUsage (row : UsageRow) : DbTxn Bool := do
  let taken ← Txn.read fun db => (getAttemptUsage db row.jobId row.attemptToken).isSome
  if taken then return false
  insertUsage row
  return true

def warningIdempotencyKey (workspaceId taskId : String) (revision : Int) : String :=
  let scope : Json := .arr [.str workspaceId, .str taskId, .int revision]
  "runtime:usage:warning:" ++ sha256 scope.text

/-- `evaluate_task_usage_warning`: at most one warning per policy revision. -/
def evaluateTaskUsageWarning (workspaceId taskId jobId : String) (attemptToken : Nat)
    (observedTokens : Int) (completeness : String) (terminalEventId : Option String)
    (terminalEventCreated : Bool) (actor agentId : String) : DbTxn Unit := do
  let policy ← Txn.read fun db =>
    db.warningPolicies.find? fun row => row.workspaceId = workspaceId && row.taskId = taskId
  match policy with
  | none => return ()
  | some policy =>
    if !policy.enabled ∨ observedTokens < policy.observedTokensThreshold then return ()
    let event ← appendEvent
      { workspaceId := some workspaceId, eventType := "usage.warning", actor,
        target := some agentId, taskId := some taskId,
        causationId := if terminalEventCreated then terminalEventId else none,
        idempotencyKey := some (warningIdempotencyKey workspaceId taskId policy.revision)
        payload := .obj [("revision", .int policy.revision),
          ("scope", .obj [("workspace_id", .str workspaceId), ("task_id", .str taskId)]),
          ("observed_tokens_threshold", .int policy.observedTokensThreshold),
          ("observed_tokens", .int observedTokens), ("completeness", .str completeness),
          ("job_id", .str jobId), ("attempt_token", .int attemptToken),
          ("terminal_event_id", .ofOption terminalEventId),
          ("terminal_event_created", .bool terminalEventCreated)] }
    let _ ← orRaise id event.row.toDict

/-- `_persist_attempt_usage_and_warning`. -/
def persistAttemptUsageAndWarning (usage : Option UsageEvidence) (job : JobRow)
    (attemptToken : Nat) (terminalEventId : Option String) (terminalEventCreated : Bool)
    (recordedAt : Nat) (actor : Option String) : DbTxn Bool := do
  match usage with
  | none => return false
  | some usage =>
    let row : UsageRow :=
      { jobId := job.id, attemptToken, workspaceId := some job.workspaceId, taskId := job.taskId,
        evidenceJson := .dumps usage.canonicalDict, evidenceDigest := usage.digest,
        observedTokens := usage.observedTokens,
        providerCostMicrousd := usage.providerCostMicrousd, completeness := usage.completeness,
        terminalEventId, eventCreated := terminalEventCreated, recordedAt }
    let created ← insertAttemptUsage row
    if !created then return false
    match job.taskId, usage.observedTokens with
    | some taskId, some observed =>
      -- `actor or "runtime"`
      evaluateTaskUsageWarning job.workspaceId taskId job.id attemptToken observed
        usage.completeness terminalEventId terminalEventCreated
        (match actor with | some "" | none => "runtime" | some name => name) job.assignedAgent
      return created
    | _, _ => return created

end Coordinate

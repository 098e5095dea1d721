import Coordinate.Model.AgentRegistry
import Coordinate.Model.ExecutorIdentity

/-! # Deterministic executor routing

The routing request codec, the eligibility filters and policy order of the candidates, the decision
that a routed submit stores and its independent validator (`executor_routing.py`), with the
liveness test it uses (`agent_liveness.py`).
-/

namespace Coordinate

variable [Platform]

def agentActivityTouchIntervalSeconds : Nat := 30
def agentLivenessStaleAfterSeconds : Nat := 90

/-- The age of a reading, unless it is missing or in the future. -/
def lastSeenAgeSeconds (seen : Option Nat) (current : Nat) : Option Nat :=
  match seen with
  | none => none
  | some time => if time > current then none else some (current - time)

def isAgentLivenessFresh (seen : Option Nat) (current : Nat) : Bool :=
  (lastSeenAgeSeconds seen current).any (· ≤ agentLivenessStaleAfterSeconds)

/-- Whether a reading is old enough for another write. -/
def touchDue (agent : AgentRow) (observedAt : Nat) : Bool :=
  !(lastSeenAgeSeconds agent.lastSeenAt observedAt).any (· < agentActivityTouchIntervalSeconds)

/-- The `UPDATE` of a touch; the result says whether a row changed. -/
def touchRow (agentId : String) (observedAt : Nat) : DbTxn Bool := do
  let chosen (row : AgentRow) : Bool := row.id = agentId && row.onlineState = "online"
  let matched ← Txn.read fun db => (db.agents.filter chosen).length
  writeAgents fun agents => agents.update? chosen fun row =>
    { row with lastSeenAt := some observedAt, updatedAt := observedAt }
  return matched = 1

/-- Refresh one online agent at most once per interval, inside a transaction. -/
def touchAgentActivity (agentId : String) : DbTxn Bool := do
  let agent ← Txn.read (getAgent · agentId)
  match agent with
  | none => return false
  | some agent =>
    if agent.onlineState ≠ "online" then return false
    let observedAt ← utcNow
    if touchDue agent observedAt then touchRow agentId observedAt else return false

/-- The same refresh outside a transaction: its `UPDATE` opens one, which the caller commits. -/
def touchAgentActivityOutside (agentId : String) : DbTx Bool := do
  let agent ← Tx.query (getAgent · agentId)
  match agent with
  | none => return false
  | some agent =>
    if agent.onlineState ≠ "online" then return false
    let observedAt ← Tx.clock now
    if touchDue agent observedAt then
      Tx.within (touchRow agentId observedAt)
    else return false

def routingContractVersion : Int := 1
def routingPolicyVersion : Int := 1
def maxCandidates : Nat := 256
def routingMaxReasonLen : Nat := 512

structure RoutingRequest where
  requiredCapabilities : List String
  executorDefinitionId : Option String
  preferredHostId : Option String
  operatorOverrideAgentId : Option String
  operatorOverrideReason : Option String
  routingRequestId : String
deriving DecidableEq, Repr

structure Candidate where
  agentId : String
  hostId : String
  runnerProfileId : String
  bindingId : String
  binding : BindingSnapshot
  onlineState : String
  lastSeenAt : Option Nat
  routingLoad : Nat
  hostRank : Nat
  preferredHost : Bool
deriving DecidableEq, Repr

def isoOption : Option Nat → Json
  | none => .null
  | some time => .str (Calendar.isoformat time)

def Candidate.toDecisionDict (c : Candidate) : Json :=
  .obj [("agent_id", .str c.agentId), ("host_id", .str c.hostId),
    ("runner_profile_id", .str c.runnerProfileId),
    ("executor_definition_id", .str c.binding.executorDefinitionId),
    ("binding_id", .str c.bindingId), ("source_id", .str c.binding.sourceId),
    ("source_version", .int c.binding.sourceVersion),
    ("catalog_hash", .str c.binding.catalogHash), ("capabilities", .arr c.binding.capabilities),
    ("online_state", .str c.onlineState), ("last_seen_at", isoOption c.lastSeenAt),
    ("preferred_host", .bool c.preferredHost), ("routing_load", .int c.routingLoad)]

inductive SelectionKind where
  | automatic
  | operatorOverride
deriving DecidableEq, Repr

def SelectionKind.text : SelectionKind → String
  | automatic => "automatic"
  | operatorOverride => "operator_override"

structure RoutingDecision where
  routingRequestId : String
  selectionKind : SelectionKind
  selected : Candidate
  eligibleCandidates : List Candidate
deriving DecidableEq, Repr

def RoutingDecision.body (d : RoutingDecision) : Json :=
  .obj [("contract_version", .int routingContractVersion),
    ("policy_version", .int routingPolicyVersion),
    ("routing_request_id", .str d.routingRequestId),
    ("selection_kind", .str d.selectionKind.text),
    ("selected_agent_id", .str d.selected.agentId), ("selected_host_id", .str d.selected.hostId),
    ("selected_runner_profile_id", .str d.selected.runnerProfileId),
    ("selected_executor_definition_id", .str d.selected.binding.executorDefinitionId),
    ("selected_binding_id", .str d.selected.bindingId),
    ("eligible_candidates", .arr (d.eligibleCandidates.map (·.toDecisionDict)))]

def digestId (body : Json) : String :=
  "sha256:" ++ sha256 body.text

def RoutingDecision.routingDecisionId (d : RoutingDecision) : String :=
  digestId d.body

/-- `routing_decision_to_dict`. -/
def RoutingDecision.toDict (d : RoutingDecision) : Json :=
  d.body.set "routing_decision_id" (.str d.routingDecisionId)

namespace Routing

def validateInt (value : Json) (label : String) : Except ExecutorRoutingError Int :=
  match value with
  | .int n => return n
  | _ => throw (ExecutorRoutingError.mk s!"{label} must be an integer")

def validateSafeLabel (value : Json) (label : String) (maxLen : Nat := 64) :
    Except ExecutorRoutingError String :=
  match value with
  | .str text => do
    raiseIf (text = "") (ExecutorRoutingError.mk s!"{label} is required")
    raiseIf (text.toList.length > maxLen)
      (ExecutorRoutingError.mk s!"{label} exceeds {maxLen} characters")
    raiseIf (¬ Text.matchLine isSafeLabelChar text)
      (ExecutorRoutingError.mk s!"{label} contains unsafe characters: {Text.repr text}")
    return text
  | _ => throw (ExecutorRoutingError.mk s!"{label} must be a string")

def validateOptionalSafeLabel (value : Json) (label : String) (maxLen : Nat := 64) :
    Except ExecutorRoutingError (Option String) :=
  match value with
  | .null => return none
  | other => some <$> validateSafeLabel other label maxLen

/-- The items of a stored capability list, each a string of the label grammar. -/
def canonicalItems (label : String) : List Json → Except ExecutorRoutingError (List String)
  | [] => return []
  | .str item :: rest => do
    raiseIf (¬ Text.matchLine isSafeLabelChar item)
      (ExecutorRoutingError.mk s!"{label} item contains unsafe characters: {Text.repr item}")
    let later ← canonicalItems label rest
    return item :: later
  | _ :: _ => throw (ExecutorRoutingError.mk s!"{label} item must be a string")

/-- An exact sorted list of distinct capabilities. -/
def validateCanonicalCapabilities (value : Json) (label : String) :
    Except ExecutorRoutingError (List String) :=
  match value with
  | .arr values => do
    raiseIf (values = [])
      (ExecutorRoutingError.mk s!"{label} must contain at least one capability")
    let items ← canonicalItems label values
    raiseIf (items.any (·.toList.length > maxCapabilityLen))
      (ExecutorRoutingError.mk s!"{label} exceeds maximum item length: {maxCapabilityLen}")
    raiseIf (¬ items.Nodup) (ExecutorRoutingError.mk s!"{label} contains duplicate values")
    raiseIf (items.length > maxCapabilities) (ExecutorRoutingError.mk
      s!"{label} exceeds maximum cardinality: {items.length} > {maxCapabilities}")
    raiseIf (¬ ExecutorIdentity.isSorted items)
      (ExecutorRoutingError.mk s!"{label} is not in canonical sorted order")
    return items
  | _ => throw (ExecutorRoutingError.mk s!"{label} must be a list")

def validateReasonText (value label : String) : Except ExecutorRoutingError String := do
  raiseIf (value.toList.length > routingMaxReasonLen)
    (ExecutorRoutingError.mk s!"{label} exceeds {routingMaxReasonLen} characters")
  raiseIf (value.toList.any Platform.isCategoryC)
    (ExecutorRoutingError.mk s!"{label} contains control characters")
  return value

/-- Exact stripped audit text. -/
def validateCanonicalReason (value : Json) : Except ExecutorRoutingError String :=
  match value with
  | .str text => do
    raiseIf (text ≠ Text.strip text) (ExecutorRoutingError.mk
      "operator_override_reason must be canonical stripped text")
    raiseIf (text = "") (ExecutorRoutingError.mk
      "operator_override_reason is required when override is supplied")
    validateReasonText text "operator_override_reason"
  | _ => throw (ExecutorRoutingError.mk "operator_override_reason must be a string")

def validateOverridePair (agentId reason : Json) :
    Except ExecutorRoutingError (Option String × Option String) := do
  if agentId = .null ∧ reason = .null then return (none, none)
  raiseIf (agentId = .null ∨ reason = .null) (ExecutorRoutingError.mk
    ("operator_override_agent_id and operator_override_reason must both be supplied or both " ++
      "absent"))
  let agent ← validateSafeLabel agentId "operator_override_agent_id" 256
  let text ← validateCanonicalReason reason
  return (some agent, some text)

def requestKeys : List String :=
  ["contract_version", "mode", "required_capabilities", "executor_definition_id",
    "preferred_host_id", "operator_override_agent_id", "operator_override_reason",
    "policy_version", "routing_request_id"]

/-- The fields of a request under its digest. -/
def requestBody (r : RoutingRequest) : Json :=
  .obj [("contract_version", .int routingContractVersion), ("mode", .str "deterministic"),
    ("required_capabilities", .arr (r.requiredCapabilities.map .str)),
    ("executor_definition_id", .ofOption r.executorDefinitionId),
    ("preferred_host_id", .ofOption r.preferredHostId),
    ("operator_override_agent_id", .ofOption r.operatorOverrideAgentId),
    ("operator_override_reason", .ofOption r.operatorOverrideReason),
    ("policy_version", .int routingPolicyVersion)]

def requestToDict (r : RoutingRequest) : Json :=
  (requestBody r).set "routing_request_id" (.str r.routingRequestId)

/-- Strictly parse a stored routing request. -/
def parseRequest (data : Json) : Except ExecutorRoutingError RoutingRequest := do
  raiseIf (¬ data.isObj) (ExecutorRoutingError.mk "routing_request must be an object")
  raiseIf (¬ data.hasExactlyKeys requestKeys)
    (ExecutorRoutingError.mk (s!"routing_request has incorrect keys: expected " ++
      s!"[{displayKeys requestKeys}], got [{displayKeys data.keys}]"))
  let contractVersion ← validateInt (data.get "contract_version") "contract_version"
  raiseIf (contractVersion ≠ routingContractVersion) (ExecutorRoutingError.mk
    s!"routing_request contract_version must be {routingContractVersion}")
  let policyVersion ← validateInt (data.get "policy_version") "policy_version"
  raiseIf (policyVersion ≠ routingPolicyVersion) (ExecutorRoutingError.mk
    s!"routing_request policy_version must be {routingPolicyVersion}")
  raiseIf (data.get "mode" ≠ .str "deterministic") (ExecutorRoutingError.mk
    ("routing_request mode unsupported: " ++ (data.get "mode").dumps))
  let requiredCapabilities ←
    validateCanonicalCapabilities (data.get "required_capabilities") "required_capabilities"
  let executorDefinitionId ←
    validateOptionalSafeLabel (data.get "executor_definition_id") "executor_definition_id" 256
  let preferredHostId ←
    validateOptionalSafeLabel (data.get "preferred_host_id") "preferred_host_id" 64
  let (operatorOverrideAgentId, operatorOverrideReason) ← validateOverridePair
    (data.get "operator_override_agent_id") (data.get "operator_override_reason")
  match data.get "routing_request_id" with
  | .str requestId => do
    raiseIf (¬ Text.matchSha256 requestId)
      (ExecutorRoutingError.mk "routing_request_id must be sha256:<64-lowercase-hex>")
    let request : RoutingRequest :=
      { requiredCapabilities, executorDefinitionId, preferredHostId, operatorOverrideAgentId,
        operatorOverrideReason, routingRequestId := requestId }
    let expectedId := digestId (requestBody request)
    raiseIf (requestId ≠ expectedId) (ExecutorRoutingError.mk
      s!"routing_request_id digest mismatch: expected {expectedId}, got {requestId}")
    return request
  | _ => throw (ExecutorRoutingError.mk "routing_request_id must be sha256:<64-lowercase-hex>")

end Routing

open Routing

section Candidates

/-- Count the jobs of an agent that are pending, running or recoverably timed out. -/
def computeRoutingLoad (db : Db) (agentId : String) : Nat :=
  (db.jobs.filter fun job => job.assignedAgent = agentId &&
    (job.status = .pending || job.status = .running ||
      (job.status = .timedOut && job.recoverable))).length

/-- A binding row's candidate, if it passes every hard filter. -/
def resolveCandidate (db : Db) (current : Nat) (workspaceId : String) (effective : List String)
    (row : BindingRow) (request : RoutingRequest) : Except Exn (Option Candidate) := do
  if row.agentId ∉ effective then return none
  match getAgent db row.agentId with
  | none => return none
  | some agent =>
    if agent.clientType ≠ some "agentd" ∨ agent.onlineState ≠ "online" then return none
    if !isAgentLivenessFresh agent.lastSeenAt current then return none
    match agent.hostId with
    | none | some "" => return none
    | some hostId =>
      if (← getWorkspaceHostProfile db workspaceId hostId).isNone then return none
      match ← getRunnerProfile db row.runnerProfileId with
      | none => return none
      | some runner =>
        if runner.runnerType ≠ "agentd" then return none
        match resolveExactExecutorBinding db row.agentId with
        | .error (.identity _) => return none
        | .error other => throw other
        | .ok none => return none
        | .ok (some binding) =>
          if request.executorDefinitionId.any (· ≠ binding.executorDefinitionId) then return none
          if request.requiredCapabilities.any fun cap => !binding.capabilities.contains (.str cap)
          then return none
          return some {
            agentId := row.agentId
            hostId
            runnerProfileId := row.runnerProfileId
            bindingId := binding.bindingId
            binding
            onlineState := agent.onlineState
            lastSeenAt := agent.lastSeenAt
            routingLoad := computeRoutingLoad db row.agentId
            hostRank := if request.preferredHostId.all (· = hostId) then 0 else 1
            preferredHost := request.preferredHostId = some hostId }

/-- The order of `Candidate.sort_key`. -/
def Candidate.before (a b : Candidate) : Bool :=
  a.hostRank < b.hostRank || (a.hostRank = b.hostRank && (a.routingLoad < b.routingLoad ||
    (a.routingLoad = b.routingLoad &&
      (a.binding.executorDefinitionId < b.binding.executorDefinitionId ||
        (a.binding.executorDefinitionId = b.binding.executorDefinitionId &&
          a.agentId < b.agentId)))))

def collectCandidates (db : Db) (current : Nat) (workspaceId : String) (effective : List String)
    (request : RoutingRequest) : List BindingRow → Except Exn (List Candidate)
  | [] => return []
  | row :: rest => do
    let candidate ← resolveCandidate db current workspaceId effective row request
    let later ← collectCandidates db current workspaceId effective request rest
    return candidate.toList ++ later

/-- All hard-eligible candidates in policy order. -/
def resolveRoutingCandidates (db : Db) (current : Nat) (workspaceId : String)
    (request : RoutingRequest) : Except Exn (List Candidate) := do
  raiseIf (getWorkspace db workspaceId).isNone
    (Exn.routing ⟨s!"unknown workspace: {workspaceId}"⟩)
  let effective ← resolveEffectiveAgents db workspaceId (Calendar.isoformat current)
  let candidates ← collectCandidates db current workspaceId (effective.map (·.agentName)) request
    (db.bindings.filter (·.enabled))
  return sortBy Candidate.before candidates

/-- Select the winner and build the decision. -/
def selectRoutingDecision (request : RoutingRequest) (candidates : List Candidate) :
    Except ExecutorRoutingError RoutingDecision := do
  raiseIf (candidates.length > maxCandidates) (ExecutorRoutingError.mk
    s!"executor_route_candidate_cap_exceeded: {candidates.length} > {maxCandidates}")
  match candidates with
  | [] => throw (ExecutorRoutingError.mk "executor_route_no_candidate")
  | first :: _ =>
    match request.operatorOverrideAgentId with
    | none => return ⟨request.routingRequestId, .automatic, first, candidates⟩
    | some override =>
      match candidates.find? (·.agentId = override) with
      | none => throw (ExecutorRoutingError.mk
          s!"executor_route_override_ineligible: {Text.repr override}")
      | some selected =>
        return ⟨request.routingRequestId, .operatorOverride, selected, candidates⟩

end Candidates

section Validation

def decisionKeys : List String :=
  ["contract_version", "policy_version", "routing_request_id", "selection_kind",
    "selected_agent_id", "selected_host_id", "selected_runner_profile_id",
    "selected_executor_definition_id", "selected_binding_id", "eligible_candidates",
    "routing_decision_id"]

def candidateKeys : List String :=
  ["agent_id", "host_id", "runner_profile_id", "executor_definition_id", "binding_id",
    "source_id", "source_version", "catalog_hash", "capabilities", "online_state",
    "last_seen_at", "preferred_host", "routing_load"]

/-- The fields of a stored candidate that the decision checks compare. -/
structure ParsedCandidate where
  agentId : String
  hostId : String
  runnerProfileId : String
  executorDefinitionId : String
  bindingId : String
  routingLoad : Int
  value : Json
deriving DecidableEq, Repr

def routingFailure (message : String) : ExecutorRoutingError := ⟨message⟩

/-- `re.match(r"^[0-9a-f]{64}$", s)`. -/
def matchHex64 (s : String) : Bool :=
  let body := Text.lineBody s.toList
  body.length = 64 && body.all Text.isLowerHex

def validateCandidate (value : Json) (request : RoutingRequest) :
    Except ExecutorRoutingError ParsedCandidate := do
  raiseIf (¬ value.isObj) (routingFailure "eligible_candidates item must be an object")
  raiseIf (¬ value.hasExactlyKeys candidateKeys)
    (routingFailure (s!"candidate has incorrect keys: expected [{displayKeys candidateKeys}], " ++
      s!"got [{displayKeys value.keys}]"))
  let agentId ← validateSafeLabel (value.get "agent_id") "candidate agent_id"
  let hostId ← validateSafeLabel (value.get "host_id") "candidate host_id"
  let runnerProfileId ←
    validateSafeLabel (value.get "runner_profile_id") "candidate runner_profile_id"
  let executorDefinitionId ←
    validateSafeLabel (value.get "executor_definition_id") "candidate executor_definition_id"
  let bindingId ← match value.get "binding_id" with
    | .str text => do
      raiseIf (¬ Text.matchSha256 text)
        (routingFailure "candidate binding_id must be sha256:<64-lowercase-hex>")
      pure text
    | _ => throw (routingFailure "candidate binding_id must be sha256:<64-lowercase-hex>")
  let _ ← validateSafeLabel (value.get "source_id") "candidate source_id"
  let onlineState ← validateSafeLabel (value.get "online_state") "candidate online_state"
  raiseIf (onlineState ≠ "online") (routingFailure "candidate online_state must be 'online'")
  let sourceVersion ← validateInt (value.get "source_version") "candidate source_version"
  raiseIf (sourceVersion < 1) (routingFailure "candidate source_version must be positive")
  match value.get "catalog_hash" with
  | .str text => raiseIf (¬ matchHex64 text) (routingFailure
      "candidate catalog_hash must be a 64-character lowercase hex string")
  | _ => throw (routingFailure
      "candidate catalog_hash must be a 64-character lowercase hex string")
  let capabilities ←
    validateCanonicalCapabilities (value.get "capabilities") "candidate capabilities"
  raiseIf (request.requiredCapabilities.any fun cap => !capabilities.contains cap)
    (routingFailure (s!"candidate capabilities {capabilities} do not satisfy required " ++
      s!"{request.requiredCapabilities}"))
  raiseIf (request.executorDefinitionId.any (· ≠ executorDefinitionId))
    (routingFailure "candidate executor_definition_id does not match routing_request filter")
  let routingLoad ← validateInt (value.get "routing_load") "candidate routing_load"
  raiseIf (routingLoad < 0) (routingFailure "candidate routing_load must be non-negative")
  match value.get "preferred_host" with
  | .bool preferred =>
    raiseIf (preferred ≠ decide (request.preferredHostId = some hostId)) (routingFailure
      "candidate preferred_host does not match routing_request preferred_host_id")
  | _ => throw (routingFailure "candidate preferred_host must be a boolean")
  match value.get "last_seen_at" with
  | .null => pure ()
  | .str text =>
    raiseIf (text = "") (routingFailure "candidate last_seen_at must be a string or null")
  | _ => throw (routingFailure "candidate last_seen_at must be a string or null")
  return ⟨agentId, hostId, runnerProfileId, executorDefinitionId, bindingId, routingLoad, value⟩

/-- Validate the stored candidates in order; `seen` are the agent ids before. -/
def validateCandidates (request : RoutingRequest) :
    List String → List Json → Except ExecutorRoutingError (List ParsedCandidate)
  | _, [] => return []
  | seen, value :: rest => do
    let parsed ← validateCandidate value request
    raiseIf (parsed.agentId ∈ seen)
      (routingFailure "routing_decision eligible_candidates contains duplicate agent_id")
    let later ← validateCandidates request (parsed.agentId :: seen) rest
    return parsed :: later

/-- `_candidate_sort_tuple(a) > _candidate_sort_tuple(b)`. -/
def ParsedCandidate.after (request : RoutingRequest) (a b : ParsedCandidate) : Bool :=
  let rank (c : ParsedCandidate) : Nat := if request.preferredHostId.all (· = c.hostId) then 0 else 1
  rank b < rank a || (rank b = rank a && (b.routingLoad < a.routingLoad ||
    (b.routingLoad = a.routingLoad && (b.executorDefinitionId < a.executorDefinitionId ||
      (b.executorDefinitionId = a.executorDefinitionId && b.agentId < a.agentId)))))

def outOfOrder (request : RoutingRequest) : List ParsedCandidate → Bool
  | a :: b :: rest => a.after request b || outOfOrder request (b :: rest)
  | _ => false

/-- Strictly validate a stored routing decision. -/
def validateRoutingDecision (data : Json) (request : RoutingRequest) :
    Except ExecutorRoutingError Unit := do
  raiseIf (¬ data.isObj) (routingFailure "routing_decision must be an object")
  raiseIf (¬ data.hasExactlyKeys decisionKeys)
    (routingFailure (s!"routing_decision has incorrect keys: expected " ++
      s!"[{displayKeys decisionKeys}], got [{displayKeys data.keys}]"))
  let contractVersion ← validateInt (data.get "contract_version") "contract_version"
  raiseIf (contractVersion ≠ routingContractVersion)
    (routingFailure s!"routing_decision contract_version must be {routingContractVersion}")
  let policyVersion ← validateInt (data.get "policy_version") "policy_version"
  raiseIf (policyVersion ≠ routingPolicyVersion)
    (routingFailure s!"routing_decision policy_version must be {routingPolicyVersion}")
  raiseIf (data.get "routing_request_id" ≠ .str request.routingRequestId)
    (routingFailure "routing_decision routing_request_id mismatch")
  let kind := data.get "selection_kind"
  raiseIf (kind ≠ .str "automatic" ∧ kind ≠ .str "operator_override")
    (routingFailure s!"routing_decision selection_kind invalid: {kind.dumps}")
  match request.operatorOverrideAgentId with
  | none => raiseIf (kind ≠ .str "automatic") (routingFailure
      "routing_decision selection_kind must be automatic for non-override request")
  | some override => do
    raiseIf (kind ≠ .str "operator_override") (routingFailure
      "routing_decision selection_kind must be operator_override for override request")
    raiseIf (data.get "selected_agent_id" ≠ .str override) (routingFailure
      "routing_decision selected_agent_id does not match operator override")
  match data.get "eligible_candidates" with
  | .arr values => do
    raiseIf (values.length > maxCandidates) (routingFailure
      s!"routing_decision eligible_candidates exceed cap: {values.length} > {maxCandidates}")
    raiseIf (values = [])
      (routingFailure "routing_decision eligible_candidates must not be empty")
    let candidates ← validateCandidates request [] values
    raiseIf (outOfOrder request candidates)
      (routingFailure "routing_decision eligible_candidates are not in policy order")
    raiseIf (¬ candidates.any fun c =>
        data.get "selected_agent_id" = .str c.agentId &&
          data.get "selected_host_id" = .str c.hostId &&
          data.get "selected_runner_profile_id" = .str c.runnerProfileId &&
          data.get "selected_executor_definition_id" = .str c.executorDefinitionId &&
          data.get "selected_binding_id" = .str c.bindingId)
      (routingFailure "routing_decision selected candidate not in eligible_candidates")
    raiseIf (kind = .str "automatic" ∧
        (candidates.head?.map fun c => Json.str c.agentId) ≠ some (data.get "selected_agent_id"))
      (routingFailure "routing_decision automatic selection does not match first candidate")
    match data.get "routing_decision_id" with
    | .str decisionId => do
      raiseIf (¬ Text.matchSha256 decisionId)
        (routingFailure "routing_decision_id must be sha256:<64-lowercase-hex>")
      let body : Json := match data with
        | .obj fields => .obj (fields.filter fun field => field.1 ≠ "routing_decision_id")
        | other => other
      raiseIf (decisionId ≠ digestId body) (routingFailure
        s!"routing_decision_id digest mismatch: expected {digestId body}, got {decisionId}")
    | _ => throw (routingFailure "routing_decision_id must be sha256:<64-lowercase-hex>")
  | _ => throw (routingFailure "routing_decision eligible_candidates must be a list")

/-- Check that decision, binding, context and job agree; the two snapshots are dictionaries. -/
def validateRoutingCrossLinks (decision : Json) (job : JobRow) (binding context : Json) :
    Except ExecutorRoutingError Unit := do
  raiseIf (decision.get "selected_agent_id" ≠ .str job.assignedAgent)
    (routingFailure ("routing decision selected_agent_id " ++
      (decision.get "selected_agent_id").dumps ++ " does not match job assignment " ++
      Text.repr job.assignedAgent))
  raiseIf (decision.get "selected_runner_profile_id" ≠ .str job.runnerProfileId)
    (routingFailure ("routing decision selected_runner_profile_id " ++
      (decision.get "selected_runner_profile_id").dumps ++ " does not match job " ++
      s!"runner_profile_id {Text.repr job.runnerProfileId}"))
  match (itemsOf (decision.get "eligible_candidates")).find? fun c =>
    c.get "agent_id" = decision.get "selected_agent_id" with
  | none => throw (routingFailure
      "routing decision selected candidate missing from eligible_candidates")
  | some candidate => do
    raiseIf (¬ (binding.get "binding_id").pyEq (decision.get "selected_binding_id"))
      (routingFailure "routing decision selected_binding_id does not match stored binding")
    raiseIf (¬ (binding.get "executor_instance_id").pyEq (decision.get "selected_agent_id"))
      (routingFailure "routing decision selected_agent_id does not match stored binding")
    raiseIf (¬ (binding.get "runner_profile_id").pyEq (decision.get "selected_runner_profile_id"))
      (routingFailure "routing decision selected_runner_profile_id does not match stored binding")
    raiseIf (¬ (binding.get "executor_definition_id").pyEq
        (decision.get "selected_executor_definition_id"))
      (routingFailure
        "routing decision selected_executor_definition_id does not match stored binding")
    raiseIf (¬ (candidate.get "source_id").pyEq (binding.get "source_id"))
      (routingFailure "routing decision candidate source_id does not match stored binding")
    raiseIf (¬ (candidate.get "source_version").pyEq (binding.get "source_version"))
      (routingFailure "routing decision candidate source_version does not match stored binding")
    raiseIf (¬ (candidate.get "catalog_hash").pyEq (binding.get "catalog_hash"))
      (routingFailure "routing decision candidate catalog_hash does not match stored binding")
    raiseIf (¬ (candidate.get "capabilities").pyEq (binding.get "capabilities"))
      (routingFailure "routing decision candidate capabilities do not match stored binding")
  raiseIf (context.get "workspace_id" ≠ .str job.workspaceId)
    (routingFailure "routing execution_context workspace_id does not match job")
  raiseIf (context.get "task_id" ≠ .ofOption job.taskId)
    (routingFailure "routing execution_context task_id does not match job")
  raiseIf (context.get "job_id" ≠ .str job.id)
    (routingFailure "routing execution_context job_id does not match job")
  raiseIf (¬ (context.get "assigned_agent").pyEq (decision.get "selected_agent_id"))
    (routingFailure "routing execution_context assigned_agent does not match decision")
  raiseIf (¬ (context.get "host_id").pyEq (decision.get "selected_host_id"))
    (routingFailure "routing execution_context host_id does not match decision")

/-- The redacted routing evidence of a claim; `{}` for an exact job. A `selection_kind` that is not
hashable makes the membership test raise `TypeError`. -/
def routingClaimEvidence (payload : Json) (job : JobRow) : Except Exn Json := do
  let requestData := payload.get "routing_request"
  let decisionData := payload.get "routing_decision"
  if requestData = .null ∧ decisionData = .null then return .obj []
  raiseIf (requestData = .null ∨ decisionData = .null) (Exn.routing (routingFailure
    "routing_request and routing_decision must both be present or both absent"))
  let request ← orRaise Exn.routing (parseRequest requestData)
  orRaise id (checkHashable decisionData request)
  orRaise Exn.routing (validateRoutingDecision decisionData request)
  let binding := payload.get "executor_binding"
  let context := payload.get "execution_context"
  raiseIf (binding = .null ∨ context = .null) (Exn.routing (routingFailure
    "routed job requires executor_binding and execution_context snapshots"))
  orRaise Exn.routing (validateRoutingCrossLinks decisionData job binding context)
  return .obj [("routing_request_id", .str request.routingRequestId),
    ("routing_decision_id", decisionData.get "routing_decision_id"),
    ("selection_kind", decisionData.get "selection_kind")]
where
  /-- The set membership `selection_kind not in {...}` of `validate_routing_decision`, reached
  after its first four checks. -/
  checkHashable (data : Json) (request : RoutingRequest) : Except Exn Unit :=
    match data.get "selection_kind" with
    | .arr _ | .obj _ =>
      if data.isObj ∧ data.hasExactlyKeys decisionKeys ∧
          data.get "contract_version" = .int routingContractVersion ∧
          data.get "policy_version" = .int routingPolicyVersion ∧
          data.get "routing_request_id" = .str request.routingRequestId
      then throw (Exn.type "unhashable type")
      else return ()
    | _ => return ()

end Validation

end Coordinate

import Coordinate.Model.ExecutorRouting

/-! # Building a routing request

`build_routing_request` (`executor_routing.py`): what a caller supplies is validated and normalized, and
the request carries the digest of its own fields. `parse_routing_request` reads such a request back.
-/

namespace Coordinate.Routing

variable [Platform]

section Capabilities

/-- The items of a supplied capability list, each a label. -/
def collectCapabilities (label : String) : List Json → Except ExecutorRoutingError (List String)
  | [] => return []
  | item :: rest => do
    let cap ← validateSafeLabel item s!"{label} item" maxCapabilityLen
    let later ← collectCapabilities label rest
    return cap :: later

/-- Sort, deduplicate and validate the labels of a caller. -/
def normalizeCapabilities (value : Json) (label : String) : Except ExecutorRoutingError (List String) :=
  match value with
  | .arr values => do
    raiseIf (values = []) (ExecutorRoutingError.mk s!"{label} must contain at least one capability")
    let items ← collectCapabilities label values
    let seen := items.dedup
    raiseIf (seen.length > maxCapabilities) (ExecutorRoutingError.mk
      s!"{label} exceeds maximum cardinality: {seen.length} > {maxCapabilities}")
    return sortBy (· < ·) seen
  | _ => throw (ExecutorRoutingError.mk s!"{label} must be a list")

end Capabilities

section Override

/-- Strip the audit text of a caller and require one. -/
def normalizeOverrideReason (value : Json) : Except ExecutorRoutingError String :=
  match value with
  | .str text => do
    let stripped := Text.strip text
    raiseIf (stripped = "") (ExecutorRoutingError.mk
      "operator_override_reason is required when override is supplied")
    validateReasonText stripped "operator_override_reason"
  | _ => throw (ExecutorRoutingError.mk "operator_override_reason must be a string")

/-- `_validate_override_pair` for either validator of the reason. -/
def overridePair (reasonValidator : Json → Except ExecutorRoutingError String) (agentId reason : Json) :
    Except ExecutorRoutingError (Option String × Option String) := do
  if agentId = .null ∧ reason = .null then return (none, none)
  raiseIf (agentId = .null ∨ reason = .null) (ExecutorRoutingError.mk
    ("operator_override_agent_id and operator_override_reason must both be supplied or both " ++
      "absent"))
  let agent ← validateSafeLabel agentId "operator_override_agent_id" 256
  let text ← reasonValidator reason
  return (some agent, some text)

theorem validateOverridePair_eq : validateOverridePair = overridePair validateCanonicalReason := rfl

end Override

/-- The keyword arguments of `build_routing_request`; an omitted one is `None`. -/
structure RoutingArguments where
  requiredCapabilities : Json
  executorDefinitionId : Json := .null
  preferredHostId : Json := .null
  operatorOverrideAgentId : Json := .null
  operatorOverrideReason : Json := .null
deriving DecidableEq

/-- Build a request from the values of a caller. -/
def buildRequest (args : RoutingArguments) : Except ExecutorRoutingError RoutingRequest := do
  let requiredCapabilities ← normalizeCapabilities args.requiredCapabilities "required_capabilities"
  let executorDefinitionId ←
    validateOptionalSafeLabel args.executorDefinitionId "executor_definition_id" 256
  let preferredHostId ← validateOptionalSafeLabel args.preferredHostId "preferred_host_id" 64
  let (operatorOverrideAgentId, operatorOverrideReason) ←
    overridePair normalizeOverrideReason args.operatorOverrideAgentId args.operatorOverrideReason
  let request : RoutingRequest :=
    { requiredCapabilities, executorDefinitionId, preferredHostId, operatorOverrideAgentId,
      operatorOverrideReason, routingRequestId := "" }
  return { request with routingRequestId := digestId (requestBody request) }

end Coordinate.Routing

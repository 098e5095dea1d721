import Coordinate.Model.Report

/-! # Registration and deactivation of agents

`register_agent`, `heartbeat_agent` and `deactivate_agent` of `runtime.py`, with the audit chain of
deactivations.
-/

namespace Coordinate

variable [Platform]

/-- The arguments of `register_agent`. -/
structure Registration where
  agentId : String
  hostId : String
  capabilities : Json := .obj []
  clientType : String := "agentd"
  actor : String := "runtime"
deriving DecidableEq, Repr

/-- `INSERT INTO agents ... ON CONFLICT(id) DO UPDATE`. -/
def upsertAgent (row : AgentRow) : DbTxn Unit := do
  let known ← Txn.read fun db => (getAgent db row.id).isSome
  if known then writeAgents fun agents => agents.update? (·.id = row.id) fun _ => row
  else writeAgents fun agents => agents.insert? row

/-- `register_agent`; the agent, its runner profile and its event are separate transactions. -/
def registerAgent (registration : Registration) : DbTx EventDict := do
  raiseIf (Text.isBlank registration.agentId) (runtimeFailure "agent_id is required")
  raiseIf (Text.isBlank registration.hostId) (runtimeFailure "host_id is required")
  raiseIf (registration.clientType ≠ "agentd" ∧ registration.clientType ≠ "bridge")
    (runtimeFailure "client_type must be agentd or bridge")
  let seenAt ← Tx.clock now
  Tx.within (upsertAgent
    { id := registration.agentId, clientType := some registration.clientType,
      onlineState := "online", hostId := some registration.hostId, lastSeenAt := some seenAt,
      updatedAt := seenAt, capabilitiesJson := .dumps registration.capabilities })
  Tx.commit
  if registration.clientType = "agentd" then
    let profile ← Tx.query (getRunnerProfile · registration.agentId)
    if (← orRaise id profile).isNone then
      Tx.within (insertRunnerProfile ⟨registration.agentId, "agentd", .dumps (.obj [])⟩)
      Tx.commit
  let event ← appendEventAndCommit
    { workspaceId := none, eventType := "agent.registered", actor := registration.actor,
      target := some registration.agentId, taskId := none,
      idempotencyKey := some (s!"runtime:agent:{registration.agentId}:registered:" ++
        s!"{registration.hostId}:{registration.clientType}")
      payload := .obj [("agent_id", .str registration.agentId), ("host_id", .str registration.hostId),
        ("client_type", .str registration.clientType), ("capabilities", registration.capabilities),
        ("last_seen_at", .str (Calendar.isoformat seenAt))] }
  orRaise id event.row.toDict

/-- `heartbeat_agent`. -/
def heartbeatAgent (agentId hostId actor : String) : DbTx EventDict := do
  match ← Tx.query (getAgent · agentId) with
  | none => throw (runtimeFailure s!"unknown agent: {agentId}")
  | some agent =>
    raiseIf ((nonEmpty agent.hostId).any (· ≠ hostId)) (runtimeFailure
      s!"agent {agentId} is registered on host {displayOption agent.hostId}")
    let seenAt ← Tx.clock now
    Tx.within (writeAgents fun agents => agents.update? (·.id = agentId) fun row =>
      { row with onlineState := "online", hostId := some hostId, lastSeenAt := some seenAt,
                 updatedAt := seenAt })
    Tx.commit
    let event ← appendEventAndCommit
      { workspaceId := none, eventType := "agent.heartbeat", actor, target := some agentId,
        taskId := none,
        idempotencyKey := some s!"runtime:agent:{agentId}:heartbeat:{Calendar.isoformat seenAt}"
        payload := .obj [("agent_id", .str agentId), ("host_id", .str hostId),
          ("last_seen_at", .str (Calendar.isoformat seenAt))] }
    orRaise id event.row.toDict

section Deactivation

/-- What keeps an agent from being deactivated, by category: a count and the least id. -/
structure Blocker where
  category : String
  count : Nat
  firstId : Option String
deriving DecidableEq, Repr

/-- `MIN(id)`. -/
def leastId (ids : List String) : Option String :=
  ids.foldl (fun least id => match least with
    | none => some id
    | some other => some (if id < other then id else other)) none

def blockerOf (category : String) (ids : List String) : Blocker :=
  ⟨category, ids.length, leastId ids⟩

/-- `_deactivation_blockers`. -/
def deactivationBlockers (db : Db) (agentId : String) : List Blocker :=
  let jobIds (p : JobRow → Bool) : List String :=
    (db.jobs.filter fun job => job.assignedAgent = agentId && p job).map (·.id)
  [blockerOf "active_leases" ((db.leases.filter fun lease =>
      lease.agentId = agentId && lease.status = .active).map (·.leaseId)),
    blockerOf "pending_jobs" (jobIds (·.status = .pending)),
    blockerOf "running_jobs" (jobIds (·.status = .running)),
    blockerOf "recoverable_timed_out_jobs"
      (jobIds fun job => job.status = .timedOut && job.recoverable)]

def deactivationKeys : List String :=
  ["agent_id", "host_id", "actor", "reason", "previous_online_state", "deactivated_at",
    "generation", "previous_deactivation_event_id"]

def deactivationKey (agentId : String) (generation : Nat) : String :=
  s!"runtime:agent:{agentId}:deactivated:{generation}"

def storedText (value : Json) (label : String) (maxLen : Nat) : Except RuntimeLeaseError Unit :=
  match value with
  | .str text => validateText text label maxLen
  | _ => throw (leaseRefusal s!"{label} must be a non-blank string")

def storedTimestamp (value : Json) (label : String) : Except RuntimeLeaseError Unit :=
  match value with
  | .str text => do
    raiseIf (¬ Calendar.hasShape text)
      (leaseRefusal s!"{label} must be exactly YYYY-MM-DDTHH:MM:SSZ in UTC")
    raiseIf (Calendar.parse text).isNone (leaseRefusal s!"{label} is not a valid UTC timestamp")
  | _ => throw (leaseRefusal s!"{label} must be a UTC timestamp string")

/-- The text fields of one stored deactivation. -/
def validateDeactivationTexts (event : EventRow) (payload : Json) :
    Except RuntimeLeaseError Unit := do
  validateId event.id "stored deactivation event id"
  storedText (payload.get "actor") "stored deactivation actor" maxIdLen
  storedText (payload.get "reason") "stored deactivation reason" maxReasonLen
  storedTimestamp (payload.get "deactivated_at") "stored deactivated_at"

/-- The chain of deactivation events from a generation on. -/
def validateDeactivations (agentId hostId : String) :
    Nat → Option String → List EventRow → Except Exn (List EventDict)
  | _, _, [] => return []
  | generation, previous, row :: rest => do
    let event ← row.toDict
    let payload := event.payload
    raiseIf (¬ payload.isObj ∨ ¬ payload.hasExactlyKeys deactivationKeys)
      (runtimeFailure "invalid agent.deactivated audit payload")
    raiseIf (payload.get "agent_id" ≠ .str agentId ∨ payload.get "host_id" ≠ .str hostId ∨
        payload.get "previous_online_state" ≠ .str "online" ∨
        payload.get "generation" ≠ .int generation ∨
        payload.get "previous_deactivation_event_id" ≠ .ofOption previous ∨
        payload.get "actor" ≠ .str row.actor ∨
        row.idempotencyKey ≠ deactivationKey agentId generation)
      (runtimeFailure "invalid agent.deactivated audit chain")
    orRaise (fun e : RuntimeLeaseError => runtimeFailure e.message)
      (validateDeactivationTexts row payload)
    let later ← validateDeactivations agentId hostId (generation + 1) (some row.id) rest
    return event :: later

/-- `_validated_deactivation_events`. -/
def validatedDeactivationEvents (db : Db) (agentId hostId : String) :
    Except Exn (List EventDict) :=
  validateDeactivations agentId hostId 1 none (db.events.filter fun event =>
    event.eventType = "agent.deactivated" && event.target = some agentId)

/-- The arguments of `deactivate_agent`. -/
structure Deactivation where
  agentId : String
  hostId : String
  reason : String
  actor : String := "runtime"
  dryRun : Bool := false
deriving DecidableEq, Repr

structure DeactivateResult where
  agent : AgentRow
  changed : Bool
  deactivated : Bool
  dryRun : Bool
  blocked : Bool
  reason : String
  blockers : List Blocker
  event : Option EventDict
  eventCreated : Bool
deriving DecidableEq, Repr

/-- The agent row of a deactivation, after its checks. -/
def checkDeactivation (db : Db) (request : Deactivation) : Except Exn AgentRow := do
  match getAgent db request.agentId with
  | none => throw (runtimeFailure s!"unknown agent: {request.agentId}")
  | some agent => do
    let _ ← decodeColumn agent.capabilitiesJson
    raiseIf (agent.clientType ≠ some "agentd") (runtimeFailure
      s!"only agentd clients can be deactivated, got {Text.reprOption agent.clientType}")
    match agent.hostId with
    | none | some "" =>
      throw (runtimeFailure s!"agent {Text.repr request.agentId} has no host_id")
    | some stored =>
      raiseIf (stored ≠ request.hostId) (runtimeFailure
        (s!"host mismatch for agent {Text.repr request.agentId}: stored={Text.repr stored}, " ++
          s!"requested={Text.repr request.hostId}"))
    raiseIf (agent.onlineState ≠ "online" ∧ agent.onlineState ≠ "offline") (runtimeFailure
      (s!"unknown online_state {Text.repr agent.onlineState} for agent " ++
        Text.repr request.agentId))
    return agent

/-- Take an online agent offline and append the next event of its chain. -/
def takeOffline (request : Deactivation) (prior : List EventDict) :
    DbTxn (AgentRow × EventDict) := do
  let generation := prior.length + 1
  let deactivatedAt ← utcNow
  let chosen (row : AgentRow) : Bool :=
    row.id = request.agentId && row.hostId = some request.hostId && row.onlineState = "online"
  let matched ← Txn.read fun db => (db.agents.filter chosen).length
  writeAgents fun agents => agents.update? chosen fun row =>
    { row with onlineState := "offline", updatedAt := deactivatedAt }
  raiseIf (matched ≠ 1) (runtimeFailure "agent deactivate compare-and-swap failed")
  let event ← appendEvent
    { workspaceId := none, eventType := "agent.deactivated", actor := request.actor,
      target := some request.agentId, taskId := none,
      idempotencyKey := some (deactivationKey request.agentId generation)
      payload := .obj [("agent_id", .str request.agentId), ("host_id", .str request.hostId),
        ("actor", .str request.actor), ("reason", .str request.reason),
        ("previous_online_state", .str "online"),
        ("deactivated_at", .str (Calendar.isoformat deactivatedAt)),
        ("generation", .int generation),
        ("previous_deactivation_event_id",
          .ofOption (prior.getLast?.map fun event => event.row.id))] }
  raiseIf (!event.created) (runtimeFailure
    s!"unexpected existing deactivation event for generation {generation}")
  let agent ← Txn.read (getAgent · request.agentId)
  match agent with
  | none => throw (runtimeFailure s!"unknown agent: {request.agentId}")
  | some agent => do
    let dict ← orRaise id event.row.toDict
    return (agent, dict)

/-- The body of `deactivate_agent`. -/
def deactivateAgentBody (request : Deactivation) : DbTxn DeactivateResult := do
  let db ← Txn.read id
  let agent ← orRaise id (checkDeactivation db request)
  let blockers := deactivationBlockers db request.agentId
  let unchanged (dryRun blocked : Bool) : DeactivateResult :=
    { agent, changed := false, deactivated := false, dryRun, blocked, reason := request.reason,
      blockers, event := none, eventCreated := false }
  if blockers.any (0 < ·.count) then return unchanged request.dryRun true
  if request.dryRun then return unchanged true false
  let prior ← orRaise id (validatedDeactivationEvents db request.agentId request.hostId)
  if agent.onlineState = "online" then
    let (updated, event) ← takeOffline request prior
    return { agent := updated, changed := true, deactivated := true, dryRun := false,
             blocked := false, reason := request.reason, blockers, event := some event,
             eventCreated := true }
  match prior.getLast? with
  | none => throw (runtimeFailure ("offline_without_deactivation_audit: " ++
      s!"agent {Text.repr request.agentId} is offline without a valid deactivation audit event"))
  | some latest =>
    return { agent, changed := false, deactivated := true, dryRun := false, blocked := false,
             reason := ((latest.payload.get "reason").asStr?).getD "", blockers,
             event := some latest, eventCreated := false }

/-- `deactivate_agent`. -/
def deactivateAgent (request : Deactivation) : DbTx DeactivateResult := do
  orRaise (fun e : RuntimeLeaseError => runtimeFailure e.message) (do
    validateId request.agentId "agent_id"
    validateId request.hostId "host_id"
    validateReason request.reason "reason"
    validateId request.actor "actor")
  Tx.atomically Exn.nestedBegin (deactivateAgentBody request)

end Deactivation

end Coordinate

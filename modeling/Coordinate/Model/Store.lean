import Coordinate.Library.Table
import Coordinate.Model.Records

/-! # The coordinator database

The tables that the runtime reads and writes, each with the primary keys, unique indexes and `CHECK`
constraints of `schema.py`, and the primitives of `db.py` on them. Columns that no modelled function
reads are left out. A transaction body is a `Txn` and a call on a connection is a `Tx`.
-/

namespace Coordinate

inductive JobStatus where
  | pending
  | running
  | done
  | failed
  | timedOut
  | cancelled
deriving DecidableEq, Repr, Inhabited

/-- The text stored in the `status` column. -/
def JobStatus.text : JobStatus → String
  | pending => "pending"
  | running => "running"
  | done => "done"
  | failed => "failed"
  | timedOut => "timed_out"
  | cancelled => "cancelled"

inductive LeaseStatus where
  | active
  | released
  | expired
deriving DecidableEq, Repr, Inhabited

def LeaseStatus.text : LeaseStatus → String
  | active => "active"
  | released => "released"
  | expired => "expired"

/-- `workspace_host_profiles`. -/
structure HostProfileRow where
  workspaceId : String
  hostId : String
  workspacePath : String
  harnessRoot : Option String := none
  metadataJson : JsonText := .value (.obj [])
  worktreeRootsJson : JsonText := .value (.arr [])
deriving DecidableEq, Repr

structure AgentRow where
  id : String
  clientType : Option String := none
  onlineState : String
  hostId : Option String := none
  lastSeenAt : Option Nat := none
  updatedAt : Nat := 0
  capabilitiesJson : JsonText := .value (.obj [])
deriving DecidableEq, Repr

structure RunnerProfileRow where
  id : String
  runnerType : String
  envJson : JsonText := .value (.obj [])
deriving DecidableEq, Repr

inductive RegistryEntryKind where
  | override
  | authoritative
  | legacy
deriving DecidableEq, Repr

/-- `workspace_agent_registry_entries`. -/
structure RegistryEntryRow where
  workspaceId : String
  agentName : String
  entryKind : RegistryEntryKind
  discordUserId : String
  displayName : String
  agentType : String
  expiresAt : Option String := none
deriving DecidableEq, Repr

/-- `workspace_agent_registry_sources`. -/
structure RegistrySourceRow where
  workspaceId : String
  sourceId : String
  sourceVersion : Int
  sourceHash : String
deriving DecidableEq, Repr

/-- `channel_bindings`. -/
structure ChannelBindingRow where
  platform : String
  channelId : String
  workspaceId : String
  boundAt : Nat
deriving DecidableEq, Repr

/-- `executor_catalog_sources`. -/
structure CatalogSourceRow where
  sourceId : String
  sourceVersion : Int
  catalogHash : String
deriving DecidableEq, Repr

/-- `executor_definitions`. -/
structure DefinitionRow where
  id : String
  sourceId : String
  provider : String
  adapter : String
  capabilitiesJson : JsonText
deriving DecidableEq, Repr

/-- `executor_instance_bindings`. -/
structure BindingRow where
  agentId : String
  sourceId : String
  executorDefinitionId : String
  runnerProfileId : String
  enabled : Bool
deriving DecidableEq, Repr

/-- `executor_capacity_sources`. -/
structure CapacitySourceRow where
  sourceId : String
  sourceVersion : Int
  catalogHash : String
  sourcePath : Option String
  updatedAt : String
deriving DecidableEq, Repr

/-- `executor_capacity_policies`. -/
structure CapacityPolicyRow where
  agentId : String
  sourceId : String
  sourceVersion : Int
  catalogHash : String
  capacityPolicyId : String
  maxConcurrentJobs : Int
  createdAt : String
  updatedAt : String
deriving DecidableEq, Repr

structure JobRow where
  id : String
  workspaceId : String
  taskId : Option String
  runnerProfileId : String
  assignedAgent : String
  status : JobStatus
  promptPath : Option String := none
  branch : Option String := none
  worktreePath : Option String := none
  terminalSessionId : Option String := none
  logsPath : Option String := none
  attemptCount : Nat := 0
  timeoutSeconds : Option Int := none
  payloadJson : JsonText
  resultJson : Option JsonText := none
  createdAt : Nat
  startedAt : Option Nat := none
  completedAt : Option Nat := none
  lastActivityAt : Option Nat := none
  progressJson : Option JsonText := none
  recoverable : Bool := false
  updatedAt : Nat
deriving DecidableEq, Repr

/-- `execution_attempt_leases`. -/
structure LeaseRow where
  leaseId : String
  jobId : String
  attemptToken : Nat
  agentId : String
  runnerProfileId : String
  hostId : String
  resourceKind : String
  resourceKey : String
  normalizedPath : String
  capacityPolicyId : String
  maxConcurrentJobs : Int
  status : LeaseStatus
  acquiredAt : Nat
  renewedAt : Nat
  expiresAt : Nat
  releasedAt : Option Nat := none
  releaseReason : Option String := none
deriving DecidableEq, Repr

structure EventRow where
  id : String
  workspaceId : Option String
  eventType : String
  actor : String
  target : Option String
  taskId : Option String
  causationId : Option String := none
  idempotencyKey : String
  payloadJson : JsonText
  createdAt : Nat
deriving DecidableEq, Repr

structure DeliveryRow where
  id : String
  eventId : Option String
  platform : String
  destination : String
  messageKey : String
  status : String
  payloadJson : JsonText
  attemptCount : Nat := 0
  platformMessageId : Option String := none
  lastError : Option String := none
  createdAt : Nat
deriving DecidableEq, Repr

/-- `job_attempt_usage`. -/
structure UsageRow where
  jobId : String
  attemptToken : Nat
  workspaceId : Option String
  taskId : Option String
  evidenceJson : JsonText
  evidenceDigest : String
  observedTokens : Option Int
  providerCostMicrousd : Option Int
  completeness : String
  terminalEventId : Option String
  eventCreated : Bool
  recordedAt : Nat
deriving DecidableEq, Repr

/-- `task_usage_warning_policies`. -/
structure WarningPolicyRow where
  workspaceId : String
  taskId : String
  revision : Int
  observedTokensThreshold : Int
  enabled : Bool
deriving DecidableEq, Repr

/-- A table whose only unique index is its primary key. -/
def keyedBy {Row Key : Type} [DecidableEq Key] (key : Row → Key)
    (check : Row → Bool := fun _ => true) : Schema Row where
  check := check
  clash a b := key a = key b
  clash_symm a b := by simp [eq_comm]

/-- `X GLOB 'sha256:*' AND length(X) = 71`. -/
def isKeyText (s : String) : Bool :=
  Text.startsWith s "sha256:" && s.toList.length = 71

def LeaseRow.check (lease : LeaseRow) : Bool :=
  0 < lease.attemptToken && 1 ≤ lease.hostId.toList.length && lease.hostId.toList.length ≤ 64 &&
    lease.resourceKind = "worktree" && isKeyText lease.resourceKey &&
    1 ≤ lease.normalizedPath.toList.length && lease.normalizedPath.toList.length ≤ 4096 &&
    isKeyText lease.capacityPolicyId && 1 ≤ lease.maxConcurrentJobs &&
    lease.maxConcurrentJobs ≤ 32 &&
    (lease.status ≠ .released || (lease.releasedAt.isSome && lease.releaseReason.isSome)) &&
    (lease.status = .released || (lease.releasedAt.isNone && lease.releaseReason.isNone)) &&
    lease.releaseReason.all (fun reason => 1 ≤ reason.toList.length && reason.toList.length ≤ 256) &&
    lease.acquiredAt ≤ lease.renewedAt && lease.renewedAt ≤ lease.expiresAt &&
    lease.releasedAt.all (fun released => lease.acquiredAt ≤ released)

def LeaseRow.clash (a b : LeaseRow) : Bool :=
  a.leaseId = b.leaseId || (a.jobId = b.jobId && a.attemptToken = b.attemptToken) ||
    (a.resourceKey = b.resourceKey && a.status = .active && b.status = .active)

def leaseSchema : Schema LeaseRow where
  check := LeaseRow.check
  clash := LeaseRow.clash
  clash_symm a b := by
    simp only [LeaseRow.clash, eq_comm (a := a.leaseId), eq_comm (a := a.jobId),
      eq_comm (a := a.attemptToken), eq_comm (a := a.resourceKey)]
    cases decide (a.status = .active) <;> cases decide (b.status = .active) <;> simp

def taskSchema : Schema TaskMirror where
  check _ := true
  clash a b := a.sameTask b || a.sameBranch b || a.samePr b
  clash_symm a b := by
    have branches : a.sameBranch b = b.sameBranch a := by
      simp only [TaskMirror.sameBranch]
      grind
    have prs : a.samePr b = b.samePr a := by
      simp only [TaskMirror.samePr]
      grind
    rw [branches, prs]
    simp only [TaskMirror.sameTask, eq_comm]

def eventSchema : Schema EventRow where
  check _ := true
  clash a b := a.id = b.id || a.idempotencyKey = b.idempotencyKey
  clash_symm a b := by
    simp only [eq_comm (a := a.id), eq_comm (a := a.idempotencyKey)]

def deliverySchema : Schema DeliveryRow where
  check _ := true
  clash a b := a.id = b.id || a.messageKey = b.messageKey
  clash_symm a b := by
    simp only [eq_comm (a := a.id), eq_comm (a := a.messageKey)]

def UsageRow.check (usage : UsageRow) : Bool :=
  0 < usage.attemptToken &&
    ["complete", "partial", "unknown"].contains usage.completeness &&
    usage.observedTokens.all (0 ≤ ·) && usage.providerCostMicrousd.all (0 ≤ ·)

structure Db where
  workspaces : Table (keyedBy Workspace.id)
  hostProfiles : Table (keyedBy fun row : HostProfileRow => (row.workspaceId, row.hostId))
  tasks : Table taskSchema
  agents : Table (keyedBy AgentRow.id)
  runnerProfiles : Table (keyedBy RunnerProfileRow.id)
  registryEntries : Table
    (keyedBy fun row : RegistryEntryRow => (row.workspaceId, row.agentName, row.entryKind))
  registrySources : Table (keyedBy RegistrySourceRow.workspaceId)
  channelBindings : Table
    (keyedBy fun row : ChannelBindingRow => (row.platform, row.channelId))
  catalogSources : Table (keyedBy CatalogSourceRow.sourceId)
  definitions : Table (keyedBy DefinitionRow.id)
  bindings : Table (keyedBy BindingRow.agentId)
  capacitySources : Table (keyedBy CapacitySourceRow.sourceId)
  capacityPolicies : Table
    (keyedBy CapacityPolicyRow.agentId fun row =>
      1 ≤ row.maxConcurrentJobs && row.maxConcurrentJobs ≤ 32)
  warningPolicies : Table (keyedBy (fun row : WarningPolicyRow => (row.workspaceId, row.taskId))
    fun row => 0 < row.revision && 0 < row.observedTokensThreshold)
  jobs : Table (keyedBy JobRow.id)
  leases : Table leaseSchema
  events : Table eventSchema
  deliveries : Table deliverySchema
  usage : Table (keyedBy (fun row : UsageRow => (row.jobId, row.attemptToken)) UsageRow.check)
deriving DecidableEq

/-- The store right after the migrations. -/
def Db.empty : Db where
  workspaces := .empty
  hostProfiles := .empty
  tasks := .empty
  agents := .empty
  runnerProfiles := .empty
  registryEntries := .empty
  registrySources := .empty
  channelBindings := .empty
  catalogSources := .empty
  definitions := .empty
  bindings := .empty
  capacitySources := .empty
  capacityPolicies := .empty
  warningPolicies := .empty
  jobs := .empty
  leases := .empty
  events := .empty
  deliveries := .empty
  usage := .empty

/-- The columns of a job that no statement of the runtime writes again. -/
structure JobRow.Continues (old new : JobRow) : Prop where
  id : new.id = old.id
  workspaceId : new.workspaceId = old.workspaceId
  taskId : new.taskId = old.taskId
  runnerProfileId : new.runnerProfileId = old.runnerProfileId
  assignedAgent : new.assignedAgent = old.assignedAgent
  worktreePath : new.worktreePath = old.worktreePath
  createdAt : new.createdAt = old.createdAt

/-- The columns of a lease that no statement writes again; a lease that has ended stays so. -/
structure LeaseRow.Continues (old new : LeaseRow) : Prop where
  leaseId : new.leaseId = old.leaseId
  jobId : new.jobId = old.jobId
  attemptToken : new.attemptToken = old.attemptToken
  agentId : new.agentId = old.agentId
  runnerProfileId : new.runnerProfileId = old.runnerProfileId
  hostId : new.hostId = old.hostId
  resourceKey : new.resourceKey = old.resourceKey
  normalizedPath : new.normalizedPath = old.normalizedPath
  acquiredAt : new.acquiredAt = old.acquiredAt
  ended : old.status ≠ .active → new.status ≠ .active

namespace JobRow.Continues

theorem refl (job : JobRow) : job.Continues job := by constructor <;> rfl

theorem trans {a b c : JobRow} (ab : a.Continues b) (bc : b.Continues c) : a.Continues c where
  id := bc.id.trans ab.id
  workspaceId := bc.workspaceId.trans ab.workspaceId
  taskId := bc.taskId.trans ab.taskId
  runnerProfileId := bc.runnerProfileId.trans ab.runnerProfileId
  assignedAgent := bc.assignedAgent.trans ab.assignedAgent
  worktreePath := bc.worktreePath.trans ab.worktreePath
  createdAt := bc.createdAt.trans ab.createdAt

end JobRow.Continues

namespace LeaseRow.Continues

theorem refl (lease : LeaseRow) : lease.Continues lease := by constructor <;> first | rfl | exact id

theorem trans {a b c : LeaseRow} (ab : a.Continues b) (bc : b.Continues c) : a.Continues c where
  leaseId := bc.leaseId.trans ab.leaseId
  jobId := bc.jobId.trans ab.jobId
  attemptToken := bc.attemptToken.trans ab.attemptToken
  agentId := bc.agentId.trans ab.agentId
  runnerProfileId := bc.runnerProfileId.trans ab.runnerProfileId
  hostId := bc.hostId.trans ab.hostId
  resourceKey := bc.resourceKey.trans ab.resourceKey
  normalizedPath := bc.normalizedPath.trans ab.normalizedPath
  acquiredAt := bc.acquiredAt.trans ab.acquiredAt
  ended := bc.ended ∘ ab.ended

end LeaseRow.Continues

/-- What every later store still holds: the ledgers as a prefix, each job and each lease with the
columns that are written once. -/
structure Db.Grows (s t : Db) : Prop where
  events : s.events.rows <+: t.events.rows
  deliveries : s.deliveries.rows <+: t.deliveries.rows
  usage : s.usage.rows <+: t.usage.rows
  jobs : ∀ job ∈ s.jobs, ∃ later ∈ t.jobs, job.Continues later
  leases : ∀ lease ∈ s.leases, ∃ later ∈ t.leases, lease.Continues later

namespace Db.Grows

/-- A statement that leaves the ledgers, the jobs and the leases alone. -/
theorem of_eq {s t : Db} (events : t.events = s.events) (deliveries : t.deliveries = s.deliveries)
    (usage : t.usage = s.usage) (jobs : t.jobs = s.jobs) (leases : t.leases = s.leases) :
    s.Grows t where
  events := events ▸ List.prefix_rfl
  deliveries := deliveries ▸ List.prefix_rfl
  usage := usage ▸ List.prefix_rfl
  jobs job member := ⟨job, jobs ▸ member, .refl job⟩
  leases lease member := ⟨lease, leases ▸ member, .refl lease⟩

theorem refl (s : Db) : s.Grows s := of_eq rfl rfl rfl rfl rfl

theorem trans {s t u : Db} (st : s.Grows t) (tu : t.Grows u) : s.Grows u where
  events := st.events.trans tu.events
  deliveries := st.deliveries.trans tu.deliveries
  usage := st.usage.trans tu.usage
  jobs job member := by
    obtain ⟨middle, middleMember, first⟩ := st.jobs job member
    obtain ⟨later, laterMember, second⟩ := tu.jobs middle middleMember
    exact ⟨later, laterMember, first.trans second⟩
  leases lease member := by
    obtain ⟨middle, middleMember, first⟩ := st.leases lease member
    obtain ⟨later, laterMember, second⟩ := tu.leases middle middleMember
    exact ⟨later, laterMember, first.trans second⟩

end Db.Grows

instance : Archive Db := ⟨Db.Grows, Db.Grows.refl, Db.Grows.trans⟩

abbrev DbTxn := Txn Exn Db

abbrev DbTx := Tx Exn Db

section Statements

/-- A statement on one table, which replaces it unless a constraint fails. -/
def replaceTable {T : Type} (next : Db → Option T) (put : Db → T → Db)
    (growing : ∀ db table, next db = some table → db.Grows (put db table)) : DbTxn Unit :=
  Txn.write Exn.integrity (fun db => (next db).map (put db)) fun s t written => by
    obtain ⟨table, replaced, rfl⟩ := Option.map_eq_some_iff.mp written
    exact growing s table replaced

def insertEvent (row : EventRow) : DbTxn Unit :=
  replaceTable (·.events.insert? row) (fun db events => { db with events })
    fun db _ inserted => { Db.Grows.refl db with
      events := ⟨[row], (Table.insert?_rows inserted).symm⟩ }

def insertDelivery (row : DeliveryRow) : DbTxn Unit :=
  replaceTable (·.deliveries.insert? row) (fun db deliveries => { db with deliveries })
    fun db _ inserted => { Db.Grows.refl db with
      deliveries := ⟨[row], (Table.insert?_rows inserted).symm⟩ }

def insertUsage (row : UsageRow) : DbTxn Unit :=
  replaceTable (·.usage.insert? row) (fun db usage => { db with usage })
    fun db _ inserted => { Db.Grows.refl db with
      usage := ⟨[row], (Table.insert?_rows inserted).symm⟩ }

def insertJob (row : JobRow) : DbTxn Unit :=
  replaceTable (·.jobs.insert? row) (fun db jobs => { db with jobs })
    fun db _ inserted => { Db.Grows.refl db with
      jobs := fun job member => ⟨job, (Table.mem_insert? inserted).mpr (.inl member), .refl job⟩ }

def insertLease (row : LeaseRow) : DbTxn Unit :=
  replaceTable (·.leases.insert? row) (fun db leases => { db with leases })
    fun db _ inserted => { Db.Grows.refl db with
      leases := fun lease member =>
        ⟨lease, (Table.mem_insert? inserted).mpr (.inl member), .refl lease⟩ }

/-- `UPDATE jobs ... WHERE`, with the number of matched rows as the result. -/
def updateJobs (p : JobRow → Bool) (f : JobRow → JobRow)
    (keeps : ∀ row : JobRow, row.Continues (f row) := by intro row; constructor <;> rfl) : DbTxn Nat := do
  let matched ← Txn.read fun db => (db.jobs.filter p).length
  replaceTable (·.jobs.update? p f) (fun db jobs => { db with jobs })
    fun db _ updated => { Db.Grows.refl db with
      jobs := fun job member => by
        refine ⟨_, (Table.mem_update? updated).mpr ⟨job, member, rfl⟩, ?_⟩
        split
        · exact keeps job
        · exact .refl job }
  return matched

/-- `UPDATE execution_attempt_leases ... WHERE`. -/
def updateLeases (p : LeaseRow → Bool) (f : LeaseRow → LeaseRow)
    (keeps : ∀ row : LeaseRow, row.Continues (f row) := by
      intro row; constructor <;> first | rfl | exact id | exact fun _ => nofun) : DbTxn Unit :=
  replaceTable (·.leases.update? p f) (fun db leases => { db with leases })
    fun db _ updated => { Db.Grows.refl db with
      leases := fun lease member => by
        refine ⟨_, (Table.mem_update? updated).mpr ⟨lease, member, rfl⟩, ?_⟩
        split
        · exact keeps lease
        · exact .refl lease }

def writeAgents (next : Table (keyedBy AgentRow.id) → Option (Table (keyedBy AgentRow.id))) :
    DbTxn Unit :=
  replaceTable (fun db => next db.agents) (fun db agents => { db with agents })
    fun _ _ _ => .of_eq rfl rfl rfl rfl rfl

def insertRunnerProfile (row : RunnerProfileRow) : DbTxn Unit :=
  replaceTable (·.runnerProfiles.insert? row) (fun db runnerProfiles => { db with runnerProfiles })
    fun _ _ _ => .of_eq rfl rfl rfl rfl rfl

end Statements

section Readers

variable [Platform]

def getWorkspace (db : Db) (workspaceId : String) : Option Workspace :=
  db.workspaces.find? (·.id = workspaceId)

/-- `list_events` with the row identifiers: events are never deleted, so they count from one. -/
def listEvents (db : Db) (workspaceId : String) : List (Nat × EventRow) :=
  let rows := db.events.rows.zipIdx.map fun (row, index) => (index + 1, row)
  if workspaceId = "" then rows else rows.filter fun (_, row) => row.workspaceId = some workspaceId

/-- `WorkspaceHostProfile.from_row`, which parses both JSON columns. -/
def WorkspaceHostProfile.fromRow (row : HostProfileRow) : Except Exn WorkspaceHostProfile := do
  match row.metadataJson with
  | .blank => pure ()
  | text => let _ ← orRaise Exn.value text.loads
  let worktreeRoots ← parseNormalizedWorktreeRoots row.worktreeRootsJson row.workspacePath
  return ⟨row.workspaceId, row.hostId, row.workspacePath, row.harnessRoot, worktreeRoots⟩

def getWorkspaceHostProfile (db : Db) (workspaceId hostId : String) :
    Except Exn (Option WorkspaceHostProfile) :=
  match db.hostProfiles.find? (fun row => row.workspaceId = workspaceId && row.hostId = hostId) with
  | none => return none
  | some row => some <$> WorkspaceHostProfile.fromRow row

/-- `get_runner_profile`, which parses the environment. -/
def getRunnerProfile (db : Db) (profileId : String) : Except Exn (Option RunnerProfileRow) :=
  match db.runnerProfiles.find? (·.id = profileId) with
  | none => return none
  | some row => do
    let _ ← orRaise Exn.value row.envJson.loads
    return some row

/-- `_task_mirror`, whose `row_to_dict` parses the payload. -/
def taskMirror (db : Db) (workspaceId taskId : String) : Except Exn (Option TaskMirror) :=
  match db.tasks.find? (fun row => row.workspaceId = workspaceId && row.taskId = taskId) with
  | none => return none
  | some row => do
    let _ ← orRaise Exn.value row.payloadJson.loads
    return some row

def getAgent (db : Db) (agentId : String) : Option AgentRow :=
  db.agents.find? (·.id = agentId)

def findJob (db : Db) (jobId : String) : Option JobRow :=
  db.jobs.find? (·.id = jobId)

/-- `get_job`, which raises `KeyError`. -/
def getJob (db : Db) (jobId : String) : Except Exn JobRow :=
  match findJob db jobId with
  | some job => return job
  | none => throw (Exn.key jobId)

def findEventByKey (db : Db) (key : String) : Option EventRow :=
  db.events.find? (·.idempotencyKey = key)

def findLease (db : Db) (leaseId : String) : Option LeaseRow :=
  db.leases.find? (·.leaseId = leaseId)

end Readers

/-- A row with its JSON columns decoded: `row_to_dict` of a job. -/
structure JobDict where
  row : JobRow
  payload : Json
  result : Option Json
  progress : Option Json
deriving DecidableEq, Repr

structure EventDict where
  row : EventRow
  payload : Json
deriving DecidableEq, Repr

structure DeliveryDict where
  row : DeliveryRow
  payload : Json
deriving DecidableEq, Repr

def decodeColumn (text : JsonText) : Except Exn Json :=
  orRaise Exn.value text.loads

def decodeNullable : Option JsonText → Except Exn (Option Json)
  | none => return none
  | some text => some <$> decodeColumn text

def JobRow.toDict (row : JobRow) : Except Exn JobDict := do
  let payload ← decodeColumn row.payloadJson
  let result ← decodeNullable row.resultJson
  let progress ← decodeNullable row.progressJson
  return ⟨row, payload, result, progress⟩

def EventRow.toDict (row : EventRow) : Except Exn EventDict := do
  let payload ← decodeColumn row.payloadJson
  return ⟨row, payload⟩

def DeliveryRow.toDict (row : DeliveryRow) : Except Exn DeliveryDict := do
  let payload ← decodeColumn row.payloadJson
  return ⟨row, payload⟩

section Writers

variable [Platform]

def utcNow : DbTxn Nat := Txn.clock now

def newUuid : DbTxn String := Txn.draw Platform.uuid4

/-- Run a reader that may raise against the store of the transaction. -/
def readOrRaise {α : Type} (f : Db → Except Exn α) : DbTxn α := do
  let result ← Txn.read f
  orRaise id result

structure NewEvent where
  workspaceId : Option String
  eventType : String
  actor : String
  target : Option String
  taskId : Option String
  causationId : Option String := none
  idempotencyKey : Option String
  payload : Json

structure AppendEventResult where
  row : EventRow
  created : Bool
deriving DecidableEq, Repr

/-- The row of an event; an empty idempotency key counts as missing. -/
def NewEvent.toRow (event : NewEvent) (eventId : String) (createdAt : Nat) : EventRow where
  id := eventId
  workspaceId := event.workspaceId
  eventType := event.eventType
  actor := event.actor
  target := event.target
  taskId := event.taskId
  causationId := event.causationId
  idempotencyKey := (event.idempotencyKey.filter (· ≠ "")).getD eventId
  payloadJson := .dumps event.payload
  createdAt

/-- `append_event(..., commit=False)`: a key that is taken returns the earlier row. -/
def appendEvent (event : NewEvent) : DbTxn AppendEventResult := do
  let eventId ← newUuid
  let createdAt ← utcNow
  let row := event.toRow eventId createdAt
  let inserted ← Txn.read fun db => db.events.insert? row
  match inserted with
  | some _ =>
    insertEvent row
    return ⟨row, true⟩
  | none =>
    let existing ← Txn.read (findEventByKey · row.idempotencyKey)
    match existing with
    | some earlier => return ⟨earlier, false⟩
    | none => throw Exn.integrity

/-- `append_event` with its own commit, which a taken key skips. -/
def appendEventAndCommit (event : NewEvent) : DbTx AppendEventResult := do
  let result ← Tx.within (appendEvent event)
  if result.created then Tx.commit
  return result

structure NewDelivery where
  eventId : String
  platform : String
  destination : String
  messageKey : String
  payload : Json

/-- `create_delivery(..., commit=False)`. -/
def createDelivery (delivery : NewDelivery) : DbTxn (DeliveryRow × Bool) := do
  let event ← Txn.read fun db => db.events.find? (·.id = delivery.eventId)
  raiseIf event.isNone (Exn.key delivery.eventId)
  let createdAt ← utcNow
  let deliveryId ← newUuid
  let row : DeliveryRow :=
    { id := deliveryId, eventId := some delivery.eventId, platform := delivery.platform,
      destination := delivery.destination, messageKey := delivery.messageKey, status := "pending",
      payloadJson := .dumps delivery.payload, createdAt }
  let inserted ← Txn.read fun db => db.deliveries.insert? row
  match inserted with
  | some _ =>
    insertDelivery row
    return (row, true)
  | none =>
    let existing ← Txn.read fun db => db.deliveries.find? (·.messageKey = delivery.messageKey)
    match existing with
    | some earlier => return (earlier, false)
    | none => throw Exn.integrity

end Writers

end Coordinate

import Coordinate.Model.Installation
import Coordinate.Proofs.Transitions

/-! # What a retry keeps of the job

A retry is a pending job of its own beside the old one, which stays as it is. It keeps the routing of the old job
and all of its payload but the result path and the stored context, and a claim derives its context from the
authority of that time, as it would for the old job.
-/

namespace Coordinate

variable [Platform]

section Contexts

variable {workspace : Workspace} {profile : WorkspaceHostProfile} {task : Option TaskMirror} {origin : Json}
  {agentId hostId jobId : String} {branch worktreePath logsPath : Option String} {ctx : ExecutionContextV1}

/-- The context of another job on the same authority, which has no log of its own yet. -/
def ExecutionContextV1.forJob (ctx : ExecutionContextV1) (jobId : String) : ExecutionContextV1 :=
  let moved := { ctx with contextId := "", jobId, logHandle := ⟨jobId, none⟩ }
  { moved with contextId := computeContextId moved.canonicalSnapshotDict }

/-- The authority that gives one job its context gives another its own. -/
theorem resolveExecutionContextV1_forJob (named : jobId ≠ "") {given : String}
    (resolved : resolveExecutionContextV1 given workspace task agentId hostId profile origin branch worktreePath
      logsPath = .ok ctx) :
    resolveExecutionContextV1 jobId workspace task agentId hostId profile origin branch worktreePath none =
      .ok (ctx.forJob jobId) := by
  unfold resolveExecutionContextV1 at resolved ⊢
  simp only [Except.bind_ok, raiseIf_except_ok] at resolved ⊢
  obtain ⟨_, -, _, agent, _, host, _, path, _, mirror, _, object, scopes, inScope, workspacePath, valid, raw,
    located, worktree, valid', normal, normalized, harness, rooted, made⟩ := resolved
  refine ⟨(), named, (), agent, (), host, (), path, (), mirror, (), object, scopes, inScope, workspacePath, valid,
    raw, located, worktree, valid', normal, normalized, harness, rooted, none, rfl, ?_⟩
  -- the log of the old job is mapped last, and nothing else depends on it
  cases logsPath with
  | none =>
    obtain ⟨logs, -, made⟩ := Except.bind_ok.mp made
    cases made
    rfl
  | some log =>
    obtain ⟨_, -, made⟩ := Except.bind_ok.mp made
    obtain ⟨_, -, made⟩ := Except.bind_ok.mp made
    obtain ⟨_, -, made⟩ := Except.bind_ok.mp made
    cases made
    rfl

end Contexts

section Retries

variable {view before after : Db} {source retry : JobRow} {jobId actor : String} {reason : Option String}
  {work : Work Db} {s' : Session Db} {result : RetryJobResult}

/-- The keys of a payload that a retry drops or sets. -/
def retryKeys : List String := ["result_path", "execution_context", "retry_of_job_id", "retry_reason"]

/-- The payload of a retry. -/
structure RetryPayload (stored made : Json) (jobId : String) : Prop where
  kept : ∀ key ∉ retryKeys, made.field? key = stored.field? key
  dropped : ∀ key ∈ ["result_path", "execution_context"], made.field? key = none
  marked : made.get "retry_of_job_id" = .str jobId

/-- The row of a retry. -/
structure RetryRow (view before : Db) (source retry : JobRow) : Prop where
  workspaceId : retry.workspaceId = source.workspaceId
  taskId : retry.taskId = source.taskId
  runnerProfileId : retry.runnerProfileId = source.runnerProfileId
  branch : retry.branch = source.branch
  timeoutSeconds : retry.timeoutSeconds = source.timeoutSeconds
  fresh : retry.status = .pending ∧ retry.attemptCount = 0 ∧ retry.resultJson = none ∧ retry.logsPath = none
  named : retry.id ≠ ""
  worktree : ∃ workspace, getWorkspace before source.workspaceId = some workspace ∧
    retry.worktreePath = (nonEmpty source.worktreePath).map fun path =>
      if isHostNativeWorktree view source then path else Platform.absolutePath path (some workspace.path)
  payload : ∃ stored made, source.payloadJson = .value stored ∧ stored.isObj = true ∧ isRoutedJob stored = false ∧
    retry.payloadJson = .value made ∧ made.isObj = true ∧ RetryPayload stored made source.id

/-- What a retry does to the store: it adds its job and at most its event. -/
structure RetryStored (before after : Db) (retry : JobRow) : Prop where
  jobs : before.jobs.insert? retry = some after.jobs
  events : after.events = before.events ∨
    ∃ row, row.eventType = "job.retry_requested" ∧ before.events.insert? row = some after.events
  others : after = { before with jobs := after.jobs, events := after.events }

omit [Platform] in
theorem retryPayload_spec {stored : Json} (object : stored.isObj = true) (jobId : String)
    (reason : Option String) :
    (retryPayload stored jobId reason).isObj = true ∧
      RetryPayload stored (retryPayload stored jobId reason) jobId := by
  have marked : (((stored.erase "result_path").erase "execution_context").set "retry_of_job_id"
      (.str jobId)).isObj = true := by
    rw [Json.isObj_set, Json.isObj_erase, Json.isObj_erase, object]
  have erased : ((stored.erase "result_path").erase "execution_context").isObj = true := by
    rw [Json.isObj_erase, Json.isObj_erase, object]
  have bare : RetryPayload stored (((stored.erase "result_path").erase "execution_context").set "retry_of_job_id"
      (.str jobId)) jobId := by
    refine ⟨fun key other => ?_, fun key dropped => ?_, Json.get_set_self erased ..⟩
    · simp only [retryKeys, List.mem_cons, List.not_mem_nil, or_false, not_or] at other
      obtain ⟨path, context, mark, -⟩ := other
      rw [Json.field?_set_ne mark, Json.field?_erase_ne context, Json.field?_erase_ne path]
    · simp only [List.mem_cons, List.not_mem_nil, or_false] at dropped
      rcases dropped with rfl | rfl
      · rw [Json.field?_set_ne (by decide), Json.field?_erase_ne (by decide), Json.field?_erase_self]
      · rw [Json.field?_set_ne (by decide), Json.field?_erase_self]
  unfold retryPayload
  cases nonEmpty reason with
  | none => exact ⟨marked, bare⟩
  | some text =>
    refine ⟨by rw [Json.isObj_set, marked], ⟨fun key other => ?_, fun key dropped => ?_, ?_⟩⟩
    · have apart : key ≠ "retry_reason" := by
        rintro rfl
        exact other (by decide)
      rw [Json.field?_set_ne apart, bare.kept key other]
    · have apart : key ≠ "retry_reason" := by
        rintro rfl
        exact absurd dropped (by decide)
      rw [Json.field?_set_ne apart, bare.dropped key dropped]
    · rw [Json.get_set_ne (by decide), bare.marked]

/-- An event on a connection without a transaction stays in the store, if it is new. -/
theorem appendEventAndCommit_ok {event : NewEvent} {appended : AppendEventResult} {s : Session Db}
    (closed : s.saved = none) (ran : (appendEventAndCommit event).run s = .ok appended s') :
    Appended event s.work s'.work appended ∧ s'.durable = s'.work.store := by
  unfold appendEventAndCommit at ran
  rw [Tx.bind_ok] at ran
  obtain ⟨result, middle, written, ran⟩ := ran
  obtain ⟨w, wrote, rfl⟩ := Tx.within_ok.mp written
  have own := appendEvent_ok wrote
  have durable : s.durable = s.work.store := by rw [Session.durable, closed, Option.getD_none]
  cases created : result.created with
  | true =>
    simp only [created, if_true, Tx.bind_ok, Tx.commit_run, EStateM.Result.ok.injEq, Tx.pure_run] at ran
    obtain ⟨_, _, ⟨-, rfl⟩, rfl, rfl⟩ := ran
    exact ⟨own, rfl⟩
  | false =>
    simp only [created, Bool.false_eq_true, if_false, EStateM.Result.ok.injEq, Tx.pure_run] at ran
    obtain ⟨rfl, rfl⟩ := ran
    refine ⟨own, ?_⟩
    cases own with
    | existing row member key store => exact durable.trans store.symm
    | created => cases created

omit [Platform] in
theorem dumps_of_isObj {value : Json} (object : value.isObj = true) : JsonText.dumps value = .value value := by
  cases value with
  | obj fields =>
    cases fields with
    | nil => rfl
    | cons field rest => rfl
  | _ => cases object

omit [Platform] in
theorem objectPayload_ok {payload : Json} : objectPayload source = .ok payload ↔
    source.payloadJson = .value payload ∧ payload.isObj = true := by
  simp only [objectPayload, Except.bind_ok, decodeColumn_ok, raiseIf_except_ok, pure, Except.pure,
    Except.ok.injEq, not_not]
  constructor
  · rintro ⟨_, loaded, _, object, rfl⟩
    exact ⟨loaded, object⟩
  · rintro ⟨loaded, object⟩
    exact ⟨payload, loaded, (), object, rfl⟩

/-- A retry that is accepted. -/
theorem retryJob_ok (ran : (retryJob jobId reason actor).run (Session.connect work view) = .ok result s') :
    ∃ source retry, findJob view jobId = some source ∧ (source.status = .failed ∨ source.status = .cancelled) ∧
      result.sourceJob.row = source ∧ result.retryJob.row = retry ∧ RetryRow view work.store source retry ∧
      retry.assignedAgent = source.runnerProfileId ∧ RetryStored work.store s'.durable retry := by
  unfold retryJob at ran
  simp only [Tx.bind_ok, Tx.query_run, Tx.orRaise_ok, Tx.raiseIf_ok, EStateM.Result.ok.injEq, Tx.within_ok,
    Tx.commit_run, Tx.pure_run] at ran
  obtain ⟨_, _, ⟨rfl, rfl⟩, source, _, ⟨found, rfl⟩, _, _, ⟨status, rfl⟩, stored, _, ⟨decoded, rfl⟩, _, _,
    ⟨unrouted, rfl⟩, _, _, ⟨rfl, rfl⟩, retry, _, ⟨w, created, rfl⟩, _, _, ⟨-, rfl⟩, event, _, recorded,
    sourceJob, _, ⟨sourceDict, rfl⟩, retryDict, _, ⟨retried, rfl⟩, _, _, ⟨-, rfl⟩, rfl, rfl⟩ := ran
  obtain ⟨member, named⟩ := getJob_eq_ok.mp found
  obtain ⟨payload, object⟩ := objectPayload_ok.mp decoded
  obtain ⟨jobs, path, retryId, createdAt, rfl, inserted, store, drawn, workspace, there, rfl⟩ :=
    createJob_ok created
  obtain ⟨appended, durable⟩ := appendEventAndCommit_ok rfl recorded
  obtain ⟨made, spec⟩ := retryPayload_spec object jobId reason
  refine ⟨source, _, findJob_eq_some.mpr ⟨member, named⟩, ?_, jobDict_row sourceDict, jobDict_row retried, ?_,
    rfl, ?_⟩
  · by_contra other
    exact status ⟨fun failed => other (.inl failed), fun cancelled => other (.inr cancelled)⟩
  · refine ⟨rfl, rfl, rfl, rfl, rfl, ⟨rfl, rfl, rfl, rfl⟩, ?_, ⟨workspace, there, rfl⟩, stored, _, payload,
      object, ?_, dumps_of_isObj made, made, named ▸ spec⟩
    · intro empty
      have length := Text.uuidShape_length (Platform.uuid4_form work.draws)
      have drawn : retryId = Platform.uuid4 work.draws := drawn
      have empty : retryId = "" := empty
      rw [← drawn, empty] at length
      cases length
    · simpa using unrouted
  · rw [durable]
    cases appended with
    | existing row known key same =>
      rw [same.trans store]
      exact ⟨inserted, .inl rfl, rfl⟩
    | created events added same =>
      rw [same]
      dsimp only at added ⊢
      rw [store] at added ⊢
      exact ⟨inserted, .inr ⟨_, rfl, added⟩, rfl⟩

end Retries

section Claims

variable {db : Db} {view before : Db} {source retry : JobRow} {agentId hostId : String}

/-- The context that the authority of a store gives a job, whatever is stored with it. -/
def currentContext (db : Db) (job : JobRow) (agentId hostId : String) : Except Exn ExecutionContextV1 := do
  let stored ← decodeTypedPayload job
  resolveClaimContext db job (stored.erase "execution_context") agentId hostId

omit [Platform] in
theorem decodeTypedPayload_ok {payload : Json} (there : source.payloadJson = .value payload)
    (object : payload.isObj = true) : decodeTypedPayload source = .ok payload := by
  simp only [decodeTypedPayload, Except.bind_ok, raiseIf_except_ok, orRaise_except_ok, there]
  exact ⟨(), by simp, payload, rfl, (), not_not.mpr object, rfl⟩

theorem deriveClaimContext_fresh {workspace : Workspace} {profile : WorkspaceHostProfile}
    {task : Option TaskMirror} {payload : Json} {ctx : ExecutionContextV1}
    (none : payload.get "execution_context" = .null) :
    deriveClaimContext workspace profile task source payload agentId hostId = .ok ctx ↔
      resolveExecutionContextV1 source.id workspace task agentId hostId profile (objectAt payload "origin")
        source.branch source.worktreePath source.logsPath = .ok ctx := by
  unfold deriveClaimContext
  rw [none]
  exact orRaise_except_ok

omit [Platform] in
/-- A retry has no stored context, and the origin of the old job. -/
theorem RetryPayload.uncontexted {stored made : Json} {jobId : String} (spec : RetryPayload stored made jobId) :
    made.get "execution_context" = .null ∧
      (stored.erase "execution_context").get "execution_context" = .null ∧
      objectAt made "origin" = objectAt (stored.erase "execution_context") "origin" := by
  refine ⟨?_, ?_, ?_⟩
  · rw [Json.get, spec.dropped _ (by decide)]
    rfl
  · rw [Json.get, Json.field?_erase_self]
    rfl
  · simp only [objectAt, Json.get, spec.kept "origin" (by decide),
      Json.field?_erase_ne (show "origin" ≠ "execution_context" by decide)]

/-- Where the authority gives the old job a context, it gives the retry its own. -/
theorem resolveClaimContext_retry {stored made : Json} {ctx : ExecutionContextV1}
    (row : RetryRow view before source retry) (spec : RetryPayload stored made source.id)
    (same : retry.worktreePath = source.worktreePath)
    (resolved : resolveClaimContext db source (stored.erase "execution_context") agentId hostId = .ok ctx) :
    resolveClaimContext db retry made agentId hostId = .ok (ctx.forJob retry.id) := by
  obtain ⟨absent, erased, origin⟩ := spec.uncontexted
  have task : claimTask db retry = claimTask db source := by
    unfold claimTask
    rw [row.taskId, row.workspaceId]
  unfold resolveClaimContext at resolved ⊢
  rw [row.workspaceId]
  cases there : getWorkspace db source.workspaceId with
  | none =>
    rw [there] at resolved
    cases resolved
  | some workspace =>
    rw [there] at resolved
    dsimp only at resolved ⊢
    simp only [Except.bind_ok] at resolved ⊢
    obtain ⟨found, read, resolved⟩ := resolved
    refine ⟨found, read, ?_⟩
    cases found with
    | none => cases resolved
    | some profile =>
      dsimp only at resolved ⊢
      simp only [Except.bind_ok, orRaise_except_ok, deriveClaimContext_fresh erased] at resolved
      simp only [Except.bind_ok, orRaise_except_ok, deriveClaimContext_fresh absent, task, origin, row.branch,
        same, row.fresh.2.2.2]
      obtain ⟨task, mirrored, found, derived, path, contained, kept⟩ := resolved
      cases kept
      exact ⟨task, mirrored, _, resolveExecutionContextV1_forJob row.named derived, path, contained, rfl⟩

/-- A payload without routing has no evidence to give. -/
theorem validateClaimRouting_unrouted {payload : Json} (unrouted : isRoutedJob payload = false) :
    validateClaimRouting payload source = .ok (.obj []) := by
  have none : payload.get "routing_request" = .null ∧ payload.get "routing_decision" = .null := by
    simpa [isRoutedJob] using unrouted
  unfold validateClaimRouting routingClaimEvidence
  rw [none.1, none.2]
  rfl

omit [Platform] in
theorem isRoutedJob_congr {payload other : Json}
    (request : other.get "routing_request" = payload.get "routing_request")
    (decision : other.get "routing_decision" = payload.get "routing_decision") :
    isRoutedJob other = isRoutedJob payload := by
  rw [isRoutedJob, isRoutedJob, request, decision]

/-- The binding of a job is tested against its agent and its runner profile only. -/
theorem validateClaimBinding_congr {snapshot : Json} (agent : retry.assignedAgent = source.assignedAgent)
    (runner : retry.runnerProfileId = source.runnerProfileId) :
    validateClaimBinding db retry snapshot = .ok () ↔ validateClaimBinding db source snapshot = .ok () := by
  unfold validateClaimBinding validateStoredExecutorBinding
  simp only [Except.bind_ok, raiseIf_except_ok, orRaise_except_ok, agent, runner]

/-- A typed agent may claim the retry where the authority is what it was for the old job. -/
theorem validateClaimAuthority_retry {authority : ValidatedAuthority} (row : RetryRow view before source retry)
    (agent : retry.assignedAgent = source.assignedAgent) (same : retry.worktreePath = source.worktreePath)
    (valid : validateClaimAuthority db source agentId hostId = .ok authority)
    (current : currentContext db source agentId hostId = .ok authority.executionContext) :
    ∃ renewed, validateClaimAuthority db retry agentId hostId = .ok renewed ∧
      renewed.executionContext = authority.executionContext.forJob retry.id ∧
      renewed.resourceKey = authority.resourceKey ∧ renewed.bindingSnapshot = authority.bindingSnapshot ∧
      renewed.routeEvidence = authority.routeEvidence := by
  obtain ⟨stored, made, there, object, unrouted, written, object', spec⟩ := row.payload
  have decoded := decodeTypedPayload_ok there object
  unfold currentContext at current
  rw [decoded] at current
  have ctx := resolveClaimContext_retry row spec same current
  have keeps : ∀ (payload : Json) (ctx : Json) (key : String), key ≠ "execution_context" →
      (if payload.get "execution_context" = .null then payload.set "execution_context" ctx else payload).get key =
        payload.get key := by
    intro payload ctx key apart
    split
    · exact Json.get_set_ne apart ..
    · rfl
  have copied : ∀ key ∉ retryKeys, made.get key = stored.get key := by
    intro key other
    rw [Json.get, Json.get, spec.kept key other]
  unfold validateClaimAuthority at valid ⊢
  simp only [Except.bind_ok, raiseIf_except_ok, orRaise_except_ok, decoded, Except.ok.injEq] at valid
  simp only [Except.bind_ok, raiseIf_except_ok, orRaise_except_ok, decodeTypedPayload_ok written object',
    Except.ok.injEq]
  obtain ⟨_, runner, _, rfl, found, derived, _, bound, evidence, routed, resource, built, kept⟩ := valid
  cases kept
  dsimp only at current ctx bound routed ⊢
  have binding : ∀ made' : Json, (if made.get "execution_context" = .null then
      made.set "execution_context" made' else made).get "executor_binding" = stored.get "executor_binding" := by
    intro made'
    rw [keeps made made' _ (by decide), copied "executor_binding" (by decide)]
  have unrouted' : ∀ (payload ctx : Json), isRoutedJob payload = false →
      isRoutedJob (if payload.get "execution_context" = .null then payload.set "execution_context" ctx
        else payload) = false := by
    intro payload ctx unrouted
    exact (isRoutedJob_congr (keeps payload ctx _ (by decide)) (keeps payload ctx _ (by decide))).trans unrouted
  have unrouted'' : isRoutedJob made = false :=
    (isRoutedJob_congr (copied _ (by decide)) (copied _ (by decide))).trans unrouted
  rw [validateClaimRouting_unrouted (unrouted' _ _ unrouted)] at routed
  cases routed
  rw [keeps stored _ _ (by decide)] at bound ⊢
  refine ⟨_, ⟨(), row.runnerProfileId ▸ runner, made, rfl, _, ctx, (), ?_, _,
    validateClaimRouting_unrouted (unrouted' _ _ unrouted''), resource, built, rfl⟩, rfl, rfl, binding _, rfl⟩
  rw [binding]
  exact (validateClaimBinding_congr agent row.runnerProfileId).mpr bound

end Claims

section Legacy

variable {db : Db} {view before : Db} {source retry : JobRow} {agentId hostId : String}

/-- What the legacy branch finds out about a job at the head of its queue, from an edited payload. -/
def legacyCandidateOf (db : Db) (job : JobRow) (agentId hostId : String) (edit : Json → Json) :
    Except Exn LegacyCandidate := do
  match ← getWorkspaceHostProfile db job.workspaceId hostId with
  | none => throw (missingProfile job.workspaceId hostId)
  | some profile => do
    let payload ← strictPayload job.payloadJson
    let task ← match nonEmpty job.taskId with
      | none => pure none
      | some taskId => taskMirror db job.workspaceId taskId
    let context ← legacyClaimContext (getWorkspace db job.workspaceId) profile task job (edit payload) agentId
      hostId
    return ⟨job, payload, context⟩

theorem findLegacyCandidate_eq (request : ClaimRequest) :
    findLegacyCandidate db request hostId =
      match (claimQueue db request.recoverable request.agentId).head? with
      | none => .ok none
      | some job => some <$> legacyCandidateOf db job request.agentId hostId id := by
  unfold findLegacyCandidate legacyCandidateOf
  cases (claimQueue db request.recoverable request.agentId).head? with
  | none => rfl
  | some job =>
    dsimp only
    cases getWorkspaceHostProfile db job.workspaceId hostId with
    | error e => rfl
    | ok found =>
      cases found with
      | none => rfl
      | some profile =>
        cases strictPayload job.payloadJson with
        | error e => rfl
        | ok payload =>
          simp only [bind, Except.bind, pure, Except.pure, Functor.map, Except.map, id]
          cases nonEmpty job.taskId with
          | none =>
            dsimp only
            cases legacyClaimContext (getWorkspace db job.workspaceId) profile none job payload request.agentId
              hostId <;> rfl
          | some taskId =>
            dsimp only
            cases taskMirror db job.workspaceId taskId with
            | error e => rfl
            | ok task =>
              dsimp only
              cases legacyClaimContext (getWorkspace db job.workspaceId) profile task job payload request.agentId
                hostId <;> rfl

omit [Platform] in
theorem strictPayload_object {payload : Json} (object : payload.isObj = true) :
    strictPayload (.value payload) = .ok payload := by
  cases payload with
  | obj fields => rfl
  | _ => cases object

theorem legacyClaimContext_fresh {workspace : Workspace} {profile : WorkspaceHostProfile}
    {task : Option TaskMirror} {payload : Json} {ctx : ExecutionContextV1}
    (none : payload.get "execution_context" = .null) :
    legacyClaimContext (some workspace) profile task source payload agentId hostId = .ok ctx ↔
      ¬ ((nonEmpty source.taskId).isSome ∧ task.isNone) ∧
        resolveExecutionContextV1 source.id workspace task agentId hostId profile (objectAt payload "origin")
          source.branch source.worktreePath source.logsPath = .ok ctx := by
  unfold legacyClaimContext
  rw [none]
  simp only [Except.bind_ok, raiseIf_except_ok, orRaise_except_ok, exists_const]

/-- An untyped agent may claim the retry where it could claim the old job on the current authority. -/
theorem legacyCandidateOf_retry {candidate : LegacyCandidate} (row : RetryRow view before source retry)
    (same : retry.worktreePath = source.worktreePath)
    (current : legacyCandidateOf db source agentId hostId (·.erase "execution_context") = .ok candidate)
    (gate : checkCurrentContainment db candidate hostId = .ok ()) :
    ∃ renewed, legacyCandidateOf db retry agentId hostId id = .ok renewed ∧
      renewed.context = candidate.context.forJob retry.id ∧
      checkCurrentContainment db renewed hostId = .ok () := by
  obtain ⟨stored, made, there, object, -, written, object', spec⟩ := row.payload
  obtain ⟨absent, erased, origin⟩ := spec.uncontexted
  have renewed : ∀ (workspace : Option Workspace) (profile : WorkspaceHostProfile) (task : Option TaskMirror)
      (ctx : ExecutionContextV1), legacyClaimContext workspace profile task source
        (stored.erase "execution_context") agentId hostId = .ok ctx →
      legacyClaimContext workspace profile task retry made agentId hostId = .ok (ctx.forJob retry.id) := by
    intro workspace profile task ctx derived
    cases workspace with
    | none =>
      unfold legacyClaimContext at derived
      rw [erased] at derived
      obtain ⟨_, -, other⟩ := Except.bind_ok.mp derived
      cases other
    | some workspace =>
      obtain ⟨mirrored, derived⟩ := (legacyClaimContext_fresh erased).mp derived
      refine (legacyClaimContext_fresh absent).mpr ⟨row.taskId ▸ mirrored, ?_⟩
      rw [origin, row.branch, same, row.fresh.2.2.2]
      exact resolveExecutionContextV1_forJob row.named derived
  have gated : ∀ payload ctx, candidate.job = source → candidate.context = ctx →
      checkCurrentContainment db ⟨retry, payload, ctx.forJob retry.id⟩ hostId = .ok () := by
    rintro payload ctx job rfl
    rw [← gate]
    unfold checkCurrentContainment
    rw [job, row.workspaceId]
    rfl
  unfold legacyCandidateOf at current ⊢
  rw [row.workspaceId, row.taskId, written, strictPayload_object object']
  rw [there, strictPayload_object object] at current
  simp only [Except.bind_ok] at current ⊢
  obtain ⟨found, read, current⟩ := current
  cases found with
  | none => cases current
  | some profile =>
    dsimp only at current
    obtain ⟨payload, parsed, current⟩ := Except.bind_ok.mp current
    cases parsed
    cases named : nonEmpty source.taskId with
    | none =>
      rw [named] at current
      obtain ⟨task, bare, current⟩ := Except.bind_ok.mp current
      cases bare
      obtain ⟨ctx, derived, made'⟩ := Except.bind_ok.mp current
      cases made'
      refine ⟨⟨retry, made, ctx.forJob retry.id⟩, ⟨some profile, read, ?_⟩, rfl, gated made ctx rfl rfl⟩
      refine Except.bind_ok.mpr ⟨made, rfl, Except.bind_ok.mpr ⟨none, rfl, Except.bind_ok.mpr ⟨_, ?_, rfl⟩⟩⟩
      exact renewed _ profile none ctx derived
    | some taskId =>
      rw [named] at current
      obtain ⟨task, mirrored, current⟩ := Except.bind_ok.mp current
      obtain ⟨ctx, derived, made'⟩ := Except.bind_ok.mp current
      cases made'
      refine ⟨⟨retry, made, ctx.forJob retry.id⟩, ⟨some profile, read, ?_⟩, rfl, gated made ctx rfl rfl⟩
      refine Except.bind_ok.mpr ⟨made, rfl, Except.bind_ok.mpr ⟨task, mirrored, Except.bind_ok.mpr ⟨_, ?_, rfl⟩⟩⟩
      exact renewed _ profile task ctx derived

end Legacy

section Law

variable {view : Db} {jobId actor : String} {reason : Option String} {work : Work Db} {s' : Session Db}
  {result : RetryJobResult}

/-- The authority of a store that lets an agent claim one job lets it claim the other. -/
structure CarriesOver (db : Db) (agentId hostId : String) (source retry : JobRow) : Prop where
  queued : source.assignedAgent = agentId → ∀ recoverable, isClaimable recoverable agentId retry = true
  typed : ∀ authority, validateClaimAuthority db source agentId hostId = .ok authority →
    currentContext db source agentId hostId = .ok authority.executionContext →
      ∃ renewed, validateClaimAuthority db retry agentId hostId = .ok renewed ∧
        renewed.executionContext = authority.executionContext.forJob retry.id ∧
        renewed.resourceKey = authority.resourceKey ∧ renewed.bindingSnapshot = authority.bindingSnapshot ∧
        renewed.routeEvidence = authority.routeEvidence
  untyped : ∀ candidate,
    legacyCandidateOf db source agentId hostId (·.erase "execution_context") = .ok candidate →
    checkCurrentContainment db candidate hostId = .ok () →
      ∃ renewed, legacyCandidateOf db retry agentId hostId id = .ok renewed ∧
        renewed.context = candidate.context.forJob retry.id ∧ checkCurrentContainment db renewed hostId = .ok ()

/-- **What a retry keeps.** A retry that is accepted adds one pending job, with an identifier of its own, to jobs
that stay as they are. The job has the routing of the old one, the worktree that resolving it once more gives, and
the payload without the stored context. If the old job is assigned to its runner profile and resolving leaves its
worktree alone, the agent that may claim the old job on the current authority may claim the new one. -/
theorem retry_keeps_routing
    (ran : (retryJob jobId reason actor).run (Session.connect work view) = .ok result s') :
    ∃ source retry, findJob view jobId = some source ∧ (source.status = .failed ∨ source.status = .cancelled) ∧
      result.sourceJob.row = source ∧ result.retryJob.row = retry ∧ RetryRow view work.store source retry ∧
      RetryStored work.store s'.durable retry ∧
      (source.assignedAgent = source.runnerProfileId → retry.worktreePath = source.worktreePath →
        ∀ db agentId hostId, CarriesOver db agentId hostId source retry) := by
  obtain ⟨source, retry, found, ended, old, new, row, agent, stored⟩ := retryJob_ok ran
  refine ⟨source, retry, found, ended, old, new, row, stored, fun own same db agentId hostId => ?_⟩
  have agent : retry.assignedAgent = source.assignedAgent := agent.trans own.symm
  refine ⟨fun mine recoverable => ?_, ?_, ?_⟩
  · simp [isClaimable, agent, mine, row.fresh.1]
  · intro authority valid current
    exact validateClaimAuthority_retry row agent same valid current
  · intro candidate current gate
    exact legacyCandidateOf_retry row same current gate

end Law

end Coordinate

namespace Coordinate.JobRetry.Sample

open Coordinate.Sample

/-- A request whose job has been cancelled before it was claimed. -/
def cancelledRun : Work Db :=
  run [.syncCatalog typedCatalog, .submit request, .cancel jobId none "operator"]

/-- The contexts that are stored with the job and with its retry. -/
def contexts : Option (Json × Json) :=
  match (retryJob jobId none "operator").run (Session.connect cancelledRun cancelledRun.store) with
  | .ok result _ => some (result.sourceJob.payload.get "execution_context",
      result.retryJob.payload.get "execution_context")
  | .error _ _ => none

/-- A stored context names its job, and is not copied. -/
theorem context_not_copied : ¬ ∀ work view jobId reason actor result s',
    (retryJob jobId reason actor).run (Session.connect work view) = .ok result s' →
      result.retryJob.payload.get "execution_context" = result.sourceJob.payload.get "execution_context" := by
  intro copied
  have apart : contexts.any (fun stored => stored.2 = stored.1) = false ∧ contexts.isSome = true := by
    decide +kernel
  obtain ⟨apart, accepted⟩ := apart
  unfold contexts at apart accepted
  split at apart
  · rename_i result s' ran
    simp [copied _ _ _ _ _ result s' ran] at apart
  · rename_i failed
    rw [failed] at accepted
    cases accepted

/-- The agent of the job may claim its retry. -/
theorem cancelled_retried : ∃ source retry result s',
    (retryJob jobId none "operator").run (Session.connect cancelledRun cancelledRun.store) = .ok result s' ∧
      findJob cancelledRun.store jobId = some source ∧ result.retryJob.row = retry ∧
      ∀ db agentId hostId, CarriesOver db agentId hostId source retry := by
  have accepted : contexts.isSome = true := by decide +kernel
  have routing : (findJob cancelledRun.store jobId).map (fun job =>
      (job.assignedAgent, job.runnerProfileId, job.worktreePath)) = some ("a", "a", none) := by decide +kernel
  unfold contexts at accepted
  split at accepted
  · rename_i result s' ran
    obtain ⟨source, retry, found, -, -, new, row, -, carries⟩ := retry_keeps_routing ran
    rw [found] at routing
    obtain ⟨agent, rest⟩ := Prod.mk.inj (Option.some.inj routing)
    obtain ⟨runner, worktree⟩ := Prod.mk.inj rest
    obtain ⟨workspace, -, resolved⟩ := row.worktree
    have none : retry.worktreePath = source.worktreePath := by
      rw [resolved, worktree]
      rfl
    exact ⟨source, retry, result, s', ran, found, new, carries (agent.trans runner.symm) none⟩
  · cases accepted

end Coordinate.JobRetry.Sample

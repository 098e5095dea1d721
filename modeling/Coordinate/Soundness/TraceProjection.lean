import Coordinate.Library.Correspondence
import Coordinate.Model.Installation
import Coordinate.Model.TraceProjection

/-! # The trace shows metadata and locators only

Two snapshots that agree on their columns and on the payload fields that the projection names have the same
traces, whatever else their payloads, results and bodies hold.
-/

namespace Coordinate.Trace

section Agreement

/-- A JSON column holds an object. -/
def IsObject (text : JsonText) : Prop := ∃ fields, text = .value (.obj fields)

/-- The payloads that the queries look into are objects. -/
structure Legible (db : Snapshot) : Prop where
  tasks : ∀ row ∈ db.tasks, IsObject row.task.payloadJson
  events : ∀ row ∈ db.events, IsObject row.payloadJson

def JobRecord.columns (job : JobRecord) : JobRecord :=
  { job with payloadJson := .blank, resultJson := none, progressJson := none }

def eventColumns (row : EventRow) : EventRow := { row with payloadJson := .blank }

def deliveryColumns (row : DeliveryRow) : DeliveryRow := { row with payloadJson := .blank }

def MirrorRow.columns (row : MirrorRow) : MirrorRow :=
  { row with task := { row.task with payloadJson := .blank } }

def bindingFields : List String := ["provider", "adapter", "executor_definition_id"]

def contextFields : List String := ["host_id", "worktree_path", "branch", "session_scope_id"]

def eventFields : List String :=
  ["job_id", "session_id", "stage", "last_activity_at", "pr", "head_sha", "decision", "reviewer", "action"]

/-- The jobs agree on their columns, their executor, their context and their session ids. -/
structure JobsAgree (a b : JobRecord) : Prop where
  columns : a.columns = b.columns
  binding : ∀ key ∈ bindingFields, (decode a.payloadJson).getIn "executor_binding" key =
    (decode b.payloadJson).getIn "executor_binding" key
  context : ∀ key ∈ contextFields, (decode a.payloadJson).getIn "execution_context" key =
    (decode b.payloadJson).getIn "execution_context" key
  progressSession : (decodeNullable a.progressJson).get "session_id" =
    (decodeNullable b.progressJson).get "session_id"
  resultSession : (decodeNullable a.resultJson).get "session_id" =
    (decodeNullable b.resultJson).get "session_id"
  timeoutSession : (decodeNullable a.resultJson).getIn "timeout" "session_id" =
    (decodeNullable b.resultJson).getIn "timeout" "session_id"

structure EventsAgree (a b : EventRow) : Prop where
  columns : eventColumns a = eventColumns b
  fields : ∀ key ∈ eventFields, (payloadOfRow a).get key = (payloadOfRow b).get key

def DeliveriesAgree (a b : DeliveryRow) : Prop := deliveryColumns a = deliveryColumns b

/-- The mirrors agree on their columns and on where the plan is. -/
structure MirrorsAgree (a b : MirrorRow) : Prop where
  columns : a.columns = b.columns
  planDoc : (decode a.task.payloadJson).get "plan_doc" = (decode b.task.payloadJson).get "plan_doc"
  planPath : (decode a.task.payloadJson).get "plan_path" = (decode b.task.payloadJson).get "plan_path"
  planArtifact : (decode a.task.payloadJson).getIn "artifacts" "plan" =
    (decode b.task.payloadJson).getIn "artifacts" "plan"

/-- The snapshots have the same rows, which agree on all that the projection names. -/
structure Agree (s t : Snapshot) : Prop where
  workspaces : s.workspaces = t.workspaces
  tasks : List.Forall₂ MirrorsAgree s.tasks t.tasks
  jobs : List.Forall₂ JobsAgree s.jobs t.jobs
  leases : s.leases = t.leases
  events : List.Forall₂ EventsAgree s.events t.events
  deliveries : List.Forall₂ DeliveriesAgree s.deliveries t.deliveries

/-- Whether the payload of a job has an executor binding at all. -/
def isBound (job : JobRecord) : Prop := (decode job.payloadJson).get "executor_binding" ≠ .null

/-- The same jobs have an executor binding. -/
def SameBound (s t : Snapshot) : Prop := List.Forall₂ (fun a b => isBound a ↔ isBound b) s.jobs t.jobs

end Agreement

/-- A query that has an answer goes on with it. -/
theorem ok_bind {α β : Type} (a : α) (f : α → Except Exn β) : (Except.ok a >>= f) = f a := rfl

section Events

variable {s t : Snapshot} {rows rows' : List EventRow}

theorem hasField_of_object {row : EventRow} (object : IsObject row.payloadJson) (key value : String) :
    hasField key value row = .ok (decide ((payloadOfRow row).get key = .str value)) := by
  obtain ⟨fields, own⟩ := object
  simp only [hasField, payloadOfRow, own, decode]
  rfl

theorem withField_of_objects (objects : ∀ row ∈ rows, IsObject row.payloadJson) (key value : String) :
    withField key value rows = .ok (rows.filter fun row => (payloadOfRow row).get key = .str value) := by
  induction rows with
  | nil => rfl
  | cons row rest ih =>
    rw [withField, hasField_of_object (objects row (List.mem_cons_self ..)),
      ih fun other member => objects other (List.mem_cons_of_mem _ member), List.filter_cons]
    rfl

theorem newest_of (agree : List.Forall₂ EventsAgree rows rows') :
    Option.Rel EventsAgree (newest rows) (newest rows') := by
  refine agree.foldl_of (fun best best' a b relation own => ?_) .none
  cases relation with
  | none => exact .some own
  | @some earlier earlier' relation =>
    have left : earlier.createdAt = earlier'.createdAt := congrArg (·.createdAt) relation.columns
    have right : a.createdAt = b.createdAt := congrArg (·.createdAt) own.columns
    simp only [MergeGate.newer, left, right]
    split
    · exact .some own
    · exact .some relation

theorem eventsOf_agree (agree : Agree s t) (workspaceId taskId : String) (eventTypes : List String) :
    List.Forall₂ EventsAgree (eventsOf s workspaceId taskId eventTypes)
      (eventsOf t workspaceId taskId eventTypes) := by
  refine agree.events.filter_of fun _ _ own => ?_
  have same := congrArg (fun row : EventRow => decide (row.workspaceId = some workspaceId) &&
    decide (row.taskId = some taskId) && eventTypes.contains row.eventType) own.columns
  exact same

/-- The query on one field of the payload, which is one of those agreed on. -/
theorem withField_agree (agree : List.Forall₂ EventsAgree rows rows')
    (objects : ∀ row ∈ rows, IsObject row.payloadJson) (objects' : ∀ row ∈ rows', IsObject row.payloadJson)
    {key : String} (named : key ∈ eventFields) (value : String) :
    ∃ found found', withField key value rows = .ok found ∧ withField key value rows' = .ok found' ∧
      List.Forall₂ EventsAgree found found' :=
  ⟨_, _, withField_of_objects objects key value, withField_of_objects objects' key value,
    agree.filter_of fun a b own => by rw [own.fields key named]⟩

/-- A field of an event, if there is one. -/
def fieldOf (latest : Option EventRow) (key : String) : Json :=
  match latest with
  | some row => (payloadOfRow row).get key
  | none => .null

theorem fieldOf_agree {latest latest' : Option EventRow} (agree : Option.Rel EventsAgree latest latest')
    {key : String} (named : key ∈ eventFields) : fieldOf latest key = fieldOf latest' key := by
  cases agree with
  | none => rfl
  | some own => exact own.fields key named

theorem mem_foldl_newer {row : EventRow} {best : Option EventRow}
    (found : rows.foldl MergeGate.newer best = some row) : best = some row ∨ row ∈ rows := by
  induction rows generalizing best with
  | nil => exact .inl found
  | cons head rest ih =>
    rcases ih found with own | member
    · cases best with
      | none =>
        cases own
        exact .inr (List.mem_cons_self ..)
      | some earlier =>
        simp only [MergeGate.newer] at own
        split at own
        · cases own
          exact .inr (List.mem_cons_self ..)
        · exact .inl own
    · exact .inr (List.mem_cons_of_mem _ member)

theorem newest_mem {row : EventRow} (found : newest rows = some row) : row ∈ rows :=
  (mem_foldl_newer found).resolve_left nofun

end Events

section Pending

variable [Platform] {s t : Snapshot}

/-- What the trace takes from a pending action. -/
def gist (action : PendingAction) : String × String := (action.taskId, action.action)

omit [Platform] in
theorem toDict_of_object {row : EventRow} (object : IsObject row.payloadJson) :
    row.toDict = .ok ⟨row, payloadOfRow row⟩ := by
  obtain ⟨fields, own⟩ := object
  simp only [EventRow.toDict, decodeColumn, payloadOfRow, own, decode]
  rfl

omit [Platform] in
theorem payloadOfRow_isObj (row : EventRow) : (payloadOfRow row).isObj = true := by
  unfold payloadOfRow decode
  split <;> rfl

omit [Platform] in
theorem orElse_empty {payload : Json} (object : payload.isObj = true) :
    payload.orElse (.obj []) = payload := by
  cases payload with
  | obj fields => cases fields <;> rfl
  | _ => cases object

/-- The event with its payload. -/
def decodedEvent (row : EventRow) : EventDict := ⟨row, payloadOfRow row⟩

theorem actionOn_gist (task : TaskMirror) (latest : Option EventRow) :
    (actionOn task (latest.map decodedEvent)).map (Option.map gist) =
      (inferAction task.phase task.owner (latest.map (·.eventType)) (fieldOf latest "action")
        (fieldOf latest "decision")).map (Option.map fun action => (task.taskId, action)) := by
  have payload : payloadOfLatest (latest.map decodedEvent) =
      .ok (latest.elim (.obj []) payloadOfRow) := by
    cases latest with
    | none => rfl
    | some row =>
      simp only [Option.map_some, payloadOfLatest, decodedEvent, orElse_empty (payloadOfRow_isObj row),
        payloadOfRow_isObj, not_true_eq_false, raiseIf, if_false, Option.elim_some]
      rfl
  have field : ∀ key, (latest.elim (.obj []) payloadOfRow).get key = fieldOf latest key := by
    intro key
    cases latest <;> rfl
  have type : (latest.map decodedEvent).map (·.row.eventType) = latest.map (·.eventType) := by
    cases latest <;> rfl
  simp only [actionOn, payload, type, ok_bind, field]
  cases inferAction task.phase task.owner (latest.map (·.eventType)) (fieldOf latest "action")
      (fieldOf latest "decision") with
  | error e => rfl
  | ok action => cases action <;> rfl

omit [Platform] in
theorem latestRelevantEvent_of_legible {db : Snapshot} (legible : Legible db)
    (workspaceId taskId : String) :
    latestRelevantEvent db workspaceId taskId =
      .ok ((newest (eventsOf db workspaceId taskId relevantEventTypes)).map decodedEvent) := by
  unfold latestRelevantEvent
  split
  · rename_i none
    rw [none]
    rfl
  · rename_i row found
    have member := (List.mem_filter.mp (newest_mem found)).1
    rw [found, toDict_of_object (legible.events row member)]
    rfl

/-- What one mirror asks of the operator, as far as the trace takes it. -/
theorem pendingAction_gist {db : Snapshot} (legible : Legible db) {workspaceId : String} {row : MirrorRow}
    (object : IsObject row.task.payloadJson) :
    (pendingAction db workspaceId row).map (Option.map gist) =
      if isIn ["done", "closed", "released"] row.task.phase then .ok none
      else if hasTaskDoneEvent db workspaceId row.task.taskId then .ok none
      else
        let latest := newest (eventsOf db workspaceId row.task.taskId relevantEventTypes)
        (inferAction row.task.phase row.task.owner (latest.map (·.eventType))
          (fieldOf latest "action") (fieldOf latest "decision")).map
            (Option.map fun action => (row.task.taskId, action)) := by
  obtain ⟨fields, own⟩ := object
  have decoded : row.task.toDict = .ok ⟨row.task, .obj fields⟩ := by
    rw [TaskMirror.toDict, own]
    rfl
  dsimp only
  rw [← actionOn_gist]
  simp only [pendingAction, decoded, latestRelevantEvent_of_legible legible, ok_bind]
  split
  · rfl
  · split
    · rfl
    · rfl

theorem pendingAction_agree (agree : Agree s t) (legible : Legible s) (legible' : Legible t)
    (workspaceId : String) {row row' : MirrorRow} (own : MirrorsAgree row row')
    (object : IsObject row.task.payloadJson) (object' : IsObject row'.task.payloadJson) :
    (pendingAction s workspaceId row).map (Option.map gist) =
      (pendingAction t workspaceId row').map (Option.map gist) := by
  have task : row.task.taskId = row'.task.taskId := congrArg (·.task.taskId) own.columns
  have phase : row.task.phase = row'.task.phase := congrArg (·.task.phase) own.columns
  have owner : row.task.owner = row'.task.owner := congrArg (·.task.owner) own.columns
  have latest := newest_of (eventsOf_agree agree workspaceId row'.task.taskId relevantEventTypes)
  have done : hasTaskDoneEvent s workspaceId row'.task.taskId =
      hasTaskDoneEvent t workspaceId row'.task.taskId := by
    have same := (eventsOf_agree agree workspaceId row'.task.taskId ["task.done"]).eq_nil_iff
    unfold hasTaskDoneEvent
    congr 1
    rw [Bool.eq_iff_iff, List.isEmpty_iff, List.isEmpty_iff]
    exact same
  have type : (newest (eventsOf s workspaceId row'.task.taskId relevantEventTypes)).map (·.eventType) =
      (newest (eventsOf t workspaceId row'.task.taskId relevantEventTypes)).map (·.eventType) :=
    latest.map_eq fun _ _ relation => congrArg (·.eventType) relation.columns
  have action := fieldOf_agree latest (show "action" ∈ eventFields by decide)
  have decision := fieldOf_agree latest (show "decision" ∈ eventFields by decide)
  rw [pendingAction_gist legible object, pendingAction_gist legible' object', task, phase, owner, done]
  dsimp only
  rw [type, action, decision]

omit [Platform] in
theorem listTaskMirrors_agree (agree : Agree s t) (workspaceId : String) :
    List.Forall₂ MirrorsAgree (listTaskMirrors s workspaceId) (listTaskMirrors t workspaceId) := by
  have workspaces : ∀ a b, MirrorsAgree a b → a.task.workspaceId = b.task.workspaceId :=
    fun a b own => congrArg (·.task.workspaceId) own.columns
  have tasks : ∀ a b, MirrorsAgree a b → a.task.taskId = b.task.taskId :=
    fun a b own => congrArg (·.task.taskId) own.columns
  unfold listTaskMirrors
  split
  · refine agree.tasks.insertionSort_of fun a a' b b' left right => ?_
    rw [workspaces a b left, workspaces a' b' right, tasks a b left, tasks a' b' right]
  · refine (agree.tasks.filter_of fun a b own => ?_).insertionSort_of fun a a' b b' left right => ?_
    · rw [workspaces a b own]
    · rw [tasks a b left, tasks a' b' right]

omit [Platform] in
theorem mem_listTaskMirrors {db : Snapshot} {workspaceId : String} {row : MirrorRow}
    (member : row ∈ listTaskMirrors db workspaceId) : row ∈ db.tasks := by
  unfold listTaskMirrors at member
  split at member
  · exact (List.mem_insertionSort _).mp member
  · exact List.mem_of_mem_filter ((List.mem_insertionSort _).mp member)

theorem collectPending_gist (db : Snapshot) (workspaceId : String) (row : MirrorRow)
    (rest : List MirrorRow) :
    (collectPending db workspaceId (row :: rest)).map (List.map gist) = (do
      let own ← (pendingAction db workspaceId row).map (Option.map gist)
      let others ← (collectPending db workspaceId rest).map (List.map gist)
      return own.toList ++ others) := by
  rw [collectPending]
  cases pendingAction db workspaceId row with
  | error e => rfl
  | ok own =>
    cases collectPending db workspaceId rest with
    | error e => rfl
    | ok others => cases own <;> rfl

theorem collectPending_agree (agree : Agree s t) (legible : Legible s) (legible' : Legible t)
    (workspaceId : String) {rows rows' : List MirrorRow} (own : List.Forall₂ MirrorsAgree rows rows')
    (objects : ∀ row ∈ rows, IsObject row.task.payloadJson)
    (objects' : ∀ row ∈ rows', IsObject row.task.payloadJson) :
    (collectPending s workspaceId rows).map (List.map gist) =
      (collectPending t workspaceId rows').map (List.map gist) := by
  induction own with
  | nil => rfl
  | cons head rest ih =>
    have first := pendingAction_agree agree legible legible' workspaceId head
      (objects _ (List.mem_cons_self ..)) (objects' _ (List.mem_cons_self ..))
    have others := ih (fun row member => objects row (List.mem_cons_of_mem _ member))
      fun row member => objects' row (List.mem_cons_of_mem _ member)
    rw [collectPending_gist, collectPending_gist, first, others]

/-- The gist of the pending actions is the same. -/
theorem listPendingActions_agree (agree : Agree s t) (legible : Legible s) (legible' : Legible t)
    (workspaceId : String) : (listPendingActions s workspaceId).map (List.map gist) =
      (listPendingActions t workspaceId).map (List.map gist) :=
  collectPending_agree agree legible legible' workspaceId (listTaskMirrors_agree agree workspaceId)
    (fun row member => legible.tasks row (mem_listTaskMirrors member))
    fun row member => legible'.tasks row (mem_listTaskMirrors member)

end Pending

section Execution

variable {s t : Snapshot} {a b : JobRecord}

theorem getIn_eq (value : Json) (part key : String) : (value.get part).get key = value.getIn part key := rfl

theorem isObj_and_truthy (value : Json) (key : String) :
    (value.isObj && (value.get key).truthy) = (value.get key).truthy := by
  cases value <;> rfl

theorem executorProjection_agree (agree : JobsAgree a b) :
    executorProjection ((decode a.payloadJson).get "executor_binding") =
      executorProjection ((decode b.payloadJson).get "executor_binding") := by
  unfold executorProjection
  rw [isObj_and_truthy, isObj_and_truthy, getIn_eq, getIn_eq, getIn_eq, getIn_eq, getIn_eq, getIn_eq,
    agree.binding "provider" (by decide), agree.binding "adapter" (by decide),
    agree.binding "executor_definition_id" (by decide)]

theorem contextProjection_agree (agree : JobsAgree a b) :
    contextProjection ((decode a.payloadJson).get "execution_context") =
      contextProjection ((decode b.payloadJson).get "execution_context") := by
  unfold contextProjection
  rw [isObj_and_truthy, isObj_and_truthy, getIn_eq, getIn_eq, getIn_eq, getIn_eq, getIn_eq, getIn_eq,
    getIn_eq, getIn_eq, agree.context "host_id" (by decide), agree.context "worktree_path" (by decide),
    agree.context "branch" (by decide), agree.context "session_scope_id" (by decide)]

theorem sessionProjection_agree (agree : JobsAgree a b) (progressSession : Json) :
    sessionProjection a progressSession = sessionProjection b progressSession := by
  have terminal : a.terminalSessionId = b.terminalSessionId :=
    congrArg (·.terminalSessionId) agree.columns
  have sources : sessionSources a progressSession = sessionSources b progressSession := by
    simp only [sessionSources, terminal, agree.progressSession, agree.resultSession,
      agree.timeoutSession]
  simp only [sessionProjection, sources]

theorem id_eq (agree : JobsAgree a b) : a.id = b.id := congrArg (·.id) agree.columns

theorem attempt_eq (agree : JobsAgree a b) : a.attemptCount = b.attemptCount :=
  congrArg (·.attemptCount) agree.columns

theorem status_eq (agree : JobsAgree a b) : a.status = b.status := congrArg (·.status) agree.columns

theorem latestJobProgress_agree (agree : Agree s t) (legible : Legible s) (legible' : Legible t)
    (jobId : String) : ∃ latest latest', latestJobProgress s jobId = .ok latest ∧
      latestJobProgress t jobId = .ok latest' ∧ Option.Rel EventsAgree latest latest' := by
  have rows : List.Forall₂ EventsAgree (s.events.filter (·.eventType = "job.progress"))
      (t.events.filter (·.eventType = "job.progress")) := by
    refine agree.events.filter_of fun a b own => ?_
    have type : a.eventType = b.eventType := congrArg (·.eventType) own.columns
    rw [type]
  obtain ⟨found, found', answer, answer', own⟩ := withField_agree rows
    (fun row member => legible.events row (List.mem_of_mem_filter member))
    (fun row member => legible'.events row (List.mem_of_mem_filter member))
    (show "job_id" ∈ eventFields by decide) jobId
  refine ⟨newest found, newest found', ?_, ?_, newest_of own⟩
  · rw [latestJobProgress, answer]
    rfl
  · rw [latestJobProgress, answer']
    rfl

theorem currentAttemptClaim_agree (agree : Agree s t) (jobId : String) (attempt : Nat) :
    Option.Rel EventsAgree (currentAttemptClaim s jobId attempt) (currentAttemptClaim t jobId attempt) := by
  unfold currentAttemptClaim
  split
  · exact .none
  · refine agree.events.find?_of fun a b own => ?_
    have key : a.idempotencyKey = b.idempotencyKey := congrArg (·.idempotencyKey) own.columns
    rw [key]

theorem progressProjection_agree (agree : Agree s t) (own : JobsAgree a b) {latest latest' : Option EventRow}
    (same : Option.Rel EventsAgree latest latest') :
    progressProjection s a latest = progressProjection t b latest' := by
  cases same with
  | none => rfl
  | @some event event' related =>
    have created : event.createdAt = event'.createdAt := congrArg (·.createdAt) related.columns
    have claims := (currentAttemptClaim_agree agree b.id b.attemptCount).map_eq
      (f := EventRow.createdAt) (g := EventRow.createdAt) fun _ _ claim => congrArg (·.createdAt) claim.columns
    have stale : (currentAttemptClaim s b.id b.attemptCount).any
          (fun claim => event'.createdAt < claim.createdAt) =
        (currentAttemptClaim t b.id b.attemptCount).any
          (fun claim => event'.createdAt < claim.createdAt) := by
      have any : ∀ claim : Option EventRow, claim.any (fun claim => event'.createdAt < claim.createdAt) =
          (claim.map (·.createdAt)).any (event'.createdAt < ·) := by
        intro claim
        cases claim <;> rfl
      rw [any, any, claims]
    simp only [progressProjection, id_eq own, attempt_eq own, created, stale,
      related.fields "stage" (by decide), related.fields "session_id" (by decide),
      related.fields "last_activity_at" (by decide)]

theorem leasesProjection_agree (agree : Agree s t) (own : JobsAgree a b) (bound : isBound a ↔ isBound b)
    (generatedAt : String) : leasesProjection s a generatedAt = leasesProjection t b generatedAt := by
  have typed : ((decode a.payloadJson).get "executor_binding" ≠ .null) =
      ((decode b.payloadJson).get "executor_binding" ≠ .null) := propext bound
  simp only [leasesProjection, agree.leases, id_eq own, attempt_eq own, status_eq own, typed]

theorem deliveryProjection_agree (agree : Agree s t) (legible : Legible s) (legible' : Legible t)
    (jobId : String) : deliveryProjection s jobId = deliveryProjection t jobId := by
  have rows : List.Forall₂ EventsAgree (s.events.filter (terminalEventTypes.contains ·.eventType))
      (t.events.filter (terminalEventTypes.contains ·.eventType)) := by
    refine agree.events.filter_of fun a b own => ?_
    have type : a.eventType = b.eventType := congrArg (·.eventType) own.columns
    rw [type]
  obtain ⟨found, found', answer, answer', own⟩ := withField_agree rows
    (fun row member => legible.events row (List.mem_of_mem_filter member))
    (fun row member => legible'.events row (List.mem_of_mem_filter member))
    (show "job_id" ∈ eventFields by decide) jobId
  have joined : List.Forall₂ DeliveriesAgree
      (s.deliveries.flatMap fun row => (found.filter fun event => row.eventId = some event.id).map fun _ => row)
      (t.deliveries.flatMap fun row =>
        (found'.filter fun event => row.eventId = some event.id).map fun _ => row) := by
    refine List.rel_flatMap agree.deliveries fun row row' same => ?_
    have eventId : row.eventId = row'.eventId := congrArg (·.eventId) same
    refine List.rel_map (R := EventsAgree) (fun _ _ _ => same) (own.filter_of fun a b related => ?_)
    have id : a.id = b.id := congrArg (·.id) related.columns
    rw [eventId, id]
  have sorted := joined.insertionSort_of (r := laterDelivery) (s := laterDelivery) fun a a' b b' left right => by
    have created : a.createdAt = b.createdAt := congrArg (·.createdAt) left
    have id : a.id = b.id := congrArg (·.id) left
    have created' : a'.createdAt = b'.createdAt := congrArg (·.createdAt) right
    have id' : a'.id = b'.id := congrArg (·.id) right
    rw [laterDelivery, laterDelivery, created, id, created', id']
  have dicts : ∀ a b, DeliveriesAgree a b → deliveryDict a = deliveryDict b := by
    intro a b same
    have shown := congrArg deliveryDict (show deliveryColumns a = deliveryColumns b from same)
    exact shown
  have shown := sorted.map_eq dicts
  simp only [deliveryProjection, answer, answer', ok_bind, joined.eq_nil_iff, shown]

theorem executionProjection_agree (agree : Agree s t) (legible : Legible s) (legible' : Legible t)
    (own : JobsAgree a b) (bound : isBound a ↔ isBound b) (generatedAt : String) :
    executionProjection s a generatedAt = executionProjection t b generatedAt := by
  obtain ⟨latest, latest', answer, answer', same⟩ := latestJobProgress_agree agree legible legible' b.id
  have progress : progressSessionId latest = progressSessionId latest' :=
    fieldOf_agree same (show "session_id" ∈ eventFields by decide)
  have dict : jobDict a = jobDict b := by
    have shown := congrArg jobDict own.columns
    exact shown
  have session := sessionProjection_agree own (progressSessionId latest')
  simp only [executionProjection, id_eq own, answer, answer', ok_bind, progress, session,
    deliveryProjection_agree agree legible legible' b.id, dict, status_eq own, executorProjection_agree own,
    contextProjection_agree own, progressProjection_agree agree own same,
    leasesProjection_agree agree own bound]

end Execution

section Tasks

variable {s t : Snapshot}

theorem planLocator_agree {row row' : MirrorRow} (own : MirrorsAgree row row') :
    planLocator (decode row.task.payloadJson) = planLocator (decode row'.task.payloadJson) := by
  simp only [planLocator, own.planDoc, own.planPath, own.planArtifact]

theorem taskProjection_agree (agree : Agree s t) (workspaceId : String) (taskId : Option String) :
    taskProjection s workspaceId taskId = taskProjection t workspaceId taskId := by
  cases taskId with
  | none => rfl
  | some taskId =>
    have found : Option.Rel MirrorsAgree
        (s.tasks.find? fun row => row.task.workspaceId = workspaceId && row.task.taskId = taskId)
        (t.tasks.find? fun row => row.task.workspaceId = workspaceId && row.task.taskId = taskId) := by
      refine agree.tasks.find?_of fun a b own => ?_
      have workspace : a.task.workspaceId = b.task.workspaceId := congrArg (·.task.workspaceId) own.columns
      have task : a.task.taskId = b.task.taskId := congrArg (·.task.taskId) own.columns
      rw [workspace, task]
    simp only [taskProjection]
    generalize s.tasks.find? _ = row, t.tasks.find? _ = row' at found
    cases found with
    | none => rfl
    | @some row row' own =>
      have phase : row.task.phase = row'.task.phase := congrArg (·.task.phase) own.columns
      have owner : row.task.owner = row'.task.owner := congrArg (·.task.owner) own.columns
      have branch : row.task.branch = row'.task.branch := congrArg (·.task.branch) own.columns
      have pr : row.task.pr = row'.task.pr := congrArg (·.task.pr) own.columns
      have updated : row.updatedAt = row'.updatedAt := congrArg (·.updatedAt) own.columns
      simp only [phase, owner, branch, pr, updated, planLocator_agree own]

theorem workspaceProjection_agree (agree : Agree s t) (workspaceId : String) :
    workspaceProjection s workspaceId = workspaceProjection t workspaceId := by
  rw [workspaceProjection, workspaceProjection, agree.workspaces]

end Tasks

section Forge

variable {s t : Snapshot}

theorem ciEvidence_agree {ci ci' : Option EventRow} (agree : Option.Rel EventsAgree ci ci') :
    ciEvidence ci = ciEvidence ci' := by
  cases agree with
  | none => rfl
  | @some row row' own =>
    have type : row.eventType = row'.eventType := congrArg (·.eventType) own.columns
    have created : row.createdAt = row'.createdAt := congrArg (·.createdAt) own.columns
    simp only [ciEvidence, type, created, own.fields "pr" (by decide), own.fields "head_sha" (by decide)]

theorem reviewEvidence_agree {review review' ci ci' : Option EventRow}
    (agree : Option.Rel EventsAgree review review') (ciAgree : Option.Rel EventsAgree ci ci')
    (pr : String) : reviewEvidence review ci pr = reviewEvidence review' ci' pr := by
  cases agree with
  | none => rfl
  | @some row row' own =>
    have type : row.eventType = row'.eventType := congrArg (·.eventType) own.columns
    have created : row.createdAt = row'.createdAt := congrArg (·.createdAt) own.columns
    have heads : ci.any (fun ciRow => headsDiffer (payloadOfRow ciRow) (payloadOfRow row)) =
        ci'.any (fun ciRow => headsDiffer (payloadOfRow ciRow) (payloadOfRow row')) := by
      cases ciAgree with
      | none => rfl
      | some ciOwn =>
        simp only [Option.any_some, headsDiffer, own.fields "pr" (by decide),
          own.fields "head_sha" (by decide), ciOwn.fields "pr" (by decide),
          ciOwn.fields "head_sha" (by decide)]
    simp only [reviewEvidence, type, created, heads, own.fields "pr" (by decide),
      own.fields "head_sha" (by decide)]

theorem resultReviewEvidence_agree {review review' : Option EventRow}
    (agree : Option.Rel EventsAgree review review') :
    resultReviewEvidence review = resultReviewEvidence review' := by
  cases agree with
  | none => rfl
  | @some row row' own =>
    have type : row.eventType = row'.eventType := congrArg (·.eventType) own.columns
    have created : row.createdAt = row'.createdAt := congrArg (·.createdAt) own.columns
    simp only [resultReviewEvidence, type, created, own.fields "decision" (by decide),
      own.fields "reviewer" (by decide)]

theorem forgeOfPr_agree (agree : Agree s t) (legible : Legible s) (legible' : Legible t)
    (workspaceId taskId pr : String) :
    forgeOfPr s workspaceId taskId pr = forgeOfPr t workspaceId taskId pr := by
  obtain ⟨found, found', answer, answer', own⟩ := withField_agree
    (eventsOf_agree agree workspaceId taskId ciEventTypes)
    (fun row member => legible.events row (List.mem_of_mem_filter member))
    (fun row member => legible'.events row (List.mem_of_mem_filter member))
    (show "pr" ∈ eventFields by decide) pr
  have ci := newest_of own
  have review := newest_of (eventsOf_agree agree workspaceId taskId prReviewEventTypes)
  have result := newest_of (eventsOf_agree agree workspaceId taskId ["review.completed", "review.rejected"])
  simp only [forgeOfPr, answer, answer', ok_bind, ciEvidence_agree ci, reviewEvidence_agree review ci,
    resultReviewEvidence_agree result]

theorem forgeProjection_agree (agree : Agree s t) (legible : Legible s) (legible' : Legible t)
    (workspace : Option WorkspaceName) (task : TaskEvidence) :
    forgeProjection s workspace task = forgeProjection t workspace task := by
  unfold forgeProjection
  split
  · exact forgeOfPr_agree agree legible legible' _ _ _
  · rfl

end Forge

section Assembly

variable [Platform] {s t : Snapshot}

/-- Jobs that agree, also on whether they have an executor binding. -/
def Matches (a b : JobRecord) : Prop := JobsAgree a b ∧ (isBound a ↔ isBound b)

omit [Platform] in
theorem lifecycleGate_agree {selected selected' : Option JobRecord}
    (own : Option.Rel Matches selected selected') : lifecycleGate selected = lifecycleGate selected' := by
  cases own with
  | none => rfl
  | @some a b related =>
    have recoverable : a.recoverable = b.recoverable := congrArg (·.recoverable) related.1.columns
    simp only [lifecycleGate, status_eq related.1, recoverable]

omit [Platform] in
theorem find?_gist (actions : List PendingAction) (taskId : String) :
    (actions.find? (·.taskId = taskId)).map (·.action) =
      ((actions.map gist).find? (·.1 = taskId)).map (·.2) := by
  rw [List.find?_map, Option.map_map]
  rfl

/-- The gate depends on the gist of the pending actions. -/
theorem nextGate_of_task (db : Snapshot) (workspace : WorkspaceName) {task : TaskEvidence}
    {taskId : String} (named : task.taskId? = some taskId) (selected : Option JobRecord) :
    nextGate db (some workspace) task selected = (do
      let gists ← (listPendingActions db workspace.id).map (List.map gist)
      return match (gists.find? (·.1 = taskId)).map (·.2) with
        | some action => gateDict "operator.pending" action
        | none => lifecycleGate selected) := by
  simp only [nextGate, named]
  cases listPendingActions db workspace.id with
  | error e => rfl
  | ok pending =>
    simp only [ok_bind, Except.map, ← find?_gist]
    cases pending.find? (·.taskId = taskId) <;> rfl

theorem nextGate_agree (agree : Agree s t) (legible : Legible s) (legible' : Legible t)
    (workspace : Option WorkspaceName) (task : TaskEvidence) {selected selected' : Option JobRecord}
    (own : Option.Rel Matches selected selected') :
    nextGate s workspace task selected = nextGate t workspace task selected' := by
  have lifecycle := lifecycleGate_agree own
  cases workspace with
  | none => simp only [nextGate, lifecycle]
  | some workspace =>
    cases named : task.taskId? with
    | none => simp only [nextGate, named, lifecycle]
    | some taskId =>
      rw [nextGate_of_task s workspace named, nextGate_of_task t workspace named,
        listPendingActions_agree agree legible legible', lifecycle]

omit [Platform] in
theorem selectedExecution_agree (agree : Agree s t) (legible : Legible s) (legible' : Legible t)
    (generatedAt : String) {selected selected' : Option JobRecord}
    (own : Option.Rel Matches selected selected') :
    selectedExecution s generatedAt selected = selectedExecution t generatedAt selected' := by
  cases own with
  | none => rfl
  | some related => exact executionProjection_agree agree legible legible' related.1 related.2 generatedAt

/-- What is assembled is the same for selected jobs that match. -/
theorem assemble_agree (agree : Agree s t) (legible : Legible s) (legible' : Legible t)
    {findings findings' : Findings} (own : Option.Rel Matches findings.selected findings'.selected)
    (same : findings' = { findings with selected := findings'.selected }) :
    assemble s findings = assemble t findings' := by
  rw [same]
  simp only [assemble, selectedExecution_agree agree legible legible' _ own,
    nextGate_agree agree legible legible' _ _ own, forgeProjection_agree agree legible legible', diagnostics]

omit [Platform] in
theorem Agree.matches (agree : Agree s t) (bound : SameBound s t) :
    List.Forall₂ Matches s.jobs t.jobs := agree.jobs.both bound

omit [Platform] in
theorem summary_of (a b : JobRecord) (own : Matches a b) : jobSummary a = jobSummary b := by
  have shown := congrArg jobSummary own.1.columns
  exact shown

omit [Platform] in
theorem jobsOfTask_of (all : List.Forall₂ Matches s.jobs t.jobs) (workspaceId taskId : String) :
    List.Forall₂ Matches (jobsOfTask s workspaceId taskId) (jobsOfTask t workspaceId taskId) := by
  refine (all.filter_of fun a b own => ?_).insertionSort_of fun a a' b b' left right => ?_
  · have shown := congrArg (fun job : JobRecord => decide (job.workspaceId = some workspaceId) &&
      decide (job.taskId = some taskId)) own.1.columns
    exact shown
  · have created : a.createdAt = b.createdAt := congrArg (·.createdAt) left.1.columns
    have created' : a'.createdAt = b'.createdAt := congrArg (·.createdAt) right.1.columns
    rw [laterJob, laterJob, created, created', id_eq left.1, id_eq right.1]

omit [Platform] in
theorem taskSelection_of {live live' : List JobRecord} {terminal terminal' : Option JobRecord}
    (all : List.Forall₂ Matches live live') (own : Option.Rel Matches terminal terminal') :
    taskSelection live terminal = taskSelection live' terminal' := by
  have ids : live.map (·.id) = live'.map (·.id) := all.map_eq fun _ _ related => id_eq related.1
  cases all with
  | nil =>
    cases own with
    | none => rfl
    | some related => simp only [taskSelection, id_eq related.1]
  | cons first rest =>
    cases rest with
    | nil => simp only [taskSelection, id_eq first.1]
    | cons _ _ => simp only [taskSelection, ids]

omit [Platform] in
theorem row_of (selection : Selection) {rows rows' : List JobRecord}
    (all : List.Forall₂ Matches rows rows') :
    Option.Rel Matches (selection.row rows) (selection.row rows') := by
  have found : ∀ jobId, Option.Rel Matches (rows.find? (·.id = jobId)) (rows'.find? (·.id = jobId)) :=
    fun jobId => all.find?_of fun a b related => by rw [id_eq related.1]
  cases selection with
  | exact jobId => exact found jobId
  | current jobId => exact found jobId
  | latest jobId => exact found jobId
  | ambiguous candidates => exact .none
  | none => exact .none

omit [Platform] in
theorem live_of {rows rows' : List JobRecord} (all : List.Forall₂ Matches rows rows') :
    List.Forall₂ Matches ((rows.filter isLive).take 100) ((rows'.filter isLive).take 100) := by
  refine List.forall₂_take 100 (all.filter_of fun a b own => ?_)
  have shown := congrArg isLive own.1.columns
  exact shown

omit [Platform] in
theorem terminal_of {rows rows' : List JobRecord} (all : List.Forall₂ Matches rows rows') :
    Option.Rel Matches (rows.filter isTerminal).head? (rows'.filter isTerminal).head? := by
  refine (all.filter_of fun a b own => ?_).head?_of
  have shown := congrArg isTerminal own.1.columns
  exact shown

theorem buildTaskTrace_agree (agree : Agree s t) (bound : SameBound s t) (legible : Legible s)
    (legible' : Legible t) (current : Nat) (workspaceId taskId : String) (historyLimit : Json)
    (now : Option String) :
    buildTaskTrace s current workspaceId taskId historyLimit now =
      buildTaskTrace t current workspaceId taskId historyLimit now := by
  have jobs := jobsOfTask_of (agree.matches bound) workspaceId taskId
  have total := jobs.length_eq
  have summaries : ∀ limit, ((jobsOfTask s workspaceId taskId).take limit).map jobSummary =
      ((jobsOfTask t workspaceId taskId).take limit).map jobSummary :=
    fun limit => (List.forall₂_take limit jobs).map_eq summary_of
  have live := live_of jobs
  have terminal : Option.Rel Matches
      (if ((jobsOfTask s workspaceId taskId).filter isLive).take 100 = [] then
        ((jobsOfTask s workspaceId taskId).filter isTerminal).head? else none)
      (if ((jobsOfTask t workspaceId taskId).filter isLive).take 100 = [] then
        ((jobsOfTask t workspaceId taskId).filter isTerminal).head? else none) := by
    simp only [live.eq_nil_iff]
    split
    · exact terminal_of jobs
    · exact .none
  have selection := taskSelection_of live terminal
  have selected := row_of
    (taskSelection (((jobsOfTask t workspaceId taskId).filter isLive).take 100)
      (if ((jobsOfTask t workspaceId taskId).filter isLive).take 100 = [] then
        ((jobsOfTask t workspaceId taskId).filter isTerminal).head? else none))
    (live.append_of terminal.toList)
  unfold buildTaskTrace
  rw [workspaceProjection_agree agree, taskProjection_agree agree]
  dsimp only
  rw [selection, total]
  refine congrArg (_ >>= ·) (funext fun limit => congrArg (_ >>= ·) (funext fun workspace =>
    congrArg (_ >>= ·) (funext fun _ => ?_)))
  rw [summaries]
  exact assemble_agree agree legible legible' selected rfl

theorem buildJobTrace_agree (agree : Agree s t) (bound : SameBound s t) (legible : Legible s)
    (legible' : Legible t) (current : Nat) (jobId : String) (workspaceId now : Option String) :
    buildJobTrace s current jobId workspaceId now = buildJobTrace t current jobId workspaceId now := by
  have found : Option.Rel Matches (s.jobs.find? (·.id = jobId)) (t.jobs.find? (·.id = jobId)) :=
    (agree.matches bound).find?_of fun a b related => by rw [id_eq related.1]
  unfold buildJobTrace
  generalize s.jobs.find? _ = left, t.jobs.find? _ = right at found
  cases found with
  | none => rfl
  | @some a b own =>
    have workspace : a.workspaceId = b.workspaceId := congrArg (·.workspaceId) own.1.columns
    have task : a.taskId = b.taskId := congrArg (·.taskId) own.1.columns
    have owner : jobOwner s a = jobOwner t b := by
      simp only [jobOwner, workspace, task, workspaceProjection_agree agree, taskProjection_agree agree]
    dsimp only
    rw [owner, workspace, summary_of a b own]
    refine congrArg (_ >>= ·) (funext fun _ => congrArg (_ >>= ·) (funext fun (workspace, task) => ?_))
    exact assemble_agree agree legible legible' (.some own) rfl

/-- **A trace leaks no content**: whatever the payloads, results and bodies hold besides the fields that
the projection names, and besides whether a job has an executor binding, every trace is the same. -/
theorem trace_leaks_nothing (agree : Agree s t) (bound : SameBound s t) (legible : Legible s)
    (legible' : Legible t) (current : Nat) (now : Option String) :
    (∀ workspaceId taskId historyLimit, buildTaskTrace s current workspaceId taskId historyLimit now =
      buildTaskTrace t current workspaceId taskId historyLimit now) ∧
    ∀ jobId workspaceId, buildJobTrace s current jobId workspaceId now =
      buildJobTrace t current jobId workspaceId now :=
  ⟨fun workspaceId taskId historyLimit =>
      buildTaskTrace_agree agree bound legible legible' current workspaceId taskId historyLimit now,
    fun jobId workspaceId =>
      buildJobTrace_agree agree bound legible legible' current jobId workspaceId now⟩

end Assembly

namespace Sample

open Coordinate.Sample

/-- A running job with the given payload. -/
def jobWith (payload : List (String × Json)) : JobRecord where
  id := "j"
  workspaceId := some "w"
  taskId := some "t"
  runnerProfileId := none
  assignedAgent := none
  status := .running
  attemptCount := 1
  terminalSessionId := none
  payloadJson := .value (.obj payload)
  resultJson := none
  progressJson := none
  createdAt := 0
  completedAt := none
  lastActivityAt := none
  recoverable := false
  updatedAt := 0

/-- A report of the worker with a summary. -/
def reportWith (summary : String) : EventRow where
  id := "e"
  workspaceId := some "w"
  eventType := "agent.reported"
  actor := "worker"
  target := none
  taskId := some "t"
  idempotencyKey := "e"
  payloadJson := .value (.obj [("action", .str "done"), ("summary", .str summary)])
  createdAt := 0

def snapshotWith (payload : List (String × Json)) (summary : String) : Snapshot where
  workspaces := [⟨"w", "w"⟩]
  tasks := [⟨{ workspaceId := "w", taskId := "t", phase := some "running" }, 0⟩]
  jobs := [jobWith payload]
  leases := []
  events := [reportWith summary]
  deliveries := []

theorem legible_snapshotWith (payload : List (String × Json)) (summary : String) :
    Legible (snapshotWith payload summary) := by
  constructor
  · intro row member
    cases List.mem_singleton.mp member
    exact ⟨_, rfl⟩
  · intro row member
    cases List.mem_singleton.mp member
    exact ⟨_, rfl⟩

/-- Payloads that agree on the executor and the context, and any two summaries. -/
theorem agree_snapshotWith {payload payload' : List (String × Json)} (summary summary' : String)
    (binding : ∀ key ∈ bindingFields, (Json.obj payload).getIn "executor_binding" key =
      (Json.obj payload').getIn "executor_binding" key)
    (context : ∀ key ∈ contextFields, (Json.obj payload).getIn "execution_context" key =
      (Json.obj payload').getIn "execution_context" key) :
    Agree (snapshotWith payload summary) (snapshotWith payload' summary') where
  workspaces := rfl
  tasks := .cons ⟨rfl, rfl, rfl, rfl⟩ .nil
  jobs := .cons ⟨rfl, binding, context, rfl, rfl, rfl⟩ .nil
  leases := rfl
  events := .cons ⟨rfl, fun key named => by
    simp only [eventFields, List.mem_cons, List.not_mem_nil, or_false] at named
    rcases named with rfl | rfl | rfl | rfl | rfl | rfl | rfl | rfl | rfl <;> rfl⟩ .nil
  deliveries := .nil

/-- A binding without provider, adapter and definition: the projection calls its lease missing. -/
theorem binding_shows : ∃ s t, Agree s t ∧ Legible s ∧ Legible t ∧
    (∀ job ∈ s.jobs ++ t.jobs, IsObject job.payloadJson) ∧
    buildJobTrace s 0 "j" none none ≠ buildJobTrace t 0 "j" none none := by
  refine ⟨snapshotWith [] "", snapshotWith [("executor_binding", .obj [("note", .str "n")])] "",
    agree_snapshotWith "" "" (by decide) (by decide), legible_snapshotWith _ _,
    legible_snapshotWith _ _, fun job member => ?_, by decide +kernel⟩
  rcases List.mem_append.mp member with left | right
  · cases List.mem_singleton.mp left
    exact ⟨_, rfl⟩
  · cases List.mem_singleton.mp right
    exact ⟨_, rfl⟩

/-- A prompt and a summary that differ. -/
theorem prompt_unseen :
    buildJobTrace (snapshotWith [("prompt", .str "p")] "s") 0 "j" none none =
      buildJobTrace (snapshotWith [("prompt", .str "q")] "r") 0 "j" none none :=
  (trace_leaks_nothing (agree_snapshotWith "s" "r" (by decide) (by decide))
    (.cons Iff.rfl .nil) (legible_snapshotWith _ _) (legible_snapshotWith _ _) 0 none).2 "j" none

end Sample

end Coordinate.Trace

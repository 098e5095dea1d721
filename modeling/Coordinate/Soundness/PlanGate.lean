import Coordinate.Model.Installation
import Coordinate.Proofs.PlanGate

/-! # The plan gate agrees with the handoff

In every history of one task a rejection shuts the gate of its scope until the next approval of that
scope, and each handoff to a worker names an approval of the plan that was the latest. An approval opens
the gate when no earlier one of its scope, since the last rejection, names an older plan: such an
approval is found under the same key and returned in place of a new one.
-/

namespace Coordinate.PlanGate

section Rows

variable {workspaceId taskId : String} {rows : List EventRow} {row plan : EventRow} {scope : String}

/-- Each plan of the task has an id and can be read. -/
def Plans (workspaceId taskId : String) (rows : List EventRow) : Prop :=
  ∀ row ∈ rows, isOf workspaceId taskId planReadyType row = true →
    row.id ≠ "" ∧ ∃ payload, row.payloadJson = .value payload

/-- The plan that a decision names. -/
def namesPlan (row : EventRow) (plan : EventRow) : Bool :=
  match row.payloadJson with
  | .value payload => payload.get "plan_ready_event_id" = .str plan.id
  | _ => false

theorem namesPlan_iff {payload : Json} (stored : row.payloadJson = .value payload) :
    namesPlan row plan = true ↔ payload.get "plan_ready_event_id" = .str plan.id := by
  rw [namesPlan, stored]
  exact decide_eq_true_iff

/-- The latest decision of the scope approves the latest plan. -/
def Cleared (workspaceId taskId : String) (rows : List EventRow) (scope : String) : Prop :=
  ∃ row plan, Standing workspaceId taskId rows row .approved scope ∧
    lastPlan workspaceId taskId rows = some plan ∧ namesPlan row plan = true

/-- The latest decision of the scope is a rejection. -/
def Barred (workspaceId taskId : String) (rows : List EventRow) (scope : String) : Prop :=
  ∃ row, Standing workspaceId taskId rows row .rejected scope

/-- The gate of `prepare_handoff` passes, on an approval of the latest plan. -/
def GatePasses (db : Db) (workspaceId taskId scope : String) : Prop :=
  ∃ gate latest plan, requireLatestGateApproved db workspaceId taskId scope = .ok gate ∧
    planReadyRow db workspaceId taskId = some latest ∧
    gate.payload.get "plan_ready_event_id" = .str latest.id ∧
    approvedPlan db workspaceId taskId scope gate = .ok plan

theorem Standing.entry {decision : Decision}
    (standing : Standing workspaceId taskId rows row decision scope) :
    ∃ before, Entry workspaceId taskId before row decision scope := by
  obtain ⟨before, _, -, entry, -⟩ := standing.split
  exact ⟨before, entry⟩

theorem Cleared.gatePasses {db : Db} (plans : Plans workspaceId taskId db.events.rows)
    (cleared : Cleared workspaceId taskId db.events.rows scope) :
    GatePasses db workspaceId taskId scope := by
  obtain ⟨row, plan, standing, last, named⟩ := cleared
  obtain ⟨before, entry⟩ := standing.entry
  obtain ⟨payload, stored, object, -, -⟩ := entry.readable
  have planId := (namesPlan_iff stored).mp named
  have member : plan ∈ db.events.rows.filter (isOf workspaceId taskId planReadyType) :=
    List.mem_of_getLast? last
  obtain ⟨isRow, isPlan⟩ := List.mem_filter.mp member
  obtain ⟨filled, content, readable⟩ := plans plan isRow isPlan
  have decoded : row.toDict = .ok ⟨row, payload⟩ := by
    rw [EventRow.toDict, decodeColumn_ok.mpr stored]
    rfl
  have planDecoded : plan.toDict = .ok ⟨plan, content⟩ := by
    rw [EventRow.toDict, decodeColumn_ok.mpr readable]
    rfl
  have latest : planReadyRow db workspaceId taskId = some plan := last
  refine ⟨⟨row, payload⟩, plan, some ⟨plan, content⟩, ?_, latest, planId, ?_⟩
  · refine Except.bind_ok.mpr ⟨some row, standing.found, Except.bind_ok.mpr ⟨_, decoded, ?_⟩⟩
    exact Except.bind_ok.mpr ⟨(), raiseIf_except_ok.mpr (not_not.mpr entry.type), rfl⟩
  · have found : db.events.find? (fun other => Json.str plan.id = .str other.id) = some plan := by
      refine Table.find?_eq_some_of_mem isRow (by simp) fun other _ same => ?_
      simp only [decide_eq_true_eq, Json.str.injEq] at same
      simp [eventSchema, same]
    have byId : planReadyById db (.str plan.id) = .ok (some ⟨plan, content⟩) := by
      unfold planReadyById
      rw [found]
      dsimp only
      rw [planDecoded]
      rfl
    have read : latestPlanReady db workspaceId taskId = .ok (some ⟨plan, content⟩) := by
      unfold latestPlanReady
      rw [latest]
      dsimp only
      rw [planDecoded]
      rfl
    have truthy : (Json.str plan.id).truthy = true := by
      simpa [Json.truthy] using filled
    unfold approvedPlan
    refine Except.bind_ok.mpr ⟨(), raiseIf_except_ok.mpr (not_not.mpr object), ?_⟩
    rw [planId]
    refine Except.bind_ok.mpr ⟨(), raiseIf_except_ok.mpr (not_not.mpr truthy), ?_⟩
    refine Except.bind_ok.mpr ⟨_, read, Except.bind_ok.mpr ⟨(), ?_, byId⟩⟩
    exact raiseIf_except_ok.mpr (not_not.mpr rfl)

/-- After a rejection the gate raises. -/
theorem Barred.raises {db : Db} (barred : Barred workspaceId taskId db.events.rows scope)
    (gate : EventDict) : requireLatestGateApproved db workspaceId taskId scope ≠ .ok gate := by
  intro passed
  obtain ⟨row, standing⟩ := barred
  obtain ⟨before, entry⟩ := standing.entry
  obtain ⟨found, scanned, passed⟩ := Except.bind_ok.mp passed
  rw [standing.found] at scanned
  cases scanned
  obtain ⟨decoded, read, passed⟩ := Except.bind_ok.mp passed
  obtain ⟨_, approved, -⟩ := Except.bind_ok.mp passed
  have type := not_not.mp (raiseIf_except_ok.mp approved)
  rw [(toDict_ok read).1, entry.type] at type
  exact absurd type (by decide)

/-- The approvals of a scope since the last rejection of the task. -/
def approvalsSince (workspaceId taskId scope : String) (rows : List EventRow) : List EventRow :=
  (rows.reverse.takeWhile fun row => !isOf workspaceId taskId rejectedType row).filter fun row =>
    isOf workspaceId taskId approvedType row &&
      match row.payloadJson with
      | .value payload => payload.get "scope" = .str scope
      | _ => false

/-- An approval of this scope is due: there is a plan, and no approval since the last rejection names
another one. -/
def Due (workspaceId taskId scope : String) (rows : List EventRow) : Prop :=
  ∃ plan, lastPlan workspaceId taskId rows = some plan ∧
    ∀ row ∈ approvalsSince workspaceId taskId scope rows, namesPlan row plan = true

theorem due_iff : Due workspaceId taskId scope rows ↔ (lastPlan workspaceId taskId rows).any (fun plan =>
    (approvalsSince workspaceId taskId scope rows).all (namesPlan · plan)) = true := by
  simp only [Due, Option.any_eq_true, List.all_eq_true]

instance : Decidable (Due workspaceId taskId scope rows) := decidable_of_iff _ due_iff.symm

theorem mem_approvalsSince {before after : List EventRow}
    (entry : Entry workspaceId taskId before row .approved scope)
    (none : ∀ later ∈ after, isOf workspaceId taskId rejectedType later = false) :
    row ∈ approvalsSince workspaceId taskId scope (before ++ row :: after) := by
  obtain ⟨payload, stored, -, named, -⟩ := entry.readable
  have apart : isOf workspaceId taskId rejectedType row = false := by
    have type := entry.type
    simp [isOf, type, Decision.eventType, approvedType, rejectedType]
  refine List.mem_filter.mpr ⟨?_, ?_⟩
  · rw [List.reverse_append, List.reverse_cons, List.append_assoc,
      List.takeWhile_append_of_pos fun later member => by
        rw [none later (List.mem_reverse.mp member)]; rfl]
    refine List.mem_append_right _ ?_
    rw [List.singleton_append, List.takeWhile_cons_of_pos (by rw [apart]; rfl)]
    exact List.mem_cons_self ..
  · rw [stored]
    simp [named, show isOf workspaceId taskId approvedType row = true from entry.isOf]

theorem lastPlan_append (other : isOf workspaceId taskId planReadyType row = false) :
    lastPlan workspaceId taskId (rows ++ [row]) = lastPlan workspaceId taskId rows := by
  rw [lastPlan, List.filter_append, List.filter_cons_of_neg (by rw [other]; exact Bool.false_ne_true),
    List.filter_nil, List.append_nil, lastPlan]

theorem Entry.not_plan {before : List EventRow} {decision : Decision}
    (entry : Entry workspaceId taskId before row decision scope) :
    PlanGate.isOf workspaceId taskId planReadyType row = false := by
  have type := entry.type
  cases decision <;>
    simp [PlanGate.isOf, type, Decision.eventType, approvedType, rejectedType, planReadyType]

/-- What every history keeps. -/
structure Kept (workspaceId taskId : String) (rows : List EventRow) : Prop where
  chronicle : Chronicle workspaceId taskId rows
  plans : Plans workspaceId taskId rows
  keys : rows.Pairwise fun a b => a.idempotencyKey ≠ b.idempotencyKey

/-- An approval that was due opens the gate, whether it is new or found. -/
theorem cleared_of_decided {later : List EventRow} (kept : Kept workspaceId taskId rows)
    (due : Due workspaceId taskId scope rows)
    (decided : Decided workspaceId taskId rows later row .approved scope) :
    Cleared workspaceId taskId later scope := by
  obtain ⟨plan, last, names⟩ := due
  cases decided with
  | recorded appended entry =>
    subst appended
    refine ⟨row, plan, standing_append entry, (lastPlan_append entry.not_plan).trans last, ?_⟩
    obtain ⟨payload, stored, -, -, planId⟩ := entry.readable
    rw [namesPlan_iff stored, planId rfl, last]
    rfl
  | known same member key =>
    subst same
    obtain ⟨standing, before, after, rfl, entry, none⟩ :=
      standing_of_key kept.chronicle kept.keys member key
    exact ⟨row, plan, standing, last, names row (mem_approvalsSince entry none)⟩

theorem barred_of_decided {later : List EventRow} (kept : Kept workspaceId taskId rows)
    (decided : Decided workspaceId taskId rows later row .rejected scope) :
    Barred workspaceId taskId later scope := by
  cases decided with
  | recorded appended entry =>
    subst appended
    exact ⟨row, standing_append entry⟩
  | known same member key =>
    subst same
    exact ⟨row, (standing_of_key kept.chronicle kept.keys member key).1⟩

/-- What a call of the history does to the ledger. -/
inductive Did (workspaceId taskId : String) (rows later : List EventRow) : Label → Prop
  | same {label : Label} (unchanged : later = rows) : Did workspaceId taskId rows later label
  | plan {actor : String} {target key : Option String} {payload : Json} {row : EventRow}
      (appended : later = rows ++ [row]) (type : isOf workspaceId taskId planReadyType row = true)
      (filled : row.id ≠ "") (readable : ∃ payload, row.payloadJson = .value payload)
      (plain : isPlainKey workspaceId taskId row.idempotencyKey = true) :
      Did workspaceId taskId rows later (.planReady actor target key payload)
  | approval {arguments : DecisionArguments} {row : EventRow} (appended : later = rows ++ [row])
      (entry : Entry workspaceId taskId rows row .approved arguments.scope) :
      Did workspaceId taskId rows later (.approve arguments)
  | rejection {arguments : DecisionArguments} {row : EventRow} (appended : later = rows ++ [row])
      (entry : Entry workspaceId taskId rows row .rejected arguments.scope) :
      Did workspaceId taskId rows later (.reject arguments)
  | other {label : Label} {row : EventRow} (appended : later = rows ++ [row])
      (plain : isPlainKey workspaceId taskId row.idempotencyKey = true)
      (undecided : isDecision workspaceId taskId row = false)
      (type : isOf workspaceId taskId planReadyType row = false) :
      Did workspaceId taskId rows later label

theorem Plans.append (plans : Plans workspaceId taskId rows)
    (last : isOf workspaceId taskId planReadyType row = true →
      row.id ≠ "" ∧ ∃ payload, row.payloadJson = .value payload) :
    Plans workspaceId taskId (rows ++ [row]) := by
  intro other member type
  rcases List.mem_append.mp member with old | new
  · exact plans other old type
  · cases List.mem_singleton.mp new
    exact last type

/-- The step lemma of the invariant. -/
theorem Kept.step {later : List EventRow} {label : Label} (kept : Kept workspaceId taskId rows)
    (keys : later.Pairwise fun a b => a.idempotencyKey ≠ b.idempotencyKey)
    (did : Did workspaceId taskId rows later label) : Kept workspaceId taskId later := by
  refine ⟨?_, ?_, keys⟩
  · cases did with
    | same unchanged => exact unchanged ▸ kept.chronicle
    | plan appended type filled readable plain =>
      subst appended
      refine chronicle_append kept.chronicle fun decided => ?_
      simp only [isOf, Bool.and_eq_true, decide_eq_true_eq] at type
      rcases decided with decided | keyed
      · simp [isDecision, isOf, type.2, planReadyType, approvedType, rejectedType] at decided
      · rw [plain] at keyed
        cases keyed
    | approval appended entry =>
      subst appended
      exact chronicle_append kept.chronicle fun _ => ⟨_, _, entry⟩
    | rejection appended entry =>
      subst appended
      exact chronicle_append kept.chronicle fun _ => ⟨_, _, entry⟩
    | other appended plain undecided type =>
      subst appended
      refine chronicle_append kept.chronicle fun decided => ?_
      rw [undecided, plain] at decided
      rcases decided with decided | decided <;> cases decided
  · cases did with
    | same unchanged => exact unchanged ▸ kept.plans
    | plan appended type filled readable plain =>
      subst appended
      exact kept.plans.append fun _ => ⟨filled, readable⟩
    | approval appended entry =>
      subst appended
      exact kept.plans.append fun type => by rw [entry.not_plan] at type; cases type
    | rejection appended entry =>
      subst appended
      exact kept.plans.append fun type => by rw [entry.not_plan] at type; cases type
    | other appended plain undecided type =>
      subst appended
      exact kept.plans.append fun plan => by rw [type] at plan; cases plan

/-- The steps that leave an open gate open: no new plan, no rejection of the scope. -/
def Leaves (scope : String) : Label → Prop
  | .planReady .. => False
  | .reject arguments => arguments.scope ≠ scope
  | _ => True

/-- The steps that leave a shut gate shut: no approval of the scope. -/
def Spares (scope : String) : Label → Prop
  | .approve arguments => arguments.scope ≠ scope
  | _ => True

theorem Standing.other {decision otherDecision : Decision} {other : EventRow} {otherScope : String}
    (standing : Standing workspaceId taskId rows row decision scope)
    (entry : Entry workspaceId taskId rows other otherDecision otherScope)
    (apart : otherScope ≠ scope) :
    Standing workspaceId taskId (rows ++ [other]) row decision scope :=
  standing.append fun _ => ⟨otherDecision, otherScope, entry, apart⟩

theorem Cleared.step {later : List EventRow} {label : Label}
    (cleared : Cleared workspaceId taskId rows scope)
    (did : Did workspaceId taskId rows later label) (leaves : Leaves scope label) :
    Cleared workspaceId taskId later scope := by
  have open_ := cleared
  obtain ⟨row, plan, standing, last, named⟩ := cleared
  cases did with
  | same unchanged => exact unchanged ▸ open_
  | plan appended type filled readable plain => exact leaves.elim
  | @approval arguments added appended entry =>
    subst appended
    by_cases same : arguments.scope = scope
    · subst same
      refine ⟨added, plan, standing_append entry, (lastPlan_append entry.not_plan).trans last, ?_⟩
      obtain ⟨payload, stored, -, -, planId⟩ := entry.readable
      rw [namesPlan_iff stored, planId rfl, last]
      rfl
    · exact ⟨row, plan, standing.other entry same, (lastPlan_append entry.not_plan).trans last, named⟩
  | rejection appended entry =>
    subst appended
    exact ⟨row, plan, standing.other entry leaves, (lastPlan_append entry.not_plan).trans last, named⟩
  | other appended plain undecided type =>
    subst appended
    refine ⟨row, plan, standing.append fun decided => ?_, (lastPlan_append type).trans last, named⟩
    rw [undecided] at decided
    cases decided

theorem Barred.step {later : List EventRow} {label : Label}
    (barred : Barred workspaceId taskId rows scope)
    (did : Did workspaceId taskId rows later label) (spares : Spares scope label) :
    Barred workspaceId taskId later scope := by
  have shut := barred
  obtain ⟨row, standing⟩ := barred
  cases did with
  | same unchanged => exact unchanged ▸ shut
  | plan appended type filled readable plain =>
    subst appended
    refine ⟨row, standing.append fun decided => ?_⟩
    simp only [isOf, Bool.and_eq_true, decide_eq_true_eq] at type
    simp [isDecision, isOf, type.2, planReadyType, approvedType, rejectedType] at decided
  | approval appended entry =>
    subst appended
    exact ⟨row, standing.other entry spares⟩
  | @rejection arguments added appended entry =>
    subst appended
    by_cases same : arguments.scope = scope
    · subst same
      exact ⟨added, standing_append entry⟩
    · exact ⟨row, standing.other entry same⟩
  | other appended plain undecided type =>
    subst appended
    refine ⟨row, standing.append fun decided => ?_⟩
    rw [undecided] at decided
    cases decided

end Rows

section History

variable [Platform] {workspaceId taskId : String} {s t : Work Db}

omit [Platform] in
theorem distinct_keys (db : Db) :
    db.events.rows.Pairwise fun a b => a.idempotencyKey ≠ b.idempotencyKey := by
  refine db.events.distinct.imp fun {a b} apart same => ?_
  simp [eventSchema, same] at apart

/-- An identifier is not the beginning of a key. -/
theorem uuid_plain (n : Nat) : isPlainKey workspaceId taskId (Platform.uuid4 n) = true := by
  have letters := Text.uuidShape_letters (Platform.uuid4_form n)
  have foreign : ∀ decision, Text.startsWith (Platform.uuid4 n)
      (keyStart decision workspaceId taskId) = false := by
    intro decision
    by_contra starts
    rw [Bool.not_eq_false, Text.startsWith, List.isPrefixOf_iff_prefix] at starts
    have colon : ':' ∈ (keyStart decision workspaceId taskId).toList := by
      simp [keyStart, String.toList_append, ToString.toString]
    rcases letters ':' (starts.subset colon) with hex | dash
    · exact absurd hex (by decide)
    · exact absurd dash (by decide)
  simp [isPlainKey, foreign]

theorem uuid_ne_empty (n : Nat) : Platform.uuid4 n ≠ "" := by
  intro empty
  have length := Text.uuidShape_length (Platform.uuid4_form n)
  rw [empty] at length
  exact absurd length (by decide)

omit [Platform] in
/-- The key of a handoff is not the key of a decision. -/
theorem handoffKey_plain {arguments : HandoffArguments} (passage : Passage)
    (workspace : arguments.workspaceId = workspaceId) (task : arguments.taskId = taskId) :
    isPlainKey workspaceId taskId (handoffKey arguments passage) = true := by
  subst workspace task
  have foreign : ∀ decision, Text.startsWith (handoffKey arguments passage)
      (keyStart decision arguments.workspaceId arguments.taskId) = false := by
    intro decision
    by_contra starts
    rw [Bool.not_eq_false, Text.startsWith, List.isPrefixOf_iff_prefix] at starts
    obtain ⟨rest, same⟩ := starts
    simp only [handoffKey, keyStart, String.toList_append, List.append_assoc] at same
    cases decision <;>
      simp [Decision.eventType, approvedType, rejectedType, ToString.toString] at same
  simp [isPlainKey, foreign]

/-- The key of a new row is the given one or its identifier. -/
theorem toRow_plain {event : NewEvent}
    (plain : ∀ key, event.idempotencyKey = some key → isPlainKey workspaceId taskId key = true)
    (n createdAt : Nat) : isPlainKey workspaceId taskId
      (event.toRow (Platform.uuid4 n) createdAt).idempotencyKey = true := by
  cases keyed : event.idempotencyKey.filter (· ≠ "") with
  | none =>
    rw [NewEvent.toRow, keyed]
    exact uuid_plain n
  | some key =>
    rw [NewEvent.toRow, keyed]
    exact plain key (Option.filter_eq_some_iff.mp keyed).1

/-- A row that an append without a key of a decision adds. -/
theorem did_of_appended {label : Label} {event : NewEvent} {result : AppendEventResult}
    (plain : ∀ key, event.idempotencyKey = some key → isPlainKey workspaceId taskId key = true)
    (foreign : ∀ id createdAt, isDecision workspaceId taskId (event.toRow id createdAt) = false ∧
      isOf workspaceId taskId planReadyType (event.toRow id createdAt) = false)
    (did : Appended event s t result) :
    Did workspaceId taskId s.store.events.rows t.store.events.rows label := by
  cases did with
  | created events inserted store =>
    rw [store]
    obtain ⟨undecided, type⟩ := foreign (Platform.uuid4 s.draws) (now s.tick)
    exact .other (Table.insert?_rows inserted) (toRow_plain plain _ _) undecided type
  | existing row member key store =>
    exact .same (by rw [store])

theorem planReady_did {actor : String} {target key : Option String} {payload : Json}
    (plain : key.all (isPlainKey workspaceId taskId) = true) :
    Did workspaceId taskId s.store.events.rows
      ((appendEvent (planReadyEvent workspaceId taskId actor target key payload)).run s).final.store.events.rows
      (.planReady actor target key payload) := by
  cases ran : (appendEvent (planReadyEvent workspaceId taskId actor target key payload)).run s with
  | error e after => exact .same (by rw [EStateM.Result.final_error, (appendEvent_error ran).2])
  | ok result after =>
    rw [EStateM.Result.final_ok]
    cases appendEvent_ok ran with
    | created events inserted store =>
      rw [store]
      refine .plan (Table.insert?_rows inserted) ?_ (uuid_ne_empty _) ⟨_, rfl⟩
        (toRow_plain (fun own same => ?_) _ _)
      · simp [isOf, NewEvent.toRow, planReadyEvent]
      · rw [show key = some own from same] at plain
        exact plain
    | existing row member key store => exact .same (by rw [store])

theorem approve_did {arguments : DecisionArguments}
    (about : arguments.isAbout workspaceId taskId = true) :
    Did workspaceId taskId s.store.events.rows
      ((approvePlan arguments).run s).final.store.events.rows (.approve arguments) := by
  cases ran : (approvePlan arguments).run s with
  | ok result after =>
    cases approvePlan_ok about ran with
    | recorded appended entry => exact .approval appended entry
    | known same member key => exact .same same
  | error e after =>
    obtain same | ⟨row, decided⟩ := approvePlan_error about ran
    · exact .same (congrArg Table.rows same)
    · cases decided with
      | recorded appended entry => exact .approval appended entry
      | known same member key => exact .same same

theorem reject_did {arguments : DecisionArguments}
    (about : arguments.isAbout workspaceId taskId = true) :
    Did workspaceId taskId s.store.events.rows
      ((rejectPlan arguments).run s).final.store.events.rows (.reject arguments) := by
  cases ran : (rejectPlan arguments).run s with
  | ok result after =>
    cases rejectPlan_ok about ran with
    | recorded appended entry => exact .rejection appended entry
    | known same member key => exact .same same
  | error e after =>
    obtain same | ⟨row, decided⟩ := rejectPlan_error about ran
    · exact .same (congrArg Table.rows same)
    · cases decided with
      | recorded appended entry => exact .rejection appended entry
      | known same member key => exact .same same

/-- What a handoff has read, and its append. -/
structure Prepared (s t : Work Db) (arguments : HandoffArguments) (result : HandoffPreparedResult) :
    Prop where
  gate : ∃ gate passage appended middle workspace task plan texts,
    gateFor s.store arguments = .ok gate ∧ handedPlan s.store arguments gate = .ok passage ∧
    middle.store = s.store ∧ Appended
      { workspaceId := some arguments.workspaceId, eventType := handoffType,
        actor := arguments.actor, target := some arguments.role, taskId := some arguments.taskId,
        idempotencyKey := some
          ((arguments.idempotencyKey.filter (· ≠ "")).getD (handoffKey arguments passage)),
        payload := handoffPayload arguments workspace task passage plan texts } middle t appended ∧
    result.event.row = appended.row ∧ result.eventCreated = appended.created

theorem prepareHandoff_ok {arguments : HandoffArguments} {files : HandoffFiles}
    {result : HandoffPreparedResult} (ran : (prepareHandoff arguments files).run s = .ok result t) :
    Prepared s t arguments result := by
  simp only [prepareHandoff, Txn.bind_ok, readOrRaise_ok, Txn.orRaise_ok, utcNow_run, Txn.pure_run,
    EStateM.Result.ok.injEq] at ran
  obtain ⟨workspace, _, ⟨-, rfl⟩, task, _, ⟨-, rfl⟩, gate, _, ⟨gated, rfl⟩, current, _, ⟨rfl, rfl⟩,
    profile, _, ⟨-, rfl⟩, passage, _, ⟨passed, rfl⟩, _, _, ⟨-, rfl⟩, plan, _, ⟨-, rfl⟩, texts, _,
    ⟨-, rfl⟩, appended, middle, stored, event, _, ⟨decoded, rfl⟩, rfl, rfl⟩ := ran
  exact ⟨gate, passage, appended, { s with tick := s.tick + 1 }, workspace, task, plan, texts, gated,
    passed, rfl,
    appendEvent_ok stored, (toDict_ok decoded).1, rfl⟩

omit [Platform] in
theorem handoff_foreign {event : NewEvent}
    (type : event.eventType = handoffType) (id : String) (createdAt : Nat) :
    isDecision workspaceId taskId (event.toRow id createdAt) = false ∧
      isOf workspaceId taskId planReadyType (event.toRow id createdAt) = false := by
  simp [isDecision, isOf, NewEvent.toRow, type, handoffType, approvedType, rejectedType,
    planReadyType]

theorem handoff_did {arguments : HandoffArguments} {files : HandoffFiles}
    (about : arguments.isAbout workspaceId taskId = true) :
    Did workspaceId taskId s.store.events.rows
      ((prepareHandoff arguments files).run s).final.store.events.rows (.handoff arguments files) := by
  simp only [HandoffArguments.isAbout, isDefault, Bool.and_eq_true, decide_eq_true_eq,
    Option.isNone_iff_eq_none] at about
  obtain ⟨⟨workspace, task⟩, default⟩ := about
  have plain : ∀ passage key, some ((arguments.idempotencyKey.filter (· ≠ "")).getD
      (handoffKey arguments passage)) = some key → isPlainKey workspaceId taskId key = true := by
    intro passage key same
    rw [default, Option.getD_none] at same
    rw [← Option.some.inj same]
    exact handoffKey_plain passage workspace task
  cases ran : (prepareHandoff arguments files).run s with
  | ok result after =>
    obtain ⟨gate, passage, appended, middle, known, dict, plan, texts, -, -, same, did, -, -⟩ :=
      (prepareHandoff_ok ran).gate
    rw [← same]
    exact did_of_appended (plain passage) (handoff_foreign rfl) did
  | error e after =>
    simp only [prepareHandoff, Txn.bind_error, readOrRaise_ok, readOrRaise_error, Txn.orRaise_ok,
      Txn.orRaise_error, utcNow_run, EStateM.Result.ok.injEq, reduceCtorEq, false_or] at ran
    obtain ⟨-, rfl⟩ | ⟨known, _, ⟨-, rfl⟩, ⟨-, rfl⟩ | ⟨dict, _, ⟨-, rfl⟩, ⟨-, rfl⟩ | ⟨gate, _, ⟨-, rfl⟩,
      current, _, ⟨rfl, rfl⟩, ⟨-, rfl⟩ | ⟨profile, _, ⟨-, rfl⟩, ⟨-, rfl⟩ | ⟨passage, _, ⟨-, rfl⟩,
      ⟨_, -, -, rfl⟩ | ⟨_, _, ⟨-, rfl⟩, ⟨_, -, -, rfl⟩ | ⟨plan, _, ⟨-, rfl⟩, ⟨_, -, -, rfl⟩ |
      ⟨texts, _, ⟨-, rfl⟩, failed | ⟨appended, middle, stored, ⟨_, -, -, rfl⟩ |
        ⟨_, _, _, returned⟩⟩⟩⟩⟩⟩⟩⟩⟩⟩ := ran
    · exact .same rfl
    · exact .same rfl
    · exact .same rfl
    · exact .same rfl
    · exact .same rfl
    · exact .same rfl
    · exact .same rfl
    · exact .same rfl
    · exact .same (by rw [EStateM.Result.final_error, (appendEvent_error failed).2])
    · have did := appendEvent_ok stored
      change Did workspaceId taskId ({ s with tick := s.tick + 1 } : Work Db).store.events.rows _ _
      exact did_of_appended (plain passage) (handoff_foreign rfl) did
    · cases returned

/-- What one step of the history does to the ledger. -/
theorem step_did {label : Label} (stepped : step workspaceId taskId s label = some t) :
    Did workspaceId taskId s.store.events.rows t.store.events.rows label := by
  cases label with
  | planReady actor target key payload =>
    dsimp only [step] at stepped
    split at stepped
    · rename_i plain
      cases stepped
      exact planReady_did plain
    · cases stepped
  | approve arguments =>
    dsimp only [step] at stepped
    split at stepped
    · rename_i about
      cases stepped
      exact approve_did about
    · cases stepped
  | reject arguments =>
    dsimp only [step] at stepped
    split at stepped
    · rename_i about
      cases stepped
      exact reject_did about
    · cases stepped
  | handoff arguments files =>
    dsimp only [step] at stepped
    split at stepped
    · rename_i about
      cases stepped
      exact handoff_did about
    · cases stepped
  | record row =>
    dsimp only [step] at stepped
    split at stepped
    · rename_i foreign
      obtain ⟨events, inserted, rfl⟩ := Option.map_eq_some_iff.mp stepped
      simp only [isForeign, Bool.and_eq_true, Bool.not_eq_true'] at foreign
      refine .other (Table.insert?_rows inserted) foreign.1 ?_ ?_
      · have apart := foreign.2
        simp only [isDecision, isOf]
        revert apart
        cases decide (row.workspaceId = some workspaceId) <;>
          cases decide (row.taskId = some taskId) <;>
          cases decide (row.eventType = planReadyType) <;>
          cases decide (row.eventType = approvedType) <;>
          cases decide (row.eventType = rejectedType) <;> decide
      · have apart := foreign.2
        simp only [isOf]
        revert apart
        cases decide (row.workspaceId = some workspaceId) <;>
          cases decide (row.taskId = some taskId) <;>
          cases decide (row.eventType = planReadyType) <;> simp
    · cases stepped
  | elsewhere db =>
    dsimp only [step] at stepped
    split at stepped
    · rename_i same
      cases stepped
      exact .same (congrArg Table.rows same)
    · cases stepped

/-- The run lemma. -/
theorem kept_of_run {ok : Work Db → Label → Prop} (initial : Initial workspaceId taskId s)
    (run : (history workspaceId taskId).Reaches ok s t) :
    Kept workspaceId taskId t.store.events.rows := by
  refine run.invariant (P := fun u => Kept workspaceId taskId u.store.events.rows)
    (fun _ _ u kept _ stepped => kept.step (distinct_keys u.store) (step_did stepped)) ?_
  refine ⟨chronicle_of_foreign initial, fun row member type => ?_, distinct_keys _⟩
  have foreign := initial row member
  simp only [isOf, Bool.and_eq_true, decide_eq_true_eq] at type
  simp [isForeign, type.1.1, type.1.2, type.2] at foreign

/-- A handoff that names an approval of the scope and of the plan that is the latest. -/
def NamesLatest (db : Db) (workspaceId taskId scope : String) (handoff : EventRow) : Prop :=
  ∃ payload approval latest, handoff.payloadJson = .value payload ∧ approval ∈ db.events ∧
    payload.get "approved_gate_event_id" = .str approval.id ∧
    approval.eventType = approvedType ∧
    (∃ content, approval.payloadJson = .value content ∧ content.get "scope" = .str scope) ∧
    planReadyRow db workspaceId taskId = some latest ∧ namesPlan approval latest = true

omit [Platform] in
/-- The gate of a worker reads the latest decision of the scope. -/
theorem gate_entry {db : Db} {scope : String} {gate : EventDict}
    (kept : Kept workspaceId taskId db.events.rows)
    (passed : requireLatestGateApproved db workspaceId taskId scope = .ok gate) :
    gate.row ∈ db.events ∧ gate.row.payloadJson = .value gate.payload ∧
      ∃ before after, db.events.rows = before ++ gate.row :: after ∧
        Entry workspaceId taskId before gate.row .approved scope := by
  obtain ⟨found, scanned, passed⟩ := Except.bind_ok.mp passed
  cases found with
  | none => cases passed
  | some row =>
    obtain ⟨decoded, read, passed⟩ := Except.bind_ok.mp passed
    obtain ⟨_, approved, same⟩ := Except.bind_ok.mp passed
    cases same
    have type := not_not.mp (raiseIf_except_ok.mp approved)
    obtain ⟨own, stored⟩ := toDict_ok read
    rw [own] at type ⊢
    obtain ⟨member, payload, readable, named⟩ := firstOfScope_some scanned
    rw [List.mem_reverse, decisionRows_eq, List.mem_filter] at member
    obtain ⟨isRow, decided⟩ := member
    obtain ⟨before, after, split⟩ := List.append_of_mem isRow
    obtain ⟨decision, other, entry⟩ := kept.chronicle before row after split (.inl decided)
    have kind : decision = .approved := decisionType_inj (entry.type.symm.trans type)
    obtain ⟨content, sameRow, -, its, -⟩ := entry.readable
    rw [readable, JsonText.value.injEq] at sameRow
    subst sameRow kind
    rw [named, Json.str.injEq] at its
    subst its
    exact ⟨isRow, stored, before, after, split, entry⟩

omit [Platform] in
/-- An approval that `prepare_handoff` accepts names the latest plan. -/
theorem latest_of_approved {db : Db} {scope : String} {gate : EventDict} {plan : Option EventDict}
    {before after : List EventRow}
    (split : db.events.rows = before ++ gate.row :: after)
    (accepted : approvedPlan db workspaceId taskId scope gate = .ok plan)
    (names : gate.payload.get "plan_ready_event_id" =
      Json.ofOption ((lastPlan workspaceId taskId before).map (·.id))) :
    ∃ latest, planReadyRow db workspaceId taskId = some latest ∧
      gate.payload.get "plan_ready_event_id" = .str latest.id := by
  obtain ⟨_, -, accepted⟩ := Except.bind_ok.mp accepted
  obtain ⟨_, truthy, accepted⟩ := Except.bind_ok.mp accepted
  obtain ⟨found, read, accepted⟩ := Except.bind_ok.mp accepted
  have filled := not_not.mp (raiseIf_except_ok.mp truthy)
  have rows := latestPlanReady_ok read
  cases found with
  | some latest =>
    obtain ⟨_, same, -⟩ := Except.bind_ok.mp accepted
    exact ⟨latest.row, rows.symm, not_not.mp (raiseIf_except_ok.mp same)⟩
  | none =>
    -- the approval names a plan, which is still in the ledger
    cases last : lastPlan workspaceId taskId before with
    | none =>
      rw [names, last] at filled
      cases filled
    | some earlier =>
      have member : earlier ∈ before.filter (isOf workspaceId taskId planReadyType) :=
        List.mem_of_getLast? last
      obtain ⟨isRow, type⟩ := List.mem_filter.mp member
      have absent : lastPlan workspaceId taskId db.events.rows = none := rows.symm
      rw [lastPlan, List.getLast?_eq_none_iff, List.filter_eq_nil_iff, split] at absent
      exact absurd type (absent earlier (List.mem_append_left _ isRow))

/-- A handoff to a worker names an approval of the latest plan. -/
theorem namesLatest_of_prepared {arguments : HandoffArguments} {result : HandoffPreparedResult}
    (kept : Kept workspaceId taskId s.store.events.rows)
    (about : arguments.isAbout workspaceId taskId = true) (worker : arguments.role ≠ "reviewer")
    (new : result.eventCreated = true) (prepared : Prepared s t arguments result) :
    NamesLatest s.store workspaceId taskId arguments.requiredScope result.event.row := by
  simp only [HandoffArguments.isAbout, Bool.and_eq_true, decide_eq_true_eq] at about
  obtain ⟨⟨rfl, rfl⟩, -⟩ := about
  obtain ⟨gate, passage, appended, middle, workspace, task, plan, texts, gated, passed, -, did, row,
    created⟩ := prepared.gate
  rw [gateFor, if_neg worker] at gated
  cases required : requireLatestGateApproved s.store arguments.workspaceId arguments.taskId
      arguments.requiredScope with
  | error e => rw [required] at gated; cases gated
  | ok approval =>
    rw [required] at gated
    cases gated
    obtain ⟨handed, approved, same⟩ := Except.bind_ok.mp passed
    cases same
    obtain ⟨isRow, stored, before, after, split, entry⟩ := gate_entry kept required
    obtain ⟨_, readable, -, named, names⟩ := entry.readable
    rw [stored, JsonText.value.injEq] at readable
    subst readable
    obtain ⟨latest, last, planId⟩ := latest_of_approved split approved (names rfl)
    cases did with
    | existing known member key store =>
      rw [new] at created
      cases created
    | created events inserted store =>
      rw [row]
      exact ⟨handoffPayload arguments workspace task ⟨approval.row.id, handed⟩ plan texts,
        approval.row, latest, rfl, isRow, rfl, entry.type, ⟨_, stored, named⟩, last,
        (namesPlan_iff stored).mpr planId⟩

/-- **The plan gate and the handoff.** In every history of one task: an approval that was due opens the
gate of its scope until the next plan or the next rejection of the scope; after a rejection every handoff
of the scope to a worker raises until the next approval of the scope; and a new handoff to a worker names
an approval of its scope and of the plan that is the latest. -/
theorem plan_gate_sound {start : Work Db} (initial : Initial workspaceId taskId start)
    (run : (history workspaceId taskId).Reaches Machine.anyStep start s) :
    (∀ arguments result u, arguments.isAbout workspaceId taskId = true →
      Due workspaceId taskId arguments.scope s.store.events.rows →
      (approvePlan arguments).run s = .ok result t →
      (history workspaceId taskId).Reaches (fun _ => Leaves arguments.scope) t u →
      GatePasses u.store workspaceId taskId arguments.scope) ∧
    (∀ arguments result u, arguments.isAbout workspaceId taskId = true →
      (rejectPlan arguments).run s = .ok result t →
      (history workspaceId taskId).Reaches (fun _ => Spares arguments.scope) t u →
      ∀ (handoff : HandoffArguments) files prepared v, handoff.isAbout workspaceId taskId = true →
        handoff.role ≠ "reviewer" → handoff.requiredScope = arguments.scope →
        (prepareHandoff handoff files).run u ≠ .ok prepared v) ∧
    (∀ (handoff : HandoffArguments) files result, handoff.isAbout workspaceId taskId = true →
      handoff.role ≠ "reviewer" → (prepareHandoff handoff files).run s = .ok result t →
      result.eventCreated = true →
      NamesLatest s.store workspaceId taskId handoff.requiredScope result.event.row) := by
  have kept := kept_of_run initial run
  refine ⟨fun arguments result u about due approved later => ?_,
    fun arguments result u about rejected later handoff files prepared v mine worker scope passed => ?_,
    fun handoff files result about worker ran new =>
      namesLatest_of_prepared kept about worker new (prepareHandoff_ok ran)⟩
  · have stepped : (history workspaceId taskId).step s (.approve arguments) = some t := by
      simp only [history, step, about, if_true, approved, EStateM.Result.final_ok]
    have reached : (history workspaceId taskId).Reaches Machine.anyStep start u :=
      (run.tail _ trivial stepped).trans later.any
    have cleared : Cleared workspaceId taskId u.store.events.rows arguments.scope :=
      later.invariant (P := fun v => Cleared workspaceId taskId v.store.events.rows arguments.scope)
        (fun _ _ _ cleared leaves stepped => cleared.step (step_did stepped) leaves)
        (cleared_of_decided kept due (approvePlan_ok about approved))
    exact cleared.gatePasses (kept_of_run initial reached).plans
  · have barred : Barred workspaceId taskId u.store.events.rows arguments.scope :=
      later.invariant (P := fun v => Barred workspaceId taskId v.store.events.rows arguments.scope)
        (fun _ _ _ barred spares stepped => barred.step (step_did stepped) spares)
        (barred_of_decided kept (rejectPlan_ok about rejected))
    simp only [HandoffArguments.isAbout, Bool.and_eq_true, decide_eq_true_eq] at mine
    obtain ⟨⟨rfl, rfl⟩, -⟩ := mine
    obtain ⟨gate, _, _, _, _, _, _, _, gated, -⟩ := (prepareHandoff_ok passed).gate
    rw [gateFor, if_neg worker, scope] at gated
    cases required : requireLatestGateApproved u.store handoff.workspaceId handoff.taskId
        arguments.scope with
    | error e => rw [required] at gated; cases gated
    | ok approval => exact barred.raises approval required

end History

namespace Sample

open Coordinate.Sample

/-- One task of one workspace. -/
def start : Work Db :=
  { initialWork with store := { Db.empty with
    workspaces := tableOf { id := "w", path := "/w", harnessRoot := "/w" }
    tasks := tableOf { workspaceId := "w", taskId := "t" } } }

theorem start_initial : Initial "w" "t" start := fun _ member => (by cases member)

def decision : DecisionArguments :=
  { workspaceId := "w", taskId := "t", scope := "implementation plan" }

def planned (document : String) : Label :=
  .planReady "operator" none none (.obj [("plan_doc", .str document)])

def approves (s : Work Db) : Bool :=
  match (approvePlan decision).run s with
  | .ok .. => true
  | .error .. => false

/-- A plan and its approval. -/
theorem approval_opens : ∃ s result t, (history "w" "t").Reaches Machine.anyStep start s ∧
    (approvePlan decision).run s = .ok result t ∧ GatePasses t.store "w" "t" "implementation plan" := by
  obtain ⟨s, run, checked⟩ : ∃ s, (history "w" "t").Reaches Machine.anyStep start s ∧
      (decide (Due "w" "t" "implementation plan" s.store.events.rows) && approves s) = true :=
    @Machine.exists_reaches _ _ _ _ _ (fun _ _ => true) _ (fun _ _ _ => trivial)
      [planned "one.md"] (by decide +kernel)
  rw [Bool.and_eq_true, decide_eq_true_eq] at checked
  obtain ⟨due, approved⟩ := checked
  unfold approves at approved
  split at approved
  · rename_i result t ran
    exact ⟨s, result, t, run, ran,
      (plan_gate_sound (t := t) start_initial run).1 decision result t (by decide) due ran .refl⟩
  · cases approved

/-- The gate that raises. -/
def shut (db : Db) : Bool :=
  match requireLatestGateApproved db "w" "t" "implementation plan" with
  | .ok gate => match approvedPlan db "w" "t" "implementation plan" gate with
    | .ok _ => false
    | .error _ => true
  | .error _ => true

theorem not_passes {db : Db} (raised : shut db = true) :
    ¬ GatePasses db "w" "t" "implementation plan" := by
  rintro ⟨gate, latest, plan, required, -, -, accepted⟩
  rw [shut, required] at raised
  dsimp only at raised
  rw [accepted] at raised
  cases raised

/-- A plan, its approval, a new plan: the second approval is found under the key of the first. -/
theorem approval_stale : ∃ s result t, (history "w" "t").Reaches Machine.anyStep start s ∧
    (approvePlan decision).run s = .ok result t ∧
    ¬ GatePasses t.store "w" "t" "implementation plan" := by
  obtain ⟨s, run, checked⟩ : ∃ s, (history "w" "t").Reaches Machine.anyStep start s ∧
      (match (approvePlan decision).run s with
        | .ok _ t => shut t.store
        | .error .. => false) = true :=
    @Machine.exists_reaches _ _ _ _ _ (fun _ _ => true) _ (fun _ _ _ => trivial)
      [planned "one.md", .approve decision, planned "two.md"] (by decide +kernel)
  split at checked
  · rename_i result t ran
    exact ⟨s, result, t, run, ran, not_passes checked⟩
  · cases checked

end Sample

end Coordinate.PlanGate

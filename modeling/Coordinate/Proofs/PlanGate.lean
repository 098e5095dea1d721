import Coordinate.Model.PlanGate
import Coordinate.Proofs.TaskMirrors

/-! # The decisions on a plan in the ledger

Each decision is recorded under a key that counts the opposite decisions before it, and an approval names
the latest plan of its time. From the keys: a decision that finds its key taken is still the latest of its
scope.
-/

namespace Coordinate.PlanGate

section Keys

variable {workspaceId taskId : String}

theorem toList_key (decision : Decision) (scope : String) (count : Nat) :
    (decision.key workspaceId taskId scope count).toList =
      (keyStart decision workspaceId taskId).toList ++ (scope.toList ++
        ':' :: ("after_".toList ++ (Nat.toDigits 10 count ++
          ('_' :: decision.opposite.countName.toList)))) := by
  simp [Decision.key, keyStart, String.toList_append, ToString.toString, Nat.toList_repr]

theorem key_ne_empty (decision : Decision) (scope : String) (count : Nat) :
    decision.key workspaceId taskId scope count ≠ "" := by
  intro empty
  have chars := congrArg String.toList empty
  rw [toList_key] at chars
  simp at chars

/-- Where the keys of two decisions differ. -/
theorem keyStart_ne {first second : Decision} {a b : List Char} (apart : first ≠ second) :
    (keyStart first workspaceId taskId).toList ++ a ≠
      (keyStart second workspaceId taskId).toList ++ b := by
  intro same
  simp only [keyStart, String.toList_append, List.append_assoc] at same
  cases first <;> cases second <;> first | exact apart rfl | skip
  all_goals
    simp [Decision.eventType, approvedType, rejectedType, ToString.toString] at same

/-- A key tells the decision, its scope and its count. -/
theorem key_inj {first second : Decision} {scope other : String} {count later : Nat}
    (same : first.key workspaceId taskId scope count = second.key workspaceId taskId other later) :
    first = second ∧ scope = other ∧ count = later := by
  have chars := congrArg String.toList same
  rw [toList_key, toList_key] at chars
  by_cases kind : first = second
  · subst kind
    have rest := List.append_cancel_left chars
    have plain : ∀ n, ':' ∉ "after_".toList ++ (Nat.toDigits 10 n ++
        ('_' :: first.opposite.countName.toList)) := by
      intro n member
      simp only [List.mem_append, List.mem_cons] at member
      rcases member with letter | digit | sep | name
      · revert letter
        decide
      · exact absurd (Nat.isDigit_of_mem_toDigits (by decide) (by decide) digit) (by decide)
      · cases sep
      · revert name
        cases first <;> decide
    obtain ⟨scopes, counts⟩ := Text.append_cons_inj (plain count) (plain later) rest
    have digits := List.append_cancel_right (List.append_cancel_left counts)
    exact ⟨rfl, String.toList_inj.mp scopes, by
      simpa using congrArg (Nat.ofDigitChars 10 · 0) digits⟩
  · exact absurd chars (keyStart_ne kind)

theorem startsWith_append (s start : String) (rest : List Char)
    (same : s.toList = start.toList ++ rest) : Text.startsWith s start = true := by
  rw [Text.startsWith, same, List.isPrefixOf_iff_prefix]
  exact List.prefix_append _ _

/-- The key of a decision is not plain. -/
theorem not_plain_key (decision : Decision) (scope : String) (count : Nat) :
    isPlainKey workspaceId taskId (decision.key workspaceId taskId scope count) = false := by
  have starts := startsWith_append (decision.key workspaceId taskId scope count) _ _
    (toList_key decision scope count)
  unfold isPlainKey
  cases decision with
  | approved => rw [starts]; rfl
  | rejected => rw [starts, Bool.not_true, Bool.and_false]

end Keys

section Chronicle

variable {workspaceId taskId : String} {rows before after : List EventRow} {row : EventRow}
  {decision : Decision} {scope : String}

/-- A row of the task of one type. -/
def isOf (workspaceId taskId eventType : String) (row : EventRow) : Bool :=
  row.workspaceId = some workspaceId && row.taskId = some taskId && row.eventType = eventType

/-- How many rows of the task have one type. -/
def countOf (workspaceId taskId eventType : String) (rows : List EventRow) : Nat :=
  (rows.filter (isOf workspaceId taskId eventType)).length

/-- The last plan among some rows. -/
def lastPlan (workspaceId taskId : String) (rows : List EventRow) : Option EventRow :=
  (rows.filter (isOf workspaceId taskId planReadyType)).getLast?

/-- What the code reads of a decision. -/
structure Entry (workspaceId taskId : String) (before : List EventRow) (row : EventRow)
    (decision : Decision) (scope : String) : Prop where
  workspace : row.workspaceId = some workspaceId
  task : row.taskId = some taskId
  type : row.eventType = decision.eventType
  key : row.idempotencyKey = decision.key workspaceId taskId scope
    (countOf workspaceId taskId decision.opposite.eventType before)
  readable : ∃ payload, row.payloadJson = .value payload ∧ payload.isObj = true ∧
    payload.get "scope" = .str scope ∧
    (decision = .approved → payload.get "plan_ready_event_id" =
      Json.ofOption ((lastPlan workspaceId taskId before).map (·.id)))

/-- A decision of any kind and scope. -/
def isDecision (workspaceId taskId : String) (row : EventRow) : Bool :=
  isOf workspaceId taskId approvedType row || isOf workspaceId taskId rejectedType row

/-- Every decision, and everything under the key of one, is an entry after the rows before it. -/
def Chronicle (workspaceId taskId : String) (rows : List EventRow) : Prop :=
  ∀ before row after, rows = before ++ row :: after →
    isDecision workspaceId taskId row = true ∨
      isPlainKey workspaceId taskId row.idempotencyKey = false →
    ∃ decision scope, Entry workspaceId taskId before row decision scope

theorem decisionType_inj {first second : Decision} (same : first.eventType = second.eventType) :
    first = second := by
  cases first <;> cases second <;> first | rfl | exact absurd same (by decide)

theorem Entry.isOf (entry : Entry workspaceId taskId before row decision scope) :
    isOf workspaceId taskId decision.eventType row = true := by
  simp [PlanGate.isOf, entry.workspace, entry.task, entry.type]

theorem Entry.isDecision (entry : Entry workspaceId taskId before row decision scope) :
    isDecision workspaceId taskId row = true := by
  have own := entry.isOf
  cases decision with
  | approved => exact Bool.or_eq_true_iff.mpr (.inl own)
  | rejected => exact Bool.or_eq_true_iff.mpr (.inr own)

theorem chronicle_append (chronicle : Chronicle workspaceId taskId rows)
    (last : isDecision workspaceId taskId row = true ∨
      isPlainKey workspaceId taskId row.idempotencyKey = false →
      ∃ decision scope, Entry workspaceId taskId rows row decision scope) :
    Chronicle workspaceId taskId (rows ++ [row]) := by
  intro before other after split decided
  obtain ⟨between, rfl, rest⟩ | ⟨between, rfl, rest⟩ := List.append_eq_append_iff.mp split
  · cases between with
    | nil =>
      simp only [List.nil_append, List.cons.injEq] at rest
      obtain ⟨rfl, -⟩ := rest
      rw [List.append_nil]
      exact last decided
    | cons first more =>
      simp at rest
  · cases between with
    | nil =>
      simp only [List.nil_append, List.cons.injEq] at rest
      obtain ⟨rfl, -⟩ := rest
      rw [List.append_nil] at last
      exact last decided
    | cons first more =>
      obtain ⟨rfl, rfl⟩ := List.cons.inj rest
      exact chronicle before other more rfl decided

theorem chronicle_of_foreign (foreign : ∀ row ∈ rows, isForeign workspaceId taskId row = true) :
    Chronicle workspaceId taskId rows := by
  intro before row after split decided
  have own := foreign row (by rw [split]; simp)
  simp only [isForeign, Bool.and_eq_true, Bool.not_eq_true'] at own
  rcases decided with decided | keyed
  · have apart := own.2
    simp only [isDecision, isOf, Bool.or_eq_true, Bool.and_eq_true, decide_eq_true_eq] at decided
    rcases decided with ⟨⟨workspace, task⟩, type⟩ | ⟨⟨workspace, task⟩, type⟩ <;>
      simp [workspace, task, type] at apart
  · rw [own.1] at keyed
    cases keyed

/-- The latest decision of a scope. -/
structure Standing (workspaceId taskId : String) (rows : List EventRow) (row : EventRow)
    (decision : Decision) (scope : String) : Prop where
  split : ∃ before after, rows = before ++ row :: after ∧
    Entry workspaceId taskId before row decision scope ∧
    ∀ later ∈ after, isDecision workspaceId taskId later = true →
      ∃ between other otherScope, Entry workspaceId taskId between later other otherScope ∧
        otherScope ≠ scope

/-- A new decision is the latest. -/
theorem standing_append (entry : Entry workspaceId taskId rows row decision scope) :
    Standing workspaceId taskId (rows ++ [row]) row decision scope :=
  ⟨rows, [], rfl, entry, List.forall_mem_nil _⟩

/-- A row that decides nothing about the scope leaves the latest decision. -/
theorem Standing.append {other : EventRow}
    (standing : Standing workspaceId taskId rows row decision scope)
    (apart : isDecision workspaceId taskId other = true →
      ∃ otherDecision otherScope, Entry workspaceId taskId rows other otherDecision otherScope ∧
        otherScope ≠ scope) :
    Standing workspaceId taskId (rows ++ [other]) row decision scope := by
  obtain ⟨before, after, rfl, entry, free⟩ := standing.split
  refine ⟨before, after ++ [other], by simp, entry, fun later member decided => ?_⟩
  rcases List.mem_append.mp member with old | new
  · exact free later old decided
  · cases List.mem_singleton.mp new
    obtain ⟨otherDecision, otherScope, entry, differs⟩ := apart decided
    exact ⟨_, otherDecision, otherScope, entry, differs⟩

theorem countOf_append (eventType : String) (first second : List EventRow) :
    countOf workspaceId taskId eventType (first ++ second) =
      countOf workspaceId taskId eventType first + countOf workspaceId taskId eventType second := by
  simp [countOf]

/-- **A taken key is the latest decision of its scope**: since it no opposite decision was recorded, and
another one of its kind and scope would have its key. -/
theorem standing_of_key (chronicle : Chronicle workspaceId taskId rows)
    (keys : rows.Pairwise fun a b => a.idempotencyKey ≠ b.idempotencyKey) (member : row ∈ rows)
    (key : row.idempotencyKey = decision.key workspaceId taskId scope
      (countOf workspaceId taskId decision.opposite.eventType rows)) :
    Standing workspaceId taskId rows row decision scope ∧
      ∃ before after, rows = before ++ row :: after ∧
        Entry workspaceId taskId before row decision scope ∧
        ∀ later ∈ after, isOf workspaceId taskId decision.opposite.eventType later = false := by
  obtain ⟨before, after, rfl⟩ := List.append_of_mem member
  obtain ⟨found, foundScope, entry⟩ := chronicle before row after rfl (.inr (by
    rw [key]
    exact not_plain_key _ _ _))
  obtain ⟨rfl, rfl, counts⟩ := key_inj (entry.key.symm.trans key)
  have none : ∀ later ∈ after,
      isOf workspaceId taskId found.opposite.eventType later = false := by
    rw [countOf_append, ← List.singleton_append, countOf_append] at counts
    have empty : countOf workspaceId taskId found.opposite.eventType after = 0 := by omega
    intro later isLater
    have filtered := List.filter_eq_nil_iff.mp (List.length_eq_zero_iff.mp empty) later isLater
    simpa using filtered
  refine ⟨⟨before, after, rfl, entry, fun later isLater decided => ?_⟩, before, after, rfl, entry,
    none⟩
  obtain ⟨middle, rest, rfl⟩ := List.append_of_mem isLater
  obtain ⟨other, otherScope, laterEntry⟩ :=
    chronicle (before ++ row :: middle) later rest (by simp) (.inl decided)
  refine ⟨_, other, otherScope, laterEntry, ?_⟩
  rintro rfl
  have kind : other = found := by
    by_contra differs
    have opposite : other = found.opposite := by
      cases other <;> cases found <;> first | rfl | exact absurd rfl differs
    have none := none later isLater
    rw [← opposite, laterEntry.isOf] at none
    cases none
  subst kind
  have none : countOf workspaceId taskId other.opposite.eventType (row :: middle) = 0 := by
    rw [countOf, List.length_eq_zero_iff, List.filter_eq_nil_iff]
    intro between isBetween
    rcases List.mem_cons.mp isBetween with rfl | inMiddle
    · have own := entry.isOf
      intro opposite
      simp only [isOf, Bool.and_eq_true, decide_eq_true_eq] at own opposite
      cases other <;> exact absurd (own.2.symm.trans opposite.2) (by decide)
    · rw [none between (List.mem_append_left _ inMiddle)]
      exact Bool.false_ne_true
  have same : later.idempotencyKey = row.idempotencyKey := by
    rw [laterEntry.key, entry.key, countOf_append, none, Nat.add_zero]
  have apart := (List.pairwise_append.mp keys).2.1
  exact (List.pairwise_cons.mp apart).1 later isLater same.symm

/-- A scan passes over the rows of other scopes. -/
theorem firstOfScope_append {rest : List EventRow}
    (others : ∀ row ∈ rows, ∃ payload, row.payloadJson = .value payload ∧
      payload.get "scope" ≠ .str scope) :
    firstOfScope scope (rows ++ rest) = firstOfScope scope rest := by
  induction rows with
  | nil => rfl
  | cons row rows ih =>
    obtain ⟨payload, stored, apart⟩ := others row (List.mem_cons_self ..)
    rw [List.cons_append, firstOfScope, stored]
    dsimp only
    rw [if_neg apart]
    exact ih fun other member => others other (List.mem_cons_of_mem row member)

/-- What a scan finds is of the scope. -/
theorem firstOfScope_some (found : firstOfScope scope rows = .ok (some row)) :
    row ∈ rows ∧ ∃ payload, row.payloadJson = .value payload ∧ payload.get "scope" = .str scope := by
  induction rows with
  | nil => cases found
  | cons first rest ih =>
    rw [firstOfScope] at found
    split at found
    · rename_i payload stored
      split at found
      · rename_i same
        cases found
        exact ⟨List.mem_cons_self .., payload, stored, same⟩
      · obtain ⟨member, of⟩ := ih found
        exact ⟨List.mem_cons_of_mem _ member, of⟩
    · cases found

theorem decisionRows_eq (db : Db) :
    decisionRows db workspaceId taskId = db.events.rows.filter (isDecision workspaceId taskId) := by
  refine List.filter_congr fun row _ => ?_
  simp only [isDecision, isOf]
  cases decide (row.workspaceId = some workspaceId) <;> cases decide (row.taskId = some taskId) <;> rfl

theorem Entry.scope_ne {other : String}
    (entry : Entry workspaceId taskId before row decision other) (apart : other ≠ scope) :
    ∃ payload, row.payloadJson = .value payload ∧ payload.get "scope" ≠ .str scope := by
  obtain ⟨payload, stored, -, named, -⟩ := entry.readable
  refine ⟨payload, stored, ?_⟩
  rw [named]
  exact fun same => apart (Json.str.inj same)

/-- The gate reads the latest decision of its scope. -/
theorem Standing.found {db : Db}
    (standing : Standing workspaceId taskId db.events.rows row decision scope) :
    firstOfScope scope (decisionRows db workspaceId taskId).reverse = .ok (some row) := by
  obtain ⟨before, after, split, entry, free⟩ := standing.split
  rw [decisionRows_eq, split, List.filter_append, List.filter_cons_of_pos entry.isDecision,
    List.reverse_append, List.reverse_cons, List.append_assoc,
    firstOfScope_append fun later member => ?_]
  · obtain ⟨payload, stored, -, named, -⟩ := entry.readable
    rw [List.singleton_append, firstOfScope, stored]
    dsimp only
    rw [if_pos named]
    rfl
  · obtain ⟨isLater, decided⟩ := List.mem_filter.mp (List.mem_reverse.mp member)
    obtain ⟨_, _, otherScope, laterEntry, apart⟩ := free later isLater decided
    exact laterEntry.scope_ne apart

end Chronicle

section Calls

variable [Platform] {workspaceId taskId : String} {w w' : Work Db} {decision : Decision}
  {scope : String}

/-- What a decision that has been recorded or found does to the ledger. -/
inductive Decided (workspaceId taskId : String) (rows later : List EventRow) (row : EventRow)
    (decision : Decision) (scope : String) : Prop
  | recorded (appended : later = rows ++ [row])
      (entry : Entry workspaceId taskId rows row decision scope)
  | known (same : later = rows) (member : row ∈ rows)
      (key : row.idempotencyKey = decision.key workspaceId taskId scope
        (countOf workspaceId taskId decision.opposite.eventType rows))

omit [Platform] in
theorem countOf_eq_gateCounter (db : Db) (eventType : String) :
    gateCounter db workspaceId taskId eventType =
      countOf workspaceId taskId eventType db.events.rows := rfl

omit [Platform] in
theorem planReadyRow_eq (db : Db) :
    planReadyRow db workspaceId taskId = lastPlan workspaceId taskId db.events.rows := rfl

/-- A decision on the task with its default key, and what the gate reads of its payload. -/
structure Decides (workspaceId taskId : String) (db : Db) (decision : Decision)
    (arguments : DecisionArguments) (count : Nat) (payload : Json) : Prop where
  about : arguments.isAbout workspaceId taskId = true
  counts : count = gateCounter db workspaceId taskId decision.opposite.eventType
  object : payload.isObj = true
  filled : payload.truthy = true
  named : payload.get "scope" = .str arguments.scope
  plan : decision = .approved → payload.get "plan_ready_event_id" =
    Json.ofOption ((planReadyRow db workspaceId taskId).map (·.id))

variable {arguments : DecisionArguments} {workspace : Workspace} {task : TaskDict} {payload : Json}
  {count : Nat}

/-- The append of a decision records it or finds its key taken. -/
theorem Decides.appended (decides : Decides workspaceId taskId w.store decision arguments count payload)
    {result : AppendEventResult} (did : Appended
      { workspaceId := some arguments.workspaceId, eventType := decision.eventType,
        actor := arguments.actor, target := some "worker", taskId := some arguments.taskId,
        idempotencyKey := some ((arguments.idempotencyKey.filter (· ≠ "")).getD
          (decision.key arguments.workspaceId arguments.taskId arguments.scope count)),
        payload } w w' result) :
    Decided workspaceId taskId w.store.events.rows w'.store.events.rows result.row decision
      arguments.scope := by
  have about := decides.about
  simp only [DecisionArguments.isAbout, isDefault, Bool.and_eq_true, decide_eq_true_eq,
    Option.isNone_iff_eq_none] at about
  obtain ⟨⟨rfl, rfl⟩, default⟩ := about
  obtain rfl := decides.counts
  rw [default, Option.getD_none] at did
  cases did with
  | created events inserted store =>
    rw [store]
    refine .recorded (Table.insert?_rows inserted) ⟨rfl, rfl, rfl, ?_, payload, ?_, decides.object,
      decides.named, decides.plan⟩
    · exact NewEvent.toRow_key _ _ _ rfl (key_ne_empty _ _ _)
    · rw [NewEvent.toRow, JsonText.dumps, Json.orElse, if_pos decides.filled]
  | existing row member key store =>
    rw [store]
    exact .known rfl member (key.trans (NewEvent.toRow_key _ _ _ rfl (key_ne_empty _ _ _)))

theorem recordDecision_ok {result : PlanGateResult}
    (decides : Decides workspaceId taskId w.store decision arguments count payload)
    (ran : (recordDecision decision arguments workspace task count payload).run w = .ok result w') :
    Decided workspaceId taskId w.store.events.rows w'.store.events.rows result.event.row decision
      arguments.scope := by
  obtain ⟨appended, middle, stored, rest⟩ := Txn.bind_ok.mp ran
  obtain ⟨⟨mirror, status⟩, last, written, rest⟩ := Txn.bind_ok.mp rest
  have events : last.store.events = middle.store.events :=
    Txn.Keeps.of_ok (keeps_upsertTaskMirror fun _ _ => rfl) written
  simp only [Txn.bind_ok, Txn.orRaise_ok, Txn.pure_run, EStateM.Result.ok.injEq] at rest
  obtain ⟨taskDict, _, ⟨-, rfl⟩, event, _, ⟨decoded, rfl⟩, rfl, rfl⟩ := rest
  have decided := decides.appended (appendEvent_ok stored)
  rw [← events, ← (toDict_ok decoded).1] at decided
  exact decided

theorem recordDecision_error {e : Exn}
    (decides : Decides workspaceId taskId w.store decision arguments count payload)
    (ran : (recordDecision decision arguments workspace task count payload).run w = .error e w') :
    w'.store.events = w.store.events ∨ ∃ row,
      Decided workspaceId taskId w.store.events.rows w'.store.events.rows row decision
        arguments.scope := by
  rcases Txn.bind_error.mp ran with failed | ⟨appended, middle, stored, rest⟩
  · exact .inl (congrArg Db.events (appendEvent_error failed).2)
  · have decided := decides.appended (appendEvent_ok stored)
    have events : w'.store.events = middle.store.events := by
      refine Txn.Keeps.of_error ?_ rest
      exact Txn.keeps_bind (keeps_upsertTaskMirror fun _ _ => rfl) fun _ =>
        Txn.keeps_bind (Txn.keeps_orRaise _ _) fun _ =>
          Txn.keeps_bind (Txn.keeps_orRaise _ _) fun _ => Txn.keeps_pure _
    right
    refine ⟨appended.row, ?_⟩
    rw [events]
    exact decided

omit [Platform] in
theorem approvalPayload_ok {plan : Option EventDict}
    (made : approvalPayload arguments plan = .ok payload) : payload.isObj = true ∧
      payload.truthy = true ∧ payload.get "scope" = .str arguments.scope ∧
      payload.get "plan_ready_event_id" = Json.ofOption (plan.map (·.row.id)) := by
  obtain ⟨content, -, same⟩ := Except.bind_ok.mp made
  cases same
  exact ⟨rfl, rfl, rfl, rfl⟩

omit [Platform] in
theorem latestPlanReady_ok {db : Db} {plan : Option EventDict}
    (found : latestPlanReady db workspaceId taskId = .ok plan) :
    plan.map (·.row) = planReadyRow db workspaceId taskId := by
  unfold latestPlanReady at found
  split at found
  · rename_i absent
    cases found
    rw [absent]
    rfl
  · rename_i row present
    cases decoded : row.toDict with
    | error e => rw [decoded] at found; cases found
    | ok event =>
      rw [decoded] at found
      cases found
      rw [present, Option.map_some, (toDict_ok decoded).1]

omit [Platform] in
/-- What `approve_plan` puts in its event. -/
theorem approvePlan_decides {plan : Option EventDict}
    (about : arguments.isAbout workspaceId taskId = true)
    (found : latestPlanReady w.store arguments.workspaceId arguments.taskId = .ok plan)
    (made : approvalPayload arguments plan = .ok payload) :
    Decides workspaceId taskId w.store .approved arguments
      (gateCounter w.store arguments.workspaceId arguments.taskId rejectedType) payload := by
  obtain ⟨object, filled, named, planId⟩ := approvalPayload_ok made
  have same := about
  simp only [DecisionArguments.isAbout, Bool.and_eq_true, decide_eq_true_eq] at same
  obtain ⟨⟨rfl, rfl⟩, -⟩ := same
  refine ⟨about, rfl, object, filled, named, fun _ => ?_⟩
  rw [planId, ← latestPlanReady_ok found, Option.map_map]
  rfl

theorem approvePlan_ok {result : PlanGateResult} (about : arguments.isAbout workspaceId taskId = true)
    (ran : (approvePlan arguments).run w = .ok result w') :
    Decided workspaceId taskId w.store.events.rows w'.store.events.rows result.event.row .approved
      arguments.scope := by
  simp only [approvePlan, Txn.bind_ok, readOrRaise_ok, Txn.read_run, Txn.orRaise_ok,
    EStateM.Result.ok.injEq] at ran
  obtain ⟨workspace, _, ⟨-, rfl⟩, task, _, ⟨-, rfl⟩, plan, _, ⟨found, rfl⟩, _, _, ⟨rfl, rfl⟩, payload,
    _, ⟨made, rfl⟩, ran⟩ := ran
  exact recordDecision_ok (approvePlan_decides about found made) ran

theorem approvePlan_error {e : Exn} (about : arguments.isAbout workspaceId taskId = true)
    (ran : (approvePlan arguments).run w = .error e w') :
    w'.store.events = w.store.events ∨ ∃ row,
      Decided workspaceId taskId w.store.events.rows w'.store.events.rows row .approved
        arguments.scope := by
  simp only [approvePlan, Txn.bind_error, readOrRaise_ok, readOrRaise_error, Txn.read_run,
    Txn.orRaise_ok, Txn.orRaise_error, EStateM.Result.ok.injEq, reduceCtorEq, false_or] at ran
  obtain ⟨-, rfl⟩ | ⟨workspace, _, ⟨-, rfl⟩, ⟨-, rfl⟩ | ⟨task, _, ⟨-, rfl⟩, ⟨-, rfl⟩ |
    ⟨plan, _, ⟨found, rfl⟩, _, _, ⟨rfl, rfl⟩, ⟨_, -, -, rfl⟩ | ⟨payload, _, ⟨made, rfl⟩, ran⟩⟩⟩⟩ := ran
  · exact .inl rfl
  · exact .inl rfl
  · exact .inl rfl
  · exact .inl rfl
  · exact recordDecision_error (approvePlan_decides about found made) ran

omit [Platform] in
/-- What `reject_plan` puts in its event. -/
theorem rejectPlan_decides (about : arguments.isAbout workspaceId taskId = true) :
    Decides workspaceId taskId w.store .rejected arguments
      (gateCounter w.store arguments.workspaceId arguments.taskId approvedType)
      (rejectionPayload arguments) := by
  have same := about
  simp only [DecisionArguments.isAbout, Bool.and_eq_true, decide_eq_true_eq] at same
  obtain ⟨⟨rfl, rfl⟩, -⟩ := same
  exact ⟨about, rfl, rfl, rfl, rfl, nofun⟩

theorem rejectPlan_ok {result : PlanGateResult} (about : arguments.isAbout workspaceId taskId = true)
    (ran : (rejectPlan arguments).run w = .ok result w') :
    Decided workspaceId taskId w.store.events.rows w'.store.events.rows result.event.row .rejected
      arguments.scope := by
  simp only [rejectPlan, Txn.bind_ok, readOrRaise_ok, Txn.read_run, EStateM.Result.ok.injEq] at ran
  obtain ⟨workspace, _, ⟨-, rfl⟩, task, _, ⟨-, rfl⟩, _, _, ⟨rfl, rfl⟩, ran⟩ := ran
  exact recordDecision_ok (rejectPlan_decides about) ran

theorem rejectPlan_error {e : Exn} (about : arguments.isAbout workspaceId taskId = true)
    (ran : (rejectPlan arguments).run w = .error e w') :
    w'.store.events = w.store.events ∨ ∃ row,
      Decided workspaceId taskId w.store.events.rows w'.store.events.rows row .rejected
        arguments.scope := by
  simp only [rejectPlan, Txn.bind_error, readOrRaise_ok, readOrRaise_error, Txn.read_run,
    EStateM.Result.ok.injEq, reduceCtorEq, false_or] at ran
  obtain ⟨-, rfl⟩ | ⟨workspace, _, ⟨-, rfl⟩, ⟨-, rfl⟩ | ⟨task, _, ⟨-, rfl⟩, _, _, ⟨rfl, rfl⟩, ran⟩⟩ :=
    ran
  · exact .inl rfl
  · exact .inl rfl
  · exact recordDecision_error (rejectPlan_decides about) ran

end Calls

end Coordinate.PlanGate

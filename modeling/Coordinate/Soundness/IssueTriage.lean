import Coordinate.Model.Installation
import Coordinate.Model.IssueTriage
import Coordinate.Proofs.Calls
import Coordinate.Proofs.Ledger

/-! # An issue gets one triage decision

Where every append of a triage finds the ledger as the scan of its call has found it, or with the same
decision in it, an issue has at most one triage, every call that returns returns it, and a call that raises
has written nothing.
-/

namespace Coordinate.IssueTriage

open Program DbCall

section Predicates

/-- A triage of an issue. -/
structure IsTriage (workspaceId eventId : String) (row : EventRow) : Prop where
  workspace : row.workspaceId = some workspaceId
  eventType : row.eventType = triagedType
  source : row.decoded.get "source_event_id" = .str eventId

/-- What a triage has decided. -/
structure Decides (decision : String) (taskId : Option String) (row : EventRow) : Prop where
  decision : row.decoded.get "decision" = .str decision
  task : row.decoded.get "task_id" = Json.ofOption taskId

/-- The row that a call is about to record, or has to find. -/
def TriageArguments.Wants (arguments : TriageArguments) (row : EventRow) : Prop :=
  IsTriage arguments.workspaceId arguments.eventId row ∧ Decides arguments.decision arguments.taskId row

/-- An issue has at most one triage, and the payload of a triage is an object. -/
structure Settled (db : Db) : Prop where
  readable : Readable db
  objects : ∀ row ∈ db.events, row.eventType = triagedType → row.decoded.isObj = true
  once : ∀ workspaceId eventId, ∀ a ∈ db.events, ∀ b ∈ db.events, IsTriage workspaceId eventId a →
    IsTriage workspaceId eventId b → a = b

/-- The task that a triage has accepted has its mirror. -/
def Mirrored (db : Db) : Prop :=
  ∀ row ∈ db.events, ∀ workspaceId eventId taskId, IsTriage workspaceId eventId row →
    Decides "accept" (some taskId) row → (findTask db workspaceId taskId).isSome = true

/-- The spotted issue of an id. -/
def spottedOf (db : Db) (eventId : String) : Option EventRow :=
  (db.events.find? (·.id = eventId)).filter (·.eventType = spottedType)

/-- A store that the calls have reached from the start. -/
structure Steady (start db : Db) : Prop extends Settled db where
  workspaces : db.workspaces = start.workspaces
  spotted : ∀ eventId, spottedOf db eventId = spottedOf start eventId

/-- At the append of a triage, the triages of the issue are those that the call wants, under its key, no
other event is under that key, the id that is drawn is new, and the task has a name. -/
def Careful [Platform] (arguments : TriageArguments) (_ : List (Performed DbStatement (Work Db)))
    (w : Work Db) : DbStatement → Prop
  | .append _ => arguments.taskId ≠ some "" ∧
    (∀ row ∈ w.store.events, IsTriage arguments.workspaceId arguments.eventId row →
      row.idempotencyKey = arguments.key) ∧
    (∀ row ∈ w.store.events, row.idempotencyKey = arguments.key → arguments.Wants row) ∧
    ∀ row ∈ w.store.events, row.id ≠ Platform.uuid4 w.draws
  | _ => True

end Predicates

section Rows

variable {arguments : TriageArguments} {issue : Issue} {target : Option String}

theorem key_ne_empty : arguments.key ≠ "" := by
  intro empty
  have colon : ':' ∈ arguments.key.toList := by
    simp [TriageArguments.key, String.toList_append, ToString.toString]
  rw [empty] at colon
  cases colon

theorem lookup_optionalField {key other : String} (apart : other ≠ key) (value : Json) :
    (optionalField key value).lookup other = none := by
  unfold optionalField
  split
  · simp [apart]
  · rfl

theorem decoded_toRow (eventId : String) (createdAt : Nat) :
    ((triageEvent arguments issue target).toRow eventId createdAt).decoded =
      triagePayload arguments issue := rfl

/-- The task of a triage, where it has a name. -/
theorem task_triagePayload (named : arguments.taskId ≠ some "") :
    (triagePayload arguments issue).get "task_id" = Json.ofOption arguments.taskId := by
  have reason : (optionalField "reason" (Json.ofOption arguments.reason)).lookup "task_id" = none :=
    lookup_optionalField (by decide) _
  have body : (optionalField "issue_body_excerpt" issue.bodyExcerpt).lookup "task_id" = none :=
    lookup_optionalField (by decide) _
  unfold triagePayload Json.get Json.field?
  dsimp only
  rw [List.lookup_append, List.lookup_append, List.lookup_append, reason, body, Option.or_none,
    Option.or_none]
  cases task : arguments.taskId with
  | none => rfl
  | some taskId =>
    have nonempty : taskId ≠ "" := by
      rintro rfl
      exact named task
    have truthy : (Json.ofOption (some taskId)).truthy = true := by
      simpa [Json.ofOption, Json.truthy] using nonempty
    rw [optionalField, if_pos truthy]
    rfl

/-- The row that an append stores is the one that its call wants. -/
theorem wants_toRow (named : arguments.taskId ≠ some "") (eventId : String) (createdAt : Nat) :
    arguments.Wants ((triageEvent arguments issue target).toRow eventId createdAt) :=
  ⟨⟨rfl, rfl, rfl⟩, ⟨rfl, task_triagePayload named⟩⟩

theorem key_toRow (eventId : String) (createdAt : Nat) :
    ((triageEvent arguments issue target).toRow eventId createdAt).idempotencyKey = arguments.key :=
  NewEvent.toRow_key _ _ _ rfl key_ne_empty

/-- Two triages of which one is wanted: they are of the same issue. -/
theorem same_issue {workspaceId eventId : String} {row : EventRow}
    (own : IsTriage arguments.workspaceId arguments.eventId row) (other : IsTriage workspaceId eventId row) :
    workspaceId = arguments.workspaceId ∧ eventId = arguments.eventId :=
  ⟨Option.some.inj (other.workspace.symm.trans own.workspace),
    Json.str.inj (other.source.symm.trans own.source)⟩

end Rows

section Checks

variable {arguments : TriageArguments} {db start : Db} {rows : List EventRow}

/-- The payload of a row can be read as an object. -/
structure Legible (row : EventRow) : Prop where
  value : ∃ payload, row.payloadJson = .value payload
  object : row.decoded.isObj = true

theorem Legible.toDict {row : EventRow} (legible : Legible row) :
    row.toDict = .ok ⟨row, row.decoded⟩ := by
  obtain ⟨payload, own⟩ := legible.value
  rw [EventRow.toDict, EventRow.decoded, own]
  rfl

theorem Legible.fields {row : EventRow} (legible : Legible row) :
    fieldsOf row.decoded = .ok row.decoded := by
  have object := legible.object
  unfold fieldsOf Json.orElse
  cases decoded : row.decoded with
  | obj fields => cases fields <;> rfl
  | _ =>
    rw [decoded] at object
    cases object

theorem legible_triageRows (settled : Settled db) (workspaceId : String) :
    ∀ row ∈ triageRows workspaceId db, Legible row ∧ row ∈ db.events ∧
      row.workspaceId = some workspaceId ∧ row.eventType = triagedType := by
  intro row member
  obtain ⟨member, own⟩ := Table.mem_filter.mp member
  rw [Bool.and_eq_true, decide_eq_true_eq, decide_eq_true_eq] at own
  exact ⟨⟨settled.readable.events row member, settled.objects row member own.2⟩, member, own⟩

/-- What the scan finds: no triage of the issue, the same one, or another one. -/
theorem priorTriage_cases (arguments : TriageArguments) (legible : ∀ row ∈ rows, Legible row) :
    match priorTriage arguments rows with
    | .ok none => ∀ row ∈ rows, row.decoded.get "source_event_id" ≠ .str arguments.eventId
    | .ok (some prior) => prior.row ∈ rows ∧
      prior.row.decoded.get "source_event_id" = .str arguments.eventId ∧
      Decides arguments.decision arguments.taskId prior.row
    | .error _ => ∃ row ∈ rows, row.decoded.get "source_event_id" = .str arguments.eventId ∧
      ¬ Decides arguments.decision arguments.taskId row := by
  induction rows with
  | nil => exact List.forall_mem_nil _
  | cons row rest ih =>
    have own := legible row (List.mem_cons_self ..)
    have others := ih fun row member => legible row (List.mem_cons_of_mem _ member)
    simp only [priorTriage, own.toDict, own.fields, Bind.bind, Except.bind, ne_eq]
    by_cases source : row.decoded.get "source_event_id" = .str arguments.eventId
    · rw [if_neg (not_not_intro source)]
      by_cases same : row.decoded.get "decision" = .str arguments.decision ∧
          row.decoded.get "task_id" = Json.ofOption arguments.taskId
      · rw [if_pos same]
        exact ⟨List.mem_cons_self .., source, same.1, same.2⟩
      · rw [if_neg same]
        exact ⟨row, List.mem_cons_self .., source, fun decides => same ⟨decides.decision, decides.task⟩⟩
    · rw [if_pos source]
      cases found : priorTriage arguments rest with
      | ok prior =>
        rw [found] at others
        cases prior with
        | none => exact List.forall_mem_cons.mpr ⟨source, others⟩
        | some prior => exact ⟨List.mem_cons_of_mem _ others.1, others.2⟩
      | error e =>
        rw [found] at others
        obtain ⟨other, member, decided⟩ := others
        exact ⟨other, List.mem_cons_of_mem _ member, decided⟩

end Checks

section Statements

variable [Platform] {start : Db} {arguments : TriageArguments} {issue : Issue} {target : Option String}
  {w w' : Work Db} {past : List (Performed DbStatement (Work Db))}

omit [Platform] in
/-- An event of another type is no spotted issue. -/
theorem spottedOf_insert {db : Db} {row : EventRow} {events : Table eventSchema}
    (inserted : db.events.insert? row = some events) (other : row.eventType ≠ spottedType)
    (eventId : String) : spottedOf { db with events } eventId = spottedOf db eventId := by
  unfold spottedOf Table.find?
  dsimp only
  rw [Table.insert?_rows inserted, List.find?_append]
  cases db.events.rows.find? (·.id = eventId) with
  | some found => rfl
  | none =>
    rw [Option.none_or, Option.filter_none, Option.filter_eq_none_iff]
    intro found same
    obtain rfl := List.mem_singleton.mp (List.mem_of_find?_eq_some same)
    simpa using other

/-- The step lemma of the append. -/
theorem steady_appended {result : AppendEventResult} (steady : Steady start w.store)
    (careful : Careful arguments past w (.append (triageEvent arguments issue target)))
    (appended : Appended (triageEvent arguments issue target) w w' result) :
    Steady start w'.store ∧ arguments.Wants result.row := by
  obtain ⟨named, under, wanted, -⟩ := careful
  cases appended with
  | existing row member key store =>
    rw [store]
    exact ⟨steady, wanted row member (key.trans (key_toRow ..))⟩
  | created events inserted store =>
    have own : arguments.Wants ((triageEvent arguments issue target).toRow
        (Platform.uuid4 w.draws) (now w.tick)) := wants_toRow named _ _
    have alone : ∀ row ∈ w.store.events, ¬ IsTriage arguments.workspaceId arguments.eventId row := by
      intro row member triage
      have apart := (Table.insert?_fits inserted).2 row member
      rw [eventSchema, Bool.or_eq_false_iff] at apart
      exact of_decide_eq_false apart.2 ((under row member triage).trans (key_toRow ..).symm)
    refine ⟨⟨⟨?_, fun row member triaged => ?_, fun workspaceId eventId a memberA b memberB left right => ?_⟩,
      ?_, fun eventId => ?_⟩, own⟩
    · exact readable_appended steady.readable (.created events inserted store)
    · rw [store] at member
      rcases (Table.mem_insert? inserted).mp member with old | rfl
      · exact steady.objects row old triaged
      · rfl
    · rw [store] at memberA memberB
      rcases (Table.mem_insert? inserted).mp memberA with oldA | rfl
      · rcases (Table.mem_insert? inserted).mp memberB with oldB | rfl
        · exact steady.once workspaceId eventId a oldA b oldB left right
        · obtain ⟨rfl, rfl⟩ := same_issue own.1 right
          exact absurd left (alone a oldA)
      · rcases (Table.mem_insert? inserted).mp memberB with oldB | rfl
        · obtain ⟨rfl, rfl⟩ := same_issue own.1 left
          exact absurd right (alone b oldB)
        · rfl
    · rw [store]
      exact steady.workspaces
    · rw [store, spottedOf_insert inserted (show triagedType ≠ spottedType by decide)]
      exact steady.spotted eventId

omit [Platform] in
/-- The tables that the calls read. -/
def tablesOf (db : Db) := (db.workspaces, db.events, db.tasks)

omit [Platform] in
theorem steady_of_tables {db later : Db} (steady : Steady start db) (same : tablesOf later = tablesOf db) :
    Steady start later := by
  simp only [tablesOf, Prod.mk.injEq] at same
  obtain ⟨workspaces, events, tasks⟩ := same
  obtain ⟨⟨readable, objects, once⟩, kept, spotted⟩ := steady
  refine ⟨⟨⟨?_, ?_⟩, ?_, ?_⟩, workspaces.trans kept, fun eventId => ?_⟩
  · rw [events]
    exact readable.events
  · rw [tasks]
    exact readable.tasks
  · rw [events]
    exact objects
  · rw [events]
    exact once
  · rw [← spotted eventId, spottedOf, events]
    rfl

theorem keeps_createDeliveryForEvent [EventRenderer] (eventId platform destination : String) :
    Txn.Keeps tablesOf (createDeliveryForEvent eventId platform destination) := by
  refine Txn.keeps_bind (keeps_readOrRaise _) fun rendered => ?_
  unfold createRendered
  split
  · exact Txn.keeps_pure _
  · split
    · exact Txn.keeps_bind (keeps_createDelivery _ fun _ _ => rfl) fun _ =>
        Txn.keeps_bind (Txn.keeps_orRaise _ _) fun _ => Txn.keeps_pure _
    · exact Txn.keeps_throw _

end Statements

section Validity

variable {arguments : TriageArguments} {start db : Db} {issue : Issue}

/-- The arguments pass the tests that look at no triage. -/
structure Valid (start : Db) (arguments : TriageArguments) : Prop where
  decision : ["accept", "reject", "defer"].contains arguments.decision = true
  workspace : (getWorkspace start arguments.workspaceId).isSome = true
  issue : ∃ row issue, spottedOf start arguments.eventId = some row ∧
    readIssue arguments (some row) = .ok issue

theorem readIssue_ok {spotted : Option EventRow} (read : readIssue arguments spotted = .ok issue) :
    ∃ row, spotted = some row ∧ row.eventType = spottedType ∧
      (arguments.decision = "accept" → arguments.taskId.getD "" ≠ "") := by
  cases spotted with
  | none => cases read
  | some row =>
    simp only [readIssue, Except.bind_ok, raiseIf_except_ok, not_not, not_and] at read
    obtain ⟨_, _, _, _, _, kind, _, _, _, named, _⟩ := read
    exact ⟨row, rfl, kind, named⟩

/-- The tests on the spotted event come out as at the start. -/
theorem valid_of_readIssue (steady : Steady start db)
    (read : readIssue arguments (db.events.find? (·.id = arguments.eventId)) = .ok issue) :
    ∃ row issue, spottedOf start arguments.eventId = some row ∧
      readIssue arguments (some row) = .ok issue := by
  obtain ⟨row, found, kind, -⟩ := readIssue_ok read
  refine ⟨row, issue, ?_, found ▸ read⟩
  rw [← steady.spotted, spottedOf, found]
  exact if_pos (decide_eq_true kind)

theorem invalid_of_readIssue (steady : Steady start db) {e : Exn}
    (failed : readIssue arguments (db.events.find? (·.id = arguments.eventId)) = .error e) :
    ¬ Valid start arguments := by
  rintro ⟨-, -, row, issue, spotted, read⟩
  rw [← steady.spotted, spottedOf, Option.filter_eq_some_iff] at spotted
  rw [spotted.1, read] at failed
  cases failed

end Validity

section Calls

/-- What a statement of a call does to the ledger and to the mirrors: nothing goes away, and what is new is
the triage that the call wants, after the mirror of its task. -/
structure Effect (arguments : TriageArguments) (past : List (Performed DbStatement (Work Db)))
    (entry : Performed DbStatement (Work Db)) : Prop where
  events : ∀ event ∈ entry.before.store.events, event ∈ entry.after.store.events
  tasks : ∀ workspaceId taskId, (findTask entry.before.store workspaceId taskId).isSome = true →
    (findTask entry.after.store workspaceId taskId).isSome = true
  added : ∀ event ∈ entry.after.store.events, event ∉ entry.before.store.events →
    arguments.Wants event ∧ (arguments.decision = "accept" → ∃ earlier ∈ past,
      (findTask earlier.after.store arguments.workspaceId (arguments.taskId.getD "")).isSome = true)

/-- A statement of the call has found the issue without a triage. -/
def FoundOpen (arguments : TriageArguments) (past : List (Performed DbStatement (Work Db))) : Prop :=
  ∃ entry ∈ past, ∀ row ∈ entry.before.store.events,
    ¬ IsTriage arguments.workspaceId arguments.eventId row

/-- A statement of the call has found another decision on the issue. -/
def FoundOther (arguments : TriageArguments) (past : List (Performed DbStatement (Work Db))) : Prop :=
  ∃ entry ∈ past, ∃ row ∈ entry.before.store.events,
    IsTriage arguments.workspaceId arguments.eventId row ∧
      ¬ Decides arguments.decision arguments.taskId row

/-- What a call has done when it ends. -/
def Done (start : Db) (arguments : TriageArguments) (past : List (Performed DbStatement (Work Db))) :
    Except Exn IssueTriageResult → Prop
  | .ok result => Valid start arguments ∧ arguments.Wants result.event.row ∧
    ∃ entry ∈ past, result.event.row ∈ entry.after.store.events
  | .error _ => (∀ entry ∈ past, Silent entry) ∧
    (Valid start arguments → FoundOpen arguments past ∨ FoundOther arguments past)

variable [Platform] [EventRenderer] {start : Db} {arguments : TriageArguments} {issue : Issue}
  {past : List (Performed DbStatement (Work Db))}

abbrev Abides {α : Type} (start : Db) (arguments : TriageArguments)
    (ends : List (Performed DbStatement (Work Db)) → Except Exn α → Prop)
    (past : List (Performed DbStatement (Work Db))) (call : DbCall α) : Prop :=
  Ends (fun w => Steady start w.store) (Careful arguments) (Effect arguments) ends past call

omit [Platform] [EventRenderer] in
theorem effect_of_tables {entry : Performed DbStatement (Work Db)}
    (same : tablesOf entry.after.store = tablesOf entry.before.store) : Effect arguments past entry := by
  simp only [tablesOf, Prod.mk.injEq] at same
  obtain ⟨-, events, tasks⟩ := same
  refine ⟨fun event member => ?_, fun workspaceId taskId found => ?_, fun event member fresh => ?_⟩
  · rwa [events]
  · rwa [findTask, tasks]
  · rw [events] at member
    exact absurd member fresh

omit [Platform] [EventRenderer] in
theorem quiet (past : List (Performed DbStatement (Work Db))) (entry : Performed DbStatement (Work Db))
    (silent : Silent entry) : Effect arguments past entry :=
  effect_of_tables (congrArg tablesOf silent)

omit [Platform] [EventRenderer] in
theorem draws (w w' : Work Db) (steady : Steady start w.store) (same : w'.store = w.store) :
    Steady start w'.store := by
  rwa [same]

/-- A delivery is attempted, and the call goes on. -/
theorem abides_delivery {α : Type} {workspace : Workspace} {eventId : String}
    {k : BoundedDeliveryResult → DbCall α}
    {ends : List (Performed DbStatement (Work Db)) → Except Exn α → Prop}
    (rest : ∀ later result, (∀ entry ∈ past, entry ∈ later) → Abides start arguments ends later (k result)) :
    Abides start arguments ends past (attemptDelivery arguments workspace eventId >>= k) := by
  have here : ∀ result, Abides start arguments ends past (k result) :=
    fun result => rest past result fun _ member => member
  have more : ∀ entry result, Abides start arguments ends (past ++ [entry]) (k result) :=
    fun entry result => rest _ result fun _ member => List.mem_append_left _ member
  refine ends_bind ?_
  unfold attemptDelivery
  split
  · exact here _
  · exact here _
  · refine ends_attempt quiet draws (fun w w' e _ _ => more _ _) fun w w' result steady _ ran => ?_
    have same := (keeps_createDeliveryForEvent _ _ _).of_ok ran
    exact ⟨steady_of_tables steady same, effect_of_tables same, more _ _⟩

omit [EventRenderer] in
/-- The append of a triage, after the mirror of its task. -/
theorem effect_of_appended {w w' : Work Db} {target : Option String} {result : AppendEventResult}
    (named : arguments.taskId ≠ some "")
    (appended : Appended (triageEvent arguments issue target) w w' result)
    (mirrored : arguments.decision = "accept" → ∃ earlier ∈ past,
      (findTask earlier.after.store arguments.workspaceId (arguments.taskId.getD "")).isSome = true) :
    Effect arguments past ⟨.append (triageEvent arguments issue target), w, w'⟩ := by
  cases appended with
  | existing row member key store => exact quiet past _ store
  | created events inserted store =>
    refine ⟨fun event member => ?_, fun workspaceId taskId found => ?_, fun event member fresh => ?_⟩
    · dsimp only at member ⊢
      rw [store]
      exact (Table.mem_insert? inserted).mpr (.inl member)
    · dsimp only at found ⊢
      rwa [store]
    · dsimp only at member fresh
      rw [store] at member
      rcases (Table.mem_insert? inserted).mp member with old | rfl
      · exact absurd old fresh
      · exact ⟨wants_toRow named _ _, mirrored⟩

/-- The append, and what follows it. -/
theorem abides_record {workspace : Workspace} {task : Option TaskDict} (valid : Valid start arguments)
    (opened : FoundOpen arguments past)
    (mirrored : arguments.decision = "accept" → arguments.taskId.getD "" ≠ "" ∧ ∃ earlier ∈ past,
      (findTask earlier.after.store arguments.workspaceId (arguments.taskId.getD "")).isSome = true)
    (silent : arguments.decision ≠ "accept" → ∀ entry ∈ past, Silent entry) :
    Abides start arguments (Done start arguments) past
      (recordTriage arguments workspace issue task) := by
  refine ends_orRaise (fun e failed => ?_) fun target _ => ?_
  · refine ⟨silent fun accepted => ?_, fun _ => .inl opened⟩
    obtain ⟨named, -⟩ := mirrored accepted
    cases taskId : arguments.taskId with
    | none =>
      rw [taskId] at named
      exact named rfl
    | some name =>
      rw [taskId] at named
      have truthy : (Json.ofOption (some name)).truthy = true := by
        simpa [Json.ofOption, Json.truthy] using named
      rw [taskId, Json.orElse, if_pos truthy] at failed
      cases failed
  refine ends_recordEvent quiet draws (fun w w' careful ran => ?_)
    fun w w' result steady careful appended => ?_
  · obtain ⟨_, _, stored⟩ : ∃ result after,
        (appendEvent (triageEvent arguments issue target)).run w = .ok result after :=
      exists_appendEvent careful.2.2.2
    rw [ran] at stored
    cases stored
  obtain ⟨steady', wants⟩ := steady_appended steady careful appended
  refine ⟨steady', effect_of_appended careful.1 appended fun accepted => (mirrored accepted).2, ?_⟩
  refine ends_orRaise (fun e failed => ?_) fun event decoded => ?_
  · obtain ⟨payload, own⟩ := steady'.readable.events _ appended.mem
    rw [EventRow.toDict, own] at failed
    cases failed
  refine abides_delivery fun later delivery kept => ends_pure ⟨valid, ?_, _,
    kept _ (List.mem_append_right _ (List.mem_singleton_self _)), ?_⟩
  · rw [(toDict_ok decoded).1]
    exact wants
  · rw [(toDict_ok decoded).1]
    exact appended.mem

omit [Platform] [EventRenderer] in
theorem FoundOpen.later {later : List (Performed DbStatement (Work Db))} (opened : FoundOpen arguments past)
    (kept : ∀ entry ∈ past, entry ∈ later) : FoundOpen arguments later := by
  obtain ⟨entry, member, found⟩ := opened
  exact ⟨entry, kept entry member, found⟩

omit [Platform] [EventRenderer] in
/-- The indexes take the mirror of an accepted issue, which has no branch and no pull request. -/
theorem accepts_accepted {tasks : Table taskSchema} {workspaceId taskId : String} :
    Accepts tasks ((acceptedColumns arguments taskId issue).toRow workspaceId taskId) := by
  intro other _ _
  constructor
  · simp [TaskMirror.sameBranch, MirrorColumns.toRow, acceptedColumns]
  · simp [TaskMirror.samePr, MirrorColumns.toRow, acceptedColumns]

omit [Platform] [EventRenderer] in
/-- Writing a mirror takes no event and no task away. -/
theorem effect_of_putTask {w : Work Db} {row : TaskMirror} {tasks : Table taskSchema}
    (put : putTask row w.store.tasks = some tasks) (tag : DbStatement) :
    Effect arguments past ⟨tag, w, { w with store := { w.store with tasks } }⟩ := by
  refine ⟨fun event member => member, fun workspaceId taskId found => ?_, fun event member fresh => absurd member fresh⟩
  by_cases own : isTask workspaceId taskId row = true
  · obtain ⟨rfl, rfl⟩ := isTask_iff.mp own
    exact Option.isSome_iff_exists.mpr ⟨row, find?_putTask put⟩
  · exact (congrArg Option.isSome (find?_putTask_other put (by simpa using own))).trans found

omit [Platform] [EventRenderer] in
theorem steady_putTask {w : Work Db} {row : TaskMirror} {tasks : Table taskSchema} {payload : Json}
    (steady : Steady start w.store) (own : row.payloadJson = .value payload)
    (put : putTask row w.store.tasks = some tasks) : Steady start { w.store with tasks } :=
  ⟨⟨readable_putTask steady.readable own put, steady.objects, steady.once⟩, steady.workspaces,
    steady.spotted⟩

/-- The mirror and the triage. -/
theorem abides_mirror {workspace : Workspace} (valid : Valid start arguments)
    (opened : FoundOpen arguments past) (silent : ∀ entry ∈ past, Silent entry)
    (named : arguments.decision = "accept" → arguments.taskId.getD "" ≠ "") :
    Abides start arguments (Done start arguments) past
      (mirrorAccepted arguments issue >>= fun task => recordTriage arguments workspace issue task) := by
  refine ends_bind ?_
  unfold mirrorAccepted
  split
  · rename_i accepted
    have go : ∀ later row, FoundOpen arguments later → (∃ entry ∈ later, (findTask entry.after.store
        arguments.workspaceId (arguments.taskId.getD "")).isSome = true) →
        Abides start arguments (Done start arguments) later
          (recordTriage arguments workspace issue row) := fun later row opened mirrored =>
      abides_record valid opened (fun _ => ⟨named accepted, mirrored⟩) fun other => absurd accepted other
    refine ends_upsertMirror quiet draws (fun w _ found => ?_) (fun found w _ full => ?_)
      fun found w tasks status steady _ put => ⟨steady_putTask steady rfl put, effect_of_putTask put _, ?_⟩
    · refine ends_pure (go _ _ (opened.later fun _ member => List.mem_append_left _ member)
        ⟨_, List.mem_append_right _ (List.mem_singleton_self _), ?_⟩)
      exact Option.isSome_iff_exists.mpr ⟨_, found⟩
    · have taken : Accepts w.store.tasks ((acceptedColumns arguments (arguments.taskId.getD "") issue).toRow
          arguments.workspaceId (arguments.taskId.getD "")) := accepts_accepted
      obtain ⟨tasks, put⟩ := exists_putTask taken
      rw [full] at put
      cases put
    · refine ends_pure (go _ _ (opened.later fun _ member =>
        List.mem_append_left _ (List.mem_append_left _ member))
        ⟨_, List.mem_append_right _ (List.mem_singleton_self _), ?_⟩)
      exact Option.isSome_iff_exists.mpr ⟨_, find?_putTask put⟩
  · rename_i other
    exact ends_pure (abides_record valid opened (fun accepted => absurd accepted other) fun _ => silent)

omit [Platform] [EventRenderer] in
/-- A query leaves the store alone. -/
theorem silent_snoc {tag : DbStatement} {w : Work Db} (silent : ∀ entry ∈ past, Silent entry) :
    ∀ entry ∈ past ++ [⟨tag, w, w⟩], Silent entry :=
  List.forall_mem_append.mpr ⟨silent, List.forall_mem_singleton.mpr rfl⟩

omit [Platform] [EventRenderer] in
theorem getWorkspace_steady {db : Db} (steady : Steady start db) (workspaceId : String) :
    getWorkspace db workspaceId = getWorkspace start workspaceId := by
  rw [getWorkspace, getWorkspace, steady.workspaces]

omit [Platform] [EventRenderer] in
/-- The test of the workspace comes out as at the start. -/
theorem requireWorkspace_steady {w : Work Db} {workspaceId : String} {message : String}
    {outcome : Except Exn Workspace} (steady : Steady start w.store)
    (found : (match getWorkspace w.store workspaceId with
      | some workspace => .ok workspace
      | none => .error (Exn.value message)) = outcome) :
    (getWorkspace start workspaceId).isSome = outcome.isOk := by
  rw [← getWorkspace_steady steady, ← found]
  cases getWorkspace w.store workspaceId <;> rfl

/-- The call rule. -/
theorem abides (start : Db) (arguments : TriageArguments) :
    Abides start arguments (Done start arguments) [] (triageIssue arguments) := by
  have quietly : ∀ entry ∈ ([] : List (Performed DbStatement (Work Db))), Silent entry :=
    List.forall_mem_nil _
  refine ends_raiseIf (fun wrong => ⟨quietly, fun valid => absurd valid.decision wrong⟩) fun known => ?_
  refine ends_queryOrRaise quiet (fun w e steady failed => ?_) fun w workspace steady found => ?_
  · refine ⟨silent_snoc quietly, fun valid => ?_⟩
    have unknown := valid.workspace.symm.trans (requireWorkspace_steady steady failed)
    cases unknown
  refine ends_query quiet fun w' steady' => ends_orRaise (fun e failed => ?_) fun issue read => ?_
  · exact ⟨silent_snoc (silent_snoc quietly), fun valid => absurd valid (invalid_of_readIssue steady' failed)⟩
  have valid : Valid start arguments :=
    ⟨not_not.mp known, requireWorkspace_steady steady found, valid_of_readIssue steady' read⟩
  obtain ⟨-, -, -, named⟩ := readIssue_ok read
  refine ends_query quiet fun w'' steady'' => ?_
  have silent : ∀ entry ∈ [] ++ [⟨.read, w, w⟩] ++ [⟨.read, w', w'⟩] ++ [⟨.read, w'', w''⟩], Silent entry :=
    silent_snoc (silent_snoc (silent_snoc quietly))
  have rows := legible_triageRows steady''.toSettled arguments.workspaceId
  have cases := priorTriage_cases arguments fun row member => (rows row member).1
  refine ends_orRaise (fun e failed => ?_) fun prior scanned => ?_
  · rw [failed] at cases
    obtain ⟨row, member, source, other⟩ := cases
    obtain ⟨-, stored, workspace, kind⟩ := rows row member
    exact ⟨silent, fun _ => .inr ⟨_, List.mem_append_right _ (List.mem_singleton_self _), row, stored,
      ⟨workspace, kind, source⟩, other⟩⟩
  rw [scanned] at cases
  cases prior with
  | some prior =>
    obtain ⟨member, source, decides⟩ := cases
    obtain ⟨-, stored, workspace, kind⟩ := rows _ member
    refine abides_delivery fun later delivery kept => ends_pure ⟨valid, ⟨⟨workspace, kind, source⟩, decides⟩,
      _, kept _ (List.mem_append_right _ (List.mem_singleton_self _)), stored⟩
  | none =>
    have opened : FoundOpen arguments
        ([] ++ [⟨.read, w, w⟩] ++ [⟨.read, w', w'⟩] ++ [⟨.read, w'', w''⟩]) := by
      refine ⟨_, List.mem_append_right _ (List.mem_singleton_self _), fun row stored triage => ?_⟩
      refine cases row (Table.mem_filter.mpr ⟨stored, ?_⟩) triage.source
      rw [Bool.and_eq_true, decide_eq_true_eq, decide_eq_true_eq]
      exact ⟨triage.workspace, triage.eventType⟩
    exact ends_orRaise (fun e _ => ⟨silent, fun _ => .inl opened⟩) fun _ _ =>
      abides_mirror valid opened silent named

end Calls

section Runs

variable [Platform] [EventRenderer] {start : Work Db}
  {pool : Pool TriageArguments DbStatement (Work Db) Exn IssueTriageResult}
  {record : List (Nat × Performed DbStatement (Work Db))}

/-- All interleavings of triages, with a record of their statements. -/
def calls := Pool.recorded triageIssue DbCall.wait

omit [Platform] [EventRenderer] in
theorem Settled.steady {db : Db} (settled : Settled db) : Steady db db :=
  ⟨settled, rfl, fun _ => rfl⟩

omit [Platform] [EventRenderer] in
theorem steady_wait (db : Db) (readings : Nat) (s t : Work Db) (steady : Steady db s.store)
    (waited : DbCall.wait readings s = some t) : Steady db t.store := by
  cases waited
  exact steady

omit [Platform] [EventRenderer] in
/-- The tests of two calls for the same decision on an issue come out the same. -/
theorem Valid.congr {db : Db} {arguments other : TriageArguments} (valid : Valid db arguments)
    (workspace : other.workspaceId = arguments.workspaceId) (event : other.eventId = arguments.eventId)
    (decision : other.decision = arguments.decision) (task : other.taskId = arguments.taskId) :
    Valid db other := by
  obtain ⟨known, located, row, issue, spotted, read⟩ := valid
  refine ⟨decision ▸ known, workspace ▸ located, row, issue, event ▸ spotted, ?_⟩
  rw [← read]
  simp only [readIssue, workspace, event, decision, task]

/-- **An issue gets one triage decision.** In every run whose appends are careful: an issue has at most
one triage; a call that returns returns that triage, with its own decision, so a call with another decision
does not return; a call that raises has written nothing, and where a call for the same decision has
returned, it had found the issue without a triage; and an accepted task has its mirror. -/
theorem one_triage (settled : Settled start.store) (mirrored : Mirrored start.store)
    (run : calls.Reaches (Pool.Heeds Careful) (Pool.initial start, []) (pool, record)) :
    (∀ workspaceId eventId, ∀ a ∈ pool.shared.store.events, ∀ b ∈ pool.shared.store.events,
      IsTriage workspaceId eventId a → IsTriage workspaceId eventId b → a = b) ∧
    (∀ (index : Nat) (arguments : TriageArguments) (result : IssueTriageResult),
      pool.parties[index]? = some (arguments, .done result) → result.event.row ∈ pool.shared.store.events ∧ arguments.Wants result.event.row) ∧
    (∀ (index : Nat) (arguments : TriageArguments) (rest : DbCall IssueTriageResult),
      pool.parties[index]? = some (arguments, rest) →
      ∀ row ∈ pool.shared.store.events, IsTriage arguments.workspaceId arguments.eventId row →
        ¬ Decides arguments.decision arguments.taskId row → ∀ result, rest ≠ .done result) ∧
    (∀ (index : Nat) (arguments : TriageArguments) (e : Exn),
      pool.parties[index]? = some (arguments, .raised e) →
      (∀ entry ∈ Pool.performedBy index record, Silent entry) ∧
      ∀ (winner : Nat) (won : TriageArguments) (result : IssueTriageResult),
        pool.parties[winner]? = some (won, .done result) →
        arguments.workspaceId = won.workspaceId → arguments.eventId = won.eventId →
        arguments.decision = won.decision → arguments.taskId = won.taskId →
        FoundOpen arguments (Pool.performedBy index record)) ∧
    Mirrored pool.shared.store := by
  obtain ⟨steady, effects, returned, raised⟩ :=
    Pool.ended (fun arguments => abides start.store arguments)
      (fun readings s t => steady_wait start.store readings s t) settled.steady run
  have lasts : ∀ row, (∃ entry ∈ record, row ∈ entry.2.after.store.events) →
      row ∈ pool.shared.store.events := by
    intro row left
    refine Pool.lasting (P := fun w : Work Db => row ∈ w.store.events) ?_ run ?_ (.inr left)
    · intro readings s t waited
      cases waited
      exact id
    · rintro ⟨index, entry⟩ member
      obtain ⟨_, _, _, -, -, effect⟩ := effects index entry member
      exact effect.events row
  have done : ∀ (index : Nat) (arguments : TriageArguments) (result : IssueTriageResult),
      pool.parties[index]? = some (arguments, .done result) →
      result.event.row ∈ pool.shared.store.events ∧ arguments.Wants result.event.row := by
    intro index arguments result found
    obtain ⟨-, wants, entry, member, present⟩ := returned index arguments result found
    exact ⟨lasts _ ⟨_, Pool.mem_performedBy.mp member, present⟩, wants⟩
  refine ⟨steady.once, done, ?_, fun index arguments e found => ?_, ?_⟩
  · rintro index arguments rest found row member triage other result rfl
    obtain ⟨stored, own, decides⟩ := done index arguments result found
    exact other (steady.once _ _ _ stored row member own triage ▸ decides)
  · obtain ⟨silent, reason⟩ := raised index arguments e found
    refine ⟨silent, fun winner won result finished workspace event decision task => ?_⟩
    obtain ⟨valid, -⟩ := returned winner won result finished
    obtain ⟨stored, own, decides⟩ := done winner won result finished
    rcases reason (valid.congr workspace event decision task) with opened |
      ⟨entry, member, row, present, triage, other⟩
    · exact opened
    · have kept : row ∈ pool.shared.store.events :=
        lasts row ⟨_, Pool.mem_performedBy.mp member, (silent entry member) ▸ present⟩
      rw [workspace, event] at triage
      rw [decision, task] at other
      exact absurd (steady.once _ _ _ stored row kept own triage ▸ decides) other
  · intro row member workspaceId eventId taskId triage decides
    refine Pool.lasting (P := fun w : Work Db => (findTask w.store workspaceId taskId).isSome = true)
      ?_ run ?_ ?_
    · intro readings s t waited
      cases waited
      exact id
    · rintro ⟨index, entry⟩ noted
      obtain ⟨_, _, _, -, -, effect⟩ := effects index entry noted
      exact effect.tasks workspaceId taskId
    · by_cases old : row ∈ start.store.events
      · exact .inl (mirrored row old workspaceId eventId taskId triage decides)
      · obtain ⟨⟨index, entry⟩, noted, absent, present⟩ := Pool.caused
          (P := fun w : Work Db => row ∈ w.store.events)
          (fun readings s t waited => by cases waited; exact id) old run member
        obtain ⟨arguments, _, earlier, -, kept, effect⟩ := effects index entry noted
        obtain ⟨⟨own, decided⟩, accepted⟩ := effect.added row present absent
        obtain ⟨before, performed, found⟩ :=
          accepted (Json.str.inj (decided.decision.symm.trans decides.decision))
        have task : arguments.taskId = some taskId := by
          have same := decided.task.symm.trans decides.task
          cases given : arguments.taskId with
          | none =>
            rw [given] at same
            cases same
          | some name =>
            rw [given] at same
            exact congrArg some (Json.str.inj same)
        obtain ⟨rfl, -⟩ := same_issue own triage
        rw [task] at found
        exact .inr ⟨_, kept before performed, found⟩

end Runs

namespace Sample

open Coordinate.Sample

local instance : EventRenderer where
  renderEventPayload _ payload := .ok payload

/-- A spotted issue. -/
def spotted : EventRow where
  id := "i"
  workspaceId := some "w"
  eventType := spottedType
  actor := "operator"
  target := none
  taskId := none
  idempotencyKey := "i"
  payloadJson := .value (.obj [])
  createdAt := 0

def start : Work Db :=
  { initialWork with store := { Db.empty with
    workspaces := tableOf { id := "w", path := "/w", harnessRoot := "/w" }
    events := tableOf spotted } }

theorem start_settled : Settled start.store := by
  refine ⟨⟨fun row member => ?_, fun row member => (by cases member)⟩, fun row member kind => ?_,
    fun _ _ a memberA b memberB left _ => ?_⟩
  · cases List.mem_singleton.mp member
    exact ⟨_, rfl⟩
  · cases List.mem_singleton.mp member
    rfl
  · cases List.mem_singleton.mp memberA
    cases List.mem_singleton.mp memberB
    rfl

theorem start_mirrored : Mirrored start.store := by
  intro row member workspaceId eventId taskId triage _
  cases List.mem_singleton.mp member
  exact absurd triage.eventType (by decide)

def triaging (decision : String) (taskId : Option String) : TriageArguments where
  workspaceId := "w"
  eventId := "i"
  decision
  taskId

/-- Both calls have returned, and the ledger has two triages of the issue. -/
def hasTwo (pool : Pool TriageArguments DbStatement (Work Db) Exn IssueTriageResult) : Bool :=
  match pool.parties, triageRows "w" pool.shared.store with
  | [(_, .done _), (_, .done _)], [a, b] =>
    a.decoded.get "source_event_id" = .str "i" && b.decoded.get "source_event_id" = .str "i" && a ≠ b
  | _, _ => false

theorem isTriage_of_mem {db : Db} {row : EventRow} (member : row ∈ triageRows "w" db)
    (source : row.decoded.get "source_event_id" = .str "i") : row ∈ db.events ∧ IsTriage "w" "i" row := by
  obtain ⟨stored, own⟩ := Table.mem_filter.mp member
  rw [Bool.and_eq_true, decide_eq_true_eq, decide_eq_true_eq] at own
  exact ⟨stored, own.1, own.2, source⟩

/-- Two calls scan before either appends, and both decisions are recorded. -/
theorem triaged_twice : ∃ pool record first second a b, calls.Reaches Machine.anyStep
    (Pool.initial start, []) (pool, record) ∧
    pool.parties.map (fun party => party.2) = [.done first, .done second] ∧
    a ∈ pool.shared.store.events ∧ b ∈ pool.shared.store.events ∧ IsTriage "w" "i" a ∧
    IsTriage "w" "i" b ∧ a ≠ b := by
  obtain ⟨⟨pool, record⟩, run, checked⟩ :=
    @Machine.exists_reaches _ _ calls Machine.anyStep (Pool.initial start, []) (fun _ _ => true)
      (fun s => hasTwo s.1) (fun _ _ _ => trivial)
      ([.start (triaging "reject" none), .start (triaging "defer" none)] ++
        List.replicate 3 (.perform 0) ++ List.replicate 4 (.perform 1) ++ [.perform 0]) (by decide +kernel)
  dsimp only [hasTwo] at checked
  split at checked
  · rename_i one first two second a b parties rows
    simp only [Bool.and_eq_true, decide_eq_true_eq] at checked
    obtain ⟨⟨sourceA, sourceB⟩, apart⟩ := checked
    have memberA : a ∈ triageRows "w" pool.shared.store := by simp [rows]
    have memberB : b ∈ triageRows "w" pool.shared.store := by simp [rows]
    obtain ⟨storedA, triageA⟩ := isTriage_of_mem memberA sourceA
    obtain ⟨storedB, triageB⟩ := isTriage_of_mem memberB sourceB
    refine ⟨pool, record, first, second, a, b, run, ?_, storedA, storedB, triageA, triageB, apart⟩
    rw [parties]
    rfl
  · cases checked

/-- No triage is in the ledger at an append, and neither the key nor the id of the call. -/
def isOpen (arguments : TriageArguments) (w : Work Db) : DbStatement → Bool
  | .append _ => arguments.taskId ≠ some "" && w.store.events.rows.all fun row =>
    row.eventType ≠ triagedType && row.idempotencyKey ≠ arguments.key && row.id ≠ Platform.uuid4 w.draws
  | _ => true

theorem careful_of_isOpen (arguments : TriageArguments) (past : List (Performed DbStatement (Work Db)))
    (w : Work Db) (tag : DbStatement) (passed : isOpen arguments w tag = true) :
    Careful arguments past w tag := by
  cases tag with
  | append event =>
    simp only [isOpen, Bool.and_eq_true, decide_eq_true_eq, List.all_eq_true] at passed
    obtain ⟨named, free⟩ := passed
    exact ⟨named, fun row member triage => absurd triage.eventType (free row member).1.1,
      fun row member key => absurd key (free row member).1.2, fun row member => (free row member).2⟩
  | _ => trivial

/-- A single call has returned. -/
def isAnswered (parties : List (TriageArguments × DbCall IssueTriageResult)) : Bool :=
  match parties with
  | [(_, .done _)] => true
  | _ => false

/-- One call that accepts the issue. -/
theorem accepted_once : ∃ pool record arguments result, calls.Reaches (Pool.Heeds Careful)
    (Pool.initial start, []) (pool, record) ∧ pool.parties[0]? = some (arguments, .done result) ∧
    result.event.row ∈ pool.shared.store.events ∧ arguments.Wants result.event.row ∧
    Mirrored pool.shared.store := by
  obtain ⟨⟨pool, record⟩, run, checked⟩ :=
    @Machine.exists_reaches _ _ calls (Pool.Heeds Careful) (Pool.initial start, [])
      (Pool.heeding fun arguments _ => isOpen arguments)
      (fun s => isAnswered s.1.parties)
      (Pool.heeds_of_heeding careful_of_isOpen)
      (.start (triaging "accept" (some "t")) :: List.replicate 6 (.perform 0)) (by decide +kernel)
  dsimp only [isAnswered] at checked
  split at checked
  · rename_i arguments result parties
    have found : pool.parties[0]? = some (arguments, .done result) := by
      rw [parties]
      rfl
    obtain ⟨-, returned, -, -, mirrored⟩ := one_triage start_settled start_mirrored run
    obtain ⟨stored, wants⟩ := returned 0 arguments result found
    exact ⟨pool, record, arguments, result, run, found, stored, wants, mirrored⟩
  · cases checked

end Sample

end Coordinate.IssueTriage

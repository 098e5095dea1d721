import Coordinate.Model.Transitions
import Coordinate.Proofs.Ledger

/-! # Completions of a task

What the operations do to the completions of a task. An operation appends one completion at most; if no
completion under another authority has been recorded since it looked for one, there is none when it
appends. Everything else that it appends completes nothing.
-/

namespace Coordinate.Terminals

section Authorities

/-- What a recorded completion stems from. -/
def authorityOf (row : EventRow) : Authority :=
  match row.receipt with
  | some receiptId => .receipt receiptId
  | none => .actor row.actor

/-- A row completes a task of a workspace. -/
structure Completes (workspaceId taskId : String) (row : EventRow) : Prop where
  type : row.eventType = "task.done"
  workspace : row.workspaceId = some workspaceId
  task : row.taskId = some taskId

/-- All completions of a task stem from one authority. -/
def OneAuthority (s : Ledger) : Prop :=
  ∀ workspaceId taskId, ∀ row ∈ rowsOf s, ∀ other ∈ rowsOf s, Completes workspaceId taskId row →
    Completes workspaceId taskId other → authorityOf row = authorityOf other

/-- The rows whose payload repeats their task, as lookups of completions rely on. -/
def isTasked (eventType : String) : Bool :=
  eventType = "task.done" || eventType = "completion.authorized"

def Named (row : EventRow) : Prop :=
  isTasked row.eventType = true → row.decoded.get "task_id" = Json.ofOption row.taskId

structure Governed (s : Ledger) : Prop where
  named : ∀ row ∈ rowsOf s, Named row
  one : OneAuthority s

/-- An append that adds a completion adds it to none under another authority that has been recorded
since earlier completions were looked for. -/
def Unraced (s : Ledger) : Statement → Prop
  | .terminal completion => (∀ row ∈ rowsOf s, row.idempotencyKey ≠ completion.key) →
    ∀ workspaceId taskId, completion.workspaceId = some workspaceId →
      completion.taskId = some taskId → ∀ row ∈ (rowsOf s).drop (completion.scanned.getD 0),
        Completes workspaceId taskId row → authorityOf row = completion.authority
  | _ => True

end Authorities

section Steps

variable {s t : Ledger}

theorem Governed.unchanged (governed : Governed s) {w : Work Db}
    (store : w.store = s.work.store) :
    Governed { s with work := w } ∧ Evolves s { s with work := w } := by
  have rows : rowsOf { s with work := w } = rowsOf s := congrArg (·.events.rows) store
  refine ⟨⟨?_, ?_⟩, rows ▸ List.prefix_rfl, List.prefix_rfl⟩
  · rw [rows]
    exact governed.named
  · rw [OneAuthority, rows]
    exact governed.one

theorem discipline : Discipline Governed Evolves where
  refl := Evolves.refl
  trans := Evolves.trans
  quiet s t governed quiet := by
    have rows : rowsOf t = rowsOf s := congrArg (·.events.rows) quiet.store
    refine ⟨⟨?_, ?_⟩, quiet.evolves⟩
    · rw [rows]
      exact governed.named
    · rw [OneAuthority, rows]
      exact governed.one

/-- A new row beside which no completion stems from another authority. -/
theorem Governed.extend (governed : Governed s) {w : Work Db} {row : EventRow}
    (rows : w.store.events.rows = rowsOf s ++ [row]) (named : Named row)
    (alone : ∀ workspaceId taskId, Completes workspaceId taskId row → ∀ other ∈ rowsOf s,
      Completes workspaceId taskId other → authorityOf other = authorityOf row) :
    Governed { s with work := w } ∧ Evolves s { s with work := w } := by
  have extended : rowsOf { s with work := w } = rowsOf s ++ [row] := rows
  refine ⟨⟨?_, ?_⟩, extended ▸ List.prefix_append _ _, List.prefix_rfl⟩
  · intro other member
    rw [extended, List.mem_append, List.mem_singleton] at member
    obtain old | rfl := member
    · exact governed.named other old
    · exact named
  · intro workspaceId taskId first firstMember second secondMember firstCompletes secondCompletes
    rw [extended, List.mem_append, List.mem_singleton] at firstMember secondMember
    obtain oldFirst | rfl := firstMember <;> obtain oldSecond | rfl := secondMember
    · exact governed.one _ _ _ oldFirst _ oldSecond firstCompletes secondCompletes
    · exact alone _ _ secondCompletes _ oldFirst firstCompletes
    · exact (alone _ _ firstCompletes _ oldSecond secondCompletes).symm
    · rfl

variable [Platform] {event : NewEvent} {result : AppendEventResult} {w : Work Db}

/-- An append of an event that completes nothing. -/
theorem Governed.appended (governed : Governed s)
    (ran : (appendEvent event).run s.work = .ok result w)
    (other : event.eventType ≠ "task.done")
    (named : ∀ eventId createdAt, Named (event.toRow eventId createdAt)) :
    Governed { s with work := w } ∧ Evolves s { s with work := w } := by
  cases appendEvent_ok ran with
  | created events inserted store =>
    refine governed.extend (by rw [store]; exact Table.insert?_rows inserted) (named _ _) ?_
    intro workspaceId taskId completes
    exact absurd completes.type other
  | existing row member key store => exact governed.unchanged store

/-- The append of a completion, after earlier ones have been looked for in `s`. -/
theorem Governed.completed {completion : TerminalAppend} (governed : Governed t)
    (unraced : Unraced t (.terminal completion))
    (scanned : ∀ workspaceId taskId, completion.workspaceId = some workspaceId →
      completion.taskId = some taskId → ∀ row ∈ (rowsOf t).take (completion.scanned.getD 0),
        Completes workspaceId taskId row → authorityOf row = completion.authority)
    (workspace : event.workspaceId = completion.workspaceId)
    (task : event.taskId = completion.taskId)
    (keyed : event.idempotencyKey = some completion.key) (nonempty : completion.key ≠ "")
    (authority : ∀ eventId createdAt,
      authorityOf (event.toRow eventId createdAt) = completion.authority)
    (named : ∀ eventId createdAt, Named (event.toRow eventId createdAt))
    (ran : (appendEvent event).run t.work = .ok result w) :
    Governed { t with work := w } ∧ Evolves t { t with work := w } := by
  cases appendEvent_ok ran with
  | existing row member key store => exact governed.unchanged store
  | created events inserted store =>
    have free : ∀ row ∈ rowsOf t, row.idempotencyKey ≠ completion.key := by
      intro row member same
      have apart := (Table.insert?_fits inserted).2 row member
      simp only [eventSchema, Bool.or_eq_false_iff, decide_eq_false_iff_not] at apart
      exact apart.2 (same.trans (event.toRow_key _ _ keyed nonempty).symm)
    refine governed.extend (by rw [store]; exact Table.insert?_rows inserted) (named _ _) ?_
    intro workspaceId taskId completes row member rowCompletes
    have sameWorkspace : completion.workspaceId = some workspaceId :=
      workspace.symm.trans completes.workspace
    have sameTask : completion.taskId = some taskId := task.symm.trans completes.task
    rw [authority]
    -- every earlier completion has been looked at, or has been recorded since
    rw [← List.take_append_drop (completion.scanned.getD 0) (rowsOf t), List.mem_append] at member
    obtain seen | since := member
    · exact scanned _ _ sameWorkspace sameTask row seen rowCompletes
    · exact unraced free _ _ sameWorkspace sameTask row since rowCompletes

end Steps

section Programs

variable [Platform] {careful : Ledger → Statement → Prop} {s t : Ledger}

theorem harmless_append {tag : Statement} {event : NewEvent} (other : event.eventType ≠ "task.done")
    (named : ∀ eventId createdAt, Named (event.toRow eventId createdAt)) :
    Program.Harmless Governed Evolves careful (transaction tag (appendEvent event)) :=
  discipline.harmless_transaction fun _ _ _ governed _ ran => governed.appended ran other named

omit [Platform] in
/-- Events that neither complete a task nor authorize a completion. -/
theorem named_of_other {event : NewEvent} (other : isTasked event.eventType = false)
    (eventId : String) (createdAt : Nat) : Named (event.toRow eventId createdAt) := by
  intro tasked
  rw [show (event.toRow eventId createdAt).eventType = event.eventType from rfl, other] at tasked
  cases tasked

theorem harmless_recordEvent {event : NewEvent} (other : isTasked event.eventType = false) :
    Program.Harmless Governed Evolves careful (recordEvent event) := by
  refine harmless_append (fun same => ?_) (named_of_other other)
  rw [same] at other
  cases other

theorem harmless_issueReceipt (request : PrepareRequest) (facts : String → String → Authorization) :
    Program.Harmless Governed Evolves careful (issueReceipt request facts) := by
  refine discipline.harmless_transaction fun t issued w governed _ ran => ?_
  obtain ⟨receiptId, _, drawn, ran⟩ := Txn.bind_ok.mp ran
  cases drawn
  obtain ⟨nonce, _, drawn, ran⟩ := Txn.bind_ok.mp ran
  cases drawn
  obtain ⟨result, _, appended, ran⟩ := Txn.bind_ok.mp ran
  cases ran
  obtain ⟨drawn, later⟩ := governed.unchanged
    (show { t.work with draws := t.work.draws + 2 }.store = t.work.store from rfl)
  obtain ⟨kept, evolves⟩ := drawn.appended appended (by simp [authorizedEvent])
    fun eventId createdAt _ => rfl
  exact ⟨kept, later.trans _ _ _ evolves⟩

variable [Deployment]

theorem harmless_prepare (request : PrepareRequest) :
    Program.Harmless Governed Evolves careful (prepareCompletionReceipt request) := by
  refine discipline.harmless_bind (discipline.harmless_lookUp _) fun workspace => ?_
  refine discipline.harmless_bind (Program.harmless_raiseIf _ _) fun _ => ?_
  refine discipline.harmless_bind (discipline.harmless_readGatedItem _ _) fun ⟨gate, item⟩ => ?_
  refine discipline.harmless_bind (discipline.harmless_lookUp _) fun forge => ?_
  refine discipline.harmless_bind (Program.harmless_raiseIf _ _) fun _ => ?_
  refine discipline.harmless_bind (discipline.harmless_lookUp _) fun review => ?_
  refine discipline.harmless_bind discipline.harmless_utcStamp fun issued => ?_
  refine discipline.harmless_bind (Program.harmless_orRaise _ _) fun expires => ?_
  refine discipline.harmless_bind (harmless_issueReceipt _ _) fun ⟨facts, result⟩ => ?_
  exact discipline.harmless_bind (Program.harmless_orRaise _ _) fun event =>
    Program.harmless_pure _

theorem harmless_claim (claim : ReceiptClaim) :
    Program.Harmless Governed Evolves careful (claimCompletionReceipt claim) := by
  refine discipline.harmless_bind (discipline.harmless_lookUp _) fun payload => ?_
  refine discipline.harmless_bind (Program.harmless_orRaise _ _) fun _ => ?_
  refine discipline.harmless_bind (discipline.harmless_checkExpiry _) fun _ => ?_
  refine discipline.harmless_bind (discipline.harmless_notConsumed _) fun _ => ?_
  refine discipline.harmless_bind (discipline.harmless_lookUp _) fun applied => ?_
  cases applied with
  | some prior => exact Program.harmless_orRaise _ _
  | none =>
    refine discipline.harmless_bind (discipline.harmless_lookUp _) fun claimed => ?_
    cases claimed with
    | some prior => exact Program.harmless_orRaise _ _
    | none =>
      refine discipline.harmless_bind (Program.harmless_raiseIf _ _) fun _ => ?_
      refine discipline.harmless_bind discipline.harmless_utcStamp fun claimedAt => ?_
      refine discipline.harmless_bind (harmless_recordEvent rfl) fun result => ?_
      exact discipline.harmless_bind (Program.harmless_orRaise _ _) fun event =>
        Program.harmless_pure _

theorem harmless_apply (application : ReceiptApplication) :
    Program.Harmless Governed Evolves careful (applyCompletionReceipt application) := by
  refine discipline.harmless_bind (discipline.harmless_lookUp _) fun payload => ?_
  refine discipline.harmless_bind (Program.harmless_orRaise _ _) fun _ => ?_
  refine discipline.harmless_bind (discipline.harmless_checkExpiry _) fun _ => ?_
  refine discipline.harmless_bind (discipline.harmless_notConsumed _) fun _ => ?_
  refine discipline.harmless_bind (discipline.harmless_lookUp _) fun applied => ?_
  cases applied with
  | some prior => exact Program.harmless_orRaise _ _
  | none =>
    refine discipline.harmless_bind (discipline.harmless_lookUp _) fun claimed => ?_
    cases claimed with
    | none => exact Program.harmless_throw _
    | some prior =>
      refine discipline.harmless_bind (Program.harmless_raiseIf _ _) fun _ => ?_
      refine discipline.harmless_bind discipline.harmless_utcStamp fun appliedAt => ?_
      refine discipline.harmless_bind (harmless_recordEvent rfl) fun result => ?_
      exact discipline.harmless_bind (Program.harmless_orRaise _ _) fun event =>
        Program.harmless_pure _

end Programs

section Lookups

theorem refuseOtherTerminals_ok {receiptId : String} {taskId : Json} :
    ∀ {rows : List EventRow} {u : Unit}, refuseOtherTerminals receiptId taskId rows = .ok u →
      ∀ row ∈ rows, row.receipt = some receiptId
  | [], _, _ => nofun
  | row :: rest, u, passed => by
    obtain ⟨prior, decoded, passed⟩ := Except.bind_ok.mp passed
    obtain ⟨_, own, passed⟩ := Except.bind_ok.mp passed
    rw [raiseIf_except_ok, ne_eq, not_not, payloadOf_get, toDict_decoded decoded] at own
    intro other member
    obtain rfl | later := List.mem_cons.mp member
    · exact receipt_eq_some.mpr own
    · exact refuseOtherTerminals_ok passed other later

theorem priorCompletion_none {taskId : String} :
    ∀ {rows : List EventRow}, priorCompletion taskId rows = .ok none →
      ∀ row ∈ rows, row.decoded.get "task_id" ≠ .str taskId
  | [], _ => nofun
  | row :: rest, passed => by
    obtain ⟨prior, decoded, passed⟩ := Except.bind_ok.mp passed
    split at passed
    · cases passed
    rename_i different
    rw [payloadOf_get, toDict_decoded decoded] at different
    intro other member
    obtain rfl | later := List.mem_cons.mp member
    · exact different
    · exact priorCompletion_none passed other later

theorem boundText_ofOption {taskId text : Option String}
    (bound : boundText (Json.ofOption taskId) = .ok text) : text = taskId := by
  cases taskId <;> cases bound <;> rfl

end Lookups

section Completions

variable [Platform] {s : Ledger}

theorem authorityOf_consumption (consumption : ReceiptConsumption) (payload after item : Json)
    (workspaceId taskId : Option String) (eventId : String) (createdAt : Nat) :
    authorityOf ((consumptionEvent consumption workspaceId taskId "task.done" "task.done"
      (taskDonePayload consumption payload after item)).toRow eventId createdAt) =
        .receipt consumption.receiptId := by
  have receipt : ((consumptionEvent consumption workspaceId taskId "task.done" "task.done"
      (taskDonePayload consumption payload after item)).toRow eventId createdAt).receipt =
        some consumption.receiptId := by
    rw [receipt_eq_some, EventRow.decoded, decoded_taskDone, taskDonePayload_get (by decide)]
    rfl
  rw [authorityOf, receipt]

variable [Deployment]

/-- A consumption has looked for completions of its task before it appends its own. -/
theorem consumeApplied_sound {consumption : ReceiptConsumption} {payload : Json}
    {applied : EventDict} {taskId : Option String}
    (task : payload.get "task_id" = Json.ofOption taskId) :
    (consumeApplied consumption payload applied).Sound Governed Evolves Unraced
      (fun _ _ => True) s := by
  refine Program.sound_orRaise fun workspaceText _ => ?_
  refine Program.sound_orRaise fun taskText bound => ?_
  rw [task] at bound
  obtain rfl := boundText_ofOption bound
  refine discipline.sound_lookUp fun scanned t _ _ found => ?_
  obtain ⟨_, passed, found⟩ := Except.bind_ok.mp found
  cases found
  refine discipline.sound_harmless (discipline.harmless_lookUp _) fun adapter t₁ _ evolves₁ => ?_
  refine discipline.sound_harmless (discipline.harmless_readAdapter _ _)
    fun read t₂ _ evolves₂ => ?_
  refine Program.sound_orRaise fun item _ => ?_
  refine Program.sound_orRaise fun _ _ => ?_
  refine discipline.sound_harmless discipline.harmless_utcStamp fun consumedAt t₃ _ evolves₃ => ?_
  refine discipline.sound_transaction fun u result w governed evolves₄ unraced ran => ?_
  have evolves : Evolves t u :=
    evolves₁.trans _ _ _ (evolves₂.trans _ _ _ (evolves₃.trans _ _ _ evolves₄))
  obtain ⟨done, middle, doneRan, ran⟩ := Txn.bind_ok.mp ran
  obtain ⟨_, _, decoded, ran⟩ := Txn.bind_ok.mp ran
  obtain ⟨_, rfl⟩ := Txn.orRaise_ok.mp decoded
  obtain ⟨consumed, last, consumedRan, ran⟩ := Txn.bind_ok.mp ran
  cases ran
  have seen : (rowsOf u).take (rowsOf t).length = rowsOf t := by
    obtain ⟨added, grown⟩ := evolves.rows
    rw [← grown, List.take_left]
  obtain ⟨kept, evolved⟩ := governed.completed unraced (fun workspaceId task' sameWorkspace sameTask
      row member completes => by
    replace member : row ∈ (rowsOf u).take (rowsOf t).length := member
    rw [seen] at member
    have listed : row ∈ terminalRows t.work.store workspaceText taskText := by
      refine Table.mem_filter.mpr ⟨member, ?_⟩
      replace sameWorkspace : workspaceText = some workspaceId := sameWorkspace
      replace sameTask : taskText = some task' := sameTask
      simp [sameWorkspace, sameTask, completes.type, completes.workspace, completes.task]
    rw [authorityOf, refuseOtherTerminals_ok passed row listed])
    rfl rfl rfl (receiptKey_ne_empty _ _) (authorityOf_consumption _ _ _ _ _ _) (fun _ _ _ => by
      rw [EventRow.decoded, decoded_taskDone, taskDonePayload_get (by decide)]
      exact task) doneRan
  obtain ⟨kept, evolved'⟩ := kept.appended consumedRan (by simp [consumptionEvent])
    (named_of_other rfl)
  refine ⟨kept, evolved.trans _ _ _ evolved', ?_⟩
  exact Program.sound_orRaise fun event _ => Program.sound_pure fun _ _ _ => trivial

theorem consume_sound (consumption : ReceiptConsumption) :
    (consumeCompletionReceipt consumption).Sound Governed Evolves Unraced (fun _ _ => True) s := by
  refine discipline.sound_lookUp fun payload t governed _ found => ?_
  obtain ⟨row, member, type, receipt, rfl⟩ := receiptPayload_row found
  have task := governed.named row member (by simp [isTasked, type])
  refine Program.sound_orRaise fun _ _ => ?_
  refine Program.sound_orRaise fun _ _ => ?_
  refine discipline.sound_harmless (discipline.harmless_checkExpiry _) fun _ _ _ _ => ?_
  refine discipline.sound_lookUp fun consumed _ _ _ _ => ?_
  cases consumed with
  | some event =>
    refine discipline.sound_lookUp fun done _ _ _ _ => ?_
    exact Program.sound_last fun _ _ _ _ _ => trivial
  | none =>
    refine discipline.sound_lookUp fun applied _ _ _ _ => ?_
    cases applied with
    | some prior => exact consumeApplied_sound task
    | none => exact Program.sound_throw _

omit [Platform] [Deployment] in
theorem append_ne_empty (start : String) {finish : String} (nonempty : finish ≠ "") :
    start ++ finish ≠ "" := by
  intro empty
  exact nonempty (String.append_eq_empty_iff.mp empty).2

omit [Platform] [Deployment] in
/-- A repair records its payload, which carries no receipt. -/
theorem repairEvent_decoded (request : MarkDoneRecordRequest) (reason eventId : String)
    (createdAt : Nat) : ((repairEvent request reason).toRow eventId createdAt).decoded =
      repairPayload request reason := by
  rw [EventRow.decoded, NewEvent.toRow, repairEvent, repairPayload]
  cases request.verification.filter (· ≠ "") <;> rfl

omit [Platform] [Deployment] in
theorem repairEvent_spec (request : MarkDoneRecordRequest) (reason eventId : String)
    (createdAt : Nat) :
    authorityOf ((repairEvent request reason).toRow eventId createdAt) = .actor request.actor ∧
      Named ((repairEvent request reason).toRow eventId createdAt) := by
  refine ⟨?_, fun _ => ?_⟩
  · have unmarked : ((repairEvent request reason).toRow eventId createdAt).receipt = none := by
      rw [EventRow.receipt, repairEvent_decoded, repairPayload]
      cases request.verification.filter (· ≠ "") <;> rfl
    rw [authorityOf, unmarked]
    rfl
  · rw [repairEvent_decoded]
    rfl

omit [Deployment] in
/-- A repair looks through the completions of the workspace right before it appends. -/
theorem record_sound (request : MarkDoneRecordRequest) :
    (markDoneRecord request).Sound Governed Evolves Unraced (fun _ _ => True) s := by
  refine Program.sound_raiseIf fun _ => ?_
  refine discipline.sound_lookUp fun workspace _ _ _ _ => ?_
  refine Program.sound_raiseIf fun _ => ?_
  refine discipline.sound_lookUp fun looked t lookedGoverned _ found => ?_
  obtain ⟨prior, searched, found⟩ := Except.bind_ok.mp found
  cases found
  dsimp only
  cases prior with
  | some event => exact Program.sound_pure fun _ _ _ => trivial
  | none =>
    refine discipline.sound_transaction fun u result w governed evolves unraced ran => ?_
    have seen : (rowsOf u).take (rowsOf t).length = rowsOf t := by
      obtain ⟨added, grown⟩ := evolves.rows
      rw [← grown, List.take_left]
    obtain ⟨kept, evolved⟩ := governed.completed unraced (fun workspaceId task sameWorkspace sameTask
        row member completes => by
      replace member : row ∈ (rowsOf u).take (rowsOf t).length := member
      rw [seen] at member
      cases sameWorkspace
      cases sameTask
      have named := lookedGoverned.named row member (by simp [isTasked, completes.type])
      rw [completes.task] at named
      refine absurd named (priorCompletion_none searched row (Table.mem_filter.mpr ⟨member, ?_⟩))
      simp [completes.type, completes.workspace]) rfl rfl rfl
      (append_ne_empty _ (by decide)) (fun _ _ => (repairEvent_spec _ _ _ _).1)
      (fun _ _ => (repairEvent_spec _ _ _ _).2) ran
    refine ⟨kept, evolved, ?_⟩
    exact Program.sound_orRaise fun event _ => Program.sound_pure fun _ _ _ => trivial

variable [Harness]

omit [Platform] [Deployment] [Harness] in
theorem harmless_storedOutcome {careful : Ledger → Statement → Prop} (transition : TaskTransition) :
    Program.Harmless Governed Evolves careful (storedOutcome transition) := by
  refine discipline.harmless_bind (discipline.harmless_lookUp _) fun existing => ?_
  cases existing with
  | some event => exact Program.harmless_pure _
  | none => exact discipline.harmless_lookUp _

omit [Platform] [Deployment] [Harness] in
theorem harmless_adapterOf {careful : Ledger → Statement → Prop} (adapter : Option Adapter)
    (workspaceId : String) :
    Program.Harmless Governed Evolves careful (adapterOf adapter workspaceId) := by
  cases adapter with
  | some adapter => exact Program.harmless_pure _
  | none =>
    refine discipline.harmless_bind (discipline.harmless_lookUp _) fun workspace => ?_
    cases workspace with
    | some workspace => exact Program.harmless_pure _
    | none => exact Program.harmless_throw _

omit [Platform] [Harness] in
theorem harmless_resolveMarkDoneVerification {careful : Ledger → Statement → Prop}
    (adapter : Adapter) (taskId : String) (verification : Option String) :
    Program.Harmless Governed Evolves careful
      (resolveMarkDoneVerification adapter taskId verification) := by
  unfold resolveMarkDoneVerification
  dsimp only
  split
  · exact Program.harmless_pure _
  · refine discipline.harmless_bind (discipline.harmless_readAdapter _ _) fun read => ?_
    split
    · exact Program.harmless_pure _
    · split
      · exact Program.harmless_pure _
      · exact Program.harmless_pure _

theorem harmless_attemptMutation {careful : Ledger → Statement → Prop}
    (request : MutationRequest) :
    Program.Harmless Governed Evolves careful (attemptMutation request) := by
  refine discipline.harmless_bind (discipline.harmless_quiet fun _ => ⟨rfl, .inl rfl⟩)
    fun outcome => ?_
  cases outcome with
  | ok mutation => exact Program.harmless_pure _
  | error error =>
    exact discipline.harmless_bind (discipline.harmless_clock instantAt) fun instant =>
      Program.harmless_pure _

omit [Platform] [Deployment] [Harness] in
/-- A direct completion carries no receipt. -/
theorem outcomeEvent_spec (request : MarkDoneRequest) (verification : String)
    {mutation : HarnessMutationResult} (success : mutation.success = true) (eventId : String)
    (createdAt : Nat) :
    authorityOf (((request.transition verification).outcomeEvent mutation).toRow eventId createdAt) =
        .actor request.actor ∧
      Named (((request.transition verification).outcomeEvent mutation).toRow eventId createdAt) := by
  have decoded : (((request.transition verification).outcomeEvent mutation).toRow eventId
      createdAt).decoded = (request.transition verification).successPayload mutation := by
    simp only [EventRow.decoded, NewEvent.toRow, TaskTransition.outcomeEvent, success]
    rfl
  refine ⟨?_, fun _ => ?_⟩
  · have unmarked : (((request.transition verification).outcomeEvent mutation).toRow eventId
        createdAt).receipt = none := by
      rw [EventRow.receipt, decoded, TaskTransition.successPayload, MarkDoneRequest.transition]
      by_cases verified : verification = ""
      · simp only [verified]
        rfl
      · simp only [if_neg verified]
        rfl
    rw [authorityOf, unmarked]
    rfl
  · rw [decoded]
    rfl

omit [Deployment] [Harness] in
/-- A direct completion appends whatever has been recorded before. -/
theorem harmless_recordOutcome (request : MarkDoneRequest) (verification : String)
    (mutation : HarnessMutationResult) : Program.Harmless Governed Evolves Unraced
      (recordOutcome (request.transition verification) mutation) := by
  refine discipline.harmless_bind ?_ fun result =>
    discipline.harmless_bind (Program.harmless_orRaise _ _) fun stored => Program.harmless_pure _
  cases success : mutation.success with
  | false =>
    have failed : ((request.transition verification).outcomeEvent mutation).eventType =
        "harness.mutation_failed" := by
      simp [TaskTransition.outcomeEvent, success]
    exact harmless_append (by simp [failed]) (named_of_other (by rw [failed]; rfl))
  | true =>
    have tag : recordingOf ((request.transition verification).outcomeEvent mutation) =
        .terminal ⟨.actor request.actor, some request.workspaceId, some request.taskId,
          (request.transition verification).successKey, none⟩ := by
      simp [recordingOf, TaskTransition.outcomeEvent, success, MarkDoneRequest.transition]
    have keyed : ((request.transition verification).outcomeEvent mutation).idempotencyKey =
        some (request.transition verification).successKey := by
      simp [TaskTransition.outcomeEvent, success]
    rw [tag]
    refine discipline.harmless_transaction fun t result w governed unraced ran => ?_
    refine governed.completed unraced nofun rfl rfl keyed ?_
      (fun _ _ => (outcomeEvent_spec request verification success _ _).1)
      (fun _ _ => (outcomeEvent_spec request verification success _ _).2) ran
    exact append_ne_empty _ (show "task.done" ≠ "" by decide)

theorem markDone_sound (request : MarkDoneRequest) :
    (markDoneTask request).Sound Governed Evolves Unraced (fun _ _ => True) s := by
  refine discipline.sound_harmless (harmless_storedOutcome _) fun stored _ _ _ => ?_
  cases stored with
  | some event => exact Program.sound_pure fun _ _ _ => trivial
  | none =>
    refine discipline.sound_harmless (harmless_adapterOf _ _) fun adapter _ _ _ => ?_
    refine discipline.sound_harmless (discipline.harmless_checkMarkDoneGate _ _)
      fun gate _ _ _ => ?_
    split
    · exact Program.sound_pure fun _ _ _ => trivial
    refine discipline.sound_harmless (harmless_resolveMarkDoneVerification _ _ _)
      fun verification _ _ _ => ?_
    split
    · exact Program.sound_pure fun _ _ _ => trivial
    have mutated := discipline.harmless_bind
      (harmless_attemptMutation ((request.transition verification).request adapter))
      (harmless_recordOutcome request verification)
    exact discipline.sound_harmless mutated fun result _ _ _ =>
      Program.sound_pure fun _ _ _ => trivial

end Completions

end Coordinate.Terminals

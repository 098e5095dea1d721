import Coordinate.Model.Completion
import Coordinate.Proofs.Statements

/-! # Reasoning about operations on the event ledger

What a lookup of the ledger finds, and the rules of soundness for the statements of a `LedgerProgram`.
A rule leaves the invariant open: the operations on receipts and those on tasks choose their own.
-/

namespace Coordinate

abbrev rowsOf (s : Ledger) : List EventRow := s.work.store.events.rows

section Rows

/-- The decoded payload of a row. -/
def EventRow.decoded (row : EventRow) : Json :=
  match row.payloadJson with
  | .value payload => payload
  | _ => .null

/-- The receipt that a row carries. -/
def EventRow.receipt (row : EventRow) : Option String :=
  (row.decoded.get "receipt_id").asStr?

/-- The rows of a receipt. -/
def receiptRows (receiptId : String) (rows : List EventRow) : List EventRow :=
  rows.filter fun row => row.receipt = some receiptId

theorem asStr?_eq_some {value : Json} {text : String} :
    value.asStr? = some text ↔ value = .str text := by
  cases value <;> simp [Json.asStr?]

theorem receipt_eq_some {row : EventRow} {receiptId : String} :
    row.receipt = some receiptId ↔ row.decoded.get "receipt_id" = .str receiptId :=
  asStr?_eq_some

theorem mem_receiptRows {receiptId : String} {rows : List EventRow} {row : EventRow} :
    row ∈ receiptRows receiptId rows ↔ row ∈ rows ∧ row.receipt = some receiptId := by
  simp [receiptRows]

theorem receiptRows_append (receiptId : String) (rows added : List EventRow) :
    receiptRows receiptId (rows ++ added) =
      receiptRows receiptId rows ++ receiptRows receiptId added :=
  List.filter_append ..

theorem receiptRows_grow (receiptId : String) {rows later : List EventRow}
    (grown : rows <+: later) : receiptRows receiptId rows <+: receiptRows receiptId later :=
  grown.filter _

theorem hasReceipt_ok {receiptId : String} {row : EventRow} {marked : Bool}
    (found : hasReceipt receiptId row = .ok marked) :
    marked = decide (row.receipt = some receiptId) := by
  rw [show decide (row.receipt = some receiptId) =
    decide (row.decoded.get "receipt_id" = .str receiptId) from decide_eq_decide.mpr receipt_eq_some]
  unfold hasReceipt at found
  unfold EventRow.decoded
  cases stored : row.payloadJson with
  | value payload =>
    rw [stored] at found
    exact (Except.ok.inj found).symm
  | blank => rw [stored] at found; cases found
  | malformed problem => rw [stored] at found; cases found

theorem mapM_hasReceipt {receiptId : String} : ∀ {rows : List EventRow} {marks : List Bool},
    rows.mapM (hasReceipt receiptId) = .ok marks →
      marks = rows.map fun row => decide (row.receipt = some receiptId)
  | [], marks, found => by
    cases found
    rfl
  | row :: rest, marks, found => by
    rw [List.mapM_cons] at found
    obtain ⟨head, first, found⟩ := Except.bind_ok.mp found
    obtain ⟨tail, others, found⟩ := Except.bind_ok.mp found
    cases found
    rw [hasReceipt_ok first, mapM_hasReceipt others, List.map_cons]

theorem rowsOfReceipt_ok {receiptId : String} {rows found : List EventRow}
    (looked : rowsOfReceipt receiptId rows = .ok found) : found = receiptRows receiptId rows := by
  obtain ⟨marks, mapped, looked⟩ := Except.bind_ok.mp looked
  cases looked
  rw [mapM_hasReceipt mapped, receiptRows]
  clear looked mapped
  induction rows with
  | nil => rfl
  | cons row rest ih =>
    by_cases carries : row.receipt = some receiptId <;> simp_all

theorem toDict_decoded {row : EventRow} {event : EventDict} (decoded : row.toDict = .ok event) :
    event.payload = row.decoded := by
  rw [EventRow.decoded, (toDict_ok decoded).2]

/-- The fields of a payload that is empty are missing anyway. -/
theorem payloadOf_get (event : EventDict) (key : String) :
    (payloadOf event).get key = event.payload.get key := by
  unfold payloadOf Json.orElse
  split
  · rfl
  · rename_i empty
    cases same : event.payload with
    | obj fields =>
      rw [same] at empty
      cases fields with
      | nil => rfl
      | cons field rest => exact absurd rfl empty
    | _ => rfl

theorem payloadOf_of_receipt (receiptId : String) {event : EventDict}
    (receipt : event.payload.get "receipt_id" = .str receiptId) : payloadOf event = event.payload := by
  unfold payloadOf Json.orElse
  cases payload : event.payload with
  | obj fields =>
    cases fields with
    | nil => rw [payload] at receipt; cases receipt
    | cons field rest => rfl
  | _ => rw [payload] at receipt; cases receipt

/-- What a lookup by type and receipt has found. -/
theorem eventByReceipt_some {db : Db} {eventType receiptId : String} {event : EventDict}
    (found : eventByReceipt db eventType receiptId = .ok (some event)) :
    event.row ∈ db.events ∧ event.row.eventType = eventType ∧
      event.row.receipt = some receiptId ∧ event.payload = event.row.decoded := by
  obtain ⟨rows, looked, found⟩ := Except.bind_ok.mp found
  split at found
  · cases found
  · rename_i row last
    obtain ⟨decoded, dict, same⟩ : ∃ decoded, row.toDict = .ok decoded ∧ decoded = event := by
      cases dict : row.toDict with
      | ok decoded => exact ⟨decoded, rfl, by rw [dict] at found; cases found; rfl⟩
      | error e => rw [dict] at found; cases found
    subst same
    have member := List.mem_of_getLast? last
    rw [rowsOfReceipt_ok looked, mem_receiptRows, Table.mem_filter] at member
    obtain ⟨rfl, -⟩ := toDict_ok dict
    exact ⟨member.1.1, of_decide_eq_true member.1.2, member.2, toDict_decoded dict⟩

end Rows

section Keys

/-- The payload of a known receipt is that of an authorization. -/
theorem receiptPayload_row {db : Db} {receiptId : String} {payload : Json}
    (found : receiptPayload db receiptId = .ok payload) :
    ∃ row ∈ db.events, row.eventType = "completion.authorized" ∧ row.receipt = some receiptId ∧
      payload = row.decoded := by
  obtain ⟨event, looked, found⟩ := Except.bind_ok.mp found
  cases event with
  | none => cases found
  | some event =>
    cases found
    obtain ⟨member, type, receipt, decoded⟩ := eventByReceipt_some looked
    refine ⟨event.row, member, type, receipt, ?_⟩
    rw [payloadOf_of_receipt receiptId (decoded ▸ receipt_eq_some.mp receipt), decoded]

theorem receiptKey_toList (receiptId transition : String) :
    (receiptKey receiptId transition).toList =
      "receipt:".toList ++ (receiptId.toList ++ ':' :: transition.toList) := by
  simp [receiptKey, String.toList_append, ToString.toString]

/-- A key of a receipt names the receipt and the transition. -/
theorem receiptKey_inj {first second transition other : String}
    (plain : ':' ∉ transition.toList) (otherPlain : ':' ∉ other.toList)
    (same : receiptKey first transition = receiptKey second other) :
    first = second ∧ transition = other := by
  have texts := congrArg String.toList same
  rw [receiptKey_toList, receiptKey_toList, List.append_cancel_left_eq] at texts
  obtain ⟨ids, transitions⟩ := Text.append_cons_inj plain otherPlain texts
  exact ⟨String.toList_inj.mp ids, String.toList_inj.mp transitions⟩

theorem receiptKey_startsWith (receiptId transition : String) :
    Text.startsWith (receiptKey receiptId transition) "receipt:" = true := by
  rw [Text.startsWith, receiptKey_toList]
  exact List.isPrefixOf_iff_prefix.mpr (List.prefix_append _ _)

theorem receiptKey_ne_empty (receiptId transition : String) :
    receiptKey receiptId transition ≠ "" := by
  intro same
  have texts := congrArg String.toList same
  rw [receiptKey_toList] at texts
  cases texts

theorem toRow_receiptKey {receiptId transition eventId : String} {event : NewEvent} {createdAt : Nat}
    (keyed : event.idempotencyKey = some (receiptKey receiptId transition)) :
    (event.toRow eventId createdAt).idempotencyKey = receiptKey receiptId transition :=
  event.toRow_key eventId createdAt keyed (receiptKey_ne_empty _ _)

end Keys

section Completions

variable [Platform]

/-- The payload of a completion, which is never empty. -/
theorem decoded_taskDone (consumption : ReceiptConsumption) (payload after item : Json)
    (workspaceId taskId : Option String) (eventId : String) (createdAt : Nat) :
    ((consumptionEvent consumption workspaceId taskId "task.done" "task.done"
      (taskDonePayload consumption payload after item)).toRow eventId createdAt).payloadJson =
        .value (taskDonePayload consumption payload after item) := by
  simp only [consumptionEvent, NewEvent.toRow, taskDonePayload]
  cases consumption.verification.filter (· ≠ "") <;> rfl

theorem taskDonePayload_get {consumption : ReceiptConsumption} {payload after item : Json}
    {key : String} (different : key ≠ "verification") :
    (taskDonePayload consumption payload after item).get key =
      (Json.obj [("task_id", payload.get "task_id"), ("receipt_id", .str consumption.receiptId),
        ("host_aware", .str "receipt"), ("applied_fingerprint", after),
        ("deployed_verification", deployedVerificationOf item),
        ("review_evidence", payload.get "review_evidence"),
        ("forge_evidence", payload.get "forge_evidence")]).get key := by
  unfold taskDonePayload
  split
  · exact Json.get_set_ne different _ _
  · rfl

end Completions

section Runs

variable {s : Ledger} {α β : Type} {f : Db → Except Exn α}

theorem lookUp_run {a : α} (found : f s.work.store = .ok a) (next : α → LedgerProgram β) :
    (lookUp f >>= next).run s = (next a).run s := by
  rw [Program.run_bind, lookUp, Program.run_statement, found]

end Runs

section Evolution

variable {s t : Ledger}

/-- Later ledgers hold what a ledger holds. -/
structure Evolves (s t : Ledger) : Prop where
  rows : rowsOf s <+: rowsOf t
  readings : s.readings <+: t.readings

theorem Evolves.refl (s : Ledger) : Evolves s s := ⟨List.prefix_rfl, List.prefix_rfl⟩

theorem Evolves.trans (s t u : Ledger) (first : Evolves s t) (second : Evolves t u) : Evolves s u :=
  ⟨first.rows.trans second.rows, first.readings.trans second.readings⟩

theorem Evolves.mem {row : EventRow} (evolves : Evolves s t) (member : row ∈ rowsOf s) : row ∈ rowsOf t :=
  evolves.rows.subset member

/-- A statement that appends nothing, and notes at most one reading. -/
structure Quiet (s t : Ledger) : Prop where
  store : t.work.store = s.work.store
  readings : t.readings = s.readings ∨ t.readings = s.readings ++ [(rowsOf s).length]

theorem Quiet.refl (s : Ledger) : Quiet s s := ⟨rfl, .inl rfl⟩

theorem Quiet.evolves (quiet : Quiet s t) : Evolves s t := by
  have rows : rowsOf t = rowsOf s := congrArg (·.events.rows) quiet.store
  refine ⟨rows ▸ List.prefix_rfl, ?_⟩
  obtain same | noted := quiet.readings
  · exact same ▸ List.prefix_rfl
  · exact noted ▸ List.prefix_append _ _

end Evolution

section Rules

variable {Inv : Ledger → Prop} {Evolves : Ledger → Ledger → Prop}
  {careful : Ledger → Statement → Prop} {α β : Type} {s t : Ledger}

/-- What every choice of an invariant and of an evolution has to satisfy. -/
structure Discipline (Inv : Ledger → Prop) (Evolves : Ledger → Ledger → Prop) : Prop where
  refl : ∀ s, Evolves s s
  trans : ∀ s t u, Evolves s t → Evolves t u → Evolves s u
  quiet : ∀ s t, Inv s → Quiet s t → Inv t ∧ Evolves s t

namespace Discipline

variable (rules : Discipline Inv Evolves)
include rules

theorem harmless_quiet {tag : Statement} {body : Ledger → Except Exn α × Ledger}
    (quiet : ∀ t, Quiet t (body t).2) :
    Program.Harmless Inv Evolves careful (Program.statement tag body) :=
  Program.harmless_statement rules.trans fun t inv _ => rules.quiet t _ inv (quiet t)

theorem harmless_bind {x : LedgerProgram α} {f : α → LedgerProgram β}
    (first : Program.Harmless Inv Evolves careful x)
    (next : ∀ a, Program.Harmless Inv Evolves careful (f a)) :
    Program.Harmless Inv Evolves careful (x >>= f) :=
  Program.harmless_bind rules.refl rules.trans first next

theorem harmless_lookUp (f : Db → Except Exn α) :
    Program.Harmless Inv Evolves careful (lookUp f) :=
  rules.harmless_quiet Quiet.refl

theorem harmless_clock (time : Nat → α) :
    Program.Harmless Inv Evolves careful (transaction .clock (Txn.clock time)) :=
  rules.harmless_quiet fun _ => ⟨rfl, .inl rfl⟩

theorem harmless_utcStamp [Platform] : Program.Harmless Inv Evolves careful utcStamp :=
  rules.harmless_clock now

theorem harmless_readAdapter (source : Nat → Adapter → Except AdapterError Json)
    (adapter : Adapter) : Program.Harmless Inv Evolves careful (readAdapter source adapter) :=
  rules.harmless_quiet fun _ => ⟨rfl, .inr rfl⟩

theorem sound_harmless {x : LedgerProgram α} {f : α → LedgerProgram β} {post : β → Ledger → Prop}
    (harmless : Program.Harmless Inv Evolves careful x)
    (rest : ∀ a t, Inv t → Evolves s t → (f a).Sound Inv Evolves careful post t) :
    (x >>= f).Sound Inv Evolves careful post s :=
  Program.sound_harmless rules.refl harmless rest

/-- What follows a lookup knows what the ledger held then. -/
theorem sound_lookUp {f : Db → Except Exn α} {next : α → LedgerProgram β}
    {post : β → Ledger → Prop}
    (rest : ∀ a t, Inv t → Evolves s t → f t.work.store = .ok a →
      (next a).Sound Inv Evolves careful post t) :
    (lookUp f >>= next).Sound Inv Evolves careful post s :=
  Program.sound_statement fun t inv evolves _ =>
    ⟨inv, rules.refl t, fun a found => rest a t inv evolves found⟩

/-- What follows a reading of an adapter knows where the reading has been noted. -/
theorem sound_readAdapter {source : Nat → Adapter → Except AdapterError Json} {adapter : Adapter}
    {next : Except AdapterError Json → LedgerProgram β} {post : β → Ledger → Prop}
    (rest : ∀ t u, Inv t → Evolves s t → Inv u → Evolves t u → u.work = t.work →
      u.readings = t.readings ++ [(rowsOf t).length] →
      (next (source t.readings.length adapter)).Sound Inv Evolves careful post u) :
    (readAdapter source adapter >>= next).Sound Inv Evolves careful post s := by
  refine Program.sound_statement fun t inv evolves _ => ?_
  obtain ⟨kept, evolved⟩ := rules.quiet t
    { t with readings := t.readings ++ [(rowsOf t).length] } inv
    ⟨rfl, .inr rfl⟩
  refine ⟨kept, evolved, fun a found => ?_⟩
  cases found
  exact rest t _ inv evolves kept evolved rfl rfl

/-- A transaction; where it raises, the store is as before. -/
theorem sound_transaction {tag : Statement} {body : DbTxn α} {next : α → LedgerProgram β}
    {post : β → Ledger → Prop}
    (commits : ∀ t a w, Inv t → Evolves s t → careful t tag → body.run t.work = .ok a w →
      Inv { t with work := w } ∧ Evolves t { t with work := w } ∧
        (next a).Sound Inv Evolves careful post { t with work := w }) :
    (transaction tag body >>= next).Sound Inv Evolves careful post s := by
  refine Program.sound_statement fun t inv evolves meets => ?_
  cases outcome : body.run t.work with
  | ok a w =>
    obtain ⟨kept, evolved, rest⟩ := commits t a w inv evolves meets outcome
    dsimp only
    refine ⟨kept, evolved, fun b same => ?_⟩
    cases same
    exact rest
  | error e w =>
    dsimp only
    obtain ⟨kept, evolved⟩ := rules.quiet t
      { t with work := { w with store := t.work.store } } inv ⟨rfl, .inl rfl⟩
    exact ⟨kept, evolved, nofun⟩

theorem harmless_transaction {tag : Statement} {body : DbTxn α}
    (commits : ∀ t a w, Inv t → careful t tag → body.run t.work = .ok a w →
      Inv { t with work := w } ∧ Evolves t { t with work := w }) :
    Program.Harmless Inv Evolves careful (transaction tag body) := by
  refine Program.harmless_statement rules.trans fun t inv meets => ?_
  cases outcome : body.run t.work with
  | ok a w => exact commits t a w inv meets outcome
  | error e w =>
    exact rules.quiet t { t with work := { w with store := t.work.store } } inv ⟨rfl, .inl rfl⟩

theorem harmless_checkExpiry [Platform] [Deployment] (payload : Json) :
    Program.Harmless Inv Evolves careful (checkExpiry payload) := by
  unfold checkExpiry
  split
  · exact rules.harmless_bind (rules.harmless_clock instantAt) fun instant =>
      Program.harmless_orRaise _ _
  · exact Program.harmless_pure ()

theorem harmless_notConsumed (receiptId : String) :
    Program.Harmless Inv Evolves careful (notConsumed receiptId) :=
  rules.harmless_bind (rules.harmless_lookUp _) fun _ => Program.harmless_raiseIf _ _

theorem harmless_checkMarkDoneGate [Deployment] (adapter : Adapter) (taskId : String) :
    Program.Harmless Inv Evolves careful (checkMarkDoneGate adapter taskId) := by
  refine rules.harmless_bind (rules.harmless_readAdapter _ _) fun refreshed => ?_
  split
  · exact Program.harmless_pure _
  · dsimp only
    split
    · exact Program.harmless_orRaise _ _
    · refine rules.harmless_bind (rules.harmless_readAdapter _ _) fun read => ?_
      split
      · exact Program.harmless_pure _
      · exact Program.harmless_throw _
      · exact Program.harmless_orRaise _ _

theorem harmless_readGatedItem [Deployment] (adapter : Adapter) (taskId : String) :
    Program.Harmless Inv Evolves careful (readGatedItem adapter taskId) := by
  refine rules.harmless_bind (rules.harmless_checkMarkDoneGate _ _) fun gate => ?_
  refine rules.harmless_bind (Program.harmless_raiseIf _ _) fun _ => ?_
  refine rules.harmless_bind (rules.harmless_readAdapter _ _) fun read => ?_
  refine rules.harmless_bind (Program.harmless_orRaise _ _) fun checklist => ?_
  split
  · exact Program.harmless_throw _
  · exact Program.harmless_pure _

end Discipline

end Rules

end Coordinate

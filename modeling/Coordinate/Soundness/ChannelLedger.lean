import Coordinate.Model.ChannelBindings
import Coordinate.Model.Installation
import Coordinate.Proofs.Statements

/-! # The bindings are the fold of their events

`bindingLedger` replays the events of channel bindings. Every call keeps the table of bindings equal
to the replay, because it writes a row and its event together or neither. A repeated call changes
nothing once its key is recorded; a first call that found nothing to change has recorded no key, and
then the repetition is a call like any other.
-/

namespace Coordinate

/-- What a channel is bound to, without the time. -/
structure ActiveBinding where
  platform : String
  channelId : String
  workspaceId : String
deriving DecidableEq, Repr

def ChannelBindingRow.active (row : ChannelBindingRow) : ActiveBinding :=
  ⟨row.platform, row.channelId, row.workspaceId⟩

def ChannelMutation.active (mutation : ChannelMutation) : ActiveBinding :=
  ⟨mutation.platform, mutation.channelId, mutation.workspaceId⟩

/-- The binding that an event is about. -/
def EventRow.binding (event : EventRow) : ActiveBinding :=
  let field (name : String) : String :=
    match event.payloadJson with
    | .value payload => ((payload.get name).asStr?).getD ""
    | _ => ""
  ⟨field "platform", field "channel_id", field "workspace_id"⟩

def applyBindingEvent (active : List ActiveBinding) (event : EventRow) : List ActiveBinding :=
  if event.eventType = boundEvent then active ++ [event.binding]
  else if event.eventType = releasedEvent then active.filter (· ≠ event.binding)
  else active

/-- The active bindings according to the events. -/
def bindingLedger (events : List EventRow) : List ActiveBinding :=
  events.foldl applyBindingEvent []

/-- The table of bindings equals the fold of the events. -/
def Ledgered (db : Db) : Prop :=
  db.channelBindings.rows.map ChannelBindingRow.active = bindingLedger db.events.rows

theorem bindingLedger_append (events : List EventRow) (event : EventRow) :
    bindingLedger (events ++ [event]) = applyBindingEvent (bindingLedger events) event := by
  simp [bindingLedger]

section Writes

variable [Platform] {w w' : Work Db} {mutation : ChannelMutation} {receipt : ChannelReceipt}

omit [Platform] in
theorem binding_toRow (mutation : ChannelMutation) (eventType eventId : String) (createdAt : Nat) :
    ((mutation.event eventType).toRow eventId createdAt).binding = mutation.active := rfl

omit [Platform] in
theorem writeChannelBindings_ok {next : ChannelBindingTable → Option ChannelBindingTable}
    {u : Unit} : (writeChannelBindings next).run w = .ok u w' ↔
      ∃ bindings, next w.store.channelBindings = some bindings ∧
        w' = { w with store := { w.store with channelBindings := bindings } } :=
  replaceTable_ok

/-- What the writes of a mutation do: the event and the change of the table, or nothing when the key
is recorded already. -/
inductive Mutates (mutation : ChannelMutation) (s t : Db) : ChannelReceipt → Prop
  | bound (event : EventRow) (events : Table eventSchema) (bindings : ChannelBindingTable)
      (boundAt : Nat) (type : event.eventType = boundEvent)
      (binding : event.binding = mutation.active)
      (key : mutation.idempotencyKey ≠ "" → event.idempotencyKey = mutation.idempotencyKey)
      (recorded : s.events.insert? event = some events)
      (inserted : s.channelBindings.insert?
        ⟨mutation.platform, mutation.channelId, mutation.workspaceId, boundAt⟩ = some bindings)
      (store : t = { s with events, channelBindings := bindings }) :
      Mutates mutation s t (mutation.receipt .bound (some event.id))
  | released (event : EventRow) (events : Table eventSchema)
      (type : event.eventType = releasedEvent) (binding : event.binding = mutation.active)
      (key : mutation.idempotencyKey ≠ "" → event.idempotencyKey = mutation.idempotencyKey)
      (recorded : s.events.insert? event = some events)
      (store : t = { s with
        events
        channelBindings := s.channelBindings.delete (isExpectedBinding mutation) }) :
      Mutates mutation s t (mutation.receipt .released (some event.id))
  | replayed (event : EventRow) (member : event ∈ s.events)
      (key : mutation.idempotencyKey ≠ "" → event.idempotencyKey = mutation.idempotencyKey)
      (store : t = s) : Mutates mutation s t (mutation.receipt .replayed (some event.id))

theorem writeBinding_ok (ran : (writeBinding mutation).run w = .ok receipt w') :
    Mutates mutation w.store w'.store receipt := by
  rw [writeBinding, Txn.bind_ok] at ran
  obtain ⟨result, middle, appended, ran⟩ := ran
  cases appendEvent_ok appended with
  | created events inserted store =>
    simp only [↓reduceIte, Txn.bind_ok, utcNow_run, EStateM.Result.ok.injEq,
      writeChannelBindings_ok, Txn.pure_run] at ran
    obtain ⟨_, _, ⟨rfl, rfl⟩, _, _, ⟨bindings, bound, rfl⟩, rfl, rfl⟩ := ran
    rw [store] at bound
    exact .bound _ events bindings _ rfl rfl (NewEvent.toRow_key _ _ _ rfl) inserted bound
      (by rw [store])
  | existing row member key store =>
    simp only [Bool.false_eq_true, ↓reduceIte, Txn.bind_ok, Txn.orRaise_ok, Txn.pure_run,
      EStateM.Result.ok.injEq] at ran
    obtain ⟨_, _, ⟨_, rfl⟩, rfl, rfl⟩ := ran
    exact .replayed row member (fun keyed => key.trans (NewEvent.toRow_key _ _ _ rfl keyed)) store

theorem writeRelease_ok (ran : (writeRelease mutation).run w = .ok receipt w') :
    Mutates mutation w.store w'.store receipt := by
  rw [writeRelease, Txn.bind_ok] at ran
  obtain ⟨result, middle, appended, ran⟩ := ran
  cases appendEvent_ok appended with
  | created events inserted store =>
    simp only [↓reduceIte, Txn.bind_ok, Txn.read_run, EStateM.Result.ok.injEq,
      writeChannelBindings_ok, Option.some.injEq, Txn.raiseIf_ok, Txn.pure_run] at ran
    obtain ⟨_, _, ⟨rfl, rfl⟩, _, _, ⟨_, rfl, rfl⟩, _, _, ⟨_, rfl⟩, rfl, rfl⟩ := ran
    exact .released _ events rfl rfl (NewEvent.toRow_key _ _ _ rfl) inserted (by simp only [store])
  | existing row member key store =>
    simp only [Bool.false_eq_true, ↓reduceIte, Txn.bind_ok, Txn.orRaise_ok, Txn.pure_run,
      EStateM.Result.ok.injEq] at ran
    obtain ⟨_, _, ⟨_, rfl⟩, rfl, rfl⟩ := ran
    exact .replayed row member (fun keyed => key.trans (NewEvent.toRow_key _ _ _ rfl keyed)) store

theorem ChannelCall.write_ok {call : ChannelCall}
    (ran : (call.write mutation).run w = .ok receipt w') :
    Mutates mutation w.store w'.store receipt := by
  cases call with
  | bind request => exact writeBinding_ok ran
  | release request => exact writeRelease_ok ran

omit [Platform] in
/-- The writes keep the table equal to the fold. -/
theorem Mutates.ledgered {s t : Db} (mutates : Mutates mutation s t receipt)
    (ledgered : Ledgered s) : Ledgered t := by
  cases mutates with
  | bound event events bindings boundAt type binding _ recorded inserted store =>
    subst store
    simp only [Ledgered, Table.insert?_rows recorded, Table.insert?_rows inserted,
      bindingLedger_append, applyBindingEvent, type, ↓reduceIte, List.map_append, binding]
    rw [← ledgered]
    rfl
  | released event events type binding _ recorded store =>
    subst store
    have other : releasedEvent ≠ boundEvent := by decide
    simp only [Ledgered, Table.insert?_rows recorded, bindingLedger_append, applyBindingEvent, type,
      other, ↓reduceIte, binding]
    rw [← ledgered, List.filter_map]
    congr 1
    refine List.filter_congr fun row _ => ?_
    simp [isExpectedBinding, ChannelBindingRow.active, ChannelMutation.active, Function.comp,
      Bool.not_and, Bool.or_assoc]
  | replayed event member key store => rwa [store]

end Writes

section Calls

variable [Platform] {call : ChannelCall} {work : Work Db} {view : Db} {mutation : ChannelMutation}

/-- The arguments of a call after their normalization. -/
def ChannelCall.normalize : ChannelCall → Except Exn ChannelMutation
  | bind request => request.normalize "workspace_id"
  | release request => request.normalize "expected_workspace_id"

def ChannelCall.eventType : ChannelCall → String
  | bind _ => boundEvent
  | release _ => releasedEvent

/-- The call finds something to change: a free channel to bind, or the binding to release. -/
def ChannelCall.Applies (call : ChannelCall) (db : Db) (mutation : ChannelMutation) : Prop :=
  match call with
  | bind _ => getChannelBindingRow db mutation = none
  | release _ => ∃ row, getChannelBindingRow db mutation = some row ∧
      row.workspaceId = mutation.workspaceId

/-- An event holds the key. -/
def Recorded (db : Db) (key : String) : Prop :=
  ∃ event ∈ db.events, event.idempotencyKey = key

theorem ChannelCall.run_eq : call.run = mutateChannel call.check call.write := by
  cases call <;> rfl

/-- How a call ends, by its checks and its writes. -/
theorem ChannelCall.outcome_eq : call.outcome work view = match call.check view with
    | .error e => .error e (Session.connect work view)
    | .ok (_, some receipt) => .ok receipt (Session.connect work view)
    | .ok (mutation, none) => match (call.write mutation).run work with
      | .ok receipt w => .ok receipt ⟨w, w.store, none⟩
      | .error e w => .error e ⟨{ w with store := work.store }, view, none⟩ := by
  rw [outcome, run_eq, mutateChannel, Tx.bind_run, Tx.query_run]
  simp only [Session.visible, Session.connect]
  cases checked : call.check view with
  | error e => rfl
  | ok plan =>
    obtain ⟨mutation, _ | receipt⟩ := plan
    · simp only [orRaise, Tx.bind_run, Tx.pure_run, Tx.savepoint_run]
      cases (call.write mutation).run work <;> rfl
    · rfl

/-- A call changes nothing, or it does what its writes do. -/
theorem ChannelCall.after_cases (call : ChannelCall) (work : Work Db) (view : Db) :
    (call.after work view).store = work.store ∨
      ∃ mutation receipt, Mutates mutation work.store (call.after work view).store receipt := by
  rw [after, outcome_eq]
  split
  · exact .inl rfl
  · exact .inl rfl
  · rename_i mutation _
    cases ran : (call.write mutation).run work with
    | ok receipt w => exact .inr ⟨mutation, receipt, write_ok ran⟩
    | error e w => exact .inl rfl

/-- Whatever the reads of a call see, it keeps the table equal to the fold. -/
theorem Ledgered.after (ledgered : Ledgered work.store) (call : ChannelCall) (view : Db) :
    Ledgered (call.after work view).store := by
  obtain same | ⟨mutation, receipt, mutates⟩ := call.after_cases work view
  · rwa [same]
  · exact mutates.ledgered ledgered

theorem ChannelCall.after_grows (call : ChannelCall) (work : Work Db) (view : Db) :
    work.store.Grows (call.after work view).store :=
  Tx.settle_extends call.run work view

theorem ChannelCall.after_workspaces (call : ChannelCall) (work : Work Db) (view : Db) :
    (call.after work view).store.workspaces = work.store.workspaces := by
  obtain same | ⟨mutation, receipt, mutates⟩ := call.after_cases work view
  · rw [same]
  · cases mutates <;> rename_i store <;> rw [store]

theorem Ledgered.run (calls : List ChannelCall) {work : Work Db} (ledgered : Ledgered work.store) :
    Ledgered (runChannelCalls work calls).store := by
  induction calls generalizing work with
  | nil => exact ledgered
  | cons call rest ih => exact ih (ledgered.after call _)

theorem runChannelCalls_grows (calls : List ChannelCall) (work : Work Db) :
    work.store.Grows (runChannelCalls work calls).store := by
  induction calls generalizing work with
  | nil => exact .refl _
  | cons call rest ih => exact (call.after_grows work _).trans (ih _)

theorem runChannelCalls_workspaces (calls : List ChannelCall) (work : Work Db) :
    (runChannelCalls work calls).store.workspaces = work.store.workspaces := by
  induction calls generalizing work with
  | nil => rfl
  | cons call rest ih => exact (ih _).trans (call.after_workspaces work _)

omit [Platform] in
theorem Recorded.of_grows {s t : Db} {key : String} (recorded : Recorded s key)
    (grows : s.Grows t) : Recorded t key := by
  obtain ⟨event, member, same⟩ := recorded
  exact ⟨event, grows.events.subset member, same⟩

end Calls

section Retries

variable [Platform] {call : ChannelCall} {w : Work Db} {mutation : ChannelMutation}

omit [Platform] in
theorem requireNonEmpty_ok {value : Option String} {field text : String}
    (required : requireNonEmpty value field = .ok text) : text ≠ "" := by
  simp only [requireNonEmpty, Except.bind_ok, raiseIf_except_ok] at required
  obtain ⟨_, filled, same⟩ := required
  cases same
  exact filled

theorem ChannelRequest.normalize_key {request : ChannelRequest} {field : String}
    (normalized : request.normalize field = .ok mutation) : mutation.idempotencyKey ≠ "" := by
  simp only [ChannelRequest.normalize, Except.bind_ok] at normalized
  obtain ⟨_, _, _, _, _, _, _, _, _, _, key, required, same⟩ := normalized
  cases same
  exact requireNonEmpty_ok required

theorem ChannelCall.normalize_key (normalized : call.normalize = .ok mutation) :
    mutation.idempotencyKey ≠ "" := by
  cases call <;> exact ChannelRequest.normalize_key normalized

/-- What the checks of a call decide. -/
inductive Checked (call : ChannelCall) (db : Db) (mutation : ChannelMutation) :
    Option ChannelReceipt → Prop
  | replayed (event : EventRow) (found : findEventByKey db mutation.idempotencyKey = some event) :
    Checked call db mutation (some (mutation.receipt .replayed (some event.id)))
  | idle (status : ChannelStatus) (idle : ¬ call.Applies db mutation)
      (named : status = .alreadyBound ∨ status = .alreadyUnbound) :
    Checked call db mutation (some (mutation.receipt status none))
  | open (fresh : findEventByKey db mutation.idempotencyKey = none)
      (applies : call.Applies db mutation) : Checked call db mutation none

omit [Platform] in
theorem checkIdempotency_ok {db : Db} {eventType : String} {prior : Option EventRow}
    (checked : checkChannelBindingIdempotency db mutation eventType = .ok prior) :
    findEventByKey db mutation.idempotencyKey = prior := by
  unfold checkChannelBindingIdempotency at checked
  split at checked
  · rename_i absent
    cases checked
    exact absent
  · rename_i row found
    rw [Except.bind_ok] at checked
    obtain ⟨_, _, same⟩ := checked
    cases same
    exact found

theorem ChannelCall.check_ok {db : Db} {settled : Option ChannelReceipt}
    (checked : call.check db = .ok (mutation, settled)) :
    call.normalize = .ok mutation ∧ (getWorkspace db mutation.workspaceId).isSome = true ∧
      Checked call db mutation settled := by
  cases call with
  | bind request =>
    simp only [check, checkBinding, Except.bind_ok, raiseIf_except_ok, Bool.not_eq_true,
      Option.isNone_eq_false_iff] at checked
    obtain ⟨normalized, same, _, known, prior, looked, checked⟩ := checked
    have found := checkIdempotency_ok looked
    split at checked
    · cases checked
      exact ⟨same, known, .replayed _ found⟩
    · split at checked
      · rename_i row bound
        simp only [Except.bind_ok, raiseIf_except_ok] at checked
        obtain ⟨_, _, checked⟩ := checked
        cases checked
        exact ⟨same, known, .idle _ (by simp [Applies, bound]) (.inl rfl)⟩
      · rename_i free
        cases checked
        exact ⟨same, known, .open found free⟩
  | release request =>
    simp only [check, checkReleasing, Except.bind_ok, raiseIf_except_ok, Bool.not_eq_true,
      Option.isNone_eq_false_iff] at checked
    obtain ⟨normalized, same, _, known, prior, looked, checked⟩ := checked
    have found := checkIdempotency_ok looked
    split at checked
    · cases checked
      exact ⟨same, known, .replayed _ found⟩
    · split at checked
      · rename_i free
        cases checked
        exact ⟨same, known, .idle _ (by simp [Applies, free]) (.inr rfl)⟩
      · rename_i row bound
        simp only [Except.bind_ok, raiseIf_except_ok, not_not] at checked
        obtain ⟨_, expected, checked⟩ := checked
        cases checked
        exact ⟨same, known, .open found ⟨row, bound, expected⟩⟩

/-- A call without a recorded key that finds something to change gets to its writes. -/
theorem ChannelCall.check_open {db : Db} (normalized : call.normalize = .ok mutation)
    (known : (getWorkspace db mutation.workspaceId).isSome = true)
    (fresh : findEventByKey db mutation.idempotencyKey = none)
    (applies : call.Applies db mutation) : call.check db = .ok (mutation, none) := by
  have looked : ∀ eventType, checkChannelBindingIdempotency db mutation eventType = .ok none := by
    intro eventType
    unfold checkChannelBindingIdempotency
    rw [fresh]
    rfl
  cases call with
  | bind request =>
    have free : getChannelBindingRow db mutation = none := applies
    simp only [check, checkBinding, Except.bind_ok, raiseIf_except_ok, Bool.not_eq_true,
      Option.isNone_eq_false_iff]
    refine ⟨mutation, normalized, (), known, none, looked _, ?_⟩
    simp only [free]
    rfl
  | release request =>
    obtain ⟨row, bound, expected⟩ := applies
    simp only [check, checkReleasing, Except.bind_ok, raiseIf_except_ok, Bool.not_eq_true,
      Option.isNone_eq_false_iff]
    refine ⟨mutation, normalized, (), known, none, looked _, ?_⟩
    simp only [bound, Except.bind_ok, raiseIf_except_ok, not_not]
    exact ⟨(), expected, rfl⟩

/-- The writes of a call that finds something to change under a free key and draws a free id. -/
theorem ChannelCall.write_run (normalized : call.normalize = .ok mutation)
    (fresh : ¬ Recorded w.store mutation.idempotencyKey)
    (applies : call.Applies w.store mutation)
    (free : ∀ event ∈ w.store.events, event.id ≠ Platform.uuid4 w.draws) :
    ∃ receipt w', (call.write mutation).run w = .ok receipt w' := by
  have insertion : ∀ eventType, ∃ events, w.store.events.insert?
      ((mutation.event eventType).toRow (Platform.uuid4 w.draws) (now w.tick)) = some events := by
    refine fun eventType => Table.exists_insert? rfl fun other member => ?_
    simp only [eventSchema, Bool.or_eq_false_iff, decide_eq_false_iff_not]
    refine ⟨free other member, fun key => fresh ⟨other, member, key.trans ?_⟩⟩
    exact NewEvent.toRow_key _ _ _ rfl (call.normalize_key normalized)
  cases call with
  | bind request =>
    obtain ⟨events, inserted⟩ := insertion boundEvent
    have absent := Table.find?_none (show w.store.channelBindings.find? _ = none from applies)
    have insertable : ∃ bindings, w.store.channelBindings.insert? ⟨mutation.platform,
        mutation.channelId, mutation.workspaceId, now (w.tick + 1)⟩ = some bindings :=
      Table.exists_insert? rfl fun other member => by
        have differs := absent other member
        simpa [keyedBy] using differs
    obtain ⟨bindings, bound⟩ := insertable
    refine ⟨mutation.receipt .bound (some (Platform.uuid4 w.draws)),
      ⟨{ w.store with events, channelBindings := bindings }, w.tick + 2, w.draws + 1⟩, ?_⟩
    simp only [write, writeBinding, Txn.bind_run, appendEvent_run inserted, ↓reduceIte, utcNow,
      Txn.clock_run, writeChannelBindings, replaceTable, Txn.write_run, bound, Option.map_some,
      Txn.pure_run]
    rfl
  | release request =>
    obtain ⟨events, inserted⟩ := insertion releasedEvent
    obtain ⟨row, bound, expected⟩ := applies
    obtain ⟨member, same⟩ := Table.find?_some bound
    simp only [Bool.and_eq_true, decide_eq_true_eq] at same
    have single : w.store.channelBindings.filter (isExpectedBinding mutation) = [row] := by
      refine Table.filter_eq_singleton member (by simp [isExpectedBinding, same, expected]) ?_
      intro other _ chosen
      simp only [isExpectedBinding, Bool.and_eq_true, decide_eq_true_eq] at chosen
      simp [keyedBy, chosen, same]
    refine ⟨mutation.receipt .released (some (Platform.uuid4 w.draws)), ⟨{ w.store with
      events
      channelBindings := w.store.channelBindings.delete (isExpectedBinding mutation) }, w.tick + 1,
        w.draws + 1⟩, ?_⟩
    simp only [write, writeRelease, Txn.bind_run, appendEvent_run inserted, ↓reduceIte,
      Txn.read_run, writeChannelBindings, replaceTable, Txn.write_run, Option.map_some, single,
      List.length_singleton, raiseIf, ne_eq, not_true_eq_false, Txn.pure_run]
    rfl

/-- The writes of a call that draws a taken id are refused. -/
theorem ChannelCall.write_refused (normalized : call.normalize = .ok mutation)
    (fresh : findEventByKey w.store mutation.idempotencyKey = none)
    (taken : ∃ event ∈ w.store.events, event.id = Platform.uuid4 w.draws) :
    ∃ w', (call.write mutation).run w = .error .integrity w' := by
  obtain ⟨event, member, id⟩ := taken
  have refused : ∀ eventType, (appendEvent (mutation.event eventType)).run w =
      .error .integrity ⟨w.store, w.tick + 1, w.draws + 1⟩ := by
    intro eventType
    refine appendEvent_run_refused (Table.insert?_eq_none_iff.mpr (.inr ⟨event, member, ?_⟩)) ?_
    · simp [eventSchema, id, NewEvent.toRow]
    · rwa [NewEvent.toRow_key _ _ _ rfl (call.normalize_key normalized)]
  cases call with
  | bind request => exact ⟨_, by rw [write, writeBinding, Txn.bind_run, refused]⟩
  | release request => exact ⟨_, by rw [write, writeRelease, Txn.bind_run, refused]⟩

/-- A repeated call changes nothing exactly when its key is recorded, or there is nothing for it to
change, or the id that it draws for its event is taken. -/
theorem ChannelCall.retry_iff (normalized : call.normalize = .ok mutation)
    (known : (getWorkspace w.store mutation.workspaceId).isSome = true) :
    (call.after w w.store).store = w.store ↔ Recorded w.store mutation.idempotencyKey ∨
      ¬ call.Applies w.store mutation ∨
      ∃ event ∈ w.store.events, event.id = Platform.uuid4 w.draws := by
  constructor
  · intro unchanged
    by_contra writes
    simp only [not_or, not_not, not_exists, not_and] at writes
    obtain ⟨fresh, applies, free⟩ := writes
    have absent : findEventByKey w.store mutation.idempotencyKey = none := by
      refine Option.eq_none_iff_forall_ne_some.mpr fun event found => fresh ?_
      exact ⟨event, findEventByKey_eq_some.mp found⟩
    obtain ⟨receipt, w', ran⟩ := call.write_run normalized fresh applies free
    rw [after, outcome_eq, check_open normalized known absent applies] at unchanged
    simp only [ran] at unchanged
    have mutates := write_ok ran
    have same : w'.store = w.store := unchanged
    rw [same] at mutates
    cases mutates with
    | bound event events _ _ _ _ _ recorded _ store =>
      exact Table.insert?_ne recorded (congrArg Db.events store).symm
    | released event events _ _ _ recorded store =>
      exact Table.insert?_ne recorded (congrArg Db.events store).symm
    | replayed event member key _ =>
      exact fresh ⟨event, member, key (call.normalize_key normalized)⟩
  · intro settled
    rw [after, outcome_eq]
    split
    · rfl
    · rfl
    · rename_i plan checked
      obtain ⟨same, _, decision⟩ := check_ok checked
      rw [normalized] at same
      cases same
      cases decision with
      | «open» absent applies =>
        obtain recorded | idle | ⟨event, member, taken⟩ := settled
        · obtain ⟨event, member, key⟩ := recorded
          rw [findEventByKey_eq_some.mpr ⟨member, key⟩] at absent
          cases absent
        · exact absurd applies idle
        · obtain ⟨w', ran⟩ := call.write_refused normalized absent ⟨event, member, taken⟩
          simp only [ran]
          rfl

/-- What a call that returned has left behind. -/
theorem ChannelCall.returned {receipt : ChannelReceipt} {session : Session Db} {view : Db}
    (returned : call.outcome w view = .ok receipt session) :
    ∃ mutation, call.normalize = .ok mutation ∧
      (getWorkspace view mutation.workspaceId).isSome = true ∧
      (receipt.status = .alreadyBound ∨ receipt.status = .alreadyUnbound ∨
        Recorded view mutation.idempotencyKey ∨
        Recorded (call.after w view).store mutation.idempotencyKey) := by
  have after : call.after w view = session.settle := by rw [ChannelCall.after, returned]; rfl
  rw [outcome_eq] at returned
  split at returned
  · cases returned
  · rename_i mutation settled checked
    cases returned
    obtain ⟨normalized, known, decision⟩ := check_ok checked
    refine ⟨mutation, normalized, known, ?_⟩
    cases decision with
    | replayed event found =>
      exact .inr (.inr (.inl ⟨event, findEventByKey_eq_some.mp found⟩))
    | idle status idle named => exact named.imp id .inl
  · rename_i mutation checked
    obtain ⟨normalized, known, _⟩ := check_ok checked
    refine ⟨mutation, normalized, known, .inr (.inr (.inr ?_))⟩
    have nonempty := call.normalize_key normalized
    split at returned
    · rename_i written w' ran
      cases returned
      rw [after]
      cases write_ok ran with
      | bound event events bindings boundAt _ _ key recorded _ store =>
        refine ⟨event, ?_, key nonempty⟩
        simp only [Session.settle, Session.durable, store]
        exact (Table.mem_insert? recorded).mpr (.inr rfl)
      | released event events _ _ key recorded store =>
        refine ⟨event, ?_, key nonempty⟩
        simp only [Session.settle, Session.durable, store]
        exact (Table.mem_insert? recorded).mpr (.inr rfl)
      | replayed event member key store =>
        exact ⟨event, by simpa [Session.settle, Session.durable, store] using member, key nonempty⟩
    · cases returned

end Retries

/-- In every run of bindings and releases the table is the fold of the events. A repetition of a call
that returned changes nothing if the first call found the key recorded or recorded it; otherwise
exactly when the key has been recorded since, or there is nothing to change, or the drawn id is
taken. -/
theorem channel_bindings_ledger [Platform] {start : Work Db}
    (unbound : start.store.channelBindings = .empty)
    (unrecorded : ∀ event ∈ start.store.events,
      event.eventType ≠ boundEvent ∧ event.eventType ≠ releasedEvent)
    (earlier : List ChannelCall) (call : ChannelCall) (between : List ChannelCall) :
    let first := runChannelCalls start earlier
    let later := runChannelCalls (call.after first first.store) between
    Ledgered later.store ∧ ∀ receipt session, call.outcome first first.store = .ok receipt session →
      ((call.after later later.store).store = later.store ↔
        (receipt.status ≠ .alreadyBound ∧ receipt.status ≠ .alreadyUnbound) ∨
        ∀ mutation, call.normalize = .ok mutation →
          Recorded later.store mutation.idempotencyKey ∨
          ¬ call.Applies later.store mutation ∨
          ∃ event ∈ later.store.events, event.id = Platform.uuid4 later.draws) := by
  intro first later
  have started : Ledgered start.store := by
    have none : ∀ events : List EventRow, (∀ event ∈ events,
        event.eventType ≠ boundEvent ∧ event.eventType ≠ releasedEvent) →
        bindingLedger events = [] := by
      intro events
      induction events using List.reverseRecOn with
      | nil => intro _; rfl
      | append_singleton events event ih =>
        intro other
        obtain ⟨notBound, notReleased⟩ := other event (by simp)
        rw [bindingLedger_append, ih fun row member => other row (by simp [member]),
          applyBindingEvent, if_neg notBound, if_neg notReleased]
    rw [Ledgered, unbound, none _ unrecorded]
    rfl
  refine ⟨((started.run earlier).after call _).run between, fun receipt session returned => ?_⟩
  obtain ⟨mutation, normalized, known, recorded⟩ := ChannelCall.returned returned
  have grown : (call.after first first.store).store.Grows later.store := runChannelCalls_grows _ _
  have knownLater : (getWorkspace later.store mutation.workspaceId).isSome = true := by
    have same : later.store.workspaces = first.store.workspaces :=
      (runChannelCalls_workspaces _ _).trans (call.after_workspaces _ _)
    rw [getWorkspace, same]
    exact known
  rw [ChannelCall.retry_iff normalized knownLater]
  constructor
  · intro settled
    refine .inr fun other same => ?_
    rw [normalized] at same
    cases same
    exact settled
  · rintro (⟨notBound, notUnbound⟩ | settled)
    · obtain idle | idle | before | now := recorded
      · exact absurd idle notBound
      · exact absurd idle notUnbound
      · exact .inl (before.of_grows ((call.after_grows _ _).trans grown))
      · exact .inl (now.of_grows grown)
    · exact settled mutation normalized

namespace Sample

def channelRequest (key : String) : ChannelRequest :=
  ⟨"kook", "1", some "w", some "o", some "r", some key⟩

/-- A release of the unbound channel, and a later binding of it. -/
def idleRelease : ChannelCall := .release (channelRequest "k")

def laterBinding : ChannelCall := .bind (channelRequest "b")

/-- The status of the receipt that a call returns. -/
def channelStatus (call : ChannelCall) (work : Work Db) : Option ChannelStatus :=
  match call.outcome work work.store with
  | .ok receipt _ => some receipt.status
  | .error _ _ => none

end Sample

/-- The sample release and binding keep the ledger. -/
theorem sample_channel_ledger :
    let first : Work Db := { initialWork with store := Sample.configured }
    let later := runChannelCalls (Sample.idleRelease.after first first.store) [Sample.laterBinding]
    Ledgered later.store :=
  (@channel_bindings_ledger _ { initialWork with store := Sample.configured } rfl
    (fun _ member => absurd member (Table.not_mem_empty _)) [] Sample.idleRelease
    [Sample.laterBinding]).1

/-- The retry of a release that found the channel unbound deletes the binding made since. -/
theorem late_release_deletes :
    let first : Work Db := { initialWork with store := Sample.configured }
    let later := runChannelCalls (Sample.idleRelease.after first first.store) [Sample.laterBinding]
    Sample.channelStatus Sample.idleRelease first = some .alreadyUnbound ∧
    later.store.channelBindings.rows.length = 1 ∧
    (Sample.idleRelease.after later later.store).store.channelBindings.rows.length = 0 := by
  decide +kernel

end Coordinate

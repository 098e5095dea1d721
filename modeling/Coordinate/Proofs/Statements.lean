import Coordinate.Model.ExecutorIdentity
import Coordinate.Model.UsageEvidence

/-! # What one statement does to the store

Inversion lemmas of the readers, of the statements and of the event and delivery primitives. Later
proofs cite them and never unfold a statement.
-/

namespace Coordinate

section Sorting

variable {α : Type} {before : α → α → Bool}

theorem mem_insert_sortBy {a item : α} : ∀ {kept : List α},
    a ∈ sortBy.insert before item kept ↔ a = item ∨ a ∈ kept
  | [] => by simp [sortBy.insert]
  | head :: tail => by
    unfold sortBy.insert
    split
    · simp only [List.mem_cons, @mem_insert_sortBy a item tail]
      tauto
    · simp

theorem mem_sortBy {a : α} : ∀ {items : List α}, a ∈ sortBy before items ↔ a ∈ items
  | [] => Iff.rfl
  | item :: rest => by rw [sortBy, mem_insert_sortBy, mem_sortBy, List.mem_cons]

theorem sortBy_perm : ∀ items : List α, (sortBy before items).Perm items
  | [] => .nil
  | item :: rest => by
    have inserted : ∀ kept : List α, (sortBy.insert before item kept).Perm (item :: kept) := by
      intro kept
      induction kept with
      | nil => exact .refl _
      | cons head tail ih =>
        unfold sortBy.insert
        split
        · exact (ih.cons head).trans (.swap item head tail)
        · exact .refl _
    exact (inserted _).trans ((sortBy_perm rest).cons item)

theorem sortBy_eq_nil {items : List α} : sortBy before items = [] ↔ items = [] := by
  simp only [List.eq_nil_iff_forall_not_mem, mem_sortBy]

end Sorting

section Tables

variable {db : Db}

theorem findJob_eq_some {jobId : String} {job : JobRow} :
    findJob db jobId = some job ↔ job ∈ db.jobs ∧ job.id = jobId := by
  constructor
  · intro found
    obtain ⟨member, same⟩ := Table.find?_some found
    exact ⟨member, of_decide_eq_true same⟩
  · rintro ⟨member, rfl⟩
    exact Table.find?_eq_some_of_mem member (decide_eq_true rfl) fun _ _ same => same

theorem getJob_eq_ok {jobId : String} {job : JobRow} :
    getJob db jobId = .ok job ↔ job ∈ db.jobs ∧ job.id = jobId := by
  rw [← findJob_eq_some]
  unfold getJob
  cases findJob db jobId <;> simp [pure, Except.pure, throw, throwThe, MonadExceptOf.throw]

/-- Jobs are unique by id. -/
theorem job_unique {a b : JobRow} (left : a ∈ db.jobs) (right : b ∈ db.jobs) (same : a.id = b.id) :
    a = b :=
  Table.eq_of_clash left right (decide_eq_true same)

theorem findLease_eq_some {leaseId : String} {lease : LeaseRow} :
    findLease db leaseId = some lease ↔ lease ∈ db.leases ∧ lease.leaseId = leaseId := by
  constructor
  · intro found
    obtain ⟨member, same⟩ := Table.find?_some found
    exact ⟨member, of_decide_eq_true same⟩
  · rintro ⟨member, rfl⟩
    refine Table.find?_eq_some_of_mem member (decide_eq_true rfl) fun other _ same => ?_
    have ids : other.leaseId = lease.leaseId := of_decide_eq_true same
    simp [leaseSchema, LeaseRow.clash, ids]

theorem lease_unique {a b : LeaseRow} (left : a ∈ db.leases) (right : b ∈ db.leases)
    (same : a.leaseId = b.leaseId) : a = b :=
  Table.eq_of_clash left right (by simp [leaseSchema, LeaseRow.clash, same])

/-- An attempt has at most one lease. -/
theorem attempt_lease_unique {a b : LeaseRow} (left : a ∈ db.leases) (right : b ∈ db.leases)
    (job : a.jobId = b.jobId) (token : a.attemptToken = b.attemptToken) : a = b :=
  Table.eq_of_clash left right (by simp [leaseSchema, LeaseRow.clash, job, token])

/-- A resource has at most one active lease. -/
theorem active_lease_unique {a b : LeaseRow} (left : a ∈ db.leases) (right : b ∈ db.leases)
    (resource : a.resourceKey = b.resourceKey) (activeA : a.status = .active)
    (activeB : b.status = .active) : a = b :=
  Table.eq_of_clash left right (by simp [leaseSchema, LeaseRow.clash, resource, activeA, activeB])

theorem findEventByKey_eq_some {key : String} {event : EventRow} :
    findEventByKey db key = some event ↔ event ∈ db.events ∧ event.idempotencyKey = key := by
  constructor
  · intro found
    obtain ⟨member, same⟩ := Table.find?_some found
    exact ⟨member, of_decide_eq_true same⟩
  · rintro ⟨member, rfl⟩
    refine Table.find?_eq_some_of_mem member (decide_eq_true rfl) fun other _ same => ?_
    have keys : other.idempotencyKey = event.idempotencyKey := of_decide_eq_true same
    simp [eventSchema, keys]

theorem event_unique {a b : EventRow} (left : a ∈ db.events) (right : b ∈ db.events)
    (same : a.idempotencyKey = b.idempotencyKey) : a = b :=
  Table.eq_of_clash left right (by simp [eventSchema, same])

end Tables

/-- The part of the store that decides who may work on what. -/
def queue (db : Db) : Table (keyedBy JobRow.id) × Table leaseSchema := (db.jobs, db.leases)

/-- The queue with the ledger of attempt usage. -/
def accounts (db : Db) := (queue db, db.usage)

theorem queue_eq {s t : Db} : queue t = queue s ↔ t.jobs = s.jobs ∧ t.leases = s.leases := by
  simp [queue]

theorem queue_of_accounts {s t : Db} (same : accounts t = accounts s) : queue t = queue s :=
  congrArg Prod.fst same

def progressType : String := "job.progress"

/-- The progress reports of the ledger, in the order of their rows. -/
def progressRows (db : Db) : List EventRow := db.events.rows.filter (·.eventType = progressType)

/-- The queue with the progress reports. -/
def activity (db : Db) := (queue db, progressRows db)

theorem queue_of_activity {s t : Db} (same : activity t = activity s) : queue t = queue s :=
  congrArg Prod.fst same

theorem progressRows_of_activity {s t : Db} (same : activity t = activity s) :
    progressRows t = progressRows s :=
  congrArg Prod.snd same

section Statements

variable {w w' : Work Db} {u : Unit}

theorem replaceTable_ok {T : Type} {next : Db → Option T} {put : Db → T → Db} {growing} :
    (replaceTable next put growing).run w = .ok u w' ↔
      ∃ table, next w.store = some table ∧ w' = { w with store := put w.store table } := by
  obtain ⟨store', tick', draws'⟩ := w'
  unfold replaceTable
  rw [Txn.write_ok, Option.map_eq_some_iff]
  simp only [Work.mk.injEq]
  constructor
  · rintro ⟨⟨table, written, rfl⟩, rfl, rfl⟩
    exact ⟨table, written, rfl, rfl, rfl⟩
  · rintro ⟨table, written, rfl, rfl, rfl⟩
    exact ⟨⟨table, written, rfl⟩, rfl, rfl⟩

theorem insertEvent_ok {row : EventRow} : (insertEvent row).run w = .ok u w' ↔
    ∃ events, w.store.events.insert? row = some events ∧
      w' = { w with store := { w.store with events } } :=
  replaceTable_ok

theorem insertDelivery_ok {row : DeliveryRow} : (insertDelivery row).run w = .ok u w' ↔
    ∃ deliveries, w.store.deliveries.insert? row = some deliveries ∧
      w' = { w with store := { w.store with deliveries } } :=
  replaceTable_ok

theorem insertJob_ok {row : JobRow} : (insertJob row).run w = .ok u w' ↔
    ∃ jobs, w.store.jobs.insert? row = some jobs ∧
      w' = { w with store := { w.store with jobs } } :=
  replaceTable_ok

theorem insertLease_ok {row : LeaseRow} : (insertLease row).run w = .ok u w' ↔
    ∃ leases, w.store.leases.insert? row = some leases ∧
      w' = { w with store := { w.store with leases } } :=
  replaceTable_ok

theorem updateJobs_ok {p : JobRow → Bool} {f : JobRow → JobRow} {keeps} {matched : Nat} :
    (updateJobs p f keeps).run w = .ok matched w' ↔
      ∃ jobs, w.store.jobs.update? p f = some jobs ∧ matched = (w.store.jobs.filter p).length ∧
        w' = { w with store := { w.store with jobs } } := by
  unfold updateJobs
  simp only [Txn.bind_ok, Txn.read_run, replaceTable_ok, Txn.pure_run,
    EStateM.Result.ok.injEq]
  constructor
  · rintro ⟨_, _, ⟨rfl, rfl⟩, _, _, ⟨jobs, updated, rfl⟩, rfl, rfl⟩
    exact ⟨jobs, updated, rfl, rfl⟩
  · rintro ⟨jobs, updated, rfl, rfl⟩
    exact ⟨_, _, ⟨rfl, rfl⟩, (), _, ⟨jobs, updated, rfl⟩, rfl, rfl⟩

theorem updateLeases_ok {p : LeaseRow → Bool} {f : LeaseRow → LeaseRow} {keeps} :
    (updateLeases p f keeps).run w = .ok u w' ↔
      ∃ leases, w.store.leases.update? p f = some leases ∧
        w' = { w with store := { w.store with leases } } :=
  replaceTable_ok

/-- A statement fails on a constraint only. -/
theorem replaceTable_error {T : Type} {next : Db → Option T} {put : Db → T → Db} {growing} {e : Exn}
    (ran : (replaceTable next put growing).run w = .error e w') : e = .integrity := by
  unfold replaceTable at ran
  rw [Txn.write_run] at ran
  split at ran
  · cases ran
  · exact (EStateM.Result.error.inj ran).1.symm

theorem updateJobs_error {p : JobRow → Bool} {f : JobRow → JobRow} {keeps} {e : Exn}
    (ran : (updateJobs p f keeps).run w = .error e w') : e = .integrity := by
  simp only [updateJobs, Txn.bind_error, Txn.read_run, reduceCtorEq, false_or, Txn.pure_run,
    and_false, exists_false, or_false, EStateM.Result.ok.injEq] at ran
  obtain ⟨_, _, _, failed⟩ := ran
  exact replaceTable_error failed

/-- A statement whose table is not in `part` keeps it. -/
theorem keeps_replaceTable {T τ : Type} {part : Db → τ} {next : Db → Option T} {put : Db → T → Db}
    {growing} (same : ∀ db table, part (put db table) = part db) :
    Txn.Keeps part (replaceTable next put growing) := by
  refine Txn.keeps_write fun s t written => ?_
  obtain ⟨table, -, rfl⟩ := Option.map_eq_some_iff.mp written
  exact same s table

/-- A row that an update has matched is in the table in its new form. -/
theorem mem_of_matched {jobs : Table (keyedBy JobRow.id)} {p : JobRow → Bool}
    (matched : (jobs.filter p).length ≠ 0) : ∃ job ∈ jobs, p job = true := by
  have some : jobs.filter p ≠ [] := fun none => matched (by rw [none]; rfl)
  obtain ⟨job, member⟩ := List.exists_mem_of_ne_nil _ some
  exact ⟨job, Table.mem_filter.mp member⟩

end Statements

section Readers

variable [Platform] {w w' : Work Db}

@[simp] theorem utcNow_run : (utcNow).run w = .ok (now w.tick) { w with tick := w.tick + 1 } := rfl

@[simp] theorem newUuid_run :
    newUuid.run w = .ok (Platform.uuid4 w.draws) { w with draws := w.draws + 1 } := rfl

omit [Platform] in
@[simp] theorem readOrRaise_ok {α : Type} {f : Db → Except Exn α} {a : α} :
    (readOrRaise f).run w = .ok a w' ↔ f w.store = .ok a ∧ w = w' := by
  simp [readOrRaise, Txn.bind_run]

omit [Platform] in
@[simp] theorem readOrRaise_error {α : Type} {f : Db → Except Exn α} {e : Exn} :
    (readOrRaise f).run w = .error e w' ↔ f w.store = .error e ∧ w = w' := by
  simp only [readOrRaise, Txn.bind_error, Txn.read_run, EStateM.Result.ok.injEq, reduceCtorEq,
    false_or, Txn.orRaise_error, id_eq]
  constructor
  · rintro ⟨_, _, ⟨rfl, rfl⟩, inner, failed, rfl, rfl⟩
    exact ⟨failed, rfl⟩
  · rintro ⟨failed, rfl⟩
    exact ⟨_, _, ⟨rfl, rfl⟩, e, failed, rfl, rfl⟩

omit [Platform] in
theorem keeps_readOrRaise {α τ : Type} {part : Db → τ} (f : Db → Except Exn α) :
    Txn.Keeps part (readOrRaise f) :=
  Txn.keeps_bind (Txn.keeps_read f) fun result => Txn.keeps_orRaise id result

theorem keeps_utcNow {τ : Type} {part : Db → τ} : Txn.Keeps part utcNow := Txn.keeps_clock now

theorem keeps_newUuid {τ : Type} {part : Db → τ} : Txn.Keeps part newUuid :=
  Txn.keeps_draw Platform.uuid4

omit [Platform] in
theorem decodeColumn_ok {text : JsonText} {json : Json} :
    decodeColumn text = .ok json ↔ text = .value json := by
  rw [decodeColumn, orRaise_except_ok]
  cases text <;> simp [JsonText.loads]

omit [Platform] in
theorem toDict_ok {row : EventRow} {event : EventDict} (decoded : row.toDict = .ok event) :
    event.row = row ∧ row.payloadJson = .value event.payload := by
  obtain ⟨payload, loaded, decoded⟩ := Except.bind_ok.mp decoded
  cases decoded
  exact ⟨rfl, decodeColumn_ok.mp loaded⟩

omit [Platform] in
theorem jobDict_row {job : JobRow} {dict : JobDict} (decoded : job.toDict = .ok dict) : dict.row = job := by
  simp only [JobRow.toDict, Except.bind_ok] at decoded
  obtain ⟨_, -, _, -, _, -, made⟩ := decoded
  cases made
  rfl

end Readers

section Events

variable [Platform] {w w' : Work Db}

omit [Platform] in
/-- The key under which an event is stored. -/
theorem NewEvent.toRow_key (event : NewEvent) (eventId : String) (createdAt : Nat) {key : String}
    (keyed : event.idempotencyKey = some key) (nonempty : key ≠ "") :
    (event.toRow eventId createdAt).idempotencyKey = key := by
  simp [NewEvent.toRow, keyed, Option.filter, nonempty]

omit [Platform] in
/-- A transaction only adds to the ledger. -/
theorem ledger_of_ok {α : Type} {body : DbTxn α} {w w' : Work Db} {a : α} (ran : body.run w = .ok a w') :
    w.store.events.rows <+: w'.store.events.rows := by
  have grown := body.grows w
  rw [ran] at grown
  exact grown.events

/-- What `append_event` does: it stores a new row, or finds the key taken and changes nothing. -/
inductive Appended (event : NewEvent) (w w' : Work Db) : AppendEventResult → Prop
  | created (events : Table eventSchema)
      (inserted : w.store.events.insert?
        (event.toRow (Platform.uuid4 w.draws) (now w.tick)) = some events)
      (store : w'.store = { w.store with events }) :
      Appended event w w' ⟨event.toRow (Platform.uuid4 w.draws) (now w.tick), true⟩
  | existing (row : EventRow) (member : row ∈ w.store.events)
      (key : row.idempotencyKey =
        (event.toRow (Platform.uuid4 w.draws) (now w.tick)).idempotencyKey)
      (store : w'.store = w.store) : Appended event w w' ⟨row, false⟩

theorem appendEvent_ok {event : NewEvent} {result : AppendEventResult}
    (ran : (appendEvent event).run w = .ok result w') : Appended event w w' result := by
  simp only [appendEvent, Txn.bind_ok, newUuid_run, utcNow_run, EStateM.Result.ok.injEq] at ran
  obtain ⟨_, _, ⟨rfl, rfl⟩, _, _, ⟨rfl, rfl⟩, ran⟩ := ran
  simp only [Txn.read_run, EStateM.Result.ok.injEq] at ran
  obtain ⟨_, _, ⟨rfl, rfl⟩, ran⟩ := ran
  split at ran
  · rename_i events inserted
    simp only [Txn.bind_ok, insertEvent_ok, Txn.pure_run, EStateM.Result.ok.injEq] at ran
    obtain ⟨_, _, ⟨_, stored, rfl⟩, rfl, rfl⟩ := ran
    exact .created _ stored rfl
  · simp only [Txn.bind_ok, Txn.read_run, EStateM.Result.ok.injEq] at ran
    obtain ⟨_, _, ⟨rfl, rfl⟩, ran⟩ := ran
    split at ran
    · rename_i row found
      obtain ⟨member, key⟩ := findEventByKey_eq_some.mp found
      simp only [Txn.pure_run, EStateM.Result.ok.injEq] at ran
      obtain ⟨rfl, rfl⟩ := ran
      exact .existing row member key rfl
    · simp at ran

/-- An event whose id and key are free is stored. -/
theorem appendEvent_run {event : NewEvent} {events : Table eventSchema}
    (inserted : w.store.events.insert?
      (event.toRow (Platform.uuid4 w.draws) (now w.tick)) = some events) :
    (appendEvent event).run w =
      .ok ⟨event.toRow (Platform.uuid4 w.draws) (now w.tick), true⟩
        ⟨{ w.store with events }, w.tick + 1, w.draws + 1⟩ := by
  simp [appendEvent, Txn.bind_run, newUuid, utcNow, insertEvent, replaceTable, Txn.write_run,
    inserted]

/-- An event that cannot be stored under a free key is refused. -/
theorem appendEvent_run_refused {event : NewEvent}
    (refused : w.store.events.insert?
      (event.toRow (Platform.uuid4 w.draws) (now w.tick)) = none)
    (fresh : findEventByKey w.store
      (event.toRow (Platform.uuid4 w.draws) (now w.tick)).idempotencyKey = none) :
    (appendEvent event).run w = .error .integrity ⟨w.store, w.tick + 1, w.draws + 1⟩ := by
  simp [appendEvent, Txn.bind_run, newUuid, utcNow, refused, fresh]

/-- An event whose id is free is stored, or its key is taken. -/
theorem exists_appendEvent {event : NewEvent}
    (fresh : ∀ row ∈ w.store.events, row.id ≠ Platform.uuid4 w.draws) :
    ∃ result w', (appendEvent event).run w = .ok result w' := by
  cases inserted : w.store.events.insert?
      (event.toRow (Platform.uuid4 w.draws) (now w.tick)) with
  | some events => exact ⟨_, _, appendEvent_run inserted⟩
  | none =>
    rcases Table.insert?_eq_none_iff.mp inserted with unchecked | ⟨row, member, clash⟩
    · cases unchecked
    · rw [eventSchema, Bool.or_eq_true, decide_eq_true_eq, decide_eq_true_eq] at clash
      have key := clash.resolve_left (fresh row member)
      have found := findEventByKey_eq_some.mpr ⟨member, key⟩
      exact ⟨⟨row, false⟩, ⟨w.store, w.tick + 1, w.draws + 1⟩, by
        simp [appendEvent, Txn.bind_run, newUuid, utcNow, inserted, found]⟩

/-- The only exception of `append_event` is an integrity error that no taken key explains. -/
theorem appendEvent_error {event : NewEvent} {e : Exn}
    (ran : (appendEvent event).run w = .error e w') : e = .integrity ∧ w'.store = w.store := by
  simp only [appendEvent, Txn.bind_error, newUuid_run, utcNow_run, EStateM.Result.ok.injEq,
    reduceCtorEq, false_or] at ran
  obtain ⟨_, _, ⟨rfl, rfl⟩, _, _, ⟨rfl, rfl⟩, ran⟩ := ran
  simp only [Txn.read_run, EStateM.Result.ok.injEq, reduceCtorEq, false_or] at ran
  obtain ⟨_, _, ⟨rfl, rfl⟩, ran⟩ := ran
  split at ran
  · rename_i events inserted
    simp [Txn.bind_run, insertEvent, replaceTable, Txn.write_run, inserted] at ran
  · simp only [Txn.bind_error, Txn.read_run, EStateM.Result.ok.injEq, reduceCtorEq,
      false_or] at ran
    obtain ⟨_, _, ⟨rfl, rfl⟩, ran⟩ := ran
    split at ran
    · simp at ran
    · simp only [Txn.throw_run, EStateM.Result.error.injEq] at ran
      obtain ⟨rfl, rfl⟩ := ran
      exact ⟨rfl, rfl⟩

omit [Platform] in
theorem activity_insertOther {db : Db} {row : EventRow} {events : Table eventSchema}
    (other : row.eventType ≠ progressType) (inserted : db.events.insert? row = some events) :
    activity { db with events } = activity db := by
  simp only [activity, progressRows, queue, Table.insert?_rows inserted, List.filter_append,
    List.filter_cons, other, decide_false, Bool.false_eq_true, if_false, List.filter_nil,
    List.append_nil]

theorem activity_of_appended {event : NewEvent} {result : AppendEventResult}
    (other : event.eventType ≠ progressType) (appended : Appended event w w' result) :
    activity w'.store = activity w.store := by
  cases appended with
  | created events inserted store => rw [store, activity_insertOther other inserted]
  | existing row member key store => rw [store]

theorem queue_of_appended {event : NewEvent} {result : AppendEventResult}
    (appended : Appended event w w' result) : queue w'.store = queue w.store := by
  cases appended with
  | created events inserted store => rw [store]; rfl
  | existing row member key store => rw [store]

theorem Appended.ledger {event : NewEvent} {result : AppendEventResult}
    (appended : Appended event w w' result) : w.store.events.rows <+: w'.store.events.rows := by
  cases appended with
  | created events inserted store =>
    rw [store]
    exact ⟨_, (Table.insert?_rows inserted).symm⟩
  | existing row member key store => exact store ▸ List.prefix_rfl

/-- The row of the result is stored afterwards. -/
theorem Appended.mem {event : NewEvent} {result : AppendEventResult}
    (appended : Appended event w w' result) : result.row ∈ w'.store.events := by
  cases appended with
  | created events inserted store =>
    rw [store]
    exact (Table.mem_insert? inserted).mpr (.inr rfl)
  | existing row member key store =>
    rw [store]
    exact member

theorem keeps_appendEvent {τ : Type} {part : Db → τ} (event : NewEvent)
    (same : ∀ (db : Db) (events : Table eventSchema), part { db with events } = part db) :
    Txn.Keeps part (appendEvent event) := by
  refine Txn.keeps_bind keeps_newUuid fun _ => Txn.keeps_bind keeps_utcNow fun _ =>
    Txn.keeps_bind (Txn.keeps_read _) fun inserted => ?_
  split
  · exact Txn.keeps_bind (keeps_replaceTable same) fun _ => Txn.keeps_pure _
  · refine Txn.keeps_bind (Txn.keeps_read _) fun existing => ?_
    split
    · exact Txn.keeps_pure _
    · exact Txn.keeps_throw _

omit [Platform] in
theorem keeps_insertOther {row : EventRow} (other : row.eventType ≠ progressType) :
    Txn.Keeps activity (insertEvent row) := by
  unfold insertEvent replaceTable
  refine Txn.keeps_write fun s t written => ?_
  obtain ⟨events, stored, rfl⟩ := Option.map_eq_some_iff.mp written
  exact activity_insertOther other stored

/-- Only a progress report changes the progress reports. -/
theorem keeps_appendOther (event : NewEvent) (other : event.eventType ≠ progressType) :
    Txn.Keeps activity (appendEvent event) := by
  refine Txn.keeps_bind keeps_newUuid fun eventId => Txn.keeps_bind keeps_utcNow fun createdAt =>
    Txn.keeps_bind (Txn.keeps_read _) fun inserted => ?_
  split
  · exact Txn.keeps_bind (keeps_insertOther other) fun _ => Txn.keeps_pure _
  · refine Txn.keeps_bind (Txn.keeps_read _) fun existing => ?_
    split
    · exact Txn.keeps_pure _
    · exact Txn.keeps_throw _

theorem keeps_createDelivery {τ : Type} {part : Db → τ} (delivery : NewDelivery)
    (same : ∀ (db : Db) (deliveries : Table deliverySchema),
      part { db with deliveries } = part db) :
    Txn.Keeps part (createDelivery delivery) := by
  refine Txn.keeps_bind (Txn.keeps_read _) fun _ => Txn.keeps_bind (Txn.keeps_raiseIf _ _) fun _ =>
    Txn.keeps_bind keeps_utcNow fun _ => Txn.keeps_bind keeps_newUuid fun _ =>
    Txn.keeps_bind (Txn.keeps_read _) fun inserted => ?_
  split
  · exact Txn.keeps_bind (keeps_replaceTable same) fun _ => Txn.keeps_pure _
  · refine Txn.keeps_bind (Txn.keeps_read _) fun existing => ?_
    split
    · exact Txn.keeps_pure _
    · exact Txn.keeps_throw _

/-- The usage ledger and the warning of an attempt leave the queue and the progress reports alone. -/
theorem keeps_persistAttemptUsageAndWarning (usage : Option Usage.UsageEvidence) (job : JobRow)
    (attemptToken : Nat) (terminalEventId : Option String) (terminalEventCreated : Bool)
    (recordedAt : Nat) (actor : Option String) :
    Txn.Keeps activity (persistAttemptUsageAndWarning usage job attemptToken terminalEventId
      terminalEventCreated recordedAt actor) := by
  unfold persistAttemptUsageAndWarning
  split
  · exact Txn.keeps_pure _
  · refine Txn.keeps_bind ?_ fun created => ?_
    · unfold insertAttemptUsage
      refine Txn.keeps_bind (Txn.keeps_read _) fun taken => ?_
      split
      · exact Txn.keeps_pure _
      · exact Txn.keeps_bind (keeps_replaceTable fun _ _ => rfl) fun _ => Txn.keeps_pure _
    · split
      · exact Txn.keeps_pure _
      · split
        · refine Txn.keeps_bind ?_ fun _ => Txn.keeps_pure _
          unfold evaluateTaskUsageWarning
          refine Txn.keeps_bind (Txn.keeps_read _) fun policy => ?_
          split
          · exact Txn.keeps_pure _
          · split
            · exact Txn.keeps_pure _
            · exact Txn.keeps_bind
                (keeps_appendOther _ (show "usage.warning" ≠ progressType by decide)) fun _ =>
                Txn.keeps_map (Txn.keeps_orRaise _ _)
        · exact Txn.keeps_pure _

end Events

end Coordinate

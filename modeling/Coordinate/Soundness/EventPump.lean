import Mathlib.Data.List.Forall2
import Coordinate.Library.Machine
import Coordinate.Model.Installation
import Coordinate.Proofs.EventPump

/-! # Completeness of the event pump

Events are appended and cycles run in any order. As long as every cycle starts where all that is due
renders, its keys and identifiers are free and the limit of twenty deliveries cuts nothing off, every
event of a webhook workspace between the initial cursor and the cursor has exactly the deliveries that
its rendering prescribes. The limit is not tied to the cursor: what a burst leaves behind is lost.
-/

namespace Coordinate

section Statement

/-- The messages of the deliveries of an event, in their order. -/
def messagesAbout (db : Db) (eventId : String) : List Message :=
  (db.deliveries.filter (·.eventId = some eventId)).map DeliveryRow.message

variable [EventRenderer]

/-- The deliveries of an event say what it rendered to when the ledger was as long as `seen`. -/
def Delivered (db : Db) (subject : Workspace × EventRow) : Prop :=
  ∃ (seen : Table eventSchema) (handoffAt lifecycleAt : Nat) (results : List RenderEventResult),
    seen.rows <+: db.events.rows ∧ subject.2 ∈ seen ∧
    renderFor { db with events := seen } handoffAt lifecycleAt subject = .ok results ∧
    messagesAbout db subject.2.id =
      prescribed subject.2.id "discord_webhook" subject.1.destination results

/-- Rendering the event has raised. -/
def Poisonous (db : Db) (subject : Workspace × EventRow) : Prop :=
  ∃ (seen : Table eventSchema) (handoffAt lifecycleAt : Nat) (e : Exn),
    seen.rows <+: db.events.rows ∧
    renderFor { db with events := seen } handoffAt lifecycleAt subject = .error e

/-- An event of a webhook workspace with a row identifier in the range. -/
def Covers (db : Db) (initial bound : Option Nat) (subject : Workspace × EventRow) : Prop :=
  subject.1 ∈ db.workspaces ∧ subject.1.isWebhook = true ∧
    subject.2.workspaceId = some subject.1.id ∧
    ∃ first last i, initial = some first ∧ bound = some last ∧
      db.events.rows[i]? = some subject.2 ∧ first < i + 1 ∧ i + 1 ≤ last

/-- No event up to the cursor lacks a delivery or has one too many, and an event up to the last cutoff
lacks its deliveries only if it cannot be rendered itself. -/
structure PumpComplete (daemon : PumpDaemon) : Prop where
  complete : ∀ subject, Covers daemon.work.store daemon.initialCursor daemon.cursor subject →
    Delivered daemon.work.store subject
  unblocked : ∀ subject, Covers daemon.work.store daemon.initialCursor daemon.cutoff subject →
    Delivered daemon.work.store subject ∨ Poisonous daemon.work.store subject

variable [Platform] [DeliveryBus]

/-- A row is appended by somebody, who may read the clock and draw identifiers, or the daemon pumps. -/
inductive PumpStep where
  | append (row : EventRow) (tick draws : Nat)
  | cycle
deriving DecidableEq

def pump : Machine PumpDaemon PumpStep where
  step
    | daemon, .append row tick draws =>
      (daemon.work.store.events.insert? row).map fun events =>
        { daemon with work := ⟨{ daemon.work.store with events }, tick, draws⟩ }
    | daemon, .cycle => some daemon.doPump.2

/-- Cycles start where nothing raises and the limit cuts nothing off. -/
def Unhindered (daemon : PumpDaemon) (step : PumpStep) : Prop :=
  step = .cycle → Smooth daemon.work (daemon.cursor.getD (maxRowid daemon.work.store))

/-- A daemon that has not pumped yet; deliveries refer to events. -/
structure PumpDaemon.Initial (daemon : PumpDaemon) : Prop where
  cursor : daemon.cursor = none
  initialCursor : daemon.initialCursor = none
  cutoff : daemon.cutoff = none
  refers : ∀ row ∈ daemon.work.store.deliveries, ∀ id, row.eventId = some id →
    ∃ event ∈ daemon.work.store.events, event.id = id

end Statement

section Invariant

variable [Platform] [EventRenderer] [DeliveryBus] {daemon : PumpDaemon}

/-- Deliveries are about events up to the cursor, all of which have theirs. -/
structure Pumped (daemon : PumpDaemon) : Prop where
  refers : ∀ row ∈ daemon.work.store.deliveries, ∀ id, row.eventId = some id →
    ∃ i event, daemon.work.store.events.rows[i]? = some event ∧ event.id = id ∧
      i + 1 ≤ daemon.cursor.getD (maxRowid daemon.work.store)
  bounded : ∀ cursor, daemon.cursor = some cursor → cursor ≤ maxRowid daemon.work.store
  begun : daemon.cursor = none → daemon.initialCursor = none
  cutoff : daemon.cutoff = daemon.cursor
  complete : ∀ subject, Covers daemon.work.store daemon.initialCursor daemon.cursor subject →
    Delivered daemon.work.store subject

omit [Platform] [DeliveryBus] in
theorem Pumped.pumpComplete (pumped : Pumped daemon) : PumpComplete daemon where
  complete := pumped.complete
  unblocked subject covers := .inl (pumped.complete subject (pumped.cutoff ▸ covers))

omit [Platform] [DeliveryBus] in
theorem PumpDaemon.Initial.pumped (initial : daemon.Initial) : Pumped daemon where
  refers row member id about := by
    obtain ⟨event, known, same⟩ := initial.refers row member id about
    obtain ⟨i, at_i⟩ := List.getElem?_of_mem known
    obtain ⟨bound, -⟩ := List.getElem?_eq_some_iff.mp at_i
    refine ⟨i, event, at_i, same, ?_⟩
    rw [initial.cursor]
    exact bound
  bounded cursor placed := by
    rw [initial.cursor] at placed
    cases placed
  begun _ := initial.initialCursor
  cutoff := by rw [initial.cutoff, initial.cursor]
  complete subject covers := by
    obtain ⟨-, -, -, first, last, i, begun, -⟩ := covers
    rw [initial.initialCursor] at begun
    cases begun

omit [Platform] [DeliveryBus] in
/-- A longer ledger leaves what was seen of it. -/
theorem Delivered.append {db : Db} {subject : Workspace × EventRow} (delivered : Delivered db subject)
    {events : Table eventSchema} (longer : db.events.rows <+: events.rows) :
    Delivered { db with events } subject := by
  obtain ⟨seen, handoffAt, lifecycleAt, results, earlier, member, rendered, same⟩ := delivered
  exact ⟨seen, handoffAt, lifecycleAt, results, earlier.trans longer, member, rendered, same⟩

omit [Platform] [DeliveryBus] in
/-- An appended row has a row identifier above the cursor. -/
theorem Pumped.append (pumped : Pumped daemon) {row : EventRow} {events : Table eventSchema}
    {tick draws : Nat} (inserted : daemon.work.store.events.insert? row = some events) :
    Pumped { daemon with work := ⟨{ daemon.work.store with events }, tick, draws⟩ } := by
  have rows := Table.insert?_rows inserted
  have longer : daemon.work.store.events.rows <+: events.rows := ⟨[row], rows.symm⟩
  have grown : maxRowid daemon.work.store ≤ events.rows.length := longer.length_le
  refine ⟨?_, ?_, pumped.begun, pumped.cutoff, ?_⟩
  · intro delivery member id about
    obtain ⟨i, event, at_i, same, bound⟩ := pumped.refers delivery member id about
    have still : events.rows[i]? = some event := by
      rw [rows, List.getElem?_append_left (List.getElem?_eq_some_iff.mp at_i).1]
      exact at_i
    refine ⟨i, event, still, same, bound.trans ?_⟩
    cases daemon.cursor with
    | none => exact grown
    | some cursor => exact Nat.le_refl cursor
  · intro cursor placed
    exact (pumped.bounded cursor placed).trans grown
  · intro subject covers
    obtain ⟨member, webhook, owned, first, last, i, begun, placed, at_i, above, below⟩ := covers
    have bound := pumped.bounded last placed
    have old : daemon.work.store.events.rows[i]? = some subject.2 := by
      rw [show events.rows = daemon.work.store.events.rows ++ [row] from rows,
        List.getElem?_append_left (Nat.lt_of_succ_le (below.trans bound))] at at_i
      exact at_i
    exact (pumped.complete subject
      ⟨member, webhook, owned, first, last, i, begun, placed, old, above, below⟩).append longer

omit [Platform] [EventRenderer] [DeliveryBus] in
/-- Sending changes no message. -/
theorem filter_sameMessages {old new : List DeliveryRow} {id : String}
    (same : List.Forall₂ DeliveryRow.sameMessage old new) :
    (new.filter (·.eventId = some id)).map DeliveryRow.message =
      (old.filter (·.eventId = some id)).map DeliveryRow.message := by
  induction same with
  | nil => rfl
  | @cons old new _ _ row _ ih =>
    obtain ⟨-, eventId, platform, destination, messageKey, payloadJson⟩ := row
    have message : new.message = old.message := by
      simp [DeliveryRow.message, eventId, platform, destination, messageKey, payloadJson]
    by_cases about : old.eventId = some id
    · rw [List.filter_cons_of_pos (by simp [eventId, about]), List.filter_cons_of_pos (by simp [about]),
        List.map_cons, List.map_cons, ih, message]
    · rw [List.filter_cons_of_neg (by simp [eventId, about]), List.filter_cons_of_neg (by simp [about]),
        ih]

omit [Platform] [EventRenderer] [DeliveryBus] in
/-- A row that sending leaves was there before, with the same event. -/
theorem mem_sameMessages {old new : List DeliveryRow} {row : DeliveryRow}
    (same : List.Forall₂ DeliveryRow.sameMessage old new) (member : row ∈ new) :
    ∃ before ∈ old, row.eventId = before.eventId := by
  induction same with
  | nil => cases member
  | @cons first _ _ _ head _ ih =>
    rcases List.mem_cons.mp member with rfl | later
    · exact ⟨first, List.mem_cons_self .., head.2.1⟩
    · obtain ⟨before, known, eventId⟩ := ih later
      exact ⟨before, List.mem_cons_of_mem _ known, eventId⟩

omit [EventRenderer] [DeliveryBus] in
theorem Filed.messagesAbout {w w' : Work Db} {messages : List Message} (files : Filed w w' messages)
    (eventId : String) : messagesAbout w'.store eventId =
      messagesAbout w.store eventId ++ messages.filter (·.eventId = some eventId) := by
  obtain ⟨rows, appended, same, -⟩ := files.rows
  unfold Coordinate.messagesAbout Table.filter
  rw [appended, ← same, List.filter_append, List.map_append, List.filter_map]
  rfl

omit [Platform] [EventRenderer] [DeliveryBus] in
/-- What a cycle files is about events above its cursor. -/
theorem filed_above {start : Work Db} {cursor i : Nat} {filings : List Filing} {row : EventRow}
    (subjects : filings.map Filing.subject = due start.store cursor)
    (at_i : start.store.events.rows[i]? = some row) {message : Message}
    (member : message ∈ filings.flatMap Filing.messages) (about : message.eventId = some row.id) :
    cursor < i + 1 := by
  obtain ⟨filing, listed, isMessage⟩ := List.mem_flatMap.mp member
  have isDue : filing.subject ∈ due start.store cursor := subjects ▸ List.mem_map_of_mem listed
  obtain ⟨-, -, j, at_j, above, -⟩ := mem_due.mp isDue
  rw [Filing.message_event isMessage] at about
  rw [event_index_unique at_i at_j (Option.some.inj about).symm]
  exact above

/-- What a smooth cycle leaves behind. -/
structure PumpedOnce (daemon after : PumpDaemon) (filings : List Filing) : Prop where
  store : after.work.store =
    { daemon.work.store with deliveries := after.work.store.deliveries }
  cursor : after.cursor = some (maxRowid daemon.work.store)
  initialCursor : after.initialCursor =
    some (daemon.initialCursor.getD (daemon.cursor.getD (maxRowid daemon.work.store)))
  cutoff : after.cutoff = some (maxRowid daemon.work.store)
  about : ∀ row ∈ after.work.store.deliveries,
    (∃ old ∈ daemon.work.store.deliveries, row.eventId = old.eventId) ∨
      ∃ filing ∈ filings, row.eventId = some filing.event.id
  messages : ∀ id, messagesAbout after.work.store id = messagesAbout daemon.work.store id ++
    (filings.flatMap Filing.messages).filter (·.eventId = some id)

/-- A smooth cycle returns. -/
theorem doPump_smooth
    (smooth : Smooth daemon.work (daemon.cursor.getD (maxRowid daemon.work.store))) :
    ∃ filings : List Filing,
      filings.map Filing.subject =
        due daemon.work.store (daemon.cursor.getD (maxRowid daemon.work.store)) ∧
      (∀ filing ∈ filings, filing.Valid daemon.work
        (5 * (due daemon.work.store (daemon.cursor.getD (maxRowid daemon.work.store))).length)) ∧
      PumpedOnce daemon daemon.doPump.2 filings := by
  obtain ⟨total, work, filings, ran, subjects, valids, files⟩ := createDue_run smooth
  have sent := DeliveryBus.sameMessages work.store
  have doPump : daemon.doPump.2 = {
      work := { work with store :=
        { work.store with deliveries := (DeliveryBus.pumpDeliveries work.store).1 } }
      cursor := some (maxRowid daemon.work.store)
      initialCursor :=
        some (daemon.initialCursor.getD (daemon.cursor.getD (maxRowid daemon.work.store)))
      cutoff := some (maxRowid daemon.work.store) } := by
    unfold PumpDaemon.doPump
    simp only [ran]
  rw [doPump]
  refine ⟨filings, subjects, valids, ?_, rfl, rfl, rfl, ?_, fun id => ?_⟩
  · exact congrArg (fun db : Db =>
      { db with deliveries := (DeliveryBus.pumpDeliveries work.store).1 }) files.store
  · intro row member
    obtain ⟨before, known, sameEvent⟩ := mem_sameMessages sent member
    rw [sameEvent]
    rcases files.mem known with old | ⟨new, -⟩
    · exact .inl ⟨before, old, rfl⟩
    · obtain ⟨filing, listed, isMessage⟩ := List.mem_flatMap.mp new
      exact .inr ⟨filing, listed, Filing.message_event isMessage⟩
  · rw [← files.messagesAbout id]
    exact filter_sameMessages sent

omit [Platform] [DeliveryBus] in
/-- What was complete stays complete. -/
theorem Pumped.kept (pumped : Pumped daemon) {after : PumpDaemon} {filings : List Filing}
    (subjects : filings.map Filing.subject =
      due daemon.work.store (daemon.cursor.getD (maxRowid daemon.work.store)))
    (once : PumpedOnce daemon after filings) {subject : Workspace × EventRow} {first i : Nat}
    (member : subject.1 ∈ daemon.work.store.workspaces) (webhook : subject.1.isWebhook = true)
    (owned : subject.2.workspaceId = some subject.1.id)
    (begun : daemon.initialCursor.getD (daemon.cursor.getD (maxRowid daemon.work.store)) = first)
    (at_i : daemon.work.store.events.rows[i]? = some subject.2) (above : first < i + 1)
    (earlier : i + 1 ≤ daemon.cursor.getD (maxRowid daemon.work.store)) :
    Delivered after.work.store subject := by
  have covered : Covers daemon.work.store daemon.initialCursor daemon.cursor subject := by
    cases placed : daemon.cursor with
    | none =>
      rw [pumped.begun placed, Option.getD_none] at begun
      omega
    | some cursor =>
      rw [placed, Option.getD_some] at begun earlier
      cases started : daemon.initialCursor with
      | none =>
        rw [started, Option.getD_none] at begun
        omega
      | some initial =>
        rw [started, Option.getD_some] at begun
        exact ⟨member, webhook, owned, first, cursor, i, by rw [begun], rfl, at_i, above, earlier⟩
  obtain ⟨seen, handoffAt, lifecycleAt, results, shorter, known, rendered, same⟩ :=
    pumped.complete subject covered
  have nothing : (filings.flatMap Filing.messages).filter (·.eventId = some subject.2.id) = [] :=
    List.filter_eq_nil_iff.mpr fun message isMessage about => by
      have := filed_above subjects at_i isMessage (by simpa using about)
      omega
  refine ⟨seen, handoffAt, lifecycleAt, results, ?_, known, ?_, ?_⟩
  · rw [once.store]
    exact shorter
  · rw [once.store]
    exact rendered
  · rw [once.messages, nothing, List.append_nil]
    exact same

omit [DeliveryBus] in
/-- A due event has no delivery yet, and its filing creates them. -/
theorem Pumped.filed (pumped : Pumped daemon)
    (smooth : Smooth daemon.work (daemon.cursor.getD (maxRowid daemon.work.store)))
    {after : PumpDaemon} {filings : List Filing}
    (subjects : filings.map Filing.subject =
      due daemon.work.store (daemon.cursor.getD (maxRowid daemon.work.store)))
    (valids : ∀ filing ∈ filings, filing.Valid daemon.work
      (5 * (due daemon.work.store (daemon.cursor.getD (maxRowid daemon.work.store))).length))
    (once : PumpedOnce daemon after filings) {filing : Filing} (listed : filing ∈ filings)
    (owned : filing.event.workspaceId = some filing.workspace.id) :
    Delivered after.work.store filing.subject := by
  have isDue : filing.subject ∈ due daemon.work.store _ := subjects ▸ List.mem_map_of_mem listed
  obtain ⟨-, -, i, at_i, above, -⟩ := mem_due.mp isDue
  have nothing : messagesAbout daemon.work.store filing.event.id = [] := by
    rw [messagesAbout, List.map_eq_nil_iff]
    refine List.filter_eq_nil_iff.mpr fun row member about => ?_
    obtain ⟨j, event, at_j, same, bound⟩ := pumped.refers row member filing.event.id
      (by simpa using about)
    have index := event_index_unique at_j at_i same
    omega
  obtain ⟨a, b, -, -, rendered⟩ := valids filing listed
  refine ⟨daemon.work.store.events, now (daemon.work.tick + a), now (daemon.work.tick + b),
    filing.results, ?_, List.mem_of_getElem? at_i, ?_, ?_⟩
  · have ledger : after.work.store.events = daemon.work.store.events := by
      rw [once.store]
    exact ledger ▸ List.prefix_rfl
  · rw [once.store]
    exact rendered
  · change messagesAbout after.work.store filing.event.id = filing.messages
    rw [once.messages, nothing, List.nil_append, smooth.own_messages subjects valids listed owned]

/-- A smooth cycle moves the cursor to the end and leaves the deliveries of all events between its two
places complete. -/
theorem Pumped.cycle (pumped : Pumped daemon)
    (smooth : Smooth daemon.work (daemon.cursor.getD (maxRowid daemon.work.store))) :
    Pumped daemon.doPump.2 := by
  obtain ⟨filings, subjects, valids, once⟩ := doPump_smooth smooth
  have isDue : ∀ filing ∈ filings, filing.subject ∈ due daemon.work.store _ := fun filing listed =>
    subjects ▸ List.mem_map_of_mem listed
  have bounded : daemon.cursor.getD (maxRowid daemon.work.store) ≤ maxRowid daemon.work.store := by
    cases placed : daemon.cursor with
    | none => exact Nat.le_refl _
    | some cursor => exact pumped.bounded cursor placed
  have latest : maxRowid daemon.doPump.2.work.store = maxRowid daemon.work.store := by
    rw [once.store]
    rfl
  refine ⟨?_, ?_, ?_, by rw [once.cutoff, once.cursor], ?_⟩
  · intro delivery member id about
    rw [once.cursor, once.store]
    rcases once.about delivery member with ⟨old, known, same⟩ | ⟨filing, listed, same⟩
    · obtain ⟨i, event, at_i, sameId, bound⟩ := pumped.refers old known id (same ▸ about)
      exact ⟨i, event, at_i, sameId, bound.trans bounded⟩
    · obtain ⟨-, -, i, at_i, -⟩ := mem_due.mp (isDue filing listed)
      rw [about] at same
      exact ⟨i, filing.event, at_i, (Option.some.inj same).symm, (List.getElem?_eq_some_iff.mp at_i).1⟩
  · intro cursor placed
    rw [once.cursor] at placed
    rw [latest, ← Option.some.inj placed]
  · intro unplaced
    rw [once.cursor] at unplaced
    cases unplaced
  · rintro subject ⟨member, webhook, owned, first, last, i, begun, placed, at_i, above, below⟩
    rw [once.store] at member at_i
    rw [once.initialCursor] at begun
    rw [once.cursor] at placed
    by_cases earlier : i + 1 ≤ daemon.cursor.getD (maxRowid daemon.work.store)
    · exact pumped.kept subjects once member webhook owned (Option.some.inj begun) at_i above earlier
    · have isSubject : subject ∈ filings.map Filing.subject := by
        rw [subjects]
        exact mem_due.mpr ⟨member, webhook, i, at_i, by omega, .inr owned⟩
      obtain ⟨filing, listed, rfl⟩ := List.mem_map.mp isSubject
      exact pumped.filed smooth subjects valids once listed owned

theorem Pumped.step (pumped : Pumped daemon) {step : PumpStep} {next : PumpDaemon}
    (unhindered : Unhindered daemon step) (stepped : pump.step daemon step = some next) :
    Pumped next := by
  cases step with
  | append row tick draws =>
    obtain ⟨events, inserted, rfl⟩ := Option.map_eq_some_iff.mp stepped
    exact pumped.append inserted
  | cycle =>
    cases stepped
    exact pumped.cycle (unhindered rfl)

end Invariant

namespace Sample

/-- The rendering of a deferred issue, which has no embed. -/
local instance : EventRenderer where
  renderEventPayload row _ := .ok (.obj [("visible_header", .str "[ISSUE_TRIAGE]"),
    ("text", .str ("[ISSUE_TRIAGE] unknown/repo#?\n状态：issue 已 defer，暂不创建 task\n" ++
      "Issue：unknown/repo#?")),
    ("event_id", .str row.id), ("workspace_id", Json.ofOption row.workspaceId),
    ("task_id", Json.ofOption row.taskId), ("links", .obj [])])

/-- A bus that sends nothing. -/
local instance : DeliveryBus where
  pumpDeliveries db := (db.deliveries, 0, 0)
  sameMessages _ := List.forall₂_same.mpr fun _ _ => ⟨rfl, rfl, rfl, rfl, rfl, rfl⟩

def pumpedWorkspace : Workspace :=
  { id := "w", path := "/w", harnessRoot := "/w", defaultBus := some "discord_webhook",
    defaultDestination := some "hook" }

def unpumped : PumpDaemon where
  work := { initialWork with store := { Db.empty with workspaces := tableOf pumpedWorkspace } }

/-- The `n`-th event of an issue that is deferred. -/
def triaged (n : Nat) : EventRow :=
  { id := uuid (100 + n), workspaceId := some "w", eventType := "issue.triaged", actor := "u",
    target := none, taskId := none, idempotencyKey := s!"issue.triaged:{n}",
    payloadJson := .value (.obj []), createdAt := clock 0 }

/-- A first cycle, a burst of events and another cycle. -/
def burst : List PumpStep :=
  .cycle :: ((List.range 21).map fun n => .append (triaged n) 0 0) ++ [.cycle]

/-- Whether the event at the cursor, of a supported type, has been passed over. -/
def overlooked (daemon : PumpDaemon) : Bool :=
  daemon.initialCursor = some 0 && daemon.cursor = some 21 &&
    daemon.work.store.workspaces.rows = [pumpedWorkspace] &&
    daemon.work.store.events.rows[20]? = some (triaged 20) &&
    messagesAbout daemon.work.store (triaged 20).id = []

theorem unpumped_initial : unpumped.Initial where
  cursor := rfl
  initialCursor := rfl
  cutoff := rfl
  refers := nofun

/-- With at most one due event the limit and the other events cannot matter. -/
theorem smooth_of_few {start : Work Db} {cursor : Nat}
    (few : (due start.store cursor).length ≤ 1)
    (named : ∀ subject ∈ due start.store cursor, subject.1.id ≠ "")
    (renders : ∀ subject ∈ due start.store cursor, ∀ i < 5, ∀ j < 5,
      (renderFor start.store (now (start.tick + i)) (now (start.tick + j)) subject).isOk = true)
    (empty : start.store.deliveries = .empty)
    (distinct : ∀ j < 3, ∀ i < j, uuid (start.draws + i) ≠ uuid (start.draws + j)) :
    Smooth start cursor where
  renders subject member i j first second := by
    have rendered := renders subject member i (by omega) j (by omega)
    cases outcome : renderFor start.store (now (start.tick + i)) (now (start.tick + j)) subject with
    | ok results => exact ⟨results, rfl⟩
    | error e =>
      rw [outcome] at rendered
      cases rendered
  within workspace listed webhook := by
    rintro filings subjects - earlier filing later rfl -
    have sublist : (dueOf start.store cursor (maxRowid start.store) workspace).Sublist
        (due start.store cursor) := by
      rw [due, List.flatMap_def]
      exact List.sublist_flatten_of_mem
        (List.mem_map_of_mem (List.mem_filter.mpr ⟨listed, webhook⟩))
    have bound := sublist.length_le
    rw [← subjects, List.length_map, List.length_append, List.length_cons] at bound
    rw [List.eq_nil_of_length_eq_zero (show earlier.length = 0 by omega)]
    decide
  free filing _ _ message _ row stored := by
    rw [empty] at stored
    cases stored
  apart := by
    match listed : due start.store cursor with
    | [] => exact .nil
    | [subject] => exact List.pairwise_singleton _ _
    | first :: second :: rest =>
      rw [listed] at few
      simp at few
  named filing _ member _ := named filing.subject member
  fresh := {
    unused := by
      rintro i - row stored
      rw [empty] at stored
      cases stored
    distinct := fun i j before bound => distinct j (by omega) i before }

/-- The daemon after a first cycle, one event and another cycle. -/
def onceAppended : PumpDaemon :=
  { unpumped.doPump.2 with work :=
    ⟨{ unpumped.doPump.2.work.store with events := tableOf (triaged 0) }, 0, 0⟩ }

def oncePumped : PumpDaemon := onceAppended.doPump.2

theorem oncePumped_reached : pump.Reaches Unhindered unpumped oncePumped := by
  refine .tail (.tail (.tail .refl .cycle (fun _ => ?_) rfl) (.append (triaged 0) 0 0) nofun rfl)
    .cycle (fun _ => ?_) rfl
  · have idle : ∀ subject, subject ∉ due unpumped.work.store 0 := fun _ => List.not_mem_nil
    exact smooth_of_few (by decide) (fun _ member => absurd member (idle _))
      (fun _ member => absurd member (idle _)) rfl (by decide +kernel)
  · exact smooth_of_few (by decide +kernel) (by decide +kernel) (by decide +kernel) rfl
      (by decide +kernel)

end Sample

end Coordinate

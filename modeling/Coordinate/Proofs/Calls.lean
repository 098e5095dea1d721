import Coordinate.Model.Calls
import Coordinate.Proofs.TaskMirrors

/-! # What the statements of a call leave behind

One rule for each statement of a call, about what the call has performed when it ends.
-/

namespace Coordinate

open Program

/-- The payloads of the events and of the task mirrors are JSON, as all writers make them. -/
structure Readable (db : Db) : Prop where
  events : ∀ event ∈ db.events, ∃ payload, event.payloadJson = .value payload
  tasks : ∀ row ∈ db.tasks, ∃ payload, row.payloadJson = .value payload

namespace DbCall

/-- A statement that has left the store alone. -/
def Silent (entry : Performed DbStatement (Work Db)) : Prop := entry.after.store = entry.before.store

section Readability

variable {w w' : Work Db}

theorem readable_appended [Platform] {event : NewEvent} {result : AppendEventResult}
    (readable : Readable w.store) (appended : Appended event w w' result) : Readable w'.store := by
  cases appended with
  | created events inserted store =>
    rw [store]
    refine ⟨fun row member => ?_, readable.tasks⟩
    rcases (Table.mem_insert? inserted).mp member with old | rfl
    · exact readable.events row old
    · exact ⟨_, rfl⟩
  | existing row member key store =>
    rw [store]
    exact readable

theorem readable_putTask {db : Db} {row : TaskMirror} {tasks : Table taskSchema} {payload : Json}
    (readable : Readable db) (own : row.payloadJson = .value payload)
    (put : putTask row db.tasks = some tasks) : Readable { db with tasks } := by
  refine ⟨readable.events, fun other member => ?_⟩
  rcases (mem_putTask put).mp member with rfl | ⟨old, -⟩
  · exact ⟨payload, own⟩
  · exact readable.tasks other old

end Readability

section Rules

variable {α β : Type} {inv : Work Db → Prop}
  {careful : List (Performed DbStatement (Work Db)) → Work Db → DbStatement → Prop}
  {effect : List (Performed DbStatement (Work Db)) → Performed DbStatement (Work Db) → Prop}
  {ends : List (Performed DbStatement (Work Db)) → Except Exn β → Prop}
  {past : List (Performed DbStatement (Work Db))}

theorem ends_query (quiet : ∀ past entry, Silent entry → effect past entry) {f : Db → α} {k : α → DbCall β}
    (rest : ∀ w, inv w → Ends inv careful effect ends (past ++ [⟨.read, w, w⟩]) (k (f w.store))) :
    Ends inv careful effect ends past (query f >>= k) :=
  ends_statement fun w kept _ => ⟨kept, quiet _ _ rfl, rest w kept⟩

theorem ends_queryOrRaise (quiet : ∀ past entry, Silent entry → effect past entry) {f : Db → Except Exn α}
    {k : α → DbCall β}
    (raises : ∀ w e, inv w → f w.store = .error e → ends (past ++ [⟨.read, w, w⟩]) (.error e))
    (rest : ∀ w a, inv w → f w.store = .ok a →
      Ends inv careful effect ends (past ++ [⟨.read, w, w⟩]) (k a)) :
    Ends inv careful effect ends past (queryOrRaise f >>= k) := by
  refine ends_bind (ends_query quiet fun w kept => ?_)
  cases found : f w.store with
  | ok a => exact rest w a kept found
  | error e => exact raises w e kept found

theorem ends_clock (quiet : ∀ past entry, Silent entry → effect past entry)
    (draws : ∀ w w', inv w → w'.store = w.store → inv w') {f : Nat → α} {k : α → DbCall β}
    (rest : ∀ w a, inv w →
      Ends inv careful effect ends (past ++ [⟨.read, w, { w with tick := w.tick + 1 }⟩]) (k a)) :
    Ends inv careful effect ends past (clock f >>= k) :=
  ends_statement fun w kept _ => ⟨draws w _ kept rfl, quiet _ _ rfl, rest w _ kept⟩

theorem ends_readTask (quiet : ∀ past entry, Silent entry → effect past entry) {workspaceId taskId : String}
    {k : Option TaskMirror → DbCall β}
    (rest : ∀ w, inv w → Ends inv careful effect ends (past ++ [⟨.task workspaceId taskId, w, w⟩])
      (k (findTask w.store workspaceId taskId))) :
    Ends inv careful effect ends past (readTask workspaceId taskId >>= k) :=
  ends_statement fun w kept _ => ⟨kept, quiet _ _ rfl, rest w kept⟩

/-- A statement or transaction: it is taken back when it raises. -/
theorem ends_execute (quiet : ∀ past entry, Silent entry → effect past entry) {tag : DbStatement} {body : DbTxn α}
    {k : α → DbCall β} (draws : ∀ w w', inv w → w'.store = w.store → inv w')
    (raises : ∀ w w' e, careful past w tag → body.run w = .error e w' →
      ends (past ++ [⟨tag, w, { w' with store := w.store }⟩]) (.error e))
    (rest : ∀ w w' a, inv w → careful past w tag → body.run w = .ok a w' →
      inv w' ∧ effect past ⟨tag, w, w'⟩ ∧ Ends inv careful effect ends (past ++ [⟨tag, w, w'⟩]) (k a)) :
    Ends inv careful effect ends past (execute tag body >>= k) := by
  refine ends_statement fun w kept meets => ?_
  cases ran : body.run w with
  | ok a w' => exact rest w w' a kept meets ran
  | error e w' => exact ⟨draws w _ kept rfl, quiet _ _ rfl, raises w w' e meets ran⟩

/-- A transaction whose exception is caught. -/
theorem ends_attempt (quiet : ∀ past entry, Silent entry → effect past entry) {body : DbTxn α}
    {k : Except Exn α → DbCall β} (draws : ∀ w w', inv w → w'.store = w.store → inv w')
    (caught : ∀ w w' e, inv w → body.run w = .error e w' →
      Ends inv careful effect ends (past ++ [⟨.transaction, w, { w' with store := w.store }⟩])
        (k (.error e)))
    (rest : ∀ w w' a, inv w → careful past w .transaction → body.run w = .ok a w' →
      inv w' ∧ effect past ⟨.transaction, w, w'⟩ ∧
        Ends inv careful effect ends (past ++ [⟨.transaction, w, w'⟩]) (k (.ok a))) :
    Ends inv careful effect ends past (attempt body >>= k) := by
  refine ends_statement fun w kept meets => ?_
  cases ran : body.run w with
  | ok a w' => exact rest w w' a kept meets ran
  | error e w' => exact ⟨draws w _ kept rfl, quiet _ _ rfl, caught w w' e kept ran⟩

/-- `append_event` stores a row, finds one, or leaves the store alone. -/
theorem ends_recordEvent [Platform] (quiet : ∀ past entry, Silent entry → effect past entry) {event : NewEvent}
    {k : AppendEventResult → DbCall β} (draws : ∀ w w', inv w → w'.store = w.store → inv w')
    (raises : ∀ w w', careful past w (.append event) → (appendEvent event).run w = .error .integrity w' →
      ends (past ++ [⟨.append event, w, { w' with store := w.store }⟩]) (.error .integrity))
    (rest : ∀ w w' result, inv w → careful past w (.append event) → Appended event w w' result →
      inv w' ∧ effect past ⟨.append event, w, w'⟩ ∧
        Ends inv careful effect ends (past ++ [⟨.append event, w, w'⟩]) (k result)) :
    Ends inv careful effect ends past (recordEvent event >>= k) := by
  refine ends_execute quiet draws (fun w w' e meets ran => ?_) fun w w' result kept meets ran => ?_
  · obtain ⟨rfl, -⟩ := appendEvent_error ran
    exact raises w w' meets ran
  · exact rest w w' result kept meets (appendEvent_ok ran)

/-- `upsert_task_mirror` finds its row, writes it, or is refused. -/
theorem ends_upsertMirror (quiet : ∀ past entry, Silent entry → effect past entry) {workspaceId taskId : String}
    {columns : MirrorColumns} {k : TaskMirror × MirrorStatus → DbCall β}
    (draws : ∀ w w', inv w → w'.store = w.store → inv w')
    (same : ∀ w, inv w → findTask w.store workspaceId taskId = some (columns.toRow workspaceId taskId) →
      Ends inv careful effect ends (past ++ [⟨.read, w, w⟩])
        (k (columns.toRow workspaceId taskId, .unchanged)))
    (refused : ∀ found w, careful (past ++ [⟨.read, found, found⟩]) w
        (.mirror (columns.toRow workspaceId taskId)) →
      putTask (columns.toRow workspaceId taskId) w.store.tasks = none → ∀ e,
      ends (past ++ [⟨.read, found, found⟩] ++ [⟨.mirror (columns.toRow workspaceId taskId), w, w⟩])
        (.error e))
    (written : ∀ found w tasks status, inv w → careful (past ++ [⟨.read, found, found⟩]) w
        (.mirror (columns.toRow workspaceId taskId)) →
      putTask (columns.toRow workspaceId taskId) w.store.tasks = some tasks →
      let after := { w with store := { w.store with tasks } }
      inv after ∧ effect (past ++ [⟨.read, found, found⟩])
          ⟨.mirror (columns.toRow workspaceId taskId), w, after⟩ ∧
        Ends inv careful effect ends
          (past ++ [⟨.read, found, found⟩] ++ [⟨.mirror (columns.toRow workspaceId taskId), w, after⟩])
          (k (columns.toRow workspaceId taskId, status))) :
    Ends inv careful effect ends past (upsertMirror workspaceId taskId columns >>= k) := by
  refine ends_bind (ends_query quiet fun found kept => ?_)
  split
  · rename_i own
    exact ends_pure (same found kept own)
  · refine ends_execute quiet draws (fun w w' e meets ran => ?_) fun w w' _ kept meets ran => ?_
    · rw [writeTask_run] at ran
      split at ran
      · cases ran
      · rename_i full
        cases ran
        exact refused found w meets full _
    · rw [writeTask_run] at ran
      split at ran
      · rename_i tasks put
        cases ran
        exact written found w tasks _ kept meets put
      · cases ran

end Rules

end DbCall

end Coordinate

import Coordinate.Model.MergeGate
import Coordinate.Proofs.Statements

/-! # The rows of observations

What one step of a call can add to the ledger, and which row of a kind is the latest one.
-/

namespace Coordinate.MergeGate

open GitHub

section Rows

variable {db : Db} {row : EventRow} {signal : Signal} {workspaceId taskId : String}

theorem mem_rowsOf : row ∈ rowsOf db workspaceId taskId signal ↔ row ∈ db.events ∧
    row.workspaceId = some workspaceId ∧ row.taskId = some taskId ∧ signal.isRow row = true := by
  simp only [rowsOf, Table.mem_filter, Bool.and_eq_true, decide_eq_true_eq, and_assoc]

theorem isRow_eventType (signal : Signal) {row : EventRow} {verdict : Verdict}
    (type : row.eventType = signal.eventType verdict) : signal.isRow row = true := by
  cases verdict <;> simp [Signal.isRow, type]

/-- The types of rows tell the kind and the verdict. -/
theorem eventType_inj {first second : Signal} {verdict other : Verdict}
    (same : first.eventType verdict = second.eventType other) :
    first = second ∧ verdict = other := by
  cases first <;> cases second <;> cases verdict <;> cases other <;>
    first | exact ⟨rfl, rfl⟩ | exact absurd same (by decide)

theorem not_isRow_of_foreign (foreign : isForeign row = true) (signal : Signal) :
    signal.isRow row = false := by
  simp only [isForeign, Bool.and_eq_true, Bool.not_eq_true'] at foreign
  cases signal with
  | ci => exact foreign.1
  | review => exact foreign.2

/-- Among rows in the order of their times the last one is the latest. -/
theorem foldl_newer {rows : List EventRow} {best : Option EventRow}
    (sorted : rows.Pairwise fun a b => a.createdAt ≤ b.createdAt)
    (above : ∀ earlier ∈ best, ∀ row ∈ rows, earlier.createdAt ≤ row.createdAt) :
    rows.foldl newer best = rows.getLast?.or best := by
  induction rows generalizing best with
  | nil => rfl
  | cons row rest ih =>
    have first : newer best row = some row := by
      cases best with
      | none => rfl
      | some earlier => exact if_pos (above earlier rfl row (List.mem_cons_self ..))
    rw [List.foldl_cons, first, ih (List.pairwise_cons.mp sorted).2 fun earlier same => ?_]
    · cases rest with
      | nil => rfl
      | cons second more =>
        rw [List.getLast?_cons_cons]
        cases last : (second :: more).getLast? with
        | none => simp at last
        | some found => rfl
    · cases same
      exact (List.pairwise_cons.mp sorted).1

/-- The row of one kind that was recorded last. -/
def lastRecorded (db : Db) (workspaceId taskId : String) (signal : Signal) : Option EventRow :=
  (rowsOf db workspaceId taskId signal).getLast?

/-- No row of a kind is older than the ones recorded before it. -/
def Ordered (db : Db) : Prop :=
  ∀ workspaceId taskId signal,
    (rowsOf db workspaceId taskId signal).Pairwise fun a b => a.createdAt ≤ b.createdAt

theorem latest_eq_lastRecorded (ordered : Ordered db) :
    latest db workspaceId taskId signal = lastRecorded db workspaceId taskId signal := by
  rw [latest, foldl_newer (ordered _ _ _) fun _ none => (by cases none), lastRecorded,
    Option.or_none]

theorem lastRecorded_mem (last : lastRecorded db workspaceId taskId signal = some row) :
    row ∈ db.events :=
  (mem_rowsOf.mp (List.mem_of_getLast? last)).1

end Rows

/-- The pull request and the head that a row states. -/
structure States (row : EventRow) (pr head : String) : Prop where
  readable : ∃ payload, row.payloadJson = .value payload ∧ payload.isObj = true ∧
    payload.get "pr" = .str pr ∧ payload.get "head_sha" = .str head

theorem States.unique {row : EventRow} {pr head otherPr otherHead : String}
    (first : States row pr head) (second : States row otherPr otherHead) :
    pr = otherPr ∧ head = otherHead := by
  obtain ⟨payload, stored, -, prs, heads⟩ := first.readable
  obtain ⟨other, otherStored, -, otherPrs, otherHeads⟩ := second.readable
  cases stored.symm.trans otherStored
  exact ⟨Json.str.inj (prs.symm.trans otherPrs), Json.str.inj (heads.symm.trans otherHeads)⟩

theorem states_observation (signal : Signal) (arguments : CheckArguments) (target : Target)
    (seen : Observation) (headSha eventId : String) (createdAt : Nat) :
    States ((observationEvent signal arguments target seen headSha).toRow eventId createdAt)
      target.pr headSha := by
  refine ⟨observationPayload signal arguments target seen headSha, ?_, ?_, ?_, ?_⟩
  · rfl
  · rfl
  · rfl
  · rfl

/-- A part of the gate that has passed has seen a positive row for this pull request and head. -/
theorem gateCheck_passed {signal : Signal} {pr headSha : String} {found : Option EventRow}
    {check : GateCheck} (checked : gateCheck signal pr headSha found = .ok check)
    (passed : check.isPassed = true) : ∃ row, found = some row ∧
      row.eventType = signal.eventType .positive ∧ States row pr headSha := by
  cases found with
  | none =>
    cases checked
    cases passed
  | some row =>
    by_cases type : row.eventType = signal.eventType .positive
    · rw [gateCheck, if_neg (not_not.mpr type)] at checked
      obtain ⟨payload, decoded, checked⟩ := Except.bind_ok.mp checked
      obtain ⟨_, object, checked⟩ := Except.bind_ok.mp checked
      cases checked
      split at passed
      · cases passed
      · rename_i prs
        split at passed
        · cases passed
        · split at passed
          · cases passed
          · rename_i heads
            exact ⟨row, rfl, type, payload, decodeColumn_ok.mp decoded,
              not_not.mp (raiseIf_except_ok.mp object), not_not.mp prs, not_not.mp heads⟩
    · rw [gateCheck, if_pos type] at checked
      cases checked
      cases passed

section Steps

variable [Platform] {s u : State}

/-- What the append of a check does. -/
structure Records (work after : Work Db) (signal : Signal) (arguments : CheckArguments)
    (target : Target) (seen : Observation) (headSha : String) (result : ObservationResult) : Prop where
  row : result.event.row = (observationEvent signal arguments target seen headSha).toRow
    (Platform.uuid4 work.draws) (now work.tick)
  seen : result.seen = seen
  created : result.eventCreated = true
  rows : after.store.events.rows = work.store.events.rows ++ [result.event.row]

theorem recordObservation_ok {signal : Signal} {arguments : CheckArguments} {target : Target}
    {seen : Observation} {headSha : String} {result : ObservationResult} {work after : Work Db}
    (ran : (recordObservation signal arguments target seen headSha).run work = .ok result after) :
    Records work after signal arguments target seen headSha result ∨
      after.store.events = work.store.events := by
  unfold recordObservation at ran
  simp only [Txn.bind_ok, Txn.orRaise_ok, Txn.pure_run, EStateM.Result.ok.injEq] at ran
  obtain ⟨appended, middle, stored, event, _, ⟨decoded, rfl⟩, rfl, rfl⟩ := ran
  have did := appendEvent_ok stored
  have same : event.row = appended.row := (toDict_ok decoded).1
  cases did with
  | created events inserted store =>
    left
    refine ⟨same, rfl, rfl, ?_⟩
    rw [store]
    exact (Table.insert?_rows inserted).trans (by rw [same])
  | existing row member key store =>
    right
    rw [store]

/-- An append that raises has changed nothing. -/
theorem recordObservation_error {signal : Signal} {arguments : CheckArguments} {target : Target}
    {seen : Observation} {headSha : String} {e : Exn} {work after : Work Db}
    (ran : (recordObservation signal arguments target seen headSha).run work = .error e after) :
    after.store.events = work.store.events := by
  unfold recordObservation at ran
  rw [Txn.bind_error] at ran
  rcases ran with failed | ⟨appended, middle, stored, ran⟩
  · exact congrArg Db.events (appendEvent_error failed).2
  · obtain undecoded | ⟨event, _, decoded, returned⟩ := Txn.bind_error.mp ran
    · obtain ⟨_, undecoded, -, rfl⟩ := Txn.orRaise_error.mp undecoded
      cases appendEvent_ok stored with
      | created events inserted store => cases undecoded
      | existing row member key store => rw [store]
    · cases returned

end Steps

end Coordinate.MergeGate

import Coordinate.Model.Transitions
import Coordinate.Proofs.Ledger

/-! # What a transition of a task does

A transition that runs alone either answers with the stored outcome of its hint and changes nothing, or
is refused before it mutates anything, or attempts its mutation once and records the outcome.
-/

namespace Coordinate

section Answers

variable {s t : Ledger}

/-- No event has the key. -/
def IsFree (s : Ledger) (key : String) : Prop :=
  ∀ row ∈ rowsOf s, row.idempotencyKey ≠ key

/-- The stored outcome of a transition; a stored success hides a stored failure. -/
def TaskTransition.Stored (transition : TaskTransition) (s : Ledger) (row : EventRow) : Prop :=
  row ∈ rowsOf s ∧ (row.idempotencyKey = transition.successKey ∨
    IsFree s transition.successKey ∧ row.idempotencyKey = transition.failedKey)

/-- What is recorded of a mutation. -/
structure TaskTransition.Records (transition : TaskTransition) (mutation : HarnessMutationResult)
    (row : EventRow) : Prop where
  type : row.eventType = if mutation.success then transition.eventType else "harness.mutation_failed"
  key : row.idempotencyKey = if mutation.success then transition.successKey else transition.failedKey
  task : row.taskId = some transition.taskId
  actor : row.actor = transition.actor

/-- The answer of a transition, and the ledger that it leaves. -/
inductive TaskTransition.Answer (transition : TaskTransition) (check : Except Exn Unit) (s : Ledger) :
    Except Exn TaskTransitionResult → Ledger → Prop
  | stored (row : EventRow) (outcome : transition.Stored s row) :
      Answer transition check s (row.toDict.map fun event => ⟨none, event, false⟩) s
  | refused (e : Exn) (success : IsFree s transition.successKey)
      (failed : IsFree s transition.failedKey)
      (reason : check = .error e ∨
        transition.adapter = none ∧ getWorkspace s.work.store transition.workspaceId = none) :
      Answer transition check s (.error e) s
  | attempted (adapter : Adapter) (mutation : HarnessMutationResult) (event : EventDict) (t : Ledger)
      (success : IsFree s transition.successKey) (failed : IsFree s transition.failedKey)
      (records : transition.Records mutation event.row)
      (rows : rowsOf t = rowsOf s ++ [event.row])
      (mutations : t.mutations =
        s.mutations ++ [(transition.request adapter, mutation.success)]) :
      Answer transition check s (.ok ⟨some mutation, event, true⟩) t

end Answers

section Runs

variable {s : Ledger} {transition : TaskTransition}

theorem findEventByKey_none {db : Db} {key : String} (missing : findEventByKey db key = none) :
    ∀ row ∈ db.events, row.idempotencyKey ≠ key := fun row member same =>
  absurd (Table.find?_none missing row member) (by simp [same])

/-- Looking for a key finds nothing, or the row of the key and what it decodes to. -/
theorem lookUp_stored (s : Ledger) (key : String) :
    (IsFree s key ∧ (lookUp (storedEvent · key)).run s = (.ok none, s)) ∨
      ∃ row ∈ rowsOf s, row.idempotencyKey = key ∧
        (lookUp (storedEvent · key)).run s = (row.toDict.map some, s) := by
  rw [lookUp, Program.run_statement]
  cases found : findEventByKey s.work.store key with
  | none =>
    refine .inl ⟨findEventByKey_none found, ?_⟩
    simp only [storedEvent, found]
    rfl
  | some row =>
    obtain ⟨member, same⟩ := findEventByKey_eq_some.mp found
    refine .inr ⟨row, member, same, ?_⟩
    simp only [storedEvent, found]
    rfl

/-- A stored outcome is found, a success before a failure. -/
theorem storedOutcome_run (s : Ledger) (transition : TaskTransition) :
    (IsFree s transition.successKey ∧ IsFree s transition.failedKey ∧
        (storedOutcome transition).run s = (.ok none, s)) ∨
      ∃ row, transition.Stored s row ∧
        (storedOutcome transition).run s = (row.toDict.map some, s) := by
  rw [storedOutcome, Program.run_bind]
  rcases lookUp_stored s transition.successKey with ⟨free, ran⟩ | ⟨row, member, key, ran⟩
  · rw [ran]
    dsimp only
    rcases lookUp_stored s transition.failedKey with ⟨failed, ran⟩ | ⟨row, member, key, ran⟩
    · exact .inl ⟨free, failed, ran⟩
    · exact .inr ⟨row, ⟨member, .inr ⟨free, key⟩⟩, ran⟩
  · refine .inr ⟨row, ⟨member, .inl key⟩, ?_⟩
    rw [ran]
    cases row.toDict <;> rfl

variable [Platform] [Deployment] [Harness]

/-- A mutation is attempted once, and its result tells whether it took effect. -/
theorem attemptMutation_run (s : Ledger) (request : MutationRequest) :
    ∃ mutation t, (attemptMutation request).run s = (.ok mutation, t) ∧
      t.work.store = s.work.store ∧ t.work.draws = s.work.draws ∧
      t.mutations = s.mutations ++ [(request, mutation.success)] := by
  rw [attemptMutation, Program.run_bind, runMutation, Program.run_statement]
  dsimp only
  cases outcome : mutationOutcome s.mutations.length s.work.tick request with
  | ok mutation => exact ⟨mutation, _, rfl, rfl, rfl, rfl⟩
  | error error => exact ⟨_, _, rfl, rfl, rfl, rfl⟩

/-- The identifier that the next event would get is not that of a recorded event. -/
def FreshId (s : Ledger) : Prop :=
  ∀ row ∈ rowsOf s, row.id ≠ Platform.uuid4 s.work.draws

omit [Platform] [Deployment] [Harness] in
theorem outcomeKey_ne_empty (transition : TaskTransition) (mutation : HarnessMutationResult) :
    (if mutation.success then transition.successKey else transition.failedKey) ≠ "" := by
  split <;> intro empty
  · have start := (String.append_eq_empty_iff.mp empty).1
    exact absurd (String.append_eq_empty_iff.mp start).2 (by decide)
  · exact absurd (String.append_eq_empty_iff.mp empty).2 (by decide)

omit [Platform] [Deployment] [Harness] in
/-- The payload of an outcome is never empty, so it is stored as it is. -/
theorem outcomeEvent_toDict (transition : TaskTransition) (mutation : HarnessMutationResult)
    (eventId : String) (createdAt : Nat) :
    ((transition.outcomeEvent mutation).toRow eventId createdAt).toDict =
      .ok ⟨(transition.outcomeEvent mutation).toRow eventId createdAt,
        (transition.outcomeEvent mutation).payload⟩ := by
  have loaded : (JsonText.dumps (transition.outcomeEvent mutation).payload).loads =
      .ok (transition.outcomeEvent mutation).payload := by
    unfold TaskTransition.outcomeEvent
    split <;> exact JsonText.loads_dumps_obj _
  simp only [EventRow.toDict, decodeColumn, NewEvent.toRow, loaded]
  rfl

omit [Deployment] [Harness] in
/-- An outcome under a free key is recorded. -/
theorem recordOutcome_run {s : Ledger} {transition : TaskTransition}
    (mutation : HarnessMutationResult) (fresh : FreshId s)
    (success : IsFree s transition.successKey) (failed : IsFree s transition.failedKey) :
    ∃ event t, (recordOutcome transition mutation).run s = (.ok ⟨some mutation, event, true⟩, t) ∧
      transition.Records mutation event.row ∧ rowsOf t = rowsOf s ++ [event.row] ∧
      t.mutations = s.mutations := by
  have key : ((transition.outcomeEvent mutation).toRow (Platform.uuid4 s.work.draws)
      (now s.work.tick)).idempotencyKey =
        if mutation.success then transition.successKey else transition.failedKey :=
    (transition.outcomeEvent mutation).toRow_key _ _ rfl (outcomeKey_ne_empty _ _)
  have free : ∀ other ∈ s.work.store.events, eventSchema.clash other
      ((transition.outcomeEvent mutation).toRow (Platform.uuid4 s.work.draws)
        (now s.work.tick)) = false := by
    intro other member
    simp only [eventSchema, Bool.or_eq_false_iff, decide_eq_false_iff_not]
    refine ⟨fresh other member, ?_⟩
    rw [key]
    split
    · exact success other member
    · exact failed other member
  obtain ⟨events, inserted⟩ := Table.exists_insert? rfl free
  refine ⟨⟨(transition.outcomeEvent mutation).toRow (Platform.uuid4 s.work.draws) (now s.work.tick),
      (transition.outcomeEvent mutation).payload⟩,
    { s with work := ⟨{ s.work.store with events }, s.work.tick + 1, s.work.draws + 1⟩ },
    ?_, ⟨rfl, key, rfl, rfl⟩, Table.insert?_rows inserted, rfl⟩
  rw [recordOutcome, Program.run_bind, transaction, Program.run_statement,
    appendEvent_run inserted]
  dsimp only
  rw [outcomeEvent_toDict]
  rfl

/-- What a transition does. -/
theorem transitionTask_answer {s : Ledger} (fresh : FreshId s) (transition : TaskTransition)
    (check : Except Exn Unit) : transition.Answer check s
      ((transitionTask transition check).run s).1 ((transitionTask transition check).run s).2 := by
  rw [transitionTask, Program.run_bind]
  rcases storedOutcome_run s transition with ⟨success, failed, ran⟩ | ⟨row, stored, ran⟩
  · rw [ran]
    dsimp only
    cases check with
    | error e => exact .refused e success failed (.inl rfl)
    | ok u =>
      have mutated : ∀ adapter, transition.Answer (.ok u) s
          ((mutateTask transition adapter).run s).1 ((mutateTask transition adapter).run s).2 := by
        intro adapter
        obtain ⟨mutation, t, ran, store, draws, mutations⟩ :=
          attemptMutation_run s (transition.request adapter)
        have rows : rowsOf t = rowsOf s := congrArg (·.events.rows) store
        have freshLater : FreshId t := by
          rw [FreshId, rows, draws]
          exact fresh
        obtain ⟨event, v, recorded, records, added, kept⟩ := recordOutcome_run mutation freshLater
          (by rw [IsFree, rows]; exact success) (by rw [IsFree, rows]; exact failed)
        rw [mutateTask, Program.run_bind, ran]
        dsimp only
        rw [recorded]
        exact .attempted adapter mutation event v success failed records (rows ▸ added)
          (kept.trans mutations)
      change transition.Answer (.ok u) s
        ((adapterOf transition.adapter transition.workspaceId >>= mutateTask transition).run s).1
        ((adapterOf transition.adapter transition.workspaceId >>= mutateTask transition).run s).2
      cases given : transition.adapter with
      | some adapter => exact mutated adapter
      | none =>
        cases known : getWorkspace s.work.store transition.workspaceId with
        | some workspace =>
          have resolved : (adapterOf none transition.workspaceId).run s =
              (.ok (.ofWorkspace workspace.id), s) := by
            rw [adapterOf, Program.run_bind, lookUp, Program.run_statement, known]
            rfl
          rw [Program.run_bind, resolved]
          exact mutated _
        | none =>
          have unresolved : (adapterOf none transition.workspaceId).run s =
              (.error (Exn.value s!"unknown workspace: {transition.workspaceId}"), s) := by
            rw [adapterOf, Program.run_bind, lookUp, Program.run_statement, known]
            rfl
          rw [Program.run_bind, unresolved]
          exact .refused _ success failed (.inr ⟨given, known⟩)
  · rw [ran]
    have answer : transition.Answer check s (row.toDict.map fun event => ⟨none, event, false⟩) s :=
      .stored row stored
    cases decoded : row.toDict with
    | error e => rw [decoded] at answer; exact answer
    | ok event => rw [decoded] at answer; exact answer

end Runs

end Coordinate

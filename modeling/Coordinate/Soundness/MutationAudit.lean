import Coordinate.Model.Installation
import Coordinate.Model.MutationAudit
import Coordinate.Proofs.EventPump
import Coordinate.Proofs.Ledger

/-! # Which failures an audit drops

A failure is resolved by a success that the ledger holds after it. The audit compares the seconds in which
the two were written, so it misses a success of the failure's own second.
-/

namespace Coordinate.MutationAudit

/-- A success of the operation of a failure by a compatible owner. A failure without an operation takes any, and
a missing owner is compatible with any. -/
structure Repeats (failure success : EventDict) : Prop where
  operation : ∀ operation, mutationOperation failure = some operation → mutationOperation success = some operation
  owner : (mutationOwner failure).truthy = true → (mutationOwner success).truthy = true →
    (mutationOwner failure).pyEq (mutationOwner success) = true

/-- What resolves a failure: the end of its task, or a success that repeats it. -/
def Resolves (failure success : EventDict) : Prop :=
  success.row.taskId = failure.row.taskId ∧
    (success.row.eventType = "task.done" ∨ isSuccess success = true ∧ Repeats failure success)

/-- A history with the numbers of its rows. -/
abbrev History := List (Nat × EventDict)

open Classical in
/-- What the audit is to report: the failures that no later event of the ledger resolves. -/
noncomputable def unresolved (history : History) : List MutationFailure :=
  (history.filter fun failure => isFailure failure.2 ∧
    ¬ ∃ success ∈ history, failure.1 < success.1 ∧ Resolves failure.2 success.2).map
      fun failure => MutationFailure.ofEvent failure.2

/-- Every failure that a later event resolves is resolved by one of a later second. -/
def ResolvedLater (history : History) : Prop :=
  ∀ failure ∈ history, isFailure failure.2 = true →
    (∃ success ∈ history, failure.1 < success.1 ∧ Resolves failure.2 success.2) →
      ∃ success ∈ history, failure.2.row.createdAt < success.2.row.createdAt ∧ Resolves failure.2 success.2

/-- The rows are numbered in the order of their times. -/
def InOrder (history : History) : Prop :=
  ∀ first ∈ history, ∀ second ∈ history, first.1 ≤ second.1 → first.2.row.createdAt ≤ second.2.row.createdAt

section Comparisons

variable {failure success : EventDict}

theorem pyStr_ne_empty {value : Json} (truthy : value.truthy = true) : value.pyStr ≠ "" := by
  cases value with
  | null => exact absurd truthy (by decide)
  | bool value =>
    cases value with
    | false => exact absurd truthy (by decide)
    | true => decide
  | int value =>
    intro empty
    have digits : (toString value).toList = [] := by
      rw [show toString value = "" from empty]
      rfl
    cases value with
    | ofNat n => exact Nat.toDigits_ne_nil ((Nat.toList_repr (n := n)).symm.trans digits)
    | negSucc n => simp [toString, Int.repr] at digits
  | str value => simpa [Json.truthy, Json.pyStr] using truthy
  | arr items => simp [Json.pyStr, Json.pyRepr]
  | obj fields => simp [Json.pyStr, Json.pyRepr]

/-- An operation is never the empty text. -/
theorem mutationOperation_ne_empty {event : EventDict} {operation : String}
    (derived : mutationOperation event = some operation) : operation ≠ "" := by
  unfold mutationOperation at derived
  dsimp only at derived
  split at derived
  · rename_i present
    obtain rfl := Option.some.inj derived
    exact pyStr_ne_empty (Bool.and_eq_true_iff.mp present).2
  · split at derived
    · rename_i present
      obtain rfl := Option.some.inj derived
      exact pyStr_ne_empty present
    · have named : ∀ entry ∈ EVENT_OPERATION, entry.2 ≠ "" := by decide
      obtain ⟨before, after, table, -⟩ := List.lookup_eq_some_iff.mp derived
      exact named (event.row.eventType, operation) (by simp [table])

theorem matchesFailure_iff :
    matchesFailure failure success = true ↔ success.row.eventType = "task.done" ∨ Repeats failure success := by
  unfold matchesFailure
  by_cases done : success.row.eventType = "task.done"
  · simp [done]
  · rw [if_neg done]
    have sameOperation : ((mutationOperation failure).any (· ≠ "") &&
        decide (mutationOperation success ≠ mutationOperation failure)) = false ↔
          ∀ operation, mutationOperation failure = some operation → mutationOperation success = some operation := by
      cases derived : mutationOperation failure with
      | none => simp
      | some operation => simp [mutationOperation_ne_empty derived]
    have sameOwner : (!((mutationOwner failure).truthy && (mutationOwner success).truthy &&
        !(mutationOwner failure).pyEq (mutationOwner success))) = true ↔
          ((mutationOwner failure).truthy = true → (mutationOwner success).truthy = true →
            (mutationOwner failure).pyEq (mutationOwner success) = true) := by
      cases (mutationOwner failure).truthy <;> cases (mutationOwner success).truthy <;> simp
    constructor
    · intro matched
      split at matched
      · cases matched
      · rename_i operation
        exact .inr ⟨sameOperation.mp (by simpa using operation), sameOwner.mp matched⟩
    · rintro (ended | repeats)
      · exact absurd ended done
      · rw [if_neg (by simpa using sameOperation.mpr repeats.operation)]
        exact sameOwner.mpr repeats.owner

/-- The audit drops a failure for a success of a later second that resolves it. -/
theorem failureWasLaterResolved_iff {successes : List EventDict} :
    failureWasLaterResolved failure successes = true ↔
      ∃ success ∈ successes, failure.row.createdAt < success.row.createdAt ∧
        success.row.taskId = failure.row.taskId ∧
          (success.row.eventType = "task.done" ∨ Repeats failure success) := by
  induction successes with
  | nil => simp [failureWasLaterResolved]
  | cons success rest ih =>
    rw [List.exists_mem_cons_iff, ← ih, ← matchesFailure_iff, failureWasLaterResolved]
    by_cases task : success.row.taskId = failure.row.taskId
    · by_cases early : success.row.createdAt ≤ failure.row.createdAt
      · simp [task, early, Nat.not_lt.mpr early]
      · cases matchesFailure failure success <;> simp [task, early, Nat.not_le.mp early]
    · simp [task]

end Comparisons

section Histories

theorem isSuccess_of_done {event : EventDict} (done : event.row.eventType = "task.done") :
    isSuccess event = true := by
  rw [isSuccess, done]
  decide

variable [Platform] {db : Db} {workspaceId : String} {history : History}

/-- The rows of a decoded history stand in the ledger under their numbers. -/
theorem mem_history (read : readEvents db workspaceId = .ok history) {entry : Nat × EventDict}
    (member : entry ∈ history) : ∃ i, entry.1 = i + 1 ∧ db.events.rows[i]? = some entry.2.row := by
  have decoded : ∀ {rows : List (Nat × EventRow)} {entries : History},
      (rows.mapM fun numbered => do return (numbered.1, ← numbered.2.toDict) : Except Exn History) = .ok entries →
        ∀ entry ∈ entries, (entry.1, entry.2.row) ∈ rows := by
    intro rows
    induction rows with
    | nil =>
      rintro entries ran entry member
      cases ran
      cases member
    | cons head rest ih =>
      intro entries ran entry member
      rw [List.mapM_cons] at ran
      obtain ⟨first, converted, ran⟩ := Except.bind_ok.mp ran
      obtain ⟨others, mapped, ran⟩ := Except.bind_ok.mp ran
      cases ran
      obtain rfl | member := List.mem_cons.mp member
      · obtain ⟨event, loaded, same⟩ := Except.bind_ok.mp converted
        cases same
        rw [(toDict_ok loaded).1]
        exact List.mem_cons_self
      · exact List.mem_cons_of_mem _ (ih mapped entry member)
  obtain ⟨located, -⟩ := mem_listEvents.mp (decoded read entry member)
  exact located

theorem inOrder (read : readEvents db workspaceId = .ok history)
    (ordered : db.events.rows.Pairwise fun first second => first.createdAt ≤ second.createdAt) :
    InOrder history := by
  intro first member second other before
  obtain ⟨i, number, row⟩ := mem_history read member
  obtain ⟨j, number', row'⟩ := mem_history read other
  obtain ⟨bound, row⟩ := List.getElem?_eq_some_iff.mp row
  obtain ⟨bound', row'⟩ := List.getElem?_eq_some_iff.mp row'
  obtain same | earlier := Nat.eq_or_lt_of_le (show i ≤ j by omega)
  · subst same
    rw [← row, ← row']
  · rw [← row, ← row']
    exact List.pairwise_iff_getElem.mp ordered i j bound bound' earlier

omit [Platform] in
/-- The audit asks for a later second where a later row would do. -/
theorem failureWasLaterResolved_history {failure : EventDict} :
    failureWasLaterResolved failure ((history.map Prod.snd).filter isSuccess) = true ↔
      ∃ success ∈ history, failure.row.createdAt < success.2.row.createdAt ∧ Resolves failure success.2 := by
  rw [failureWasLaterResolved_iff]
  constructor
  · rintro ⟨event, member, later, task, kind⟩
    obtain ⟨member, succeeded⟩ := List.mem_filter.mp member
    obtain ⟨success, held, rfl⟩ := List.mem_map.mp member
    exact ⟨success, held, later, task, kind.imp_right fun repeats => ⟨succeeded, repeats⟩⟩
  · rintro ⟨success, member, later, task, kind⟩
    have succeeded : isSuccess success.2 = true := kind.elim isSuccess_of_done And.left
    exact ⟨success.2, List.mem_filter.mpr ⟨List.mem_map_of_mem member, succeeded⟩, later, task,
      kind.imp_right And.right⟩

/-- What the audit reports of a decoded history. -/
theorem mutationFailures_eq (known : (getWorkspace db workspaceId).isSome = true)
    (read : readEvents db workspaceId = .ok history) :
    mutationFailures db workspaceId = .ok ((history.filter fun failure => isFailure failure.2 &&
      !failureWasLaterResolved failure.2 ((history.map Prod.snd).filter isSuccess)).map
        fun failure => MutationFailure.ofEvent failure.2) := by
  have present : (getWorkspace db workspaceId).isNone = false := by
    rw [← Option.not_isSome, known]
    rfl
  have same : ∀ keeps : EventDict → Bool, (((history.map Prod.snd).filter isFailure).filter keeps).map
      MutationFailure.ofEvent = (history.filter fun failure => isFailure failure.2 && keeps failure.2).map
        fun failure => MutationFailure.ofEvent failure.2 := by
    intro keeps
    rw [List.filter_filter, List.filter_map, List.map_map]
    refine congrArg _ (List.filter_congr fun failure _ => ?_)
    exact Bool.and_comm ..
  unfold mutationFailures
  rw [present, read]
  exact congrArg Except.ok (same _)

omit [Platform] in
/-- Two selections, one within the other, look alike exactly if they are the same. -/
theorem map_filter_eq_iff {α β : Type} {f : α → β} {p q : α → Bool} {items : List α}
    (within : ∀ a ∈ items, q a = true → p a = true) :
    (items.filter p).map f = (items.filter q).map f ↔ ∀ a ∈ items, p a = true → q a = true := by
  have inner : items.filter q = (items.filter p).filter q := by
    rw [List.filter_filter]
    refine List.filter_congr fun a member => ?_
    cases chosen : q a with
    | false => rfl
    | true => rw [within a member chosen]; rfl
  constructor
  · intro same a member chosen
    have lengths := congrArg List.length same
    rw [List.length_map, List.length_map, inner] at lengths
    exact List.length_filter_eq_length_iff.mp lengths.symm a (List.mem_filter.mpr ⟨member, chosen⟩)
  · intro all
    exact congrArg _ (List.filter_congr fun a member => Bool.eq_iff_iff.mpr ⟨all a member, within a member⟩)

/-- **The audit drops exactly the resolved failures exactly if none of them waits for its own second.** -/
theorem mutationFailures_unresolved_iff
    (ordered : db.events.rows.Pairwise fun first second => first.createdAt ≤ second.createdAt)
    (known : (getWorkspace db workspaceId).isSome = true) (read : readEvents db workspaceId = .ok history) :
    mutationFailures db workspaceId = .ok (unresolved history) ↔ ResolvedLater history := by
  have times := inOrder read ordered
  have rows : ∀ failure ∈ history,
      (∃ success ∈ history, failure.2.row.createdAt < success.2.row.createdAt ∧ Resolves failure.2 success.2) →
        ∃ success ∈ history, failure.1 < success.1 ∧ Resolves failure.2 success.2 := by
    rintro failure member ⟨success, other, later, resolves⟩
    refine ⟨success, other, ?_, resolves⟩
    by_contra before
    exact absurd (times success other failure member (Nat.not_lt.mp before)) (Nat.not_le.mpr later)
  rw [mutationFailures_eq known read, unresolved, Except.ok.injEq, map_filter_eq_iff]
  · simp only [Bool.and_eq_true, Bool.not_eq_true', ← Bool.not_eq_true, failureWasLaterResolved_history,
      decide_eq_true_eq]
    constructor
    · intro kept failure member failed resolved
      by_contra unnoticed
      exact (kept failure member ⟨failed, unnoticed⟩).2 resolved
    · rintro settled failure member ⟨failed, unnoticed⟩
      exact ⟨failed, fun resolved => unnoticed (settled failure member failed resolved)⟩
  · intro failure member open_
    simp only [Bool.and_eq_true, Bool.not_eq_true', ← Bool.not_eq_true, failureWasLaterResolved_history,
      decide_eq_true_eq] at open_ ⊢
    exact ⟨open_.1, fun resolved => open_.2 (rows failure member resolved)⟩

end Histories

namespace Sample

open Coordinate.Sample

/-- An acceptance that failed. -/
def failed : EventRow :=
  { id := "e1", workspaceId := some "w", eventType := "harness.mutation_failed", actor := "a", target := none
    taskId := some "T1", idempotencyKey := "k:harness.mutation_failed", createdAt := 100
    payloadJson := .value (.obj [("operation", .str "accept"), ("owner", .str "a")]) }

/-- The retry that succeeded, written at the given second. -/
def retried (second : Nat) : EventRow :=
  { id := "e2", workspaceId := some "w", eventType := "assignment.accepted", actor := "a", target := none
    taskId := some "T1", idempotencyKey := "k2", createdAt := second
    payloadJson := .value (.obj [("owner", .str "a")]) }

/-- The installation after the failure and the retry. -/
def retriedAt (second : Nat) : Db :=
  { configured with
    events := ((Table.empty.insert? failed).bind (·.insert? (retried second))).getD .empty }

def decode (row : EventRow) : EventDict := ⟨row, row.decoded⟩

def historyAt (second : Nat) : History := [(1, decode failed), (2, decode (retried second))]

theorem retry_resolves (second : Nat) : Resolves (decode failed) (decode (retried second)) :=
  ⟨rfl, .inr ⟨rfl, ⟨fun _ derived => derived, fun _ _ => rfl⟩⟩⟩

theorem later_retry : ResolvedLater (historyAt 101) := by
  intro failure member isFailure _
  refine ⟨(2, decode (retried 101)), by decide, ?_⟩
  obtain rfl | rfl : failure = (1, decode failed) ∨ failure = (2, decode (retried 101)) := by
    simpa [historyAt] using member
  · exact ⟨by decide, retry_resolves 101⟩
  · exact absurd isFailure (by decide)

/-- A retry of the next second is noticed. -/
theorem later_retry_unresolved :
    mutationFailures (retriedAt 101) "w" = .ok (unresolved (historyAt 101)) :=
  (mutationFailures_unresolved_iff (by decide) (by decide) (by decide)).mpr later_retry

/-- A retry that succeeds within the second of the failure resolves it, and the failure is reported. -/
theorem retry_of_same_second_missed :
    (retriedAt 100).events.rows.Pairwise (fun first second => first.createdAt ≤ second.createdAt) ∧
      readEvents (retriedAt 100) "w" = .ok (historyAt 100) ∧
      Resolves (decode failed) (decode (retried 100)) ∧
      mutationFailures (retriedAt 100) "w" = .ok [.ofEvent (decode failed)] :=
  ⟨by decide, by decide, retry_resolves 100, by decide⟩

end Sample

end Coordinate.MutationAudit

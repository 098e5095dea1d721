import Coordinate.Model.SampleCheckout
import Coordinate.Proofs.ReceiptCalls
import Coordinate.Proofs.ReceiptPreflight

/-! # Receipts over all interleavings

Any number of preparations, claims, applications and consumptions of any actors with any arguments
interleave statement by statement, and other programs change everything but the events of receipts.
While claims are careful, the events of every receipt are one chain and every response repeats the
fingerprints that are recorded. Nothing makes a claim careful: between the lookup of an earlier claim
and the append of its own another claim may be recorded, and no digest is required of it.
-/

namespace Coordinate.Completion

section Statements

variable [Platform]

/-- A row that no operation on receipts has written. -/
def isForeign (row : EventRow) : Bool :=
  row.receipt.isNone && !Text.startsWith row.idempotencyKey "receipt:"

/-- A change by another program: it may record foreign events and do anything to the other tables. -/
def change (next s : Ledger) : Option Ledger :=
  if rowsOf s <+: rowsOf next ∧ ((rowsOf next).drop (rowsOf s).length).all isForeign ∧
      next.readings = s.readings then some next
  else none

/-- A ledger before the first preparation. -/
structure Initial (s : Ledger) : Prop where
  rows : (rowsOf s).all isForeign = true
  readings : s.readings = []

variable [Deployment]

/-- All interleavings of the operations. -/
def operations : Machine (Pool Call Statement Ledger Exn Response) (Pool.Move Call Ledger) :=
  Pool.machine Call.perform change

/-- The completion of a consumed receipt, under the event `consumed`. -/
structure Terminal (s : Ledger) (receiptId : String) (consumed : EventRow) : Prop where
  holds : ∃ authorized claimed applied done item reading count adapter checklist,
    (rowsOf s).filter (fun row => row.receipt = some receiptId && row.eventType = "task.done") =
      [done] ∧
    receiptRows receiptId ((rowsOf s).take count) = [authorized, claimed, applied] ∧
    done.workspaceId = consumed.workspaceId ∧ done.taskId = consumed.taskId ∧
    authorized.decoded.get "workspace_id" = Json.ofOption done.workspaceId ∧
    authorized.decoded.get "task_id" = Json.ofOption done.taskId ∧
    authorized.decoded.get "authorized_actor" = .str done.actor ∧
    done.decoded.get "applied_fingerprint" = applied.decoded.get "after_fingerprint" ∧
    done.decoded.get "applied_fingerprint" = claimed.decoded.get "expected_after_fingerprint" ∧
    done.decoded.get "applied_fingerprint" = .str (computeItemFingerprint item) ∧
    item.get "status" = .str "done" ∧ (workflowOf item).get "status" = .str "closed" ∧
    terminalOwnershipProblem item = none ∧
    -- the item was read when the receipt was applied and not yet consumed
    s.readings[reading]? = some count ∧ Deployment.readChecklist reading adapter = .ok checklist ∧
    findItem checklist (authorized.decoded.get "task_id") = some item

/-- The transitions of a receipt, in the order in which they have to be recorded. -/
def transitionOrder : List String :=
  ["completion.authorized", "completion.claimed", "completion.applied", "completion.consumed"]

structure ChainLaws (s : Ledger) : Prop where
  ordered : ∀ receiptId,
    ((receiptRows receiptId (rowsOf s)).filter isCompletion).map (·.eventType) <+: transitionOrder
  terminal : ∀ consumed ∈ rowsOf s, ∀ receiptId, consumed.receipt = some receiptId →
    consumed.eventType = "completion.consumed" → Terminal s receiptId consumed
  unbroken : ∀ receiptId reason message,
    lookupReceiptForPreflight s.work.store receiptId ≠ .ok (some (.broken reason message))

/-- The laws of the ledger, and what the calls that have returned have reported. -/
structure Faithful (pool : Pool Call Statement Ledger Exn Response) : Prop where
  laws : ChainLaws pool.shared
  reported : ∀ call response, (call, .done response) ∈ pool.parties →
    Reported call response pool.shared

end Statements

section Laws

variable [Platform] [Deployment] {s : Ledger} {grant : Grant} {expected : String} {chain : List EventRow}

theorem Initial.lawful (initial : Initial s) : Lawful s := by
  have foreign : ∀ row ∈ rowsOf s, row.receipt = none ∧
      Text.startsWith row.idempotencyKey "receipt:" = false := by
    intro row member
    have free := List.all_eq_true.mp initial.rows row member
    simpa [isForeign] using free
  refine ⟨fun row member _ => (foreign row member).2, ?_, ?_⟩
  · intro row member receiptId receipt
    rw [(foreign row member).1] at receipt
    cases receipt
  · rw [initial.readings]
    exact nofun

/-- Other programs keep a lawful ledger. -/
theorem Lawful.change (lawful : Lawful s) {next t : Ledger}
    (changed : Completion.change next s = some t) : Lawful t ∧ Evolves s t := by
  unfold Completion.change at changed
  split at changed
  swap
  · cases changed
  rename_i allowed
  cases changed
  obtain ⟨⟨added, rows⟩, foreign, readings⟩ := allowed
  rw [← rows, List.drop_left, List.all_eq_true] at foreign
  have evolves : Evolves s next := ⟨⟨added, rows⟩, readings ▸ List.prefix_rfl⟩
  have unmarked : ∀ receiptId, receiptRows receiptId added = [] := fun receiptId =>
    List.filter_eq_nil_iff.mpr fun row member => by
      have free := foreign row member
      simp only [isForeign, Bool.and_eq_true, Option.isNone_iff_eq_none] at free
      simp [free.1]
  refine ⟨⟨?_, ?_, ?_⟩, evolves⟩
  · intro row member receipt
    rw [← rows, List.mem_append] at member
    obtain old | new := member
    · exact lawful.foreign row old receipt
    · have free := foreign row new
      simp only [isForeign, Bool.and_eq_true, Bool.not_eq_true'] at free
      exact free.2
  · intro row member receiptId receipt
    rw [← rows, List.mem_append] at member
    obtain old | new := member
    · obtain ⟨grant, expected, same, shape⟩ := lawful.chains row old receiptId receipt
      rw [← rows, receiptRows_append, unmarked, List.append_nil]
      exact ⟨grant, expected, same, shape.evolves evolves⟩
    · have listed := mem_receiptRows.mpr ⟨new, receipt⟩
      rw [unmarked] at listed
      cases listed
  · intro count member
    rw [readings] at member
    rw [← rows, List.length_append]
    exact Nat.le_add_right_of_le (lawful.noted count member)

theorem Chain.ordered (shape : Chain s grant expected chain) :
    (chain.filter isCompletion).map (·.eventType) <+: transitionOrder := by
  cases shape with
  | authorized authorizes =>
    simp [authorizes.records.isCompletion, authorizes.type, transitionOrder]
  | claimed authorizes claims =>
    simp [authorizes.records.isCompletion, claims.records.isCompletion, authorizes.type,
      claims.records.type, transitionOrder, Transition.eventType]
  | applied authorizes claims applies =>
    have applied := Grant.Applies.records applies
    simp [authorizes.records.isCompletion, claims.records.isCompletion, applied.isCompletion,
      authorizes.type, claims.records.type, applied.type, transitionOrder, Transition.eventType]
  | consumed authorizes claims applies completes consumes finishes deployed =>
    have applied := Grant.Applies.records applies
    simp [authorizes.records.isCompletion, claims.records.isCompletion, applied.isCompletion,
      completes.records.isCompletion, consumes.records.isCompletion, authorizes.type,
      claims.records.type, applied.type, consumes.records.type, transitionOrder,
      Transition.eventType]

/-- What the last event of a chain implies. -/
theorem Chain.terminal (shape : Chain s grant expected (receiptRows grant.receiptId (rowsOf s)))
    {consumed : EventRow} (member : consumed ∈ receiptRows grant.receiptId (rowsOf s))
    (type : consumed.eventType = Transition.consumed.eventType) :
    Terminal s grant.receiptId consumed := by
  have other : ∀ {row : EventRow} {transition : Transition}, grant.Records transition row →
      transition ≠ .consumed → consumed ≠ row := by
    rintro row transition records different rfl
    exact different (Transition.eventType_inj (records.type.symm.trans type))
  have tasks : (rowsOf s).filter (fun row =>
      row.receipt = some grant.receiptId && row.eventType = "task.done") =
        (receiptRows grant.receiptId (rowsOf s)).filter fun row => row.eventType = "task.done" := by
    rw [receiptRows, List.filter_filter]
    exact List.filter_congr fun row _ => Bool.and_comm _ _
  generalize receiptRows grant.receiptId (rowsOf s) = chain at shape member tasks
  cases shape with
  | authorized authorizes =>
    exact absurd (List.mem_singleton.mp member) (other authorizes.records (by decide))
  | claimed authorizes claims =>
    simp [other authorizes.records (by decide), other claims.records (by decide)] at member
  | applied authorizes claims applies =>
    simp [other authorizes.records (by decide), other claims.records (by decide),
      other (Grant.Applies.records applies) (by decide)] at member
  | @consumed a c p d x item authorizes claims applies completes consumes finishes deployed =>
    simp only [List.mem_cons, other authorizes.records (by decide), other claims.records (by decide),
      other (Grant.Applies.records applies) (by decide), other completes.records (by decide), false_or,
      List.not_mem_nil, or_false] at member
    subst member
    have only : (rowsOf s).filter (fun row =>
        row.receipt = some grant.receiptId && row.eventType = "task.done") = [d] := by
      rw [tasks]
      simp [authorizes.type, claims.records.type, (Grant.Applies.records applies).type,
        completes.records.type, consumes.records.type, Transition.eventType]
    have decoded : a.decoded = grant.payload := by rw [EventRow.decoded, authorizes.decoded]
    have fingerprint := completes.fingerprint
    obtain ⟨reading, count, adapter, checklist, noted, bound, read, found, stood⟩ := deployed
    obtain ⟨-, claimedAt, claimedId, claimedOn, rfl⟩ := claims
    obtain ⟨appliedAt, appliedId, appliedOn, rfl⟩ := applies
    obtain ⟨_, doneId, doneOn, admits, _, rfl⟩ := completes
    obtain ⟨_, consumedAt, consumedId, consumedOn, _, rfl⟩ := consumes
    refine ⟨a, _, _, _, item, reading, count, adapter, checklist, only, stood, rfl, rfl, ?_, ?_, ?_,
      fingerprint, fingerprint, ?_, finishes.status, finishes.workflow, finishes.unowned, noted, read,
      ?_⟩
    · rw [decoded, authorizes.workspaceId]
      rfl
    · rw [decoded, authorizes.taskId]
      rfl
    · rw [decoded, authorizes.actor]
      exact congrArg Json.str admits.actor.symm
    · rw [fingerprint, finishes.fingerprint]
    · rw [decoded, authorizes.taskId, found]

theorem Lawful.laws (digests : ∀ text, isCanonicalSha256 (.str (sha256 text)) = true)
    (lawful : Lawful s) : ChainLaws s := by
  refine ⟨fun receiptId => ?_, fun consumed member receiptId receipt type => ?_,
    lawful.unbroken digests⟩
  · cases rows : receiptRows receiptId (rowsOf s) with
    | nil => exact List.nil_prefix
    | cons row rest =>
      have member : row ∈ receiptRows receiptId (rowsOf s) := rows ▸ List.mem_cons_self ..
      obtain ⟨stored, receipt⟩ := mem_receiptRows.mp member
      obtain ⟨grant, expected, same, shape⟩ := lawful.chains row stored receiptId receipt
      rw [← rows]
      exact shape.ordered
  · obtain ⟨grant, expected, rfl, shape⟩ := lawful.chains consumed member receiptId receipt
    exact shape.terminal (mem_receiptRows.mpr ⟨member, receipt⟩) type

end Laws

/-- **Receipt chains.** In every interleaving in which no identifier repeats and every claim is careful,
the events of each receipt are one chain that the preflight accepts, and every call that has returned
reports the recorded fingerprints. -/
theorem receipt_chains [Platform] [Deployment]
    (digests : ∀ text, isCanonicalSha256 (.str (sha256 text)) = true) {s : Ledger} (initial : Initial s) {pool : Pool Call Statement Ledger Exn Response}
    (run : operations.Reaches
      (Pool.Meets fun call s tag => Unused s tag ∧ Careful call s tag) (Pool.initial s) pool) :
    Faithful pool := by
  obtain ⟨lawful, reported⟩ := Pool.Steady.reaches Evolves.refl Evolves.trans
    (fun call s _ => perform_sound call s)
    (fun _ _ _ lawful changed => lawful.change changed) initial.lawful run
  exact ⟨lawful.laws digests, reported⟩

namespace Sample

open Coordinate.Sample

/-- The item of the task, which the gate lets pass and a consumption accepts. -/
def item : Json :=
  .obj [("id", .str "t"), ("status", .str "done"), ("workflow", .obj [("status", .str "closed")])]

local instance : Deployment := deployment fun _ => checklistOf item

def start : Ledger := ⟨{ initialWork with store := configured }, [], []⟩

theorem start_initial : Initial start := ⟨rfl, rfl⟩

theorem digests_canonical (text : List Char) : isCanonicalSha256 (.str (Coordinate.sha256 text)) = true := by
  have known : ∀ entry ∈ digests, isCanonicalSha256 (.str entry.2) = true := by decide +kernel
  change isCanonicalSha256 (.str (Coordinate.Sample.sha256 _ text)) = true
  unfold Coordinate.Sample.sha256
  cases found : digests.find? fun known => known.1.text = text with
  | some entry => exact known entry (List.mem_of_find?_eq_some found)
  | none => exact (by decide +kernel : isCanonicalSha256 (.str zeroDigest) = true)

/-- Whether the identifier that a statement draws is unused. -/
def unused (s : Ledger) : Statement → Bool
  | .issue => (rowsOf s).all fun row => row.receipt ≠ some (Platform.uuid4 s.work.draws)
  | _ => true

theorem unused_sound {s : Ledger} {tag : Statement} (holds : unused s tag = true) : Unused s tag := by
  cases tag with
  | issue => simpa [unused, Unused] using holds
  | _ => trivial

/-- Whether a claim is careful. -/
def careful : Call → Ledger → Statement → Bool
  | .claim claim, s, .append _ => isCanonicalSha256 (.str claim.expectedAfterFingerprint) &&
      (rowsOf s).all fun row => row.eventType ≠ "completion.claimed" ||
        row.receipt ≠ some claim.receiptId ||
        row.decoded.get "expected_after_fingerprint" = .str claim.expectedAfterFingerprint
  | _, _, _ => true

theorem careful_sound {call : Call} {s : Ledger} {tag : Statement}
    (holds : careful call s tag = true) : Careful call s tag := by
  unfold careful at holds
  split at holds
  · simp only [Bool.and_eq_true, List.all_eq_true, Bool.or_eq_true, decide_eq_true_eq] at holds
    refine ⟨holds.1, fun row member type receipt => ?_⟩
    simpa [type, receipt] using holds.2 row member
  · unfold Careful
    split
    · simp_all
    · trivial

def receiptId : String := uuid 0

/-- A claim of the receipt that expects the given fingerprint. -/
def claimOf (expected : String) : Call :=
  .claim ⟨receiptId, "w", "t", "a", zeroDigest, expected⟩

/-- The statements of a party one after another. -/
def performs (index count : Nat) : List (Pool.Move Call Ledger) :=
  List.replicate count (.perform index)

/-- One call after the other: a preparation, a claim, an application and a consumption. -/
def completion : List (Pool.Move Call Ledger) :=
  .start (.prepare { workspaceId := "w", taskId := "t", requester := "a" }) :: performs 0 8 ++
    .start (claimOf zeroDigest) :: performs 1 7 ++
    .start (.apply ⟨receiptId, "w", "t", "a", zeroDigest⟩) :: performs 2 7 ++
    .start (.consume { receiptId, actor := "a" }) :: performs 3 9

/-- The pool in which every call has returned and the receipt is consumed. -/
def consumed (pool : Pool Call Statement Ledger Exn Response) : Bool :=
  (pool.parties.all fun party => match party.2 with
    | .done _ => true
    | _ => false) &&
  (rowsOf pool.shared).map (·.eventType) =
    ["completion.authorized", "completion.claimed", "completion.applied", "task.done",
      "completion.consumed"]

/-- The receipt is consumed in a run whose claim is careful. -/
theorem completion_faithful : ∃ pool, consumed pool = true ∧ Faithful pool := by
  have ran : ((operations.runIf (Pool.passes fun call s tag => unused s tag && careful call s tag)
      (Pool.initial start) completion).any consumed) = true := by
    decide +kernel
  have relied : ∀ call s tag, (unused s tag && careful call s tag) = true →
      Unused s tag ∧ Careful call s tag := by
    intro call s tag passed
    rw [Bool.and_eq_true] at passed
    exact ⟨unused_sound passed.1, careful_sound passed.2⟩
  obtain ⟨pool, run, done⟩ := Machine.exists_reaches (Pool.meets_of_passes relied) ran
  exact ⟨pool, done, receipt_chains digests_canonical start_initial run⟩

/-- Another fingerprint. -/
def oneDigest : String := "1111111111111111111111111111111111111111111111111111111111111111"

/-- Two claims have both found the receipt unclaimed. -/
def race : List (Pool.Move Call Ledger) :=
  .start (.prepare { workspaceId := "w", taskId := "t", requester := "a" }) :: performs 0 8 ++
    .start (claimOf zeroDigest) :: .start (claimOf oneDigest) :: performs 1 6 ++ performs 2 7 ++
    performs 1 1

/-- The claim that came second reports a fingerprint that is recorded nowhere. -/
def misreported (pool : Pool Call Statement Ledger Exn Response) : Bool :=
  match (pool.parties[1]? : Option (Call × LedgerProgram Response)) with
  | some (.claim _, .done (.claimed result)) =>
    result.expectedAfterFingerprint = .str zeroDigest &&
      (rowsOf pool.shared).all fun row =>
        row.decoded.get "expected_after_fingerprint" ≠ .str zeroDigest
  | _ => false

theorem race_misreports : ¬ ∀ s pool, Initial s →
    operations.Reaches (Pool.Meets fun _ s tag => Unused s tag) (Pool.initial s) pool →
      Faithful pool := by
  intro faithful
  have ran : ((operations.runIf (Pool.passes fun _ s tag => unused s tag)
      (Pool.initial start) race).any misreported) = true := by
    decide +kernel
  obtain ⟨pool, run, wrong⟩ := Machine.exists_reaches
    (Pool.meets_of_passes fun _ _ _ => unused_sound) ran
  have reported := (faithful start pool start_initial run).reported
  unfold misreported at wrong
  split at wrong
  swap
  · cases wrong
  rename_i claim result found
  simp only [Bool.and_eq_true, decide_eq_true_eq, List.all_eq_true] at wrong
  obtain ⟨expected, unrecorded⟩ := wrong
  obtain ⟨row, member, -, -, fields⟩ := reported _ _ (List.mem_of_getElem? found)
  have recorded := fields ("expected_after_fingerprint", result.expectedAfterFingerprint) (by simp)
  exact absurd (recorded.trans expected) (unrecorded row member)

end Sample

end Coordinate.Completion

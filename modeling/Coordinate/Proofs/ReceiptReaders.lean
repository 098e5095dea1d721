import Coordinate.Library.Audit
import Coordinate.Model.ProjectionDoctor
import Coordinate.Proofs.ReceiptPreflight

/-! # Two readers of a receipt chain

The preflight stops at the first event that does not fit, the doctor reads on and collects problems. What an
event has to satisfy is stated once, in terms of the events before it. The readers differ in one point: to
which workspace, task and actor a chain belongs is settled for the preflight by the first value that is given,
and for the doctor by the first one that is not blank.
-/

namespace Coordinate.Completion

section Specification

/-- The fields that say to whom a receipt belongs. -/
def workspaceOf (payload : Json) : Json := payload.get "workspace_id"
def taskOf (payload : Json) : Json := payload.get "task_id"

def identityFields : List (Json → Json) := [workspaceOf, taskOf, actorOf]

def firstGiven (values : List Json) : Json := (values.find? (· ≠ .null)).getD .null
def firstFilled (values : List Json) : Json := (values.find? Json.truthy).getD .null

/-- A field of a chain, as one of the readers settles it. -/
def settled (pick : List Json → Json) (field : Json → Json) (events : List EventDict) : Json :=
  pick (events.map fun event => field (payloadOf event))

def harnessOf (event : EventDict) : Json := (payloadOf event).get "harness_fingerprint"
def beforeOf (event : EventDict) : Json := (payloadOf event).get "before_fingerprint"
def expectedOf (event : EventDict) : Json := (payloadOf event).get "expected_after_fingerprint"
def afterOf (event : EventDict) : Json := (payloadOf event).get "after_fingerprint"
def doneIdOf (event : EventDict) : Json := (payloadOf event).get "task_done_event_id"

/-- An event names a completion of the task under the receipt, with the digest that was applied. -/
def Terminates (db : Db) (receiptId : String) (applied event : EventDict) : Prop :=
  (doneIdOf event).truthy = true ∧ ∃ done, eventById db (doneIdOf event) = .ok (some done) ∧
    done.eventType = "task.done" ∧ (terminalPayload done).get "receipt_id" = .str receiptId ∧
    isCanonicalSha256 ((terminalPayload done).get "applied_fingerprint") = true ∧
    (terminalPayload done).get "applied_fingerprint" = afterOf applied

/-- An event carries the status and the digests that the events before it ask for. -/
def Linked (db : Db) (receiptId : String) : List EventDict → EventDict → Prop
  | [], event => statusOf event = .str statusAuthorized ∧ isCanonicalSha256 (harnessOf event) = true
  | [a], event => statusOf event = .str statusClaimed ∧ isCanonicalSha256 (beforeOf event) = true ∧
      beforeOf event = harnessOf a ∧ isCanonicalSha256 (expectedOf event) = true
  | [a, c], event => statusOf event = .str statusApplied ∧ isCanonicalSha256 (beforeOf event) = true ∧
      beforeOf event = harnessOf a ∧ isCanonicalSha256 (afterOf event) = true ∧
      afterOf event = expectedOf c
  | [_, _, p], event => statusOf event = .str statusConsumed ∧ Terminates db receiptId p event
  | _, _ => False

/-- What an event says about the owners of the chain is what is settled with it. -/
def Agrees (pick : List Json → Json) (before : List EventDict) (event : EventDict) : Prop :=
  ∀ field ∈ identityFields, (field (payloadOf event)).truthy = true →
    field (payloadOf event) = settled pick field (before ++ [event])

/-- The completion that a consumed event names lies in the workspace and task that are settled with it. -/
def Housed (pick : List Json → Json) (db : Db) (before : List EventDict) (event : EventDict) : Prop :=
  statusOf event = .str statusConsumed → ∀ done, eventById db (doneIdOf event) = .ok (some done) →
    Json.ofOption done.workspaceId = settled pick workspaceOf (before ++ [event]) ∧
    Json.ofOption done.taskId = settled pick taskOf (before ++ [event])

def Fits (pick : List Json → Json) (db : Db) (receiptId : String) (before : List EventDict)
    (event : EventDict) : Prop :=
  Linked db receiptId before event ∧ Agrees pick before event ∧ Housed pick db before event

variable {db : Db} {receiptId : String} {pick : List Json → Json} {before : List EventDict}
  {event : EventDict}

theorem Linked.length (linked : Linked db receiptId before event) : before.length < 4 := by
  match before, linked with
  | [], _ | [_], _ | [_, _], _ | [_, _, _], _ => simp

theorem Linked.status (linked : Linked db receiptId before event) :
    ∃ status, statusOrder[before.length]? = some status ∧ statusOf event = .str status := by
  match before, linked with
  | [], linked | [_], linked | [_, _], linked | [_, _, _], linked => exact ⟨_, rfl, linked.1⟩

/-- A chain of linked events has at most one of each status. -/
theorem length_of_linked {chain : List EventDict} (linked : Log.Sound (Linked db receiptId) chain) :
    chain.length ≤ 4 := by
  rcases List.eq_nil_or_concat chain with rfl | ⟨earlier, last, rfl⟩
  · simp
  · rw [List.concat_eq_append] at linked ⊢
    have own := (Log.sound_snoc.mp linked).2.length
    simp only [List.length_append, List.length_singleton]
    omega

theorem firstGiven_snoc (values : List Json) (own : Json) :
    firstGiven (values ++ [own]) = if firstGiven values = .null then own else firstGiven values := by
  unfold firstGiven
  rw [List.find?_append]
  cases found : values.find? (· ≠ .null) with
  | some value =>
    have given : value ≠ .null := by simpa using List.find?_some found
    simp [given]
  | none => by_cases own = .null <;> simp_all

theorem firstFilled_snoc (values : List Json) (own : Json) :
    firstFilled (values ++ [own]) = fillLink (firstFilled values) own := by
  unfold firstFilled fillLink
  rw [List.find?_append]
  cases found : values.find? Json.truthy with
  | some value =>
    have filled : value ≠ .null := by
      rintro rfl
      cases List.find?_some found
    simp [filled]
  | none => cases filled : own.truthy <;> simp [filled]

theorem settled_snoc_given (field : Json → Json) :
    settled firstGiven field (before ++ [event]) =
      if settled firstGiven field before = .null then field (payloadOf event)
      else settled firstGiven field before := by
  rw [settled, List.map_append]
  exact firstGiven_snoc _ _

theorem settled_snoc_filled (field : Json → Json) :
    settled firstFilled field (before ++ [event]) =
      fillLink (settled firstFilled field before) (field (payloadOf event)) := by
  rw [settled, List.map_append]
  exact firstFilled_snoc _ _

end Specification

section Preflight

variable {db : Db} {receiptId : String} {scan next : PreflightScan} {before : List EventDict}
  {event : EventDict} {payload : Json}

theorem requireDigest_iff {value : Json} {missing noDigest : String} {u : Unit} :
    requireDigest value missing noDigest = .ok u ↔ isCanonicalSha256 value = true := by
  constructor
  · intro required
    obtain ⟨_, -, required⟩ := Except.bind_ok.mp required
    simpa using raiseIf_except_ok.mp required
  · exact requireDigest_ok

theorem requireLink_iff {label : String} {value chain : Json} {u : Unit} :
    requireLink label value chain = .ok u ↔ (value.truthy = true → value = chain) := by
  rw [requireLink, raiseIf_except_ok]
  simp

/-- The links of a scan, with those of one more payload. -/
def withLinks (scan : PreflightScan) (payload : Json) : PreflightScan :=
  { scan with
    workspaceId := if scan.workspaceId = .null then workspaceOf payload else scan.workspaceId
    taskId := if scan.taskId = .null then taskOf payload else scan.taskId
    actor := if scan.actor = .null then actorOf payload else scan.actor }

theorem scanLinks_iff : scanLinks scan payload = .ok next ↔ next = withLinks scan payload ∧
    ((workspaceOf payload).truthy = true → workspaceOf payload = next.workspaceId) ∧
    ((taskOf payload).truthy = true → taskOf payload = next.taskId) ∧
    ((actorOf payload).truthy = true → actorOf payload = next.actor) := by
  constructor
  · intro scanned
    obtain ⟨_, workspace, scanned⟩ := Except.bind_ok.mp scanned
    obtain ⟨_, task, scanned⟩ := Except.bind_ok.mp scanned
    obtain ⟨_, acting, scanned⟩ := Except.bind_ok.mp scanned
    cases scanned
    exact ⟨rfl, requireLink_iff.mp workspace, requireLink_iff.mp task, requireLink_iff.mp acting⟩
  · rintro ⟨rfl, workspace, task, acting⟩
    refine Except.bind_ok.mpr ⟨(), requireLink_iff.mpr workspace, ?_⟩
    refine Except.bind_ok.mpr ⟨(), requireLink_iff.mpr task, ?_⟩
    exact Except.bind_ok.mpr ⟨(), requireLink_iff.mpr acting, rfl⟩

theorem scanAuthorized_iff : scanAuthorized scan payload = .ok next ↔
    isCanonicalSha256 (payload.get "harness_fingerprint") = true ∧
      next = { scan with authorizedFingerprint := payload.get "harness_fingerprint" } := by
  constructor
  · intro scanned
    obtain ⟨_, digest, scanned⟩ := Except.bind_ok.mp scanned
    cases scanned
    exact ⟨requireDigest_iff.mp digest, rfl⟩
  · rintro ⟨digest, rfl⟩
    exact Except.bind_ok.mpr ⟨(), requireDigest_iff.mpr digest, rfl⟩

theorem scanBefore_iff {status against : String} {u : Unit} :
    scanBefore scan payload status against = .ok u ↔
      isCanonicalSha256 (payload.get "before_fingerprint") = true ∧
        payload.get "before_fingerprint" = scan.authorizedFingerprint := by
  constructor
  · intro scanned
    obtain ⟨_, digest, scanned⟩ := Except.bind_ok.mp scanned
    exact ⟨requireDigest_iff.mp digest, not_not.mp (raiseIf_except_ok.mp scanned)⟩
  · rintro ⟨digest, same⟩
    exact Except.bind_ok.mpr ⟨(), requireDigest_iff.mpr digest, raiseIf_except_ok.mpr (not_not.mpr same)⟩

theorem scanClaimed_iff : scanClaimed scan payload = .ok next ↔
    isCanonicalSha256 (payload.get "before_fingerprint") = true ∧
    payload.get "before_fingerprint" = scan.authorizedFingerprint ∧
    isCanonicalSha256 (payload.get "expected_after_fingerprint") = true ∧
      next = { scan with claimedExpectedAfter := payload.get "expected_after_fingerprint" } := by
  constructor
  · intro scanned
    obtain ⟨_, before, scanned⟩ := Except.bind_ok.mp scanned
    obtain ⟨_, digest, scanned⟩ := Except.bind_ok.mp scanned
    cases scanned
    obtain ⟨first, same⟩ := scanBefore_iff.mp before
    exact ⟨first, same, requireDigest_iff.mp digest, rfl⟩
  · rintro ⟨first, same, digest, rfl⟩
    refine Except.bind_ok.mpr ⟨(), scanBefore_iff.mpr ⟨first, same⟩, ?_⟩
    exact Except.bind_ok.mpr ⟨(), requireDigest_iff.mpr digest, rfl⟩

theorem scanApplied_iff : scanApplied scan payload = .ok next ↔
    isCanonicalSha256 (payload.get "before_fingerprint") = true ∧
    payload.get "before_fingerprint" = scan.authorizedFingerprint ∧
    isCanonicalSha256 (payload.get "after_fingerprint") = true ∧
    payload.get "after_fingerprint" = scan.claimedExpectedAfter ∧
      next = { scan with appliedAfter := payload.get "after_fingerprint" } := by
  constructor
  · intro scanned
    obtain ⟨_, before, scanned⟩ := Except.bind_ok.mp scanned
    obtain ⟨_, digest, scanned⟩ := Except.bind_ok.mp scanned
    obtain ⟨_, expected, scanned⟩ := Except.bind_ok.mp scanned
    cases scanned
    obtain ⟨first, same⟩ := scanBefore_iff.mp before
    exact ⟨first, same, requireDigest_iff.mp digest, not_not.mp (raiseIf_except_ok.mp expected), rfl⟩
  · rintro ⟨first, same, digest, expected, rfl⟩
    refine Except.bind_ok.mpr ⟨(), scanBefore_iff.mpr ⟨first, same⟩, ?_⟩
    refine Except.bind_ok.mpr ⟨(), requireDigest_iff.mpr digest, ?_⟩
    exact Except.bind_ok.mpr ⟨(), raiseIf_except_ok.mpr (not_not.mpr expected), rfl⟩

/-- A terminal that belongs to the chain. -/
theorem scanTerminal_iff {doneId : String} {done : EventRow} {u : Unit} :
    scanTerminal receiptId scan doneId done = .ok u ↔ done.eventType = "task.done" ∧
      (Json.ofOption done.workspaceId = scan.workspaceId ∧
        Json.ofOption done.taskId = scan.taskId) ∧
      (terminalPayload done).get "receipt_id" = .str receiptId ∧
      isCanonicalSha256 ((terminalPayload done).get "applied_fingerprint") = true ∧
      (terminalPayload done).get "applied_fingerprint" = scan.appliedAfter := by
  constructor
  · intro scanned
    obtain ⟨_, type, scanned⟩ := Except.bind_ok.mp scanned
    obtain ⟨_, housed, scanned⟩ := Except.bind_ok.mp scanned
    obtain ⟨_, receipt, scanned⟩ := Except.bind_ok.mp scanned
    obtain ⟨_, digest, scanned⟩ := Except.bind_ok.mp scanned
    have houses := not_or.mp (raiseIf_except_ok.mp housed)
    exact ⟨not_not.mp (raiseIf_except_ok.mp type), ⟨not_not.mp houses.1, not_not.mp houses.2⟩,
      not_not.mp (raiseIf_except_ok.mp receipt), requireDigest_iff.mp digest,
      not_not.mp (raiseIf_except_ok.mp scanned)⟩
  · rintro ⟨type, ⟨workspace, task⟩, receipt, digest, same⟩
    refine Except.bind_ok.mpr ⟨(), raiseIf_except_ok.mpr (not_not.mpr type), ?_⟩
    refine Except.bind_ok.mpr ⟨(), raiseIf_except_ok.mpr (not_or.mpr ⟨not_not.mpr workspace,
      not_not.mpr task⟩), ?_⟩
    refine Except.bind_ok.mpr ⟨(), raiseIf_except_ok.mpr (not_not.mpr receipt), ?_⟩
    exact Except.bind_ok.mpr ⟨(), requireDigest_iff.mpr digest,
      raiseIf_except_ok.mpr (not_not.mpr same)⟩

theorem scanConsumed_iff {eventId : String} : scanConsumed db receiptId scan payload eventId = .ok next ↔
    (payload.get "task_done_event_id").truthy = true ∧ scan.appliedAfter.truthy = true ∧
      ∃ done, eventById db (payload.get "task_done_event_id") = .ok (some done) ∧
        scanTerminal receiptId scan (payload.get "task_done_event_id").pyStr done = .ok () ∧
        next = { scan with terminalEventId := .str eventId } := by
  constructor
  · intro scanned
    obtain ⟨_, given, scanned⟩ := Except.bind_ok.mp scanned
    obtain ⟨_, applied, scanned⟩ := Except.bind_ok.mp scanned
    rw [raiseIf_except_ok, not_not] at given applied
    split at scanned
    · cases scanned
    · cases scanned
    · rename_i done found
      obtain ⟨_, terminal, scanned⟩ := Except.bind_ok.mp scanned
      cases scanned
      exact ⟨given, applied, done, found, terminal, rfl⟩
  · rintro ⟨given, applied, done, found, terminal, rfl⟩
    refine Except.bind_ok.mpr ⟨(), raiseIf_except_ok.mpr (not_not.mpr given), ?_⟩
    refine Except.bind_ok.mpr ⟨(), raiseIf_except_ok.mpr (not_not.mpr applied), ?_⟩
    rw [found]
    exact Except.bind_ok.mpr ⟨(), terminal, rfl⟩

/-- Of the statuses only the next one is accepted. -/
theorem scanStatus_iff {status : String} {n : Nat} (few : n ≤ 4)
    (seen : scan.seen = (statusOrder.take n).reverse) : scanStatus scan payload = .ok status ↔
      statusOrder[n]? = some status ∧ payload.get "status" = .str status := by
  by_cases known : ∃ text ∈ statusOrder, payload.get "status" = .str text
  · obtain ⟨text, member, same⟩ := known
    simp only [statusOrder, List.mem_cons, List.not_mem_nil, or_false] at member
    unfold scanStatus
    rw [same, seen]
    have bounded : n = 0 ∨ n = 1 ∨ n = 2 ∨ n = 3 ∨ n = 4 := by omega
    obtain rfl | rfl | rfl | rfl := member <;> obtain rfl | rfl | rfl | rfl | rfl := bounded <;>
      simp [statusOrder, statusAuthorized, statusClaimed, statusApplied, statusConsumed, raiseIf,
        bind, Except.bind, pure, Except.pure, throw, throwThe, MonadExceptOf.throw] <;>
      (rintro rfl; decide)
  · have unknown : statusOrder.find? (fun text => payload.get "status" = .str text) = none := by
      simpa using known
    constructor
    · intro scanned
      rw [scanStatus] at scanned
      dsimp only at scanned
      rw [unknown] at scanned
      cases scanned
    · rintro ⟨listed, same⟩
      exact absurd ⟨status, List.mem_of_getElem? listed, same⟩ known

/-- What the scan has kept of a chain that it has accepted. -/
structure Scanned (events : List EventDict) (scan : PreflightScan) : Prop where
  seen : scan.seen = (statusOrder.take events.length).reverse
  workspaceId : scan.workspaceId = settled firstGiven workspaceOf events
  taskId : scan.taskId = settled firstGiven taskOf events
  actor : scan.actor = settled firstGiven actorOf events
  fingerprint : scan.authorizedFingerprint = (events[0]?.map harnessOf).getD .null
  expected : scan.claimedExpectedAfter = (events[1]?.map expectedOf).getD .null
  after : scan.appliedAfter = (events[2]?.map afterOf).getD .null
  status : scan.status = (events.getLast?.map statusOf).getD (.str statusAuthorized)

theorem scanned_nil : Scanned [] {} := ⟨rfl, rfl, rfl, rfl, rfl, rfl, rfl, rfl⟩

theorem agrees_iff {pick : List Json → Json} : Agrees pick before event ↔
    ((workspaceOf (payloadOf event)).truthy = true →
      workspaceOf (payloadOf event) = settled pick workspaceOf (before ++ [event])) ∧
    ((taskOf (payloadOf event)).truthy = true →
      taskOf (payloadOf event) = settled pick taskOf (before ++ [event])) ∧
    ((actorOf (payloadOf event)).truthy = true →
      actorOf (payloadOf event) = settled pick actorOf (before ++ [event])) := by
  simp [Agrees, identityFields]

/-- The scan of one event, with its links settled. -/
def linkedScan (scan : PreflightScan) (status : String) (event : EventDict) : PreflightScan :=
  withLinks { scan with seen := status :: scan.seen } (payloadOf event)

theorem Scanned.links (scanned : Scanned before scan) (event : EventDict) (status : String) :
    (linkedScan scan status event).workspaceId = settled firstGiven workspaceOf (before ++ [event]) ∧
    (linkedScan scan status event).taskId = settled firstGiven taskOf (before ++ [event]) ∧
    (linkedScan scan status event).actor = settled firstGiven actorOf (before ++ [event]) := by
  rw [settled_snoc_given, settled_snoc_given, settled_snoc_given, ← scanned.workspaceId,
    ← scanned.taskId, ← scanned.actor]
  exact ⟨rfl, rfl, rfl⟩

/-- What the scan of one event consists of. -/
theorem scanEvent_iff (linked : Log.Sound (Linked db receiptId) before) (scanned : Scanned before scan) :
    scanEvent db receiptId scan event = .ok next ↔ ∃ status, statusOrder[before.length]? = some status ∧
      statusOf event = .str status ∧ Agrees firstGiven before event ∧
      ∃ marked, scanFingerprints db receiptId (linkedScan scan status event) status (payloadOf event)
        event.row.id = .ok marked ∧ next = { marked with status := .str status } := by
  have few := length_of_linked linked
  constructor
  · intro ran
    obtain ⟨status, found, ran⟩ := Except.bind_ok.mp ran
    obtain ⟨links, agreeing, ran⟩ := Except.bind_ok.mp ran
    obtain ⟨marked, fingerprints, ran⟩ := Except.bind_ok.mp ran
    cases ran
    obtain ⟨listed, same⟩ := (scanStatus_iff few scanned.seen).mp found
    obtain ⟨rfl, workspace, task, acting⟩ := scanLinks_iff.mp agreeing
    obtain ⟨ownWorkspace, ownTask, ownActor⟩ := scanned.links event status
    refine ⟨status, listed, same, agrees_iff.mpr ⟨?_, ?_, ?_⟩, marked, fingerprints, rfl⟩
    · rw [← ownWorkspace]
      exact workspace
    · rw [← ownTask]
      exact task
    · rw [← ownActor]
      exact acting
  · rintro ⟨status, listed, same, agreeing, marked, fingerprints, rfl⟩
    obtain ⟨ownWorkspace, ownTask, ownActor⟩ := scanned.links event status
    rw [agrees_iff, ← ownWorkspace, ← ownTask, ← ownActor] at agreeing
    refine Except.bind_ok.mpr ⟨status, (scanStatus_iff few scanned.seen).mpr ⟨listed, same⟩, ?_⟩
    refine Except.bind_ok.mpr ⟨linkedScan scan status event, scanLinks_iff.mpr ⟨rfl, agreeing⟩, ?_⟩
    exact Except.bind_ok.mpr ⟨marked, fingerprints, rfl⟩

/-- One more event is kept. -/
theorem Scanned.snoc (scanned : Scanned before scan) {status : String} {marked : PreflightScan}
    (listed : statusOrder[before.length]? = some status) (same : statusOf event = .str status)
    (seen : marked.seen = status :: scan.seen)
    (links : marked.workspaceId = (linkedScan scan status event).workspaceId ∧
      marked.taskId = (linkedScan scan status event).taskId ∧
      marked.actor = (linkedScan scan status event).actor)
    (fingerprint : marked.authorizedFingerprint = ((before ++ [event])[0]?.map harnessOf).getD .null)
    (expected : marked.claimedExpectedAfter = ((before ++ [event])[1]?.map expectedOf).getD .null)
    (after : marked.appliedAfter = ((before ++ [event])[2]?.map afterOf).getD .null) :
    Scanned (before ++ [event]) { marked with status := .str status } := by
  obtain ⟨ownWorkspace, ownTask, ownActor⟩ := scanned.links event status
  refine ⟨?_, links.1.trans ownWorkspace, links.2.1.trans ownTask, links.2.2.trans ownActor,
    fingerprint, expected, after, ?_⟩
  · dsimp only
    rw [seen, scanned.seen, List.length_append, List.length_singleton, List.take_add_one, listed,
      List.reverse_append]
    rfl
  · rw [List.getLast?_append]
    exact same.symm

/-- A fingerprint that another place of the chain gives. -/
theorem kept_snoc {k : Nat} {read : EventDict → Json} {value : Json}
    (kept : value = (before[k]?.map read).getD .null) (other : before.length ≠ k) :
    value = ((before ++ [event])[k]?.map read).getD .null := by
  rw [kept, List.getElem?_append]
  split
  · rfl
  · rename_i outside
    rw [List.getElem?_eq_none (by omega), List.getElem?_eq_none (by simp; omega)]

theorem not_housed {pick : List Json → Json} {status : String} (same : statusOf event = .str status)
    (other : status ≠ statusConsumed) : Housed pick db before event := by
  intro consumed
  rw [same] at consumed
  exact absurd (Json.str.inj consumed) other

/-- An event that the scan accepts fits, and is kept. -/
theorem scanEvent_passed (linked : Log.Sound (Linked db receiptId) before)
    (scanned : Scanned before scan) (ran : scanEvent db receiptId scan event = .ok next) :
    Fits firstGiven db receiptId before event ∧ Scanned (before ++ [event]) next := by
  obtain ⟨status, listed, same, agrees, marked, fingerprints, rfl⟩ :=
    (scanEvent_iff linked scanned).mp ran
  have links := scanned.links event status
  match before with
  | [] =>
    cases Option.some.inj listed
    obtain ⟨digest, rfl⟩ := scanAuthorized_iff.mp fingerprints
    exact ⟨⟨⟨same, digest⟩, agrees, not_housed same (by decide)⟩,
      scanned.snoc listed same rfl ⟨rfl, rfl, rfl⟩ rfl (kept_snoc scanned.expected (by simp))
        (kept_snoc scanned.after (by simp))⟩
  | [a] =>
    cases Option.some.inj listed
    obtain ⟨digest, repeats, expects, rfl⟩ := scanClaimed_iff.mp fingerprints
    exact ⟨⟨⟨same, digest, repeats.trans scanned.fingerprint, expects⟩, agrees,
        not_housed same (by decide)⟩,
      scanned.snoc listed same rfl ⟨rfl, rfl, rfl⟩ (kept_snoc scanned.fingerprint (by simp)) rfl
        (kept_snoc scanned.after (by simp))⟩
  | [a, c] =>
    cases Option.some.inj listed
    obtain ⟨digest, repeats, applies, expected, rfl⟩ := scanApplied_iff.mp fingerprints
    exact ⟨⟨⟨same, digest, repeats.trans scanned.fingerprint, applies, expected.trans scanned.expected⟩,
        agrees, not_housed same (by decide)⟩,
      scanned.snoc listed same rfl ⟨rfl, rfl, rfl⟩ (kept_snoc scanned.fingerprint (by simp))
        (kept_snoc scanned.expected (by simp)) rfl⟩
  | [a, c, p] =>
    cases Option.some.inj listed
    obtain ⟨given, applied, done, found, terminal, rfl⟩ := scanConsumed_iff.mp fingerprints
    obtain ⟨type, houses, receipt, digest, repeats⟩ := scanTerminal_iff.mp terminal
    refine ⟨⟨⟨same, given, done, found, type, receipt, digest, repeats.trans scanned.after⟩, agrees, ?_⟩,
      scanned.snoc listed same rfl ⟨rfl, rfl, rfl⟩ (kept_snoc scanned.fingerprint (by simp))
        (kept_snoc scanned.expected (by simp)) (kept_snoc scanned.after (by simp))⟩
    intro _ other named
    obtain rfl : done = other := Option.some.inj (Except.ok.inj (found.symm.trans named))
    exact ⟨houses.1.trans links.1, houses.2.trans links.2.1⟩
  | _ :: _ :: _ :: _ :: _ => cases listed

/-- An event that fits is accepted. -/
theorem exists_scanEvent (sound : Log.Sound (Linked db receiptId) before) (scanned : Scanned before scan)
    (fits : Fits firstGiven db receiptId before event) :
    ∃ next, scanEvent db receiptId scan event = .ok next := by
  obtain ⟨linked, agrees, houses⟩ := fits
  obtain ⟨status, listed, same⟩ := linked.status
  have links := scanned.links event status
  suffices accepted : ∃ marked, scanFingerprints db receiptId (linkedScan scan status event) status
      (payloadOf event) event.row.id = .ok marked by
    obtain ⟨marked, fingerprints⟩ := accepted
    exact ⟨_, (scanEvent_iff sound scanned).mpr ⟨status, listed, same, agrees, marked, fingerprints, rfl⟩⟩
  match before, linked with
  | [], linked =>
    cases Option.some.inj listed
    exact ⟨_, scanAuthorized_iff.mpr ⟨linked.2, rfl⟩⟩
  | [a], linked =>
    cases Option.some.inj listed
    obtain ⟨-, digest, repeats, expects⟩ := linked
    exact ⟨_, scanClaimed_iff.mpr ⟨digest, repeats.trans scanned.fingerprint.symm, expects, rfl⟩⟩
  | [a, c], linked =>
    cases Option.some.inj listed
    obtain ⟨-, digest, repeats, applies, expected⟩ := linked
    exact ⟨_, scanApplied_iff.mpr ⟨digest, repeats.trans scanned.fingerprint.symm, applies,
      expected.trans scanned.expected.symm, rfl⟩⟩
  | [a, c, p], linked =>
    cases Option.some.inj listed
    obtain ⟨-, given, done, found, type, receipt, digest, repeats⟩ := linked
    obtain ⟨inWorkspace, inTask⟩ := houses same done found
    have applied : afterOf p = scan.appliedAfter := scanned.after.symm
    have present : (linkedScan scan statusConsumed event).appliedAfter.truthy = true :=
      truthy_of_digest (by
        change isCanonicalSha256 scan.appliedAfter = true
        rw [← applied, ← repeats]
        exact digest)
    exact ⟨_, scanConsumed_iff.mpr ⟨given, present, done, found, scanTerminal_iff.mpr
      ⟨type, ⟨inWorkspace.trans links.1.symm, inTask.trans links.2.1.symm⟩, receipt, digest,
        repeats.trans applied⟩, rfl⟩⟩

/-- **The scan of the preflight is a gate.** -/
theorem gate_scanEvent : Log.Gate (Fits firstGiven db receiptId) Scanned (scanEvent db receiptId) where
  accepts sound scanned fits := exists_scanEvent (sound.imp fun _ _ fits => fits.1) scanned fits
  passed sound scanned ran := scanEvent_passed (sound.imp fun _ _ fits => fits.1) scanned ran

/-- The terminal that an event names cannot be looked up. -/
def Unsearchable (db : Db) (event : EventDict) : Prop :=
  (doneIdOf event).truthy = true ∧ ∃ error, eventById db (doneIdOf event) = .error error

theorem not_raised {α : Type} {x : Except Preflight α} {error : Exn} (broken : x.Raises Broken)
    (raised : x = .error (.raised error)) : False := by
  obtain ⟨reason, message, same⟩ := broken _ raised
  cases same

theorem scanConsumed_raised {eventId : String} {error : Exn} :
    scanConsumed db receiptId scan payload eventId = .error (.raised error) ↔
      (payload.get "task_done_event_id").truthy = true ∧ scan.appliedAfter.truthy = true ∧
        eventById db (payload.get "task_done_event_id") = .error error := by
  constructor
  · intro raised
    obtain wrong | ⟨_, given, raised⟩ := Except.bind_error.mp raised
    · exact (not_raised broken_raiseIf wrong).elim
    obtain wrong | ⟨_, applied, raised⟩ := Except.bind_error.mp raised
    · exact (not_raised broken_raiseIf wrong).elim
    rw [raiseIf_except_ok, not_not] at given applied
    refine ⟨given, applied, ?_⟩
    split at raised
    · rename_i failed
      cases raised
      exact failed
    · cases raised
    · exact (not_raised (Except.raises_bind (broken_scanTerminal _ _)
        fun _ => Except.raises_pure _) raised).elim
  · rintro ⟨given, applied, failed⟩
    refine Except.bind_error.mpr (.inr ⟨(), raiseIf_except_ok.mpr (not_not.mpr given), ?_⟩)
    refine Except.bind_error.mpr (.inr ⟨(), raiseIf_except_ok.mpr (not_not.mpr applied), ?_⟩)
    rw [failed]
    rfl

/-- The scan raises only at a terminal that cannot be looked up, when all before it is in order. -/
theorem scanEvent_raised (linked : Log.Sound (Linked db receiptId) before)
    (scanned : Scanned before scan) :
    (∃ error, scanEvent db receiptId scan event = .error (.raised error)) ↔
      before.length = 3 ∧ statusOf event = .str statusConsumed ∧ Agrees firstGiven before event ∧
        Unsearchable db event := by
  have few := length_of_linked linked
  constructor
  · rintro ⟨error, raised⟩
    obtain wrong | ⟨status, found, raised⟩ := Except.bind_error.mp raised
    · exact (not_raised (broken_scanStatus _) wrong).elim
    obtain wrong | ⟨links, agreeing, raised⟩ := Except.bind_error.mp raised
    · exact (not_raised (broken_scanLinks _) wrong).elim
    obtain raised | ⟨_, _, raised⟩ := Except.bind_error.mp raised
    swap
    · cases raised
    obtain ⟨listed, same⟩ := (scanStatus_iff few scanned.seen).mp found
    obtain ⟨rfl, workspace, task, acting⟩ := scanLinks_iff.mp agreeing
    obtain ⟨ownWorkspace, ownTask, ownActor⟩ := scanned.links event status
    have agrees : Agrees firstGiven before event := by
      rw [agrees_iff, ← ownWorkspace, ← ownTask, ← ownActor]
      exact ⟨workspace, task, acting⟩
    match before with
    | [] =>
      cases Option.some.inj listed
      exact (not_raised (broken_scanAuthorized _) raised).elim
    | [_] =>
      cases Option.some.inj listed
      exact (not_raised (broken_scanClaimed _) raised).elim
    | [_, _] =>
      cases Option.some.inj listed
      exact (not_raised (broken_scanApplied _) raised).elim
    | [_, _, _] =>
      cases Option.some.inj listed
      obtain ⟨given, -, failed⟩ := scanConsumed_raised.mp raised
      exact ⟨rfl, same, agrees, given, error, failed⟩
    | _ :: _ :: _ :: _ :: _ => cases listed
  · rintro ⟨three, same, agrees, given, error, failed⟩
    match before, three with
    | [a, c, p], _ =>
      have listed : statusOrder[[a, c, p].length]? = some statusConsumed := rfl
      obtain ⟨ownWorkspace, ownTask, ownActor⟩ := scanned.links event statusConsumed
      rw [agrees_iff, ← ownWorkspace, ← ownTask, ← ownActor] at agrees
      have applied : (linkedScan scan statusConsumed event).appliedAfter.truthy = true :=
        truthy_of_digest (by
          change isCanonicalSha256 scan.appliedAfter = true
          rw [scanned.after]
          exact (linked [a, c] p [] rfl).2.2.2.1)
      refine ⟨error, Except.bind_error.mpr (.inr ⟨statusConsumed,
        (scanStatus_iff few scanned.seen).mpr ⟨listed, same⟩, ?_⟩)⟩
      refine Except.bind_error.mpr (.inr ⟨linkedScan scan statusConsumed event,
        scanLinks_iff.mpr ⟨rfl, agrees⟩, ?_⟩)
      exact Except.bind_error.mpr (.inl (scanConsumed_raised.mpr ⟨given, applied, failed⟩))

/-- The preflight has to give up: all is in order up to a consumed event whose terminal cannot be looked up. -/
def GivesUp (db : Db) (receiptId : String) (chain : List EventDict) : Prop :=
  ∃ before event after, chain = before ++ event :: after ∧
    Log.Sound (Fits firstGiven db receiptId) before ∧ before.length = 3 ∧
    statusOf event = .str statusConsumed ∧ Agrees firstGiven before event ∧ Unsearchable db event

theorem scanChain_eq_foldlM : ∀ (events : List EventDict) (scan : PreflightScan),
    scanChain db receiptId scan events = events.foldlM (scanEvent db receiptId) scan
  | [], _ => rfl
  | event :: rest, scan => by
    rw [List.foldlM_cons]
    exact congrArg _ (funext fun next => scanChain_eq_foldlM rest next)

theorem scanChain_ok {chain : List EventDict} (scanned : scanChain db receiptId {} chain = .ok scan) :
    Log.Sound (Fits firstGiven db receiptId) chain ∧ Scanned chain scan := by
  rw [scanChain_eq_foldlM] at scanned
  exact gate_scanEvent.read scanned_nil scanned

theorem exists_scanChain {chain : List EventDict}
    (sound : Log.Sound (Fits firstGiven db receiptId) chain) :
    ∃ scan, scanChain db receiptId {} chain = .ok scan := by
  simp only [scanChain_eq_foldlM]
  exact gate_scanEvent.exists_read scanned_nil sound

theorem scanChain_raised {chain : List EventDict} :
    (∃ error, scanChain db receiptId {} chain = .error (.raised error)) ↔ GivesUp db receiptId chain := by
  simp only [scanChain_eq_foldlM]
  constructor
  · rintro ⟨error, raised⟩
    obtain ⟨before, event, after, state, rfl, read, stopped⟩ := Log.foldlM_error raised
    obtain ⟨sound, scanned⟩ := gate_scanEvent.read scanned_nil read
    exact ⟨before, event, after, rfl, sound,
      (scanEvent_raised (sound.imp fun _ _ fits => fits.1) scanned).mp ⟨error, stopped⟩⟩
  · rintro ⟨before, event, after, rfl, sound, stops⟩
    obtain ⟨state, read⟩ := gate_scanEvent.exists_read scanned_nil sound
    have scanned := (gate_scanEvent.read scanned_nil read).2
    obtain ⟨error, stopped⟩ := (scanEvent_raised (sound.imp fun _ _ fits => fits.1) scanned).mpr stops
    exact ⟨error, Log.foldlM_stops read stopped⟩

end Preflight

end Coordinate.Completion

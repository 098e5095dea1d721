import Coordinate.Proofs.ReceiptReaders

/-! # The doctor reads a receipt chain

The doctor notices every event that does not fit the ones before it, and takes nothing back. It has to give
up only at a terminal that cannot be looked up, and then wherever the chain has gone wrong before.
-/

namespace Coordinate.Completion

section Doctor

variable {db : Db} {receiptId : String} {diagnosis next : ChainDiagnosis} {before : List EventDict}
  {event : EventDict} {payload : Json} {rowid : Nat}

section Notes

variable (problem : Option ChainProblem)

@[simp] theorem note_seenStatuses : (diagnosis.note problem).seenStatuses = diagnosis.seenStatuses := by
  rcases problem with - | - | - <;> rfl

@[simp] theorem note_workspaceId : (diagnosis.note problem).workspaceId = diagnosis.workspaceId := by
  rcases problem with - | - | - <;> rfl

@[simp] theorem note_taskId : (diagnosis.note problem).taskId = diagnosis.taskId := by
  rcases problem with - | - | - <;> rfl

@[simp] theorem note_actor : (diagnosis.note problem).actor = diagnosis.actor := by
  rcases problem with - | - | - <;> rfl

@[simp] theorem note_fingerprint : (diagnosis.note problem).authorizedHarnessFingerprint =
    diagnosis.authorizedHarnessFingerprint := by
  rcases problem with - | - | - <;> rfl

@[simp] theorem note_expected :
    (diagnosis.note problem).claimedExpectedAfter = diagnosis.claimedExpectedAfter := by
  rcases problem with - | - | - <;> rfl

@[simp] theorem note_after : (diagnosis.note problem).appliedAfter = diagnosis.appliedAfter := by
  rcases problem with - | - | - <;> rfl

@[simp] theorem note_payload :
    (diagnosis.note problem).authorizedPayload = diagnosis.authorizedPayload := by
  rcases problem with - | - | - <;> rfl

@[simp] theorem note_rowid : (diagnosis.note problem).authorizedRowid = diagnosis.authorizedRowid := by
  rcases problem with - | - | - <;> rfl

/-- What has been noted is not taken back. -/
@[simp] theorem note_sound : (diagnosis.note problem).sound = true ↔
    diagnosis.sound = true ∧ problem = none := by
  rcases problem with - | - | - <;> simp [ChainDiagnosis.note, ChainDiagnosis.sound]

end Notes

theorem fingerprintProblem_none {value expected : Json} {missing noDigest mismatch : String} :
    fingerprintProblem value expected missing noDigest mismatch = none ↔
      isCanonicalSha256 value = true ∧ value = expected := by
  unfold fingerprintProblem
  by_cases digest : isCanonicalSha256 value = true
  · simp [digest, truthy_of_digest digest]
  · split
    · simp [digest]
    · simp [digest]

theorem linkProblem_none {label : String} {own chain : Json} :
    linkProblem label own chain rowid = none ↔ (own.truthy = true → own = chain) := by
  simp [linkProblem]

/-- The links of a chain, with those of one more payload. -/
theorem diagnoseLinks_sound : (diagnoseLinks diagnosis rowid payload).sound = true ↔
    diagnosis.sound = true ∧
    ((workspaceOf payload).truthy = true →
      workspaceOf payload = fillLink diagnosis.workspaceId (workspaceOf payload)) ∧
    ((taskOf payload).truthy = true →
      taskOf payload = fillLink diagnosis.taskId (taskOf payload)) ∧
    ((actorOf payload).truthy = true →
      actorOf payload = fillLink diagnosis.actor (actorOf payload)) := by
  rw [diagnoseLinks, note_sound, note_sound, note_sound, linkProblem_none, linkProblem_none,
    linkProblem_none, and_assoc, and_assoc]
  exact Iff.rfl

theorem diagnoseAuthorized_sound : (diagnoseAuthorized diagnosis rowid payload).sound = true ↔
    diagnosis.sound = true ∧ isCanonicalSha256 (payload.get "harness_fingerprint") = true := by
  change (diagnosis.note _).sound = true ↔ _
  rw [note_sound, fingerprintProblem_none, and_iff_left rfl]

theorem diagnoseAuthorized_fingerprint
    (digest : isCanonicalSha256 (payload.get "harness_fingerprint") = true) :
    (diagnoseAuthorized diagnosis rowid payload).authorizedHarnessFingerprint =
      payload.get "harness_fingerprint" := by
  unfold diagnoseAuthorized
  dsimp only
  rw [fingerprintProblem_none.mpr ⟨digest, rfl⟩]
  rfl

theorem beforeProblem_none {status against : String} :
    beforeProblem diagnosis rowid payload status against = none ↔
      isCanonicalSha256 (payload.get "before_fingerprint") = true ∧
        payload.get "before_fingerprint" = diagnosis.authorizedHarnessFingerprint :=
  fingerprintProblem_none

theorem diagnoseClaimed_sound : (diagnoseClaimed diagnosis rowid payload).sound = true ↔
    diagnosis.sound = true ∧ (isCanonicalSha256 (payload.get "before_fingerprint") = true ∧
      payload.get "before_fingerprint" = diagnosis.authorizedHarnessFingerprint) ∧
      isCanonicalSha256 (payload.get "expected_after_fingerprint") = true := by
  change ((diagnosis.note _).note _).sound = true ↔ _
  rw [note_sound, note_sound, beforeProblem_none, fingerprintProblem_none, and_iff_left rfl, and_assoc]

theorem diagnoseClaimed_expected
    (digest : isCanonicalSha256 (payload.get "expected_after_fingerprint") = true) :
    (diagnoseClaimed diagnosis rowid payload).claimedExpectedAfter =
      payload.get "expected_after_fingerprint" := by
  unfold diagnoseClaimed
  dsimp only
  rw [fingerprintProblem_none.mpr ⟨digest, rfl⟩]
  rfl

theorem diagnoseApplied_sound : (diagnoseApplied diagnosis rowid payload).sound = true ↔
    diagnosis.sound = true ∧ (isCanonicalSha256 (payload.get "before_fingerprint") = true ∧
      payload.get "before_fingerprint" = diagnosis.authorizedHarnessFingerprint) ∧
      isCanonicalSha256 (payload.get "after_fingerprint") = true ∧
      payload.get "after_fingerprint" = diagnosis.claimedExpectedAfter := by
  change ((diagnosis.note _).note _).sound = true ↔ _
  rw [note_sound, note_sound, beforeProblem_none, fingerprintProblem_none, and_assoc]

/-- The application of a chain is the first one with the digest that has been claimed. -/
theorem diagnoseApplied_after : (diagnoseApplied diagnosis rowid payload).appliedAfter =
    if isCanonicalSha256 (payload.get "after_fingerprint") = true ∧
        payload.get "after_fingerprint" = diagnosis.claimedExpectedAfter
      then payload.get "after_fingerprint" else diagnosis.appliedAfter := by
  refine if_congr ?_ rfl rfl
  rw [Option.isNone_iff_eq_none, fingerprintProblem_none]

theorem terminalProblem_none {doneId : String} {done : EventRow} :
    terminalProblem receiptId diagnosis doneId done = none ↔ done.eventType = "task.done" ∧
      (Json.ofOption done.workspaceId = diagnosis.workspaceId ∧
        Json.ofOption done.taskId = diagnosis.taskId) ∧
      (terminalPayload done).get "receipt_id" = .str receiptId ∧
      isCanonicalSha256 ((terminalPayload done).get "applied_fingerprint") = true ∧
      (terminalPayload done).get "applied_fingerprint" = diagnosis.appliedAfter := by
  unfold terminalProblem
  by_cases type : done.eventType = "task.done"
  · by_cases housed : Json.ofOption done.workspaceId ≠ diagnosis.workspaceId ∨
        Json.ofOption done.taskId ≠ diagnosis.taskId
    · have elsewhere : ¬ (Json.ofOption done.workspaceId = diagnosis.workspaceId ∧
          Json.ofOption done.taskId = diagnosis.taskId) := by tauto
      simp [type, housed, elsewhere]
    · obtain ⟨workspace, task⟩ := not_or.mp housed
      rw [not_not] at workspace task
      by_cases receipt : (terminalPayload done).get "receipt_id" = .str receiptId
      · simp [type, workspace, task, receipt, fingerprintProblem_none]
      · simp [type, workspace, task, receipt]
  · simp [type]

/-- What the doctor finds of a consumed event, when it can look up the terminal. -/
theorem consumedProblem_ok {problem : Option ChainProblem}
    (ran : consumedProblem db receiptId diagnosis payload = .ok problem) : problem = none ↔
      (payload.get "task_done_event_id").truthy = true ∧ diagnosis.appliedAfter.truthy = true ∧
        ∃ done, eventById db (payload.get "task_done_event_id") = .ok (some done) ∧
          terminalProblem receiptId diagnosis (payload.get "task_done_event_id").pyStr done = none := by
  unfold consumedProblem at ran
  dsimp only at ran
  split at ran
  · rename_i missing
    cases ran
    simp [missing]
  · rename_i given
    split at ran
    · rename_i missing
      cases ran
      simp [missing]
    · rename_i applied
      rw [not_not] at given applied
      obtain ⟨looked, found, ran⟩ := Except.bind_ok.mp ran
      rw [found]
      cases looked with
      | none =>
        cases ran
        simp
      | some done =>
        cases ran
        simp [given, applied]

theorem consumedProblem_error : (∃ error, consumedProblem db receiptId diagnosis payload = .error error) ↔
    (payload.get "task_done_event_id").truthy = true ∧ diagnosis.appliedAfter.truthy = true ∧
      ∃ error, eventById db (payload.get "task_done_event_id") = .error error := by
  unfold consumedProblem
  dsimp only
  split
  · rename_i missing
    simp [missing, pure, Except.pure]
  · rename_i given
    split
    · rename_i missing
      simp [missing, pure, Except.pure]
    · rename_i applied
      rw [not_not] at given applied
      cases found : eventById db (payload.get "task_done_event_id") with
      | error error => simp [given, applied, bind, Except.bind]
      | ok looked => cases looked <;> simp [bind, Except.bind, pure, Except.pure]

/-- A status is in place just where it is the next one. -/
theorem inPlace_iff (diagnosis : ChainDiagnosis) (rowid : Nat) {status : String} {n : Nat} (few : n ≤ 4) (known : status ∈ statusOrder)
    (seen : diagnosis.seenStatuses = statusOrder.take n) :
    (orderProblem diagnosis status rowid = none ∧ diagnosis.seenStatuses.contains status = false) ↔
      statusOrder[n]? = some status := by
  simp only [statusOrder, List.mem_cons, List.not_mem_nil, or_false] at known
  unfold orderProblem
  rw [seen]
  have bounded : n = 0 ∨ n = 1 ∨ n = 2 ∨ n = 3 ∨ n = 4 := by omega
  obtain rfl | rfl | rfl | rfl := known <;> obtain rfl | rfl | rfl | rfl | rfl := bounded <;>
    simp [statusOrder, statusAuthorized, statusClaimed, statusApplied, statusConsumed]

/-- What an authorization says is read before its place in the chain. -/
def entered (diagnosis : ChainDiagnosis) (status : String) (rowid : Nat) (payload : Json) :
    ChainDiagnosis :=
  if status = statusAuthorized then diagnoseAuthorized diagnosis rowid payload else diagnosis

/-- An event in place, with its links. -/
def linkedDiagnosis (diagnosis : ChainDiagnosis) (status : String) (rowid : Nat) (payload : Json) :
    ChainDiagnosis :=
  diagnoseLinks { entered diagnosis status rowid payload with
    seenStatuses := (entered diagnosis status rowid payload).seenStatuses ++ [status] } rowid payload

theorem entered_seenStatuses (status : String) :
    (entered diagnosis status rowid payload).seenStatuses = diagnosis.seenStatuses := by
  unfold entered
  split
  · exact note_seenStatuses _
  · rfl

theorem entered_sound {status : String} (sound : (entered diagnosis status rowid payload).sound = true) :
    diagnosis.sound = true := by
  unfold entered at sound
  split at sound
  · exact (diagnoseAuthorized_sound.mp sound).1
  · exact sound

/-- An event of a known status. -/
theorem diagnoseEvent_known {status : String} (known : status ∈ statusOrder)
    (same : statusOf event = .str status) : diagnoseEvent db receiptId diagnosis (rowid, event) =
      diagnoseKnown db receiptId (entered diagnosis status rowid (payloadOf event)) status rowid
        (payloadOf event) := by
  have found : statusOrder.find? (fun text => Json.str status = .str text) = some status := by
    simp only [statusOrder, List.mem_cons, List.not_mem_nil, or_false] at known
    obtain rfl | rfl | rfl | rfl := known <;> rfl
  have authorized : (if Json.str status = .str statusAuthorized then
      diagnoseAuthorized diagnosis rowid (payloadOf event) else diagnosis) =
        entered diagnosis status rowid (payloadOf event) := by
    unfold entered
    simp
  unfold diagnoseEvent
  dsimp only
  rw [show (payloadOf event).get "status" = .str status from same, authorized, found]

theorem diagnoseEvent_unknown (db : Db) (receiptId : String) (diagnosis : ChainDiagnosis) (rowid : Nat)
    (unknown : ∀ status ∈ statusOrder, statusOf event ≠ .str status) :
    ∃ problem, diagnoseEvent db receiptId diagnosis (rowid, event) = .ok (diagnosis.note (some problem)) := by
  have found : statusOrder.find? (fun text => statusOf event = .str text) = none := by
    simpa using unknown
  unfold diagnoseEvent
  dsimp only
  rw [show (payloadOf event).get "status" = statusOf event from rfl, found,
    if_neg (unknown statusAuthorized (by decide))]
  exact ⟨_, rfl⟩

theorem diagnoseEvent_unsound (unknown : ∀ status ∈ statusOrder, statusOf event ≠ .str status)
    (ran : diagnoseEvent db receiptId diagnosis (rowid, event) = .ok next) : next.sound = false := by
  obtain ⟨problem, same⟩ := diagnoseEvent_unknown db receiptId diagnosis rowid unknown
  rw [same] at ran
  cases ran
  rw [Bool.eq_false_iff]
  simp

/-- What stands in the way of an event that is not the next one. -/
theorem diagnoseKnown_misplaced {status : String} (known : status ∈ statusOrder)
    (few : before.length ≤ 4) (seen : diagnosis.seenStatuses = statusOrder.take before.length)
    (misplaced : statusOrder[before.length]? ≠ some status)
    (kept : ∀ {d d' : ChainDiagnosis}, diagnoseFingerprints db receiptId d status rowid payload =
      .ok d' → d'.sound = true → d.sound = true)
    (ran : diagnoseKnown db receiptId diagnosis status rowid payload = .ok next) :
    next.sound = false := by
  have place := (inPlace_iff diagnosis rowid few known seen).not.mpr misplaced
  rw [Bool.eq_false_iff]
  intro sound
  unfold diagnoseKnown at ran
  dsimp only at ran
  split at ran
  · cases ran
    simp at sound
  · rename_i fresh
    have links := (diagnoseLinks_sound.mp (kept ran sound)).1
    have noted := (note_sound _).mp links
    rw [note_seenStatuses, Bool.not_eq_true] at fresh
    exact place ⟨noted.2, fresh⟩

theorem diagnoseKnown_placed {status : String} (known : status ∈ statusOrder)
    (few : before.length ≤ 4) (seen : diagnosis.seenStatuses = statusOrder.take before.length)
    (placed : statusOrder[before.length]? = some status) :
    diagnoseKnown db receiptId (entered diagnosis status rowid payload) status rowid payload =
      diagnoseFingerprints db receiptId (linkedDiagnosis diagnosis status rowid payload) status rowid
        payload := by
  obtain ⟨ordered, fresh⟩ := (inPlace_iff
    (entered diagnosis status rowid payload) rowid few known
    ((entered_seenStatuses status).trans seen)).mpr placed
  unfold diagnoseKnown
  dsimp only
  rw [ordered]
  change (if (entered diagnosis status rowid payload).seenStatuses.contains status = true then _
    else _) = _
  rw [fresh, if_neg Bool.false_ne_true]
  rfl

/-- What an event says beside its place takes nothing back. -/
theorem diagnoseFingerprints_kept {status : String}
    (ran : diagnoseFingerprints db receiptId diagnosis status rowid payload = .ok next)
    (sound : next.sound = true) : diagnosis.sound = true := by
  unfold diagnoseFingerprints at ran
  split at ran
  · cases ran
    exact (diagnoseClaimed_sound.mp sound).1
  split at ran
  · cases ran
    exact (diagnoseApplied_sound.mp sound).1
  split at ran
  · obtain ⟨problem, -, ran⟩ := Except.bind_ok.mp ran
    cases ran
    exact ((note_sound _).mp sound).1
  · cases ran
    exact sound

theorem diagnoseEvent_kept {event : NumberedEvent}
    (ran : diagnoseEvent db receiptId diagnosis event = .ok next) (sound : next.sound = true) :
    diagnosis.sound = true := by
  by_cases known : ∃ status ∈ statusOrder, statusOf event.2 = .str status
  · obtain ⟨status, member, same⟩ := known
    rw [diagnoseEvent_known member same] at ran
    unfold diagnoseKnown at ran
    dsimp only at ran
    split at ran
    · cases ran
      rw [note_sound, note_sound] at sound
      exact entered_sound sound.1.1
    · have links := (diagnoseLinks_sound.mp (diagnoseFingerprints_kept ran sound)).1
      exact entered_sound ((note_sound _).mp links).1
  · have unsound := diagnoseEvent_unsound (by simpa using known) ran
    rw [unsound] at sound
    cases sound

/-- What the doctor has kept of a chain in which it has found nothing. -/
structure Diagnosed (events : List EventDict) (diagnosis : ChainDiagnosis) : Prop where
  seen : diagnosis.seenStatuses = statusOrder.take events.length
  workspaceId : diagnosis.workspaceId = settled firstFilled workspaceOf events
  taskId : diagnosis.taskId = settled firstFilled taskOf events
  actor : diagnosis.actor = settled firstFilled actorOf events
  fingerprint : diagnosis.authorizedHarnessFingerprint = (events[0]?.map harnessOf).getD .null
  expected : diagnosis.claimedExpectedAfter = (events[1]?.map expectedOf).getD .null
  after : diagnosis.appliedAfter = (events[2]?.map afterOf).getD .null

theorem diagnosed_nil : Diagnosed [] {} := ⟨rfl, rfl, rfl, rfl, rfl, rfl, rfl⟩

theorem Diagnosed.links (diagnosed : Diagnosed before diagnosis) (rowid : Nat) (event : EventDict)
    (status : String) :
    (linkedDiagnosis diagnosis status rowid (payloadOf event)).workspaceId =
      settled firstFilled workspaceOf (before ++ [event]) ∧
    (linkedDiagnosis diagnosis status rowid (payloadOf event)).taskId =
      settled firstFilled taskOf (before ++ [event]) ∧
    (linkedDiagnosis diagnosis status rowid (payloadOf event)).actor =
      settled firstFilled actorOf (before ++ [event]) := by
  rw [settled_snoc_filled, settled_snoc_filled, settled_snoc_filled, ← diagnosed.workspaceId,
    ← diagnosed.taskId, ← diagnosed.actor]
  unfold linkedDiagnosis diagnoseLinks entered
  split
  · simp [diagnoseAuthorized, workspaceOf, taskOf]
  · simp [workspaceOf, taskOf]

theorem linkedDiagnosis_sound (rowid : Nat) (event : EventDict)
    (diagnosed : Diagnosed before diagnosis) (status : String) :
    (linkedDiagnosis diagnosis status rowid (payloadOf event)).sound = true ↔
      (entered diagnosis status rowid (payloadOf event)).sound = true ∧ Agrees firstFilled before event := by
  have same : (entered diagnosis status rowid (payloadOf event)).workspaceId = diagnosis.workspaceId ∧
      (entered diagnosis status rowid (payloadOf event)).taskId = diagnosis.taskId ∧
      (entered diagnosis status rowid (payloadOf event)).actor = diagnosis.actor := by
    unfold entered
    split
    · simp [diagnoseAuthorized]
    · exact ⟨rfl, rfl, rfl⟩
  rw [linkedDiagnosis, diagnoseLinks_sound, agrees_iff, settled_snoc_filled, settled_snoc_filled,
    settled_snoc_filled, ← diagnosed.workspaceId, ← diagnosed.taskId, ← diagnosed.actor]
  dsimp only
  rw [same.1, same.2.1, same.2.2]
  exact Iff.rfl

theorem linkedDiagnosis_seen (diagnosis : ChainDiagnosis) (rowid : Nat) (payload : Json)
    (status : String) :
    (linkedDiagnosis diagnosis status rowid payload).seenStatuses = diagnosis.seenStatuses ++ [status] := by
  simp [linkedDiagnosis, diagnoseLinks, entered_seenStatuses]

theorem linkedDiagnosis_fingerprint (diagnosis : ChainDiagnosis) (rowid : Nat) (payload : Json)
    (status : String) :
    (linkedDiagnosis diagnosis status rowid payload).authorizedHarnessFingerprint =
      (entered diagnosis status rowid payload).authorizedHarnessFingerprint := by
  simp [linkedDiagnosis, diagnoseLinks]

theorem linkedDiagnosis_expected (diagnosis : ChainDiagnosis) (rowid : Nat) (payload : Json)
    (status : String) :
    (linkedDiagnosis diagnosis status rowid payload).claimedExpectedAfter =
      diagnosis.claimedExpectedAfter := by
  unfold linkedDiagnosis diagnoseLinks entered
  split <;> simp [diagnoseAuthorized]

theorem linkedDiagnosis_after (diagnosis : ChainDiagnosis) (rowid : Nat) (payload : Json)
    (status : String) :
    (linkedDiagnosis diagnosis status rowid payload).appliedAfter = diagnosis.appliedAfter := by
  unfold linkedDiagnosis diagnoseLinks entered
  split <;> simp [diagnoseAuthorized]

/-- One more event is kept. -/
theorem Diagnosed.snoc (diagnosed : Diagnosed before diagnosis) {status : String}
    (listed : statusOrder[before.length]? = some status)
    (seen : next.seenStatuses = diagnosis.seenStatuses ++ [status])
    (links : next.workspaceId = settled firstFilled workspaceOf (before ++ [event]) ∧
      next.taskId = settled firstFilled taskOf (before ++ [event]) ∧
      next.actor = settled firstFilled actorOf (before ++ [event]))
    (fingerprint :
      next.authorizedHarnessFingerprint = ((before ++ [event])[0]?.map harnessOf).getD .null)
    (expected : next.claimedExpectedAfter = ((before ++ [event])[1]?.map expectedOf).getD .null)
    (after : next.appliedAfter = ((before ++ [event])[2]?.map afterOf).getD .null) :
    Diagnosed (before ++ [event]) next := by
  refine ⟨?_, links.1, links.2.1, links.2.2, fingerprint, expected, after⟩
  rw [seen, diagnosed.seen, List.length_append, List.length_singleton, List.take_add_one, listed]
  rfl

/-- What the doctor notices of one event, when it has found nothing before. -/
theorem diagnoseEvent_noticed (linked : Log.Sound (Linked db receiptId) before)
    (diagnosed : Diagnosed before diagnosis) (clean : diagnosis.sound = true)
    (ran : diagnoseEvent db receiptId diagnosis (rowid, event) = .ok next) :
    (next.sound = true ↔ Fits firstFilled db receiptId before event) ∧
      (next.sound = true → Diagnosed (before ++ [event]) next) := by
  have few := length_of_linked linked
  by_cases known : ∃ status, statusOrder[before.length]? = some status ∧ statusOf event = .str status
  swap
  · have unsound : next.sound = false := by
      by_cases listed : ∃ status ∈ statusOrder, statusOf event = .str status
      · obtain ⟨status, member, same⟩ := listed
        rw [diagnoseEvent_known member same] at ran
        exact diagnoseKnown_misplaced member few
          ((entered_seenStatuses status).trans diagnosed.seen) (fun placed => known ⟨status, placed, same⟩)
          diagnoseFingerprints_kept ran
      · exact diagnoseEvent_unsound (by simpa using listed) ran
    rw [unsound]
    exact ⟨⟨fun sound => (by cases sound), fun fits => absurd fits.1.status known⟩,
      fun sound => (by cases sound)⟩
  obtain ⟨status, listed, same⟩ := known
  have member := List.mem_of_getElem? listed
  rw [diagnoseEvent_known member same, diagnoseKnown_placed member few diagnosed.seen listed] at ran
  have links := diagnosed.links rowid event status
  have agreeing := linkedDiagnosis_sound rowid event diagnosed status
  have fingerprint := linkedDiagnosis_fingerprint diagnosis rowid (payloadOf event) status
  have expects := linkedDiagnosis_expected diagnosis rowid (payloadOf event) status
  have applies := linkedDiagnosis_after diagnosis rowid (payloadOf event) status
  have seen := linkedDiagnosis_seen diagnosis rowid (payloadOf event) status
  match before with
  | [] =>
    cases Option.some.inj listed
    cases ran
    change _ ↔ (diagnoseAuthorized diagnosis rowid (payloadOf event)).sound = true ∧ _ at agreeing
    rw [diagnoseAuthorized_sound] at agreeing
    constructor
    · rw [agreeing]
      constructor
      · rintro ⟨⟨-, digest⟩, agrees⟩
        exact ⟨⟨same, digest⟩, agrees, not_housed same (by decide)⟩
      · rintro ⟨⟨-, digest⟩, agrees, -⟩
        exact ⟨⟨clean, digest⟩, agrees⟩
    · intro sound
      have digest := (agreeing.mp sound).1.2
      exact diagnosed.snoc listed seen links
        (fingerprint.trans (diagnoseAuthorized_fingerprint digest))
        (kept_snoc (expects.trans diagnosed.expected) (by simp))
        (kept_snoc (applies.trans diagnosed.after) (by simp))
  | [a] =>
    cases Option.some.inj listed
    cases ran
    have authorized := fingerprint.trans diagnosed.fingerprint
    constructor
    · rw [diagnoseClaimed_sound, agreeing, authorized]
      constructor
      · rintro ⟨⟨-, agrees⟩, ⟨digest, repeats⟩, expected⟩
        exact ⟨⟨same, digest, repeats, expected⟩, agrees, not_housed same (by decide)⟩
      · rintro ⟨⟨-, digest, repeats, expected⟩, agrees, -⟩
        exact ⟨⟨clean, agrees⟩, ⟨digest, repeats⟩, expected⟩
    · intro sound
      have digest := (diagnoseClaimed_sound.mp sound).2.2
      exact diagnosed.snoc listed (by simpa [diagnoseClaimed] using seen)
        (by simpa [diagnoseClaimed] using links) (kept_snoc (by simpa [diagnoseClaimed] using authorized) (by simp))
        (diagnoseClaimed_expected digest)
        (kept_snoc (by simpa [diagnoseClaimed] using applies.trans diagnosed.after) (by simp))
  | [a, c] =>
    cases Option.some.inj listed
    cases ran
    have authorized := fingerprint.trans diagnosed.fingerprint
    have expected := expects.trans diagnosed.expected
    constructor
    · rw [diagnoseApplied_sound, agreeing, authorized, expected]
      constructor
      · rintro ⟨⟨-, agrees⟩, ⟨digest, repeats⟩, applied, own⟩
        exact ⟨⟨same, digest, repeats, applied, own⟩, agrees, not_housed same (by decide)⟩
      · rintro ⟨⟨-, digest, repeats, applied, own⟩, agrees, -⟩
        exact ⟨⟨clean, agrees⟩, ⟨digest, repeats⟩, applied, own⟩
    · intro sound
      have own := (diagnoseApplied_sound.mp sound).2.2
      refine diagnosed.snoc listed (by simpa [diagnoseApplied] using seen)
        (by simpa [diagnoseApplied] using links) (kept_snoc (by simpa [diagnoseApplied] using authorized) (by simp))
        (kept_snoc (by simpa [diagnoseApplied] using expected) (by simp)) ?_
      rw [diagnoseApplied_after, if_pos own]
      rfl
  | [a, c, p] =>
    cases Option.some.inj listed
    obtain ⟨problem, found, ran⟩ := Except.bind_ok.mp ran
    cases ran
    have authorized := fingerprint.trans diagnosed.fingerprint
    have expected := expects.trans diagnosed.expected
    have applied := applies.trans diagnosed.after
    constructor
    · rw [note_sound, agreeing, consumedProblem_ok found]
      simp only [terminalProblem_none]
      rw [links.1, links.2.1, applied]
      constructor
      · rintro ⟨⟨-, agrees⟩, given, -, done, looked, type, houses, receipt, digest, repeats⟩
        refine ⟨⟨same, given, done, looked, type, receipt, digest, repeats⟩, agrees, ?_⟩
        intro _ other named
        obtain rfl : done = other := Option.some.inj (Except.ok.inj (looked.symm.trans named))
        exact houses
      · rintro ⟨⟨-, given, done, looked, type, receipt, digest, repeats⟩, agrees, houses⟩
        have present := truthy_of_digest (repeats ▸ digest)
        exact ⟨⟨clean, agrees⟩, given, present, done, looked, type, houses same done looked, receipt,
          digest, repeats⟩
    · intro _
      exact diagnosed.snoc listed (by simpa using seen) (by simpa using links)
        (kept_snoc (by simpa using authorized) (by simp))
        (kept_snoc (by simpa using expected) (by simp)) (kept_snoc (by simpa using applied) (by simp))
  | _ :: _ :: _ :: _ :: _ => cases listed

/-- **The doctor is a monitor.** -/
theorem monitor_diagnoseEvent : Log.Monitor
    (fun before event => Fits firstFilled db receiptId (before.map Prod.snd) event.2)
    (fun before => Diagnosed (before.map Prod.snd)) (fun diagnosis => diagnosis.sound = true)
    (diagnoseEvent db receiptId) where
  kept := diagnoseEvent_kept
  noticed := by
    intro before event diagnosis next sound diagnosed clean ran
    rw [List.map_append]
    exact diagnoseEvent_noticed (Log.sound_map.mpr (sound.imp fun _ _ fits => fits.1)) diagnosed clean
      ran

end Doctor

section Stopping

variable {db : Db} {receiptId : String} {diagnosis next : ChainDiagnosis} {events : List EventDict}
  {event : EventDict} {payload : Json} {rowid : Nat}

def hasStatus (status : String) (event : EventDict) : Bool := statusOf event = .str status

/-- The digest that the first claim of a chain expects. -/
def claimedDigest (events : List EventDict) : Json :=
  match events.find? (hasStatus statusClaimed) with
  | some claimed => if isCanonicalSha256 (expectedOf claimed) then expectedOf claimed else .null
  | none => .null

/-- The digest of the first application, if it is the one that has been claimed before. -/
def appliedDigest (events : List EventDict) : Json :=
  match events.find? (hasStatus statusApplied) with
  | some applied =>
    if isCanonicalSha256 (afterOf applied) ∧
        afterOf applied = claimedDigest (events.takeWhile fun e => !hasStatus statusApplied e)
      then afterOf applied else .null
  | none => .null

/-- The doctor has to give up: the first consumed event, after an application, names a terminal that cannot
be looked up. -/
def Stops (db : Db) (chain : List EventDict) : Prop :=
  ∃ before event after, chain = before ++ event :: after ∧
    before.any (hasStatus statusConsumed) = false ∧ hasStatus statusConsumed event = true ∧
    Unsearchable db event ∧ (appliedDigest before).truthy = true

theorem claimedDigest_snoc : claimedDigest (events ++ [event]) =
    if hasStatus statusClaimed event ∧ events.any (hasStatus statusClaimed) = false ∧
        isCanonicalSha256 (expectedOf event)
      then expectedOf event else claimedDigest events := by
  unfold claimedDigest
  rw [List.find?_append]
  cases found : events.find? (hasStatus statusClaimed) with
  | some claimed =>
    have seen : events.any (hasStatus statusClaimed) = true :=
      List.any_eq_true.mpr ⟨claimed, List.mem_of_find?_eq_some found, List.find?_some found⟩
    simp [seen]
  | none =>
    have unseen : events.any (hasStatus statusClaimed) = false := by
      simpa [List.any_eq_false] using found
    cases own : hasStatus statusClaimed event <;> simp [own, unseen]

theorem appliedDigest_snoc : appliedDigest (events ++ [event]) =
    if hasStatus statusApplied event ∧ events.any (hasStatus statusApplied) = false ∧
        isCanonicalSha256 (afterOf event) ∧ afterOf event = claimedDigest events
      then afterOf event else appliedDigest events := by
  unfold appliedDigest
  rw [List.find?_append]
  cases found : events.find? (hasStatus statusApplied) with
  | some applied =>
    have seen : events.any (hasStatus statusApplied) = true :=
      List.any_eq_true.mpr ⟨applied, List.mem_of_find?_eq_some found, List.find?_some found⟩
    have same : (events ++ [event]).takeWhile (fun e => !hasStatus statusApplied e) =
        events.takeWhile fun e => !hasStatus statusApplied e := by
      rw [List.takeWhile_append, if_neg]
      intro whole
      have all := (List.takeWhile_prefix _).eq_of_length whole
      have none := List.mem_takeWhile_imp (all.symm ▸ List.mem_of_find?_eq_some found)
      rw [List.find?_some found] at none
      cases none
    simp [seen, same]
  | none =>
    have unseen : events.any (hasStatus statusApplied) = false := by
      simpa [List.any_eq_false] using found
    cases own : hasStatus statusApplied event with
    | false => simp [own, unseen]
    | true =>
      have whole : (events ++ [event]).takeWhile (fun e => !hasStatus statusApplied e) = events := by
        rw [List.takeWhile_append_of_pos fun e member => by
          simpa using List.any_eq_false.mp unseen e member]
        simp [own]
      simp [own, unseen, whole]

/-- What the doctor keeps of an event beside its place in the chain. -/
theorem diagnoseFingerprints_progress {status : String}
    (ran : diagnoseFingerprints db receiptId diagnosis status rowid payload = .ok next) :
    next.seenStatuses = diagnosis.seenStatuses ∧
    next.claimedExpectedAfter =
      (if status = statusClaimed ∧ isCanonicalSha256 (payload.get "expected_after_fingerprint")
        then payload.get "expected_after_fingerprint" else diagnosis.claimedExpectedAfter) ∧
    next.appliedAfter =
      (if status = statusApplied ∧ isCanonicalSha256 (payload.get "after_fingerprint") ∧
          payload.get "after_fingerprint" = diagnosis.claimedExpectedAfter
        then payload.get "after_fingerprint" else diagnosis.appliedAfter) := by
  unfold diagnoseFingerprints at ran
  split at ran
  · rename_i claimed
    subst claimed
    cases ran
    refine ⟨by simp [diagnoseClaimed], ?_, ?_⟩
    · rw [diagnoseClaimed]
      refine if_congr ?_ rfl rfl
      rw [Option.isNone_iff_eq_none, fingerprintProblem_none]
      simp
    · rw [if_neg (fun applied => absurd applied.1 (by decide))]
      simp [diagnoseClaimed]
  split at ran
  · rename_i other applied
    subst applied
    cases ran
    refine ⟨by simp [diagnoseApplied], ?_, ?_⟩
    · rw [if_neg (fun claimed => absurd claimed.1 (by decide))]
      simp [diagnoseApplied]
    · rw [diagnoseApplied_after]
      refine if_congr ?_ rfl rfl
      simp
  rename_i notClaimed notApplied
  rw [if_neg (fun claimed => notClaimed claimed.1), if_neg (fun applied => notApplied applied.1)]
  split at ran
  · obtain ⟨problem, -, ran⟩ := Except.bind_ok.mp ran
    cases ran
    exact ⟨note_seenStatuses _, note_expected _, note_after _⟩
  · cases ran
    exact ⟨rfl, rfl, rfl⟩

/-- The event of a repeated status changes nothing but the problems. -/
theorem diagnoseKnown_repeated (db : Db) (receiptId : String) (rowid : Nat) (payload : Json)
    {status : String} (repeated : diagnosis.seenStatuses.contains status = true) :
    ∃ problems, diagnoseKnown db receiptId diagnosis status rowid payload =
      .ok ((diagnosis.note (orderProblem diagnosis status rowid)).note problems) := by
  unfold diagnoseKnown
  dsimp only
  rw [note_seenStatuses, if_pos repeated]
  exact ⟨_, rfl⟩

/-- The event of a new status is read as far as it goes. -/
theorem diagnoseKnown_new (db : Db) (receiptId : String) (rowid : Nat) (payload : Json)
    {status : String} (new : diagnosis.seenStatuses.contains status = false) :
    ∃ linked : ChainDiagnosis, linked.seenStatuses = diagnosis.seenStatuses ++ [status] ∧
      linked.claimedExpectedAfter = diagnosis.claimedExpectedAfter ∧
      linked.appliedAfter = diagnosis.appliedAfter ∧
      diagnoseKnown db receiptId diagnosis status rowid payload =
        diagnoseFingerprints db receiptId linked status rowid payload := by
  unfold diagnoseKnown
  dsimp only
  rw [note_seenStatuses, new, if_neg Bool.false_ne_true]
  exact ⟨_, by simp [diagnoseLinks], by simp [diagnoseLinks], by simp [diagnoseLinks], rfl⟩

/-- What the doctor knows of a chain, whatever it has found in it. -/
structure Progressed (events : List EventDict) (diagnosis : ChainDiagnosis) : Prop where
  seen : ∀ status, diagnosis.seenStatuses.contains status = true ↔
    status ∈ statusOrder ∧ events.any (hasStatus status) = true
  expected : diagnosis.claimedExpectedAfter = claimedDigest events
  after : diagnosis.appliedAfter = appliedDigest events

theorem progressed_nil : Progressed [] {} := ⟨fun status => by simp, rfl, rfl⟩

theorem entered_progress (diagnosis : ChainDiagnosis) (rowid : Nat) (payload : Json) (status : String) :
    (entered diagnosis status rowid payload).seenStatuses = diagnosis.seenStatuses ∧
    (entered diagnosis status rowid payload).claimedExpectedAfter = diagnosis.claimedExpectedAfter ∧
    (entered diagnosis status rowid payload).appliedAfter = diagnosis.appliedAfter := by
  unfold entered
  split
  · simp [diagnoseAuthorized]
  · exact ⟨rfl, rfl, rfl⟩

theorem hasStatus_of {status other : String} (same : statusOf event = .str status) :
    hasStatus other event = true ↔ other = status := by
  rw [hasStatus, decide_eq_true_iff, same, Json.str.injEq, eq_comm]

/-- The statuses of a chain with one more event. -/
theorem Progressed.seen_snoc (progressed : Progressed events diagnosis) {status : String}
    (same : statusOf event = .str status) (known : status ∈ statusOrder) (other : String) :
    (diagnosis.seenStatuses.contains other = true ∨ other = status) ↔
      other ∈ statusOrder ∧ (events ++ [event]).any (hasStatus other) = true := by
  rw [progressed.seen, List.any_append, Bool.or_eq_true, List.any_cons, List.any_nil, Bool.or_false,
    hasStatus_of same]
  constructor
  · rintro (⟨listed, earlier⟩ | rfl)
    · exact ⟨listed, .inl earlier⟩
    · exact ⟨known, .inr rfl⟩
  · rintro ⟨listed, earlier | rfl⟩
    · exact .inl ⟨listed, earlier⟩
    · exact .inr rfl

/-- An event that tells nothing new about the digests. -/
theorem Progressed.still (progressed : Progressed events diagnosis)
    (claimed : hasStatus statusClaimed event = true → events.any (hasStatus statusClaimed) = true)
    (applied : hasStatus statusApplied event = true → events.any (hasStatus statusApplied) = true) :
    diagnosis.claimedExpectedAfter = claimedDigest (events ++ [event]) ∧
      diagnosis.appliedAfter = appliedDigest (events ++ [event]) := by
  rw [claimedDigest_snoc, appliedDigest_snoc, if_neg, if_neg]
  · exact ⟨progressed.expected, progressed.after⟩
  · rintro ⟨own, none, -⟩
    rw [applied own] at none
    cases none
  · rintro ⟨own, none, -⟩
    rw [claimed own] at none
    cases none

/-- One more event, unless the doctor has to give up at it. -/
theorem Progressed.snoc (progressed : Progressed events diagnosis)
    (ran : diagnoseEvent db receiptId diagnosis (rowid, event) = .ok next) :
    Progressed (events ++ [event]) next := by
  by_cases known : ∃ status ∈ statusOrder, statusOf event = .str status
  swap
  · have unknown : ∀ status ∈ statusOrder, statusOf event ≠ .str status := by simpa using known
    have never : ∀ status ∈ statusOrder, hasStatus status event = true → False :=
      fun status listed own => unknown status listed (of_decide_eq_true own)
    obtain ⟨problem, same⟩ := diagnoseEvent_unknown db receiptId diagnosis rowid unknown
    rw [same] at ran
    cases ran
    have still := progressed.still (fun own => (never _ (by decide) own).elim)
      fun own => (never _ (by decide) own).elim
    refine ⟨fun status => ?_, (note_expected _).trans still.1, (note_after _).trans still.2⟩
    rw [note_seenStatuses, progressed.seen, List.any_append, Bool.or_eq_true]
    simp only [List.any_cons, List.any_nil, Bool.or_false]
    exact and_congr_right fun listed => ⟨.inl, fun earlier =>
      earlier.elim id fun own => (never status listed own).elim⟩
  obtain ⟨status, listed, same⟩ := known
  rw [diagnoseEvent_known listed same] at ran
  obtain ⟨seen, expected, after⟩ := entered_progress diagnosis rowid (payloadOf event) status
  have repeats : diagnosis.seenStatuses.contains status = true ↔ events.any (hasStatus status) = true :=
    (progressed.seen status).trans (and_iff_right listed)
  cases repeated : (entered diagnosis status rowid (payloadOf event)).seenStatuses.contains status with
  | true =>
    obtain ⟨problem, noted⟩ := diagnoseKnown_repeated db receiptId rowid (payloadOf event) repeated
    rw [noted] at ran
    cases ran
    rw [seen] at repeated
    have earlier := repeats.mp repeated
    have still := progressed.still
      (fun own => by rw [(hasStatus_of same).mp own]; exact earlier)
      fun own => by rw [(hasStatus_of same).mp own]; exact earlier
    refine ⟨fun other => ?_, ?_, ?_⟩
    · rw [note_seenStatuses, note_seenStatuses, seen, ← progressed.seen_snoc same listed]
      exact ⟨.inl, fun has => has.elim id fun own => own ▸ repeated⟩
    · rw [note_expected, note_expected, expected]
      exact still.1
    · rw [note_after, note_after, after]
      exact still.2
  | false =>
    obtain ⟨linked, linkedSeen, linkedExpected, linkedAfter, same'⟩ := diagnoseKnown_new db receiptId rowid
      (payloadOf event) repeated
    rw [same'] at ran
    obtain ⟨nextSeen, nextExpected, nextAfter⟩ := diagnoseFingerprints_progress ran
    rw [seen] at repeated linkedSeen
    have fresh : events.any (hasStatus status) = false := by
      rw [Bool.eq_false_iff]
      exact fun earlier => by rw [repeats.mpr earlier] at repeated; cases repeated
    have place : ∀ other, hasStatus other event = true ∧ events.any (hasStatus other) = false ↔
        status = other := by
      intro other
      rw [hasStatus_of same, eq_comm]
      exact ⟨And.left, fun own => ⟨own, own ▸ fresh⟩⟩
    refine ⟨fun other => ?_, ?_, ?_⟩
    · rw [nextSeen, linkedSeen, ← progressed.seen_snoc same listed]
      simp
    · rw [nextExpected, claimedDigest_snoc, linkedExpected, expected, ← progressed.expected]
      exact if_congr (by rw [← place statusClaimed, and_assoc]; exact Iff.rfl) rfl rfl
    · rw [nextAfter, appliedDigest_snoc, linkedAfter, linkedExpected, after, expected,
        ← progressed.expected, ← progressed.after]
      exact if_congr (by rw [← place statusApplied, and_assoc]; exact Iff.rfl) rfl rfl

theorem diagnoseFingerprints_error {status : String} :
    (∃ error, diagnoseFingerprints db receiptId diagnosis status rowid payload = .error error) ↔
      status = statusConsumed ∧ ∃ error, consumedProblem db receiptId diagnosis payload = .error error := by
  unfold diagnoseFingerprints
  split
  · rename_i claimed
    subst claimed
    exact ⟨fun ⟨_, failed⟩ => (by cases failed), fun ⟨consumed, _⟩ => absurd consumed (by decide)⟩
  split
  · rename_i applied
    subst applied
    exact ⟨fun ⟨_, failed⟩ => (by cases failed), fun ⟨consumed, _⟩ => absurd consumed (by decide)⟩
  split
  · rename_i consumed
    cases consumedProblem db receiptId diagnosis payload with
    | error error => exact ⟨fun _ => ⟨consumed, error, rfl⟩, fun _ => ⟨error, rfl⟩⟩
    | ok problem => exact ⟨fun ⟨_, failed⟩ => (by cases failed), fun ⟨_, _, failed⟩ => (by cases failed)⟩
  · rename_i other
    exact ⟨fun ⟨_, failed⟩ => (by cases failed), fun ⟨consumed, _⟩ => absurd consumed other⟩

/-- Where the doctor has to give up. -/
theorem diagnoseEvent_error (progressed : Progressed events diagnosis) :
    (∃ error, diagnoseEvent db receiptId diagnosis (rowid, event) = .error error) ↔
      hasStatus statusConsumed event = true ∧ events.any (hasStatus statusConsumed) = false ∧
        Unsearchable db event ∧ (appliedDigest events).truthy = true := by
  by_cases known : ∃ status ∈ statusOrder, statusOf event = .str status
  swap
  · have unknown : ∀ status ∈ statusOrder, statusOf event ≠ .str status := by simpa using known
    obtain ⟨problem, same⟩ := diagnoseEvent_unknown db receiptId diagnosis rowid unknown
    rw [same]
    exact ⟨fun ⟨_, failed⟩ => (by cases failed),
      fun ⟨own, _⟩ => absurd (of_decide_eq_true own) (unknown _ (by decide))⟩
  obtain ⟨status, listed, same⟩ := known
  obtain ⟨seen, -, after⟩ := entered_progress diagnosis rowid (payloadOf event) status
  rw [diagnoseEvent_known listed same, hasStatus_of same]
  cases repeated : (entered diagnosis status rowid (payloadOf event)).seenStatuses.contains status with
  | true =>
    obtain ⟨problem, noted⟩ := diagnoseKnown_repeated db receiptId rowid (payloadOf event) repeated
    rw [noted]
    rw [seen] at repeated
    have earlier := ((progressed.seen status).mp repeated).2
    constructor
    · rintro ⟨_, failed⟩
      cases failed
    · rintro ⟨rfl, fresh, -⟩
      rw [earlier] at fresh
      cases fresh
  | false =>
    obtain ⟨linked, -, -, linkedAfter, read⟩ := diagnoseKnown_new db receiptId rowid
      (payloadOf event) repeated
    rw [read, diagnoseFingerprints_error, consumedProblem_error, linkedAfter, after, progressed.after]
    rw [seen] at repeated
    constructor
    · rintro ⟨rfl, given, applied, failed⟩
      refine ⟨rfl, ?_, ⟨given, failed⟩, applied⟩
      rw [Bool.eq_false_iff]
      intro earlier
      rw [(progressed.seen _).mpr ⟨listed, earlier⟩] at repeated
      cases repeated
    · rintro ⟨rfl, -, ⟨given, failed⟩, applied⟩
      exact ⟨rfl, given, applied, failed⟩

theorem progressed_of_read {chain : List NumberedEvent}
    (read : chain.foldlM (diagnoseEvent db receiptId) {} = .ok diagnosis) :
    Progressed (chain.map Prod.snd) diagnosis := by
  refine Log.foldlM_ok_of (P := fun chain diagnosis => Progressed (chain.map Prod.snd) diagnosis)
    progressed_nil (fun before event d d' progressed ran => ?_) read
  rw [List.map_append]
  exact progressed.snoc ran

/-- **The doctor gives up only at a terminal that cannot be looked up.** -/
theorem diagnosis_error (receiptId : String) (chain : List NumberedEvent) :
    (∃ error, chain.foldlM (diagnoseEvent db receiptId) {} = .error error) ↔
      Stops db (chain.map Prod.snd) := by
  constructor
  · rintro ⟨error, failed⟩
    obtain ⟨before, event, after, state, rfl, read, stopped⟩ := Log.foldlM_error failed
    obtain ⟨own, fresh, unreadable, applied⟩ :=
      (diagnoseEvent_error (progressed_of_read read)).mp ⟨error, stopped⟩
    exact ⟨before.map Prod.snd, event.2, after.map Prod.snd, by simp, fresh, own, unreadable, applied⟩
  · rintro ⟨before, event, after, split, fresh, own, unreadable, applied⟩
    obtain ⟨earlier, rest, rfl, rfl, others⟩ := List.map_eq_append_iff.mp split
    obtain ⟨numbered, later, rfl, rfl, rfl⟩ := List.map_eq_cons_iff.mp others
    cases read : earlier.foldlM (diagnoseEvent db receiptId) {} with
    | error error =>
      refine ⟨error, ?_⟩
      rw [List.foldlM_append, read]
      rfl
    | ok state =>
      obtain ⟨error, stopped⟩ : ∃ error, diagnoseEvent db receiptId state numbered = .error error :=
        (diagnoseEvent_error (progressed_of_read read)).mpr ⟨own, fresh, unreadable, applied⟩
      exact ⟨error, Log.foldlM_stops read stopped⟩

/-- Nothing has been found in a chain that has been read just where it is sound. -/
theorem diagnosis_sound {chain : List NumberedEvent}
    (read : chain.foldlM (diagnoseEvent db receiptId) {} = .ok diagnosis) :
    (diagnosis.sound = true ↔ Log.Sound (Fits firstFilled db receiptId) (chain.map Prod.snd)) ∧
      (diagnosis.sound = true → Diagnosed (chain.map Prod.snd) diagnosis) := by
  rw [Log.sound_map]
  exact monitor_diagnoseEvent.clean_iff diagnosed_nil rfl read

end Stopping

end Coordinate.Completion

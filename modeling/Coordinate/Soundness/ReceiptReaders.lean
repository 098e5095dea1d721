import Coordinate.Model.SampleCheckout
import Coordinate.Proofs.ReceiptDoctor

/-! # The doctor and the preflight on one receipt

Both readers decide the same links, and settle differently to whom a chain belongs. So they agree on a chain
unless a blank name comes before a name, a terminal cannot be looked up, or the window of the receipt is
written in a way in which the order of texts is not the order of times.
-/

namespace Coordinate.Completion

section Names

variable {db : Db} {receiptId : String} {chain : List EventDict}

/-- Nobody is named but the ones who are named first. -/
def Coherent (chain : List EventDict) : Prop :=
  ∀ field ∈ identityFields, ∀ event ∈ chain, (field (payloadOf event)).truthy = true →
    field (payloadOf event) = settled firstFilled field chain

/-- No blank name comes before a name. -/
def Unblanked (chain : List EventDict) : Prop :=
  ∀ field ∈ identityFields, settled firstFilled field chain ≠ .null →
    settled firstGiven field chain = settled firstFilled field chain

theorem firstFilled_append {values others : List Json} (filled : firstFilled values ≠ .null) :
    firstFilled (values ++ others) = firstFilled values := by
  unfold firstFilled at filled ⊢
  rw [List.find?_append]
  cases found : values.find? Json.truthy with
  | some value => rfl
  | none => rw [found] at filled; exact absurd rfl filled

theorem firstGiven_append {values others : List Json} (given : firstGiven values ≠ .null) :
    firstGiven (values ++ others) = firstGiven values := by
  unfold firstGiven at given ⊢
  rw [List.find?_append]
  cases found : values.find? (· ≠ .null) with
  | some value => rfl
  | none => rw [found] at given; exact absurd rfl given

theorem ne_null_of_truthy {value : Json} (filled : value.truthy = true) : value ≠ .null := by
  rintro rfl
  cases filled

theorem firstFilled_ne_null {values : List Json} {value : Json} (member : value ∈ values)
    (filled : value.truthy = true) : firstFilled values ≠ .null := by
  unfold firstFilled
  cases found : values.find? Json.truthy with
  | some other => exact ne_null_of_truthy (List.find?_some found)
  | none => exact absurd filled (by simpa using List.find?_eq_none.mp found value member)

theorem firstGiven_ne_null {values : List Json} {value : Json} (member : value ∈ values)
    (given : value ≠ .null) : firstGiven values ≠ .null := by
  unfold firstGiven
  cases found : values.find? (· ≠ .null) with
  | some other => simpa using List.find?_some found
  | none => exact absurd given (by simpa using List.find?_eq_none.mp found value member)

theorem exists_firstFilled {values : List Json} (filled : firstFilled values ≠ .null) :
    ∃ value ∈ values, value.truthy = true ∧ firstFilled values = value := by
  unfold firstFilled at filled ⊢
  cases found : values.find? Json.truthy with
  | some value => exact ⟨value, List.mem_of_find?_eq_some found, List.find?_some found, rfl⟩
  | none => rw [found] at filled; exact absurd rfl filled

/-- The names of a chain, event by event and all at once. -/
theorem sound_agrees {pick : List Json → Json}
    (settles : ∀ {values others : List Json}, pick values ≠ .null → pick (values ++ others) = pick values)
    (given : ∀ {values : List Json} {value : Json}, value ∈ values → value.truthy = true →
      pick values ≠ .null) : Log.Sound (Agrees pick) chain ↔
      ∀ field ∈ identityFields, ∀ event ∈ chain, (field (payloadOf event)).truthy = true →
        field (payloadOf event) = settled pick field chain := by
  have whole : ∀ (before : List EventDict) (event : EventDict) (after : List EventDict)
      (field : Json → Json), (field (payloadOf event)).truthy = true →
      settled pick field (before ++ event :: after) = settled pick field (before ++ [event]) := by
    intro before event after field filled
    have own : field (payloadOf event) ∈
        (before ++ [event]).map fun event => field (payloadOf event) := by simp
    rw [List.append_cons, settled, List.map_append]
    exact settles (given own filled)
  constructor
  · intro sound field listed event member filled
    obtain ⟨before, after, rfl⟩ := List.append_of_mem member
    rw [whole before event after field filled]
    exact sound before event after rfl field listed filled
  · rintro agreeing before event after rfl field listed filled
    rw [← whole before event after field filled]
    exact agreeing field listed event (by simp) filled

theorem sound_agrees_filled : Log.Sound (Agrees firstFilled) chain ↔ Coherent chain :=
  sound_agrees firstFilled_append firstFilled_ne_null

theorem sound_agrees_given : Log.Sound (Agrees firstGiven) chain ↔ Coherent chain ∧ Unblanked chain := by
  rw [sound_agrees firstGiven_append fun member filled => firstGiven_ne_null member (ne_null_of_truthy filled)]
  constructor
  · intro agreeing
    have same : Unblanked chain := by
      intro field listed filled
      obtain ⟨value, member, truthy, first⟩ := exists_firstFilled filled
      obtain ⟨event, own, rfl⟩ := List.mem_map.mp member
      rw [settled] at filled ⊢
      exact (agreeing field listed event own truthy).symm.trans first.symm
    refine ⟨fun field listed event member filled => ?_, same⟩
    rw [← same field listed]
    · exact agreeing field listed event member filled
    · exact firstFilled_ne_null (List.mem_map_of_mem member) filled
  · rintro ⟨coherent, same⟩ field listed event member filled
    rw [same field listed]
    · exact coherent field listed event member filled
    · exact firstFilled_ne_null (List.mem_map_of_mem member) filled

/-- What each reader asks of a chain. -/
theorem sound_fits {pick : List Json → Json} : Log.Sound (Fits pick db receiptId) chain ↔
    Log.Sound (Linked db receiptId) chain ∧ Log.Sound (Agrees pick) chain ∧
      Log.Sound (Housed pick db) chain := by
  rw [← Log.sound_and, ← Log.sound_and]
  exact Iff.rfl

end Names

section Answers

variable {db : Db} {receiptId : String} {chain : List EventDict}

/-- The events that start a chain are those of the status. -/
def Typed (chain : List EventDict) : Prop :=
  ∀ event ∈ chain, event.row.eventType = "completion.authorized" ↔
    statusOf event = .str statusAuthorized

theorem linked_first {first : EventDict} {rest : List EventDict}
    (sound : Log.Sound (Linked db receiptId) (first :: rest)) :
    statusOf first = .str statusAuthorized ∧ isCanonicalSha256 (harnessOf first) = true :=
  sound [] first rest rfl

/-- A chain that is in order is derived from its first event and its last status. -/
theorem preflightOf_sound {first : EventDict} {rest : List EventDict} (typed : Typed (first :: rest))
    (sound : Log.Sound (Fits firstGiven db receiptId) (first :: rest)) :
    ∃ workspaceId taskId actor issuedAt terminalEventId,
      preflightOf db receiptId (first :: rest) = some (.derived workspaceId taskId actor
        ((statusOf <$> (first :: rest).getLast?).getD .null) issuedAt
        ((payloadOf first).get "expires_at") terminalEventId) := by
  have start := (typed first (List.mem_cons_self ..)).mpr (linked_first (sound_fits.mp sound).1).1
  obtain ⟨scan, scanned⟩ := exists_scanChain sound
  have status := (scanChain_ok scanned).2.status
  refine ⟨scan.workspaceId, scan.taskId, scan.actor, (payloadOf first).get "issued_at",
    scan.terminalEventId, ?_⟩
  rw [preflightOf, if_neg (not_not.mpr start), scanned]
  dsimp only
  rw [status]
  simp [List.getLast?_cons]

theorem preflightOf_givesUp {first : EventDict} {rest : List EventDict} (typed : Typed (first :: rest))
    (stuck : GivesUp db receiptId (first :: rest)) :
    ∃ error, preflightOf db receiptId (first :: rest) = some (.raised error) := by
  obtain ⟨error, raised⟩ := scanChain_raised.mpr stuck
  obtain ⟨before, event, after, same, sound, three, -⟩ := stuck
  have start : statusOf first = .str statusAuthorized := by
    match before, three with
    | [a, c, p], _ =>
      cases same
      exact (linked_first (sound_fits.mp sound).1).1
  refine ⟨error, ?_⟩
  rw [preflightOf, if_neg (not_not.mpr ((typed first (List.mem_cons_self ..)).mpr start)), raised]

theorem preflightOf_broken {first : EventDict} {rest : List EventDict}
    (unsound : ¬ Log.Sound (Fits firstGiven db receiptId) (first :: rest))
    (readable : ¬ GivesUp db receiptId (first :: rest)) :
    ∃ reason message, preflightOf db receiptId (first :: rest) = some (.broken reason message) := by
  rw [preflightOf]
  split
  · exact ⟨_, _, rfl⟩
  · cases scanned : scanChain db receiptId {} (first :: rest) with
    | ok scan => exact absurd (scanChain_ok scanned).1 unsound
    | error answer =>
      obtain ⟨reason, message, rfl⟩ | ⟨error, rfl⟩ := answers_scanChain _ _ _ scanned
      · exact ⟨reason, message, rfl⟩
      · exact absurd (scanChain_raised.mp ⟨error, scanned⟩) readable

/-- A terminal that cannot be looked up does not fit anywhere. -/
theorem not_linked_of_unsearchable {before : List EventDict} {event : EventDict}
    (consumed : statusOf event = .str statusConsumed) (unreadable : Unsearchable db event) :
    ¬ Linked db receiptId before event := by
  intro linked
  obtain ⟨-, error, failed⟩ := unreadable
  match before, linked with
  | [], linked => rw [linked.1] at consumed; exact absurd (Json.str.inj consumed) (by decide)
  | [_], linked => rw [linked.1] at consumed; exact absurd (Json.str.inj consumed) (by decide)
  | [_, _], linked => rw [linked.1] at consumed; exact absurd (Json.str.inj consumed) (by decide)
  | [_, _, _], linked =>
    obtain ⟨-, -, done, found, -⟩ := linked
    rw [failed] at found
    cases found

theorem Stops.not_linked (stops : Stops db chain) : ¬ Log.Sound (Linked db receiptId) chain := by
  obtain ⟨before, event, after, rfl, -, consumed, unreadable, -⟩ := stops
  intro sound
  exact not_linked_of_unsearchable (of_decide_eq_true consumed) unreadable (sound before event after rfl)

/-- Where the preflight gives up the doctor does. -/
theorem GivesUp.stops (stuck : GivesUp db receiptId chain) : Stops db chain := by
  obtain ⟨before, event, after, rfl, sound, three, consumed, -, unreadable⟩ := stuck
  have linked := (sound_fits.mp sound).1
  refine ⟨before, event, after, rfl, ?_, decide_eq_true consumed, unreadable, ?_⟩
  · match before, three with
    | [a, c, p], _ =>
      have first := (linked [] a [c, p] rfl).1
      have second := (linked [a] c [p] rfl).1
      have third := (linked [a, c] p [] rfl).1
      simp [hasStatus, first, second, third, statusAuthorized, statusClaimed, statusApplied,
        statusConsumed]
  · match before, three with
    | [a, c, p], _ =>
      have first := (linked [] a [c, p] rfl).1
      obtain ⟨second, -, -, expects⟩ := linked [a] c [p] rfl
      obtain ⟨third, -, -, applies, same⟩ := linked [a, c] p [] rfl
      have digest : appliedDigest [a, c, p] = afterOf p := by
        have own : claimedDigest [a, c] = expectedOf c := by
          simp [claimedDigest, hasStatus, first, second, statusAuthorized, statusClaimed, expects]
        simp [appliedDigest, hasStatus, first, second, third, statusAuthorized, statusClaimed,
          statusApplied, own, same, expects]
      rw [digest]
      exact truthy_of_digest applies

end Answers

section Findings

variable {db : Db} {workspaceId receiptId now : String} {chain : List NumberedEvent}
  {consumed : List ConsumedReceipt} {diagnosis : ChainDiagnosis}

theorem diagnose_stops (stops : Stops db (chain.map Prod.snd)) :
    ∃ error, diagnoseOneReceiptChain db workspaceId receiptId chain consumed now = .error error := by
  obtain ⟨error, failed⟩ := (diagnosis_error receiptId chain).mpr stops
  refine ⟨error, ?_⟩
  rw [diagnoseOneReceiptChain, failed]
  rfl

theorem exists_diagnosis (receiptId : String) (readable : ¬ Stops db (chain.map Prod.snd)) :
    ∃ diagnosis, chain.foldlM (diagnoseEvent db receiptId) {} = .ok diagnosis := by
  cases read : chain.foldlM (diagnoseEvent db receiptId) {} with
  | ok diagnosis => exact ⟨diagnosis, rfl⟩
  | error error => exact absurd ((diagnosis_error receiptId chain).mp ⟨error, read⟩) readable

/-- A chain with problems has findings about them, and no others. -/
theorem diagnose_unsound (readable : ¬ Stops db (chain.map Prod.snd))
    (unsound : ¬ Log.Sound (Fits firstFilled db receiptId) (chain.map Prod.snd)) :
    ∃ finding findings, diagnoseOneReceiptChain db workspaceId receiptId chain consumed now =
        .ok (finding :: findings) ∧
      ∀ f ∈ finding :: findings, f.kind = .receiptChainConflict ∨ f.kind = .receiptChainIncomplete := by
  obtain ⟨diagnosis, read⟩ := exists_diagnosis receiptId readable
  have wrong := (diagnosis_sound read).1.not.mpr unsound
  have unused : unusedFindings workspaceId receiptId diagnosis consumed now = .ok [] := by
    rw [unusedFindings, if_neg (fun all => wrong all.2.2)]
    rfl
  have terminal : terminalFindings workspaceId receiptId chain diagnosis = [] := by
    unfold terminalFindings
    split
    · rfl
    · rw [if_neg (fun all => wrong all.2)]
  have result : diagnoseOneReceiptChain db workspaceId receiptId chain consumed now =
      .ok (problemFindings workspaceId receiptId chain diagnosis) := by
    rw [diagnoseOneReceiptChain, read]
    change (do let unused ← unusedFindings workspaceId receiptId diagnosis consumed now; _) = _
    rw [unused, terminal]
    change Except.ok (_ ++ [] ++ []) = _
    rw [List.append_nil, List.append_nil]
  rw [result]
  unfold problemFindings
  unfold ChainDiagnosis.sound at wrong
  cases conflicts : diagnosis.conflicts.isEmpty with
  | false =>
    cases missing : diagnosis.predecessorMissing.isEmpty with
    | false => exact ⟨_, _, rfl, by simp [receiptFinding]⟩
    | true => exact ⟨_, _, rfl, by simp [receiptFinding]⟩
  | true =>
    cases missing : diagnosis.predecessorMissing.isEmpty with
    | false => exact ⟨_, _, rfl, by simp [receiptFinding]⟩
    | true => rw [conflicts, missing] at wrong; exact absurd rfl wrong

/-- A chain without problems. -/
theorem diagnose_sound (workspaceId now : String) (consumed : List ConsumedReceipt)
    (sound : Log.Sound (Fits firstFilled db receiptId) (chain.map Prod.snd)) :
    ∃ diagnosis, chain.foldlM (diagnoseEvent db receiptId) {} = .ok diagnosis ∧
      diagnosis.sound = true ∧ Diagnosed (chain.map Prod.snd) diagnosis ∧
      diagnoseOneReceiptChain db workspaceId receiptId chain consumed now = (do
        let unused ← unusedFindings workspaceId receiptId diagnosis consumed now
        return terminalFindings workspaceId receiptId chain diagnosis ++ unused) := by
  have readable : ¬ Stops db (chain.map Prod.snd) :=
    fun stops => stops.not_linked (sound_fits.mp sound).1
  obtain ⟨diagnosis, read⟩ := exists_diagnosis receiptId readable
  obtain ⟨clean, kept⟩ := diagnosis_sound read
  refine ⟨diagnosis, read, clean.mpr sound, kept (clean.mpr sound), ?_⟩
  have nothing : problemFindings workspaceId receiptId chain diagnosis = [] := by
    have both := clean.mpr sound
    rw [ChainDiagnosis.sound, Bool.and_eq_true] at both
    rw [problemFindings, if_pos both.1, if_pos both.2]
    rfl
  rw [diagnoseOneReceiptChain, read]
  change (do let unused ← unusedFindings workspaceId receiptId diagnosis consumed now; _) = _
  rw [nothing]
  rfl

theorem unused_of_claimed {events : List EventDict} (diagnosed : Diagnosed events diagnosis)
    (long : 2 ≤ events.length) :
    unusedFindings workspaceId receiptId diagnosis consumed now = .ok [] := by
  have claimed : diagnosis.seenStatuses.contains statusClaimed = true := by
    rw [diagnosed.seen, List.contains_iff_mem, List.mem_take_iff_getElem]
    exact ⟨1, by simp [statusOrder]; omega, rfl⟩
  rw [unusedFindings, if_neg (fun all => all.2.1 claimed)]
  rfl

/-- A chain without problems that is complete has one finding, which says so. -/
theorem diagnose_consumed (sound : Log.Sound (Fits firstFilled db receiptId) (chain.map Prod.snd))
    (four : chain.length = 4) : ∃ finding,
      diagnoseOneReceiptChain db workspaceId receiptId chain consumed now = .ok [finding] ∧
        finding.kind = .receiptTerminal := by
  obtain ⟨diagnosis, -, clean, diagnosed, result⟩ := diagnose_sound workspaceId now consumed sound
  rw [unused_of_claimed diagnosed (by simp [four])] at result
  match chain, four with
  | [a, c, p, x], _ =>
    have linked := (sound_fits.mp sound).1
    have first := (linked [] a.2 [c.2, p.2, x.2] rfl).1
    have second := (linked [a.2] c.2 [p.2, x.2] rfl).1
    have third := (linked [a.2, c.2] p.2 [x.2] rfl).1
    have last := (linked [a.2, c.2, p.2] x.2 [] rfl).1
    have seen : diagnosis.seenStatuses.contains statusConsumed = true := by
      rw [diagnosed.seen]
      rfl
    have found : [a, c, p, x].find? (fun event => statusOf event.2 = .str statusConsumed) = some x := by
      simp [first, second, third, last, statusAuthorized, statusClaimed, statusApplied, statusConsumed]
    obtain ⟨finding, shown, kind⟩ : ∃ finding,
        terminalFindings workspaceId receiptId [a, c, p, x] diagnosis = [finding] ∧
          finding.kind = .receiptTerminal := by
      rw [terminalFindings, found]
      exact ⟨_, if_pos ⟨seen, clean⟩, rfl⟩
    refine ⟨finding, result.trans ?_, kind⟩
    rw [shown]
    rfl

/-- A chain without problems that is under way has no finding. -/
theorem diagnose_underway (sound : Log.Sound (Fits firstFilled db receiptId) (chain.map Prod.snd))
    (long : 2 ≤ chain.length) (open' : chain.length ≠ 4) :
    diagnoseOneReceiptChain db workspaceId receiptId chain consumed now = .ok [] := by
  obtain ⟨diagnosis, -, clean, diagnosed, result⟩ := diagnose_sound workspaceId now consumed sound
  rw [unused_of_claimed diagnosed (by simp [long])] at result
  refine result.trans ?_
  have linked := (sound_fits.mp sound).1
  have few := length_of_linked linked
  rw [List.length_map] at few
  have unseen : diagnosis.seenStatuses.contains statusConsumed = false := by
    rw [diagnosed.seen, List.length_map]
    obtain two | three : chain.length = 2 ∨ chain.length = 3 := by omega
    · rw [two]
      decide
    · rw [three]
      decide
  unfold terminalFindings
  split
  · rfl
  · rw [unseen, if_neg (fun all => absurd all.1 Bool.false_ne_true)]
    rfl

/-- Another receipt of the same task has been consumed after the authorization. -/
def SupersededBy (receiptId : String) (authorized : NumberedEvent) (consumed : List ConsumedReceipt) :
    Prop :=
  (workspaceOf (payloadOf authorized.2)).truthy = true ∧ (taskOf (payloadOf authorized.2)).truthy = true ∧
    ∃ other ∈ consumed, other.receiptId ≠ .str receiptId ∧
      other.workspaceId = workspaceOf (payloadOf authorized.2) ∧
      other.taskId = taskOf (payloadOf authorized.2) ∧ authorized.1 < other.rowid

theorem fillLink_null (own : Json) : (fillLink .null own).truthy = own.truthy ∧
    (own.truthy = true → fillLink .null own = own) := by
  unfold fillLink
  cases filled : own.truthy with
  | true => simp [filled]
  | false => simp [Json.truthy]

theorem superseded_single (rowid : Nat) (event : EventDict) :
    superseded receiptId (linkedDiagnosis {} statusAuthorized rowid (payloadOf event)) consumed = true ↔
      SupersededBy receiptId (rowid, event) consumed := by
  have workspace := fillLink_null (workspaceOf (payloadOf event))
  have task := fillLink_null (taskOf (payloadOf event))
  have settles : (linkedDiagnosis {} statusAuthorized rowid (payloadOf event)).workspaceId =
        fillLink .null (workspaceOf (payloadOf event)) ∧
      (linkedDiagnosis {} statusAuthorized rowid (payloadOf event)).taskId =
        fillLink .null (taskOf (payloadOf event)) ∧
      (linkedDiagnosis {} statusAuthorized rowid (payloadOf event)).authorizedRowid = some rowid := by
    simp [linkedDiagnosis, diagnoseLinks, entered, diagnoseAuthorized, workspaceOf, taskOf]
  unfold superseded SupersededBy
  rw [settles.1, settles.2.1, settles.2.2, workspace.1, task.1]
  simp only [Bool.and_eq_true, List.any_eq_true, decide_eq_true_eq, ne_eq]
  constructor
  · rintro ⟨⟨inWorkspace, inTask⟩, other, member, ⟨⟨differs, same⟩, sameTask⟩, later⟩
    rw [workspace.2 inWorkspace] at same
    rw [task.2 inTask] at sameTask
    exact ⟨inWorkspace, inTask, other, member, differs, same, sameTask, later⟩
  · rintro ⟨inWorkspace, inTask, other, member, differs, same, sameTask, later⟩
    rw [workspace.2 inWorkspace, task.2 inTask]
    exact ⟨⟨inWorkspace, inTask⟩, other, member, ⟨⟨differs, same⟩, sameTask⟩, later⟩

/-- The doctor says that the window of an unused receipt is over. -/
def saysExpired (findings : List Finding) : Bool :=
  findings.any fun finding => finding.kind = .receiptAuthorizationUnused &&
    finding.evidence.lookup "expired" = some (.bool true)

theorem saysExpired_of_others {findings : List Finding}
    (others : ∀ finding ∈ findings, finding.kind ≠ .receiptAuthorizationUnused) :
    saysExpired findings = false := by
  rw [saysExpired, List.any_eq_false]
  intro finding member
  simp [others finding member]

theorem saysExpired_unused (replaced expired : Bool) :
    saysExpired [unusedFinding workspaceId receiptId diagnosis replaced expired] = expired := by
  cases expired <;> simp [saysExpired, unusedFinding, receiptFinding, List.lookup_cons]

theorem truthy_of_get {payload : Json} {key : String} (filled : (payload.get key).truthy = true) :
    payload.truthy = true := by
  cases payload with
  | obj fields =>
    cases fields with
    | nil => cases filled
    | cons => rfl
  | _ => cases filled

/-- What the doctor makes of the window of a receipt. -/
def windowText (now : String) (expiresAt : Json) : Except Exn Bool :=
  if expiresAt.truthy then pastText now expiresAt else return false

/-- An authorization alone. -/
theorem diagnose_single (workspaceId now : String) (consumed : List ConsumedReceipt) (rowid : Nat)
    {event : EventDict}
    (sound : Log.Sound (Fits firstFilled db receiptId) [event]) :
    diagnoseOneReceiptChain db workspaceId receiptId [(rowid, event)] consumed now =
      unusedFindings workspaceId receiptId
        (linkedDiagnosis {} statusAuthorized rowid (payloadOf event)) consumed now ∧
      (linkedDiagnosis {} statusAuthorized rowid (payloadOf event)).sound = true := by
  have alone : Log.Sound (Fits firstFilled db receiptId) ([(rowid, event)].map Prod.snd) := sound
  obtain ⟨diagnosis, read, clean, diagnosed, result⟩ := diagnose_sound workspaceId now consumed alone
  have status := (linked_first (sound_fits.mp sound).1).1
  have stepped : diagnoseEvent db receiptId {} (rowid, event) =
      .ok (linkedDiagnosis {} statusAuthorized rowid (payloadOf event)) := by
    have placed : statusOrder[([] : List EventDict).length]? = some statusAuthorized := rfl
    rw [diagnoseEvent_known (by decide) status, diagnoseKnown_placed (by decide) (Nat.zero_le _) rfl placed]
    rfl
  rw [List.foldlM_cons, stepped] at read
  cases read
  refine ⟨result.trans ?_, clean⟩
  have none : terminalFindings workspaceId receiptId [(rowid, event)]
      (linkedDiagnosis {} statusAuthorized rowid (payloadOf event)) = [] := by
    unfold terminalFindings
    simp [status, statusAuthorized, statusConsumed]
  rw [none]
  cases unusedFindings workspaceId receiptId
    (linkedDiagnosis {} statusAuthorized rowid (payloadOf event)) consumed now <;> rfl

theorem expired_single {rowid : Nat} {event : EventDict}
    (sound : Log.Sound (Fits firstFilled db receiptId) [event])
    (valid : ¬ SupersededBy receiptId (rowid, event) consumed) :
    saysExpired <$> diagnoseOneReceiptChain db workspaceId receiptId [(rowid, event)] consumed now =
      windowText now ((payloadOf event).get "expires_at") := by
  obtain ⟨result, clean⟩ := diagnose_single workspaceId now consumed rowid sound
  have seen : (linkedDiagnosis {} statusAuthorized rowid (payloadOf event)).seenStatuses =
      [statusAuthorized] := linkedDiagnosis_seen _ _ _ _
  have payload : (linkedDiagnosis {} statusAuthorized rowid (payloadOf event)).authorizedPayload =
      payloadOf event := by
    simp [linkedDiagnosis, diagnoseLinks, entered, diagnoseAuthorized]
  have fresh : superseded receiptId (linkedDiagnosis {} statusAuthorized rowid (payloadOf event))
      consumed = false := by
    rw [Bool.eq_false_iff]
    exact (superseded_single rowid event).not.mpr valid
  have unused : [statusAuthorized].contains statusAuthorized = true ∧
      ¬ [statusAuthorized].contains statusClaimed = true := by decide
  have window : windowOver (linkedDiagnosis {} statusAuthorized rowid (payloadOf event)) now =
      windowText now ((payloadOf event).get "expires_at") := by
    unfold windowOver windowText
    rw [payload]
    refine if_congr ⟨And.right, fun filled => ⟨truthy_of_get filled, filled⟩⟩ rfl rfl
  rw [result, unusedFindings, seen, if_pos ⟨unused.1, unused.2, clean⟩, fresh]
  dsimp only
  rw [expiredUnused, if_neg Bool.false_ne_true, window]
  cases windowText now ((payloadOf event).get "expires_at") with
  | error error => rfl
  | ok ended =>
    cases ended with
    | false => rfl
    | true => exact congrArg Except.ok (saysExpired_unused false true)

end Findings

section Ledger

variable {db : Db} {workspaceId receiptId : String}

/-- The events that tell of receipts are of the types and statuses that belong together, every one names its
receipt, and those of the receipt in question lie in one workspace. -/
structure ReceiptLedger (db : Db) (receiptId workspaceId : String) : Prop where
  readable : ∀ row ∈ db.events, ∃ payload, row.payloadJson = .value payload
  typed : ∀ row ∈ db.events, isCompletion row = true → ∃ status ∈ statusOrder,
    row.eventType = "completion." ++ status ∧ row.decoded.get "status" = .str status
  named : ∀ row ∈ db.events, isCompletion row = true → ∃ id, row.decoded.get "receipt_id" = .str id
  housed : ∀ row ∈ db.events, isCompletion row = true → row.receipt = some receiptId →
    row.workspaceId = some workspaceId

def decodedEvent (row : EventRow) : EventDict := ⟨row, row.decoded⟩

/-- The events of a receipt, oldest first. -/
def chainOf (db : Db) (receiptId : String) : List EventDict :=
  ((receiptRows receiptId db.events.rows).filter isCompletion).map decodedEvent

/-- The chains that the doctor forms. -/
def doctorChains (db : Db) (workspaceId : String) : Except Exn (List (Json × List NumberedEvent)) := do
  let receipts ← receiptEvents db workspaceId
  receiptChains receipts

/-- The findings about a receipt; the doctor forms no chain of events without a receipt's name. -/
def receiptFindings (db : Db) (workspaceId receiptId now : String) : Except Exn (List Finding) := do
  let chains ← doctorChains db workspaceId
  match chains.find? fun chain => chain.1 = .str receiptId with
  | none => return []
  | some chain =>
    let consumed := chains.filterMap consumedReceipt
    diagnoseOneReceiptChain db workspaceId receiptId chain.2 consumed now

/-- A receipt that is superseded for the doctor. -/
def Superseded (db : Db) (workspaceId receiptId : String) : Prop :=
  ∃ chains authorized rest, doctorChains db workspaceId = .ok chains ∧
    (Json.str receiptId, authorized :: rest) ∈ chains ∧
    SupersededBy receiptId authorized (chains.filterMap consumedReceipt)

theorem toDict_readable {row : EventRow} (readable : ∃ payload, row.payloadJson = .value payload) :
    row.toDict = .ok (decodedEvent row) := by
  obtain ⟨payload, stored⟩ := readable
  rw [EventRow.toDict, decodedEvent, EventRow.decoded, stored]
  rfl

theorem mapM_ok {α β ε : Type} {f : α → Except ε β} {g : α → β} :
    ∀ {items : List α}, (∀ item ∈ items, f item = .ok (g item)) → items.mapM f = .ok (items.map g)
  | [], _ => rfl
  | item :: rest, all => by
    rw [List.mapM_cons, all item (List.mem_cons_self ..),
      mapM_ok fun other member => all other (List.mem_cons_of_mem _ member)]
    rfl

theorem ReceiptLedger.chainEvents_eq (ledger : ReceiptLedger db receiptId workspaceId) :
    chainEvents db receiptId = .ok (chainOf db receiptId) := by
  have marks : db.events.rows.mapM (hasReceipt receiptId) =
      .ok (db.events.rows.map fun row => decide (row.receipt = some receiptId)) := by
    refine mapM_ok fun row member => ?_
    obtain ⟨payload, stored⟩ := ledger.readable row member
    have found : hasReceipt receiptId row = .ok (decide (payload.get "receipt_id" = .str receiptId)) := by
      rw [hasReceipt, stored]
      rfl
    rw [found, hasReceipt_ok found]
  obtain ⟨rows, found⟩ : ∃ rows, rowsOfReceipt receiptId db.events.rows = .ok rows := by
    rw [rowsOfReceipt, marks]
    exact ⟨_, rfl⟩
  have decoded : rows.mapM EventRow.toDict = .ok (rows.map decodedEvent) := by
    refine mapM_ok fun row member => toDict_readable (ledger.readable row ?_)
    rw [rowsOfReceipt_ok found] at member
    exact (mem_receiptRows.mp member).1
  obtain ⟨events, looked⟩ : ∃ events, chainEvents db receiptId = .ok events := by
    rw [chainEvents, found]
    change ∃ events, (do let decoded ← rows.mapM EventRow.toDict; _) = Except.ok events
    rw [decoded]
    exact ⟨_, rfl⟩
  rw [looked, chainEvents_ok looked]
  rfl

/-- A row of the ledger with its number, as the doctor decodes it. -/
def numberedEvent (numbered : Nat × EventRow) : NumberedEvent := (numbered.1, decodedEvent numbered.2)

theorem listEvents_rows : (listEvents db workspaceId).map Prod.snd =
    db.events.rows.filter fun row => workspaceId = "" ∨ row.workspaceId = some workspaceId := by
  have rows : (db.events.rows.zipIdx.map fun entry => (entry.2 + 1, entry.1)).map Prod.snd =
      db.events.rows := by
    rw [List.map_map]
    exact List.zipIdx_map_fst 0 db.events.rows
  unfold listEvents
  dsimp only
  split
  · rename_i all
    rw [rows]
    simp [all]
  · rename_i named
    have filtered : ∀ numbered : List (Nat × EventRow),
        (numbered.filter fun entry => entry.2.workspaceId = some workspaceId).map Prod.snd =
          (numbered.map Prod.snd).filter fun row => row.workspaceId = some workspaceId := by
      intro numbered
      rw [List.filter_map]
      rfl
    rw [filtered, rows]
    simp [named]

theorem stored_of_listEvents {numbered : Nat × EventRow} (member : numbered ∈ listEvents db workspaceId) :
    numbered.2 ∈ db.events := by
  have listed : numbered.2 ∈ (listEvents db workspaceId).map Prod.snd := List.mem_map_of_mem member
  rw [listEvents_rows] at listed
  exact (List.mem_filter.mp listed).1

/-- The receipt events, as the doctor lists them. -/
def listedReceipts (db : Db) (workspaceId : String) : List NumberedEvent :=
  ((listEvents db workspaceId).map numberedEvent).filter fun event => isCompletion event.2.row

/-- Those that name their receipt. -/
def namedReceipts (db : Db) (workspaceId : String) : List NumberedEvent :=
  (listedReceipts db workspaceId).filter fun event => (receiptOf event).truthy

theorem ReceiptLedger.isReceipt (ledger : ReceiptLedger db receiptId workspaceId) {row : EventRow}
    (member : row ∈ db.events) : receiptEventTypes.contains row.eventType = isCompletion row := by
  rw [Bool.eq_iff_iff, List.contains_iff_mem]
  constructor
  · intro listed
    simp only [receiptEventTypes, List.mem_cons, List.not_mem_nil, or_false] at listed
    unfold isCompletion
    obtain same | same | same | same := listed <;> rw [same] <;> rfl
  · intro completion
    obtain ⟨status, known, type, -⟩ := ledger.typed row member completion
    rw [type]
    simp only [statusOrder, List.mem_cons, List.not_mem_nil, or_false] at known
    obtain rfl | rfl | rfl | rfl := known <;> decide

theorem ReceiptLedger.payload (ledger : ReceiptLedger db receiptId workspaceId) {row : EventRow}
    (member : row ∈ db.events) (completion : isCompletion row = true) :
    payloadOf (decodedEvent row) = row.decoded ∧ row.decoded.isObj = true := by
  obtain ⟨id, named⟩ := ledger.named row member completion
  refine ⟨payloadOf_of_receipt id named, ?_⟩
  cases decoded : row.decoded with
  | obj fields => rfl
  | _ => rw [decoded] at named; cases named

theorem mem_listedReceipts {event : NumberedEvent} (member : event ∈ listedReceipts db workspaceId) :
    ∃ row ∈ db.events, isCompletion row = true ∧ event.2 = decodedEvent row := by
  obtain ⟨own, completion⟩ := List.mem_filter.mp member
  obtain ⟨numbered, listed, rfl⟩ := List.mem_map.mp own
  exact ⟨numbered.2, stored_of_listEvents listed, completion, rfl⟩

theorem ReceiptLedger.receiptEvents_eq (ledger : ReceiptLedger db receiptId workspaceId) :
    receiptEvents db workspaceId = .ok (listedReceipts db workspaceId) := by
  have decoded : (listEvents db workspaceId).mapM toNumbered =
      .ok ((listEvents db workspaceId).map numberedEvent) := by
    refine mapM_ok fun numbered member => ?_
    rw [toNumbered, toDict_readable (ledger.readable _ (stored_of_listEvents member))]
    rfl
  have same : ((listEvents db workspaceId).map numberedEvent).filter
      (fun event => receiptEventTypes.contains event.2.row.eventType) =
        listedReceipts db workspaceId := by
    refine List.filter_congr fun event member => ?_
    obtain ⟨numbered, listed, rfl⟩ := List.mem_map.mp member
    exact ledger.isReceipt (stored_of_listEvents listed)
  have objects : (listedReceipts db workspaceId).all (fun event => (payloadOf event.2).isObj) = true := by
    rw [List.all_eq_true]
    intro event member
    obtain ⟨row, stored, completion, own⟩ := mem_listedReceipts member
    rw [own, (ledger.payload stored completion).1]
    exact (ledger.payload stored completion).2
  rw [receiptEvents, decoded]
  change (do raiseIf _ _; return _ : Except Exn (List NumberedEvent)) = _
  rw [same, objects]
  rfl

theorem ReceiptLedger.receiptOf_eq (ledger : ReceiptLedger db receiptId workspaceId)
    {event : NumberedEvent} (member : event ∈ listedReceipts db workspaceId) :
    ∃ id, receiptOf event = .str id := by
  obtain ⟨row, stored, completion, own⟩ := mem_listedReceipts member
  obtain ⟨id, named⟩ := ledger.named row stored completion
  refine ⟨id, ?_⟩
  rw [receiptOf, own, (ledger.payload stored completion).1]
  exact named

def formedChains (db : Db) (workspaceId : String) : List (Json × List NumberedEvent) :=
  ((namedReceipts db workspaceId).map receiptOf).eraseDups.map fun receiptId =>
    (receiptId, (namedReceipts db workspaceId).filter fun event => receiptOf event = receiptId)

theorem ReceiptLedger.doctorChains_eq (ledger : ReceiptLedger db receiptId workspaceId) :
    doctorChains db workspaceId = .ok (formedChains db workspaceId) := by
  have hashable : (namedReceipts db workspaceId).all (fun event => isHashable (receiptOf event)) = true := by
    rw [List.all_eq_true]
    intro event member
    obtain ⟨id, named⟩ := ledger.receiptOf_eq (List.mem_filter.mp member).1
    rw [named]
    rfl
  rw [doctorChains, ledger.receiptEvents_eq]
  change receiptChains (listedReceipts db workspaceId) = _
  rw [receiptChains]
  change (do raiseIf (¬ (namedReceipts db workspaceId).all _ = true) _; return _) = _
  rw [hashable]
  rfl

/-- The chain of a receipt, with the numbers of its rows. -/
def numberedChain (db : Db) (workspaceId receiptId : String) : List NumberedEvent :=
  (namedReceipts db workspaceId).filter fun event => receiptOf event = .str receiptId

theorem ReceiptLedger.chain_eq (ledger : ReceiptLedger db receiptId workspaceId) (named : receiptId ≠ "") :
    (numberedChain db workspaceId receiptId).map Prod.snd = chainOf db receiptId := by
  have chosen : numberedChain db workspaceId receiptId =
      ((listEvents db workspaceId).map numberedEvent).filter fun event =>
        isCompletion event.2.row && decide (event.2.row.receipt = some receiptId) := by
    rw [numberedChain, namedReceipts, listedReceipts, List.filter_filter, List.filter_filter]
    refine List.filter_congr fun event member => ?_
    obtain ⟨numbered, listed, rfl⟩ := List.mem_map.mp member
    have stored := stored_of_listEvents listed
    cases completion : isCompletion numbered.2 with
    | false => simp [numberedEvent, decodedEvent, completion]
    | true =>
      have same : receiptOf (numberedEvent numbered) = numbered.2.decoded.get "receipt_id" := by
        rw [receiptOf]
        exact congrArg (Json.get · "receipt_id") (ledger.payload stored completion).1
      have carries : numbered.2.receipt = some receiptId ↔ numbered.2.decoded.get "receipt_id" = .str receiptId :=
        receipt_eq_some
      rw [same]
      by_cases own : numbered.2.decoded.get "receipt_id" = .str receiptId
      · simp [numberedEvent, decodedEvent, completion, own, carries.mpr own, Json.truthy, named]
      · simp [numberedEvent, decodedEvent, completion, own, carries.not.mpr own]
  have moved : (((listEvents db workspaceId).map numberedEvent).filter fun event =>
        isCompletion event.2.row && decide (event.2.row.receipt = some receiptId)).map Prod.snd =
      (((listEvents db workspaceId).map Prod.snd).filter fun row =>
        isCompletion row && decide (row.receipt = some receiptId)).map decodedEvent := by
    rw [List.filter_map, List.filter_map, List.map_map, List.map_map]
    rfl
  rw [chosen, moved, listEvents_rows, List.filter_filter, chainOf, receiptRows, List.filter_filter]
  refine congrArg (List.map decodedEvent) (List.filter_congr fun row member => ?_)
  cases completion : isCompletion row with
  | false => simp
  | true =>
    by_cases carries : row.receipt = some receiptId
    · simp [carries, ledger.housed row member completion carries]
    · simp [carries]

theorem numberedChain_blank : numberedChain db workspaceId "" = [] := by
  rw [numberedChain, namedReceipts, List.filter_filter, List.filter_eq_nil_iff]
  rintro event - both
  obtain ⟨same, filled⟩ := Bool.and_eq_true_iff.mp both
  rw [of_decide_eq_true same] at filled
  cases filled

theorem find_formedChains (db : Db) (workspaceId receiptId : String) :
    (formedChains db workspaceId).find? (fun chain => chain.1 = .str receiptId) =
      if numberedChain db workspaceId receiptId = [] then none
      else some (.str receiptId, numberedChain db workspaceId receiptId) := by
  have listed : Json.str receiptId ∈ ((namedReceipts db workspaceId).map receiptOf).eraseDups ↔
      numberedChain db workspaceId receiptId ≠ [] := by
    rw [List.mem_eraseDups, List.mem_map, numberedChain, ne_eq, List.filter_eq_nil_iff]
    simp
  rw [formedChains, List.find?_map]
  split
  · rename_i empty
    rw [Option.map_eq_none_iff, List.find?_eq_none]
    intro id member same
    obtain rfl : id = .str receiptId := of_decide_eq_true same
    exact listed.mp member empty
  · rename_i formed
    have found : ((namedReceipts db workspaceId).map receiptOf).eraseDups.find?
        ((fun chain : Json × List NumberedEvent => decide (chain.1 = .str receiptId)) ∘ fun receiptId =>
          (receiptId, (namedReceipts db workspaceId).filter fun event => receiptOf event = receiptId)) =
        some (.str receiptId) := by
      cases search : ((namedReceipts db workspaceId).map receiptOf).eraseDups.find? _ with
      | none =>
        have missing := List.find?_eq_none.mp search _ (listed.mpr formed)
        exact absurd (decide_eq_true rfl) missing
      | some id =>
        have same := List.find?_some search
        obtain rfl : id = .str receiptId := of_decide_eq_true same
        rfl
    rw [found]
    rfl

/-- The findings about a receipt are those about its chain. -/
theorem ReceiptLedger.findings_eq (ledger : ReceiptLedger db receiptId workspaceId) (now : String) :
    receiptFindings db workspaceId receiptId now =
      if numberedChain db workspaceId receiptId = [] then .ok [] else
        diagnoseOneReceiptChain db workspaceId receiptId (numberedChain db workspaceId receiptId)
          ((formedChains db workspaceId).filterMap consumedReceipt) now := by
  rw [receiptFindings, ledger.doctorChains_eq]
  change (match (formedChains db workspaceId).find? fun chain => chain.1 = .str receiptId with
    | none => _
    | some chain => _) = _
  rw [find_formedChains]
  by_cases empty : numberedChain db workspaceId receiptId = []
  · rw [if_pos empty, if_pos empty]
    rfl
  · rw [if_neg empty, if_neg empty]

theorem ReceiptLedger.superseded_iff (ledger : ReceiptLedger db receiptId workspaceId) :
    Superseded db workspaceId receiptId ↔ ∃ authorized rest,
      numberedChain db workspaceId receiptId = authorized :: rest ∧
        SupersededBy receiptId authorized ((formedChains db workspaceId).filterMap consumedReceipt) := by
  constructor
  · rintro ⟨chains, authorized, rest, formed, member, replaced⟩
    rw [ledger.doctorChains_eq] at formed
    cases formed
    obtain ⟨id, -, same⟩ := List.mem_map.mp member
    obtain ⟨rfl, same⟩ := Prod.mk.inj same
    exact ⟨authorized, rest, same, replaced⟩
  · rintro ⟨authorized, rest, same, replaced⟩
    refine ⟨_, authorized, rest, ledger.doctorChains_eq, ?_, replaced⟩
    have found := find_formedChains db workspaceId receiptId
    rw [same, if_neg (List.cons_ne_nil _ _)] at found
    exact List.mem_of_find?_eq_some found

/-- The events of the chain are of the types of their statuses. -/
theorem ReceiptLedger.typed_chain (ledger : ReceiptLedger db receiptId workspaceId) :
    Typed (chainOf db receiptId) := by
  intro event member
  obtain ⟨row, listed, rfl⟩ := List.mem_map.mp member
  obtain ⟨own, completion⟩ := List.mem_filter.mp listed
  have stored := (mem_receiptRows.mp own).1
  obtain ⟨status, known, type, same⟩ := ledger.typed row stored completion
  have shown : statusOf (decodedEvent row) = .str status := by
    rw [statusOf, (ledger.payload stored completion).1]
    exact same
  rw [shown]
  change row.eventType = _ ↔ _
  rw [type]
  simp only [statusOrder, List.mem_cons, List.not_mem_nil, or_false] at known
  obtain rfl | rfl | rfl | rfl := known <;> decide

/-- What the preflight answers about the receipt. -/
theorem ReceiptLedger.lookup_eq (ledger : ReceiptLedger db receiptId workspaceId) :
    lookupReceiptForPreflight db receiptId =
      match preflightOf db receiptId (chainOf db receiptId) with
      | some (.raised error) => .error error
      | answer => .ok answer := by
  rw [lookupReceiptForPreflight, ledger.chainEvents_eq]
  rfl

end Ledger

section Agreement

variable {db : Db} {workspaceId receiptId : String} {instant : Nat}

/-- The time that the doctor reads at an instant. -/
def stampAt (instant : Nat) : String := Calendar.isoformat (instant / 1000000)

def ReportsBroken (answer : Except Exn (Option Preflight)) : Prop :=
  ∃ reason message, answer = .ok (some (.broken reason message))

def ReportsConsumed (answer : Except Exn (Option Preflight)) : Prop :=
  ∃ workspaceId taskId actor issuedAt expiresAt terminalEventId, answer = .ok (some
    (.derived workspaceId taskId actor (.str statusConsumed) issuedAt expiresAt terminalEventId))

/-- `preflight_expired` of what the preflight answers. -/
def preflightVerdict [Deployment] (db : Db) (receiptId : String) (instant : Nat) : Except Exn Bool := do
  match ← lookupReceiptForPreflight db receiptId with
  | some (.derived _ _ _ status _ expiresAt _) => preflightExpired status expiresAt instant
  | _ => return false

def Finds (answer : Except Exn (List Finding)) (kind : FindingKind) : Prop :=
  ∃ findings, answer = .ok findings ∧ ∃ finding ∈ findings, finding.kind = kind

/-- The two readers agree on a receipt at an instant; a reader that raises has no verdict. -/
structure ReadersAgree [Deployment] (db : Db) (workspaceId receiptId : String) (instant : Nat) : Prop where
  broken : ReportsBroken (lookupReceiptForPreflight db receiptId) ↔
    Finds (receiptFindings db workspaceId receiptId (stampAt instant)) .receiptChainConflict ∨
    Finds (receiptFindings db workspaceId receiptId (stampAt instant)) .receiptChainIncomplete
  consumed : ReportsConsumed (lookupReceiptForPreflight db receiptId) ↔
    Finds (receiptFindings db workspaceId receiptId (stampAt instant)) .receiptTerminal
  expired : ¬ Superseded db workspaceId receiptId →
    (preflightVerdict db receiptId instant).toOption =
      (saysExpired <$> receiptFindings db workspaceId receiptId (stampAt instant)).toOption

/-- The order of the texts tells whether the window is over. -/
def SameWindow [Deployment] (instant : Nat) (expiresAt : Json) : Prop :=
  ∀ text, expiresAt = .str text → text ≠ "" →
    match Deployment.fromIsoformat (replaceZulu text) with
    | .aware time => text < stampAt instant ↔ time < (instant : Int)
    | .naive => False
    | .malformed => text < stampAt instant

/-- The window is open, or there is none. -/
def OpenWindow [Deployment] (instant : Nat) (expiresAt : Json) : Prop :=
  expiresAt.truthy = true → ∃ text time, expiresAt = .str text ∧
    Deployment.fromIsoformat (replaceZulu text) = .aware time ∧ ¬ time < (instant : Int)

/-- A chain that reads alike: no blank name stands in the way, and no terminal. -/
structure ReadsAlike (db : Db) (receiptId : String) (chain : List EventDict) : Prop where
  names : Log.Sound (Linked db receiptId) chain → Coherent chain →
    (Unblanked chain ∧ Log.Sound (Housed firstGiven db) chain ↔ Log.Sound (Housed firstFilled db) chain)
  terminals : Stops db chain → GivesUp db receiptId chain

/-- A chain about which there is nothing to say. -/
structure Unremarkable (db : Db) (receiptId : String) (chain : List EventDict) : Prop where
  linked : Log.Sound (Linked db receiptId) chain
  coherent : Coherent chain
  unblanked : Unblanked chain
  housed : Log.Sound (Housed firstGiven db) chain
  short : chain.length < 4

theorem sound_given_iff {chain : List EventDict} : Log.Sound (Fits firstGiven db receiptId) chain ↔
    Log.Sound (Linked db receiptId) chain ∧ (Coherent chain ∧ Unblanked chain) ∧
      Log.Sound (Housed firstGiven db) chain := by
  rw [sound_fits, sound_agrees_given]

theorem sound_filled_iff {chain : List EventDict} : Log.Sound (Fits firstFilled db receiptId) chain ↔
    Log.Sound (Linked db receiptId) chain ∧ Coherent chain ∧
      Log.Sound (Housed firstFilled db) chain := by
  rw [sound_fits, sound_agrees_filled]

/-- A chain reads alike just where it is in order for both or for neither. -/
theorem readsAlike_iff {chain : List EventDict} (readable : ¬ Stops db chain) :
    ReadsAlike db receiptId chain ↔ (Log.Sound (Fits firstGiven db receiptId) chain ↔
      Log.Sound (Fits firstFilled db receiptId) chain) := by
  rw [sound_given_iff, sound_filled_iff]
  constructor
  · rintro ⟨names, -⟩
    constructor
    · rintro ⟨linked, ⟨coherent, unblanked⟩, housed⟩
      exact ⟨linked, coherent, (names linked coherent).mp ⟨unblanked, housed⟩⟩
    · rintro ⟨linked, coherent, housed⟩
      obtain ⟨unblanked, given⟩ := (names linked coherent).mpr housed
      exact ⟨linked, ⟨coherent, unblanked⟩, given⟩
  · intro alike
    refine ⟨fun linked coherent => ⟨?_, ?_⟩, fun stops => absurd stops readable⟩
    · rintro ⟨unblanked, housed⟩
      exact (alike.mp ⟨linked, ⟨coherent, unblanked⟩, housed⟩).2.2
    · intro housed
      obtain ⟨-, ⟨-, unblanked⟩, given⟩ := alike.mpr ⟨linked, coherent, housed⟩
      exact ⟨unblanked, given⟩

/-- The last status of a chain that is in order says how long it is. -/
theorem last_status {chain : List EventDict} (linked : Log.Sound (Linked db receiptId) chain) {n : Nat}
    (length : chain.length = n + 1) {status : String} (listed : statusOrder[n]? = some status) :
    (statusOf <$> chain.getLast?).getD .null = .str status := by
  rcases List.eq_nil_or_concat chain with rfl | ⟨earlier, last, rfl⟩
  · cases length
  · rw [List.concat_eq_append] at linked length ⊢
    have own := (Log.sound_snoc.mp linked).2
    obtain ⟨other, place, same⟩ := own.status
    have count : earlier.length = n := by simpa using length
    rw [count, listed] at place
    cases place
    simp [same]

section Preflight

variable (ledger : ReceiptLedger db receiptId workspaceId) {first : EventDict} {rest : List EventDict}
  (chain : chainOf db receiptId = first :: rest)

include ledger chain

theorem lookup_sound (sound : Log.Sound (Fits firstGiven db receiptId) (first :: rest)) :
    ∃ workspaceId taskId actor issuedAt terminalEventId,
      lookupReceiptForPreflight db receiptId = .ok (some (.derived workspaceId taskId actor
        ((statusOf <$> (first :: rest).getLast?).getD .null) issuedAt
        ((payloadOf first).get "expires_at") terminalEventId)) := by
  obtain ⟨w, t, a, i, e, derived⟩ := preflightOf_sound (chain ▸ ledger.typed_chain) sound
  refine ⟨w, t, a, i, e, ?_⟩
  rw [ledger.lookup_eq, chain, derived]

theorem lookup_givesUp (stuck : GivesUp db receiptId (first :: rest)) :
    ∃ error, lookupReceiptForPreflight db receiptId = .error error := by
  obtain ⟨error, raised⟩ := preflightOf_givesUp (chain ▸ ledger.typed_chain) stuck
  refine ⟨error, ?_⟩
  rw [ledger.lookup_eq, chain, raised]

theorem lookup_broken (unsound : ¬ Log.Sound (Fits firstGiven db receiptId) (first :: rest))
    (readable : ¬ GivesUp db receiptId (first :: rest)) :
    ReportsBroken (lookupReceiptForPreflight db receiptId) := by
  obtain ⟨reason, message, broken⟩ := preflightOf_broken unsound readable
  refine ⟨reason, message, ?_⟩
  rw [ledger.lookup_eq, chain, broken]

theorem reportsBroken_iff : ReportsBroken (lookupReceiptForPreflight db receiptId) ↔
    ¬ Log.Sound (Fits firstGiven db receiptId) (first :: rest) ∧
      ¬ GivesUp db receiptId (first :: rest) := by
  constructor
  · rintro ⟨reason, message, broken⟩
    constructor
    · intro sound
      obtain ⟨w, t, a, i, e, derived⟩ := lookup_sound ledger chain sound
      rw [derived] at broken
      cases broken
    · intro stuck
      obtain ⟨error, raised⟩ := lookup_givesUp ledger chain stuck
      rw [raised] at broken
      cases broken
  · rintro ⟨unsound, readable⟩
    exact lookup_broken ledger chain unsound readable

theorem reportsConsumed_iff : ReportsConsumed (lookupReceiptForPreflight db receiptId) ↔
    Log.Sound (Fits firstGiven db receiptId) (first :: rest) ∧ (first :: rest).length = 4 := by
  constructor
  · rintro ⟨w, t, a, i, e, d, consumed⟩
    by_cases sound : Log.Sound (Fits firstGiven db receiptId) (first :: rest)
    · refine ⟨sound, ?_⟩
      have linked := (sound_fits.mp sound).1
      obtain ⟨w', t', a', i', d', derived⟩ := lookup_sound ledger chain sound
      rw [derived] at consumed
      injection consumed with consumed
      injection consumed with consumed
      injection consumed with _ _ _ status
      have few := length_of_linked linked
      have bounded : (first :: rest).length = 0 + 1 ∨ (first :: rest).length = 1 + 1 ∨
          (first :: rest).length = 2 + 1 ∨ (first :: rest).length = 4 := by
        simp only [List.length_cons] at few ⊢
        omega
      obtain one | two | three | four := bounded
      · rw [last_status linked one rfl] at status
        exact absurd (Json.str.inj status) (by decide)
      · rw [last_status linked two rfl] at status
        exact absurd (Json.str.inj status) (by decide)
      · rw [last_status linked three rfl] at status
        exact absurd (Json.str.inj status) (by decide)
      · exact four
    · by_cases stuck : GivesUp db receiptId (first :: rest)
      · obtain ⟨error, raised⟩ := lookup_givesUp ledger chain stuck
        rw [raised] at consumed
        cases consumed
      · obtain ⟨reason, message, broken⟩ := lookup_broken ledger chain sound stuck
        rw [broken] at consumed
        cases consumed
  · rintro ⟨sound, four⟩
    obtain ⟨w, t, a, i, d, derived⟩ := lookup_sound ledger chain sound
    rw [last_status (n := 3) (sound_fits.mp sound).1 four rfl] at derived
    exact ⟨w, t, a, i, _, d, derived⟩

variable [Deployment]

theorem verdict_single (sound : Log.Sound (Fits firstGiven db receiptId) (first :: rest))
    (alone : rest = []) : preflightVerdict db receiptId instant =
      preflightExpired (.str statusAuthorized) ((payloadOf first).get "expires_at") instant := by
  subst alone
  obtain ⟨w, t, a, i, d, derived⟩ := lookup_sound ledger chain sound
  rw [last_status (n := 0) (sound_fits.mp sound).1 rfl rfl] at derived
  rw [preflightVerdict, derived]
  rfl

theorem verdict_longer (sound : Log.Sound (Fits firstGiven db receiptId) (first :: rest))
    (longer : rest ≠ []) : preflightVerdict db receiptId instant = .ok false := by
  have linked := (sound_fits.mp sound).1
  obtain ⟨w, t, a, i, d, derived⟩ := lookup_sound ledger chain sound
  have later : (statusOf <$> (first :: rest).getLast?).getD .null ≠ .str statusAuthorized := by
    have few := length_of_linked linked
    have some' : rest.length ≠ 0 := by simpa using longer
    have bounded : (first :: rest).length = 1 + 1 ∨ (first :: rest).length = 2 + 1 ∨
        (first :: rest).length = 3 + 1 := by
      simp only [List.length_cons] at few ⊢
      omega
    obtain two | three | four := bounded
    · rw [last_status linked two rfl]
      decide
    · rw [last_status linked three rfl]
      decide
    · rw [last_status linked four rfl]
      decide
  rw [preflightVerdict, derived]
  change preflightExpired _ _ _ = _
  rw [preflightExpired, if_pos (.inl later)]
  rfl

theorem verdict_broken (unsound : ¬ Log.Sound (Fits firstGiven db receiptId) (first :: rest))
    (readable : ¬ GivesUp db receiptId (first :: rest)) :
    preflightVerdict db receiptId instant = .ok false := by
  obtain ⟨reason, message, broken⟩ := lookup_broken ledger chain unsound readable
  rw [preflightVerdict, broken]
  rfl

theorem verdict_givesUp (stuck : GivesUp db receiptId (first :: rest)) :
    (preflightVerdict db receiptId instant).toOption = none := by
  obtain ⟨error, raised⟩ := lookup_givesUp ledger chain stuck
  rw [preflightVerdict, raised]
  rfl

end Preflight

section Doctor

variable (ledger : ReceiptLedger db receiptId workspaceId) (named : receiptId ≠ "") {first : EventDict}
  {rest : List EventDict} (chain : chainOf db receiptId = first :: rest) (now : String)

include ledger named chain

/-- The doctor's chain, and what it is about. -/
theorem exists_numbered : ∃ rowid others, numberedChain db workspaceId receiptId =
      (rowid, first) :: others ∧ others.map Prod.snd = rest ∧
    receiptFindings db workspaceId receiptId now = diagnoseOneReceiptChain db workspaceId receiptId
      ((rowid, first) :: others) ((formedChains db workspaceId).filterMap consumedReceipt) now := by
  have same := ledger.chain_eq named
  have findings := ledger.findings_eq now
  rw [chain] at same
  obtain ⟨numbered, others, formed, own, shown⟩ := List.map_eq_cons_iff.mp same
  rw [formed, if_neg (List.cons_ne_nil _ _)] at findings
  obtain ⟨rowid, event⟩ := numbered
  cases own
  exact ⟨rowid, others, formed, shown, findings⟩

theorem findings_stops (stops : Stops db (first :: rest)) :
    ∃ error, receiptFindings db workspaceId receiptId now = .error error := by
  obtain ⟨rowid, others, -, rfl, findings⟩ := exists_numbered ledger named chain now
  rw [findings]
  exact diagnose_stops stops

theorem findings_unsound (readable : ¬ Stops db (first :: rest))
    (unsound : ¬ Log.Sound (Fits firstFilled db receiptId) (first :: rest)) :
    ∃ finding findings, receiptFindings db workspaceId receiptId now = .ok (finding :: findings) ∧
      ∀ f ∈ finding :: findings, f.kind = .receiptChainConflict ∨ f.kind = .receiptChainIncomplete := by
  obtain ⟨rowid, others, -, rfl, findings⟩ := exists_numbered ledger named chain now
  rw [findings]
  exact diagnose_unsound readable unsound

theorem findings_longer (sound : Log.Sound (Fits firstFilled db receiptId) (first :: rest))
    (longer : rest ≠ []) : ∃ findings, receiptFindings db workspaceId receiptId now = .ok findings ∧
      (∀ f ∈ findings, f.kind = .receiptTerminal) ∧ ((first :: rest).length = 4 ↔ findings ≠ []) := by
  obtain ⟨rowid, others, -, rfl, findings⟩ := exists_numbered ledger named chain now
  have sound' : Log.Sound (Fits firstFilled db receiptId) (((rowid, first) :: others).map Prod.snd) := sound
  have some' : others ≠ [] := fun none => longer (by rw [none]; rfl)
  have two : 2 ≤ ((rowid, first) :: others).length := by
    have := List.length_pos_iff.mpr some'
    simp only [List.length_cons]
    omega
  rw [findings]
  by_cases four : ((rowid, first) :: others).length = 4
  · obtain ⟨finding, result, kind⟩ := diagnose_consumed sound' four
    refine ⟨[finding], result, fun f member => ?_, fun _ => List.cons_ne_nil _ _, fun _ => ?_⟩
    · rw [List.mem_singleton.mp member]
      exact kind
    · simpa using four
  · refine ⟨[], diagnose_underway sound' two four, List.forall_mem_nil _, fun all => ?_,
      fun some => absurd rfl some⟩
    exact absurd (by simpa using all) four

theorem findings_single (sound : Log.Sound (Fits firstFilled db receiptId) (first :: rest))
    (alone : rest = []) : (∀ findings, receiptFindings db workspaceId receiptId now = .ok findings →
      ∀ f ∈ findings, f.kind = .receiptAuthorizationUnused) ∧
    (¬ Superseded db workspaceId receiptId →
      saysExpired <$> receiptFindings db workspaceId receiptId now =
        windowText now ((payloadOf first).get "expires_at")) := by
  subst alone
  obtain ⟨rowid, others, formed, none, findings⟩ := exists_numbered ledger named chain now
  obtain rfl := List.map_eq_nil_iff.mp none
  rw [findings]
  constructor
  · intro found result f member
    rw [(diagnose_single _ _ _ _ sound).1] at result
    unfold unusedFindings at result
    split at result
    · obtain ⟨expired, -, result⟩ := Except.bind_ok.mp result
      cases result
      split at member
      · rw [List.mem_singleton.mp member]
        rfl
      · cases member
    · cases result
      cases member
  · intro valid
    refine expired_single sound fun replaced => valid (ledger.superseded_iff.mpr ?_)
    exact ⟨(rowid, first), [], formed, replaced⟩

end Doctor

section Windows

variable [Deployment]

/-- The verdicts on an unused receipt. -/
theorem sameWindow_iff (expiresAt : Json) :
    (preflightExpired (.str statusAuthorized) expiresAt instant).toOption =
      (windowText (stampAt instant) expiresAt).toOption ↔ SameWindow instant expiresAt := by
  unfold preflightExpired windowText SameWindow
  by_cases filled : expiresAt.truthy = true
  · rw [if_neg (by simp [filled]), if_pos filled]
    cases expiresAt with
    | str text =>
      have given : text ≠ "" := by simpa [Json.truthy] using filled
      have read : ∀ {p : String → Prop}, (∀ other, Json.str text = .str other → other ≠ "" → p other) ↔
          p text :=
        ⟨fun all => all text rfl given, fun own other same _ => Json.str.inj same ▸ own⟩
      rw [read]
      unfold isPast pastText
      dsimp only
      cases Deployment.fromIsoformat (replaceZulu text) with
      | aware time =>
        change some (decide (time < (instant : Int))) = some (decide (text < stampAt instant)) ↔ _
        rw [Option.some.injEq, decide_eq_decide]
        exact Iff.comm
      | naive => exact ⟨fun same => (by cases same), fun none => none.elim⟩
      | malformed =>
        change some true = some (decide (text < stampAt instant)) ↔ text < stampAt instant
        rw [Option.some.injEq, eq_comm, decide_eq_true_iff]
    | _ => exact ⟨fun _ _ same => (by cases same), fun _ => rfl⟩
  · rw [if_pos (.inr filled), if_neg filled]
    refine ⟨fun _ text same given => ?_, fun _ => rfl⟩
    subst same
    exact absurd (by simpa [Json.truthy] using given) filled

theorem openWindow_iff (expiresAt : Json) :
    (preflightExpired (.str statusAuthorized) expiresAt instant).toOption = some false ↔
      OpenWindow instant expiresAt := by
  unfold preflightExpired OpenWindow
  by_cases filled : expiresAt.truthy = true
  · rw [if_neg (by simp [filled])]
    cases expiresAt with
    | str text =>
      unfold isPast
      dsimp only
      cases parsed : Deployment.fromIsoformat (replaceZulu text) with
      | aware time =>
        change some (decide (time < (instant : Int))) = some false ↔ _
        rw [Option.some.injEq, decide_eq_false_iff_not]
        constructor
        · exact fun left _ => ⟨text, time, rfl, parsed, left⟩
        · intro shown
          obtain ⟨other, moment, same, own, left⟩ := shown filled
          cases same
          rw [parsed] at own
          cases own
          exact left
      | naive =>
        refine ⟨fun same => (by cases same), fun shown => ?_⟩
        obtain ⟨other, moment, same, own, -⟩ := shown filled
        cases same
        rw [parsed] at own
        cases own
      | malformed =>
        refine ⟨fun same => (by cases same), fun shown => ?_⟩
        obtain ⟨other, moment, same, own, -⟩ := shown filled
        cases same
        rw [parsed] at own
        cases own
    | _ =>
      refine ⟨fun same => (by cases same), fun shown => ?_⟩
      obtain ⟨other, moment, same, -⟩ := shown filled
      cases same
  · rw [if_pos (.inr filled)]
    exact ⟨fun _ given => absurd given filled, fun _ => rfl⟩

end Windows

/-- When the readers agree on a receipt: the chain reads alike and its window is written in order; events
without a name must be in order and leave nothing to say. -/
def AgreesOn [Deployment] (db : Db) (workspaceId receiptId : String) (instant : Nat) : Prop :=
  if receiptId = "" then
    chainOf db receiptId = [] ∨ (Unremarkable db receiptId (chainOf db receiptId) ∧
      ∀ event, chainOf db receiptId = [event] →
        OpenWindow instant ((payloadOf event).get "expires_at"))
  else
    ReadsAlike db receiptId (chainOf db receiptId) ∧ (¬ Superseded db workspaceId receiptId →
      ∀ event, chainOf db receiptId = [event] → Linked db receiptId [] event →
        SameWindow instant ((payloadOf event).get "expires_at"))

section Cases

variable [Deployment] (ledger : ReceiptLedger db receiptId workspaceId)

include ledger

theorem agree_of_nil (empty : chainOf db receiptId = []) :
    ReadersAgree db workspaceId receiptId instant := by
  have unformed : numberedChain db workspaceId receiptId = [] := by
    by_cases named : receiptId = ""
    · subst named
      exact numberedChain_blank
    · exact List.map_eq_nil_iff.mp ((ledger.chain_eq named).trans empty)
  have looked : lookupReceiptForPreflight db receiptId = .ok none := by
    rw [ledger.lookup_eq, empty]
    rfl
  have findings := ledger.findings_eq (stampAt instant)
  rw [if_pos unformed] at findings
  have silent : ∀ kind, ¬ Finds (.ok []) kind := by
    rintro kind ⟨findings, same, finding, member, -⟩
    cases same
    cases member
  refine ⟨?_, ?_, fun _ => ?_⟩
  · rw [looked, findings]
    exact ⟨fun ⟨_, _, same⟩ => (by cases same), fun found => found.elim
      (fun found => (silent _ found).elim) fun found => (silent _ found).elim⟩
  · rw [looked, findings]
    exact ⟨fun ⟨_, _, _, _, _, _, same⟩ => (by cases same), fun found => (silent _ found).elim⟩
  · rw [preflightVerdict, looked, findings]
    rfl

/-- Events that do not name their receipt. -/
theorem agree_of_blank {first : EventDict} {rest : List EventDict} (blank : receiptId = "")
    (chain : chainOf db receiptId = first :: rest) : ReadersAgree db workspaceId receiptId instant ↔
      Unremarkable db receiptId (first :: rest) ∧ (rest = [] →
        OpenWindow instant ((payloadOf first).get "expires_at")) := by
  have unformed : numberedChain db workspaceId receiptId = [] := by
    subst blank
    exact numberedChain_blank
  have findings := ledger.findings_eq (stampAt instant)
  rw [if_pos unformed] at findings
  have current : ¬ Superseded db workspaceId receiptId := by
    rw [ledger.superseded_iff, unformed]
    rintro ⟨authorized, rest, same, -⟩
    cases same
  have silent : ∀ kind, ¬ Finds (.ok []) kind := by
    rintro kind ⟨findings, same, finding, member, -⟩
    cases same
    cases member
  constructor
  · rintro ⟨broken, consumed, expired⟩
    rw [findings] at broken consumed expired
    have verdict := expired current
    have fine : ¬ ReportsBroken (lookupReceiptForPreflight db receiptId) := fun reported =>
      (broken.mp reported).elim (silent _) (silent _)
    rw [reportsBroken_iff ledger chain] at fine
    have readable : ¬ GivesUp db receiptId (first :: rest) := by
      intro stuck
      rw [verdict_givesUp ledger chain stuck] at verdict
      cases verdict
    have sound : Log.Sound (Fits firstGiven db receiptId) (first :: rest) := by
      by_contra unsound
      exact fine ⟨unsound, readable⟩
    have short : (first :: rest).length ≠ 4 := fun four =>
      silent _ (consumed.mp ((reportsConsumed_iff ledger chain).mpr ⟨sound, four⟩))
    obtain ⟨linked, ⟨coherent, unblanked⟩, housed⟩ := sound_given_iff.mp sound
    have few := length_of_linked linked
    refine ⟨⟨linked, coherent, unblanked, housed, by omega⟩, fun alone => ?_⟩
    rw [verdict_single ledger chain sound alone] at verdict
    exact (openWindow_iff _).mp verdict
  · rintro ⟨⟨linked, coherent, unblanked, housed, short⟩, window⟩
    have sound := sound_given_iff.mpr ⟨linked, ⟨coherent, unblanked⟩, housed⟩
    refine ⟨?_, ?_, fun _ => ?_⟩
    · rw [reportsBroken_iff ledger chain, findings]
      exact ⟨fun all => absurd sound all.1, fun found => found.elim
        (fun found => (silent _ found).elim) fun found => (silent _ found).elim⟩
    · rw [reportsConsumed_iff ledger chain, findings]
      exact ⟨fun all => absurd all.2 (by omega), fun found => (silent _ found).elim⟩
    · rw [findings]
      by_cases alone : rest = []
      · rw [verdict_single ledger chain sound alone]
        exact (openWindow_iff _).mpr (window alone)
      · rw [verdict_longer ledger chain sound alone]
        rfl

/-- A chain at which the doctor has to give up. -/
theorem agree_of_stops {first : EventDict} {rest : List EventDict} (named : receiptId ≠ "")
    (chain : chainOf db receiptId = first :: rest) (stops : Stops db (first :: rest)) :
    ReadersAgree db workspaceId receiptId instant ↔ GivesUp db receiptId (first :: rest) := by
  obtain ⟨error, failed⟩ := findings_stops ledger named chain (stampAt instant) stops
  have silent : ∀ kind, ¬ Finds (.error error) kind := by
    rintro kind ⟨findings, same, -⟩
    cases same
  have unsound : ¬ Log.Sound (Fits firstGiven db receiptId) (first :: rest) :=
    fun sound => stops.not_linked (sound_fits.mp sound).1
  constructor
  · rintro ⟨broken, -, -⟩
    rw [failed, reportsBroken_iff ledger chain] at broken
    by_contra readable
    exact (broken.mp ⟨unsound, readable⟩).elim (silent _) (silent _)
  · intro stuck
    refine ⟨?_, ?_, fun _ => ?_⟩
    · rw [reportsBroken_iff ledger chain, failed]
      exact ⟨fun all => absurd stuck all.2, fun found => found.elim
        (fun found => (silent _ found).elim) fun found => (silent _ found).elim⟩
    · rw [reportsConsumed_iff ledger chain, failed]
      exact ⟨fun all => absurd all.1 unsound, fun found => (silent _ found).elim⟩
    · rw [verdict_givesUp ledger chain stuck, failed]
      rfl

omit [Deployment] in
/-- What the doctor says of a chain that it reads to its end. -/
theorem problems_iff {first : EventDict} {rest : List EventDict} (named : receiptId ≠ "")
    (chain : chainOf db receiptId = first :: rest) (readable : ¬ Stops db (first :: rest)) (now : String) :
    (Finds (receiptFindings db workspaceId receiptId now) .receiptChainConflict ∨
        Finds (receiptFindings db workspaceId receiptId now) .receiptChainIncomplete ↔
      ¬ Log.Sound (Fits firstFilled db receiptId) (first :: rest)) ∧
    (Finds (receiptFindings db workspaceId receiptId now) .receiptTerminal ↔
      Log.Sound (Fits firstFilled db receiptId) (first :: rest) ∧ (first :: rest).length = 4) := by
  by_cases sound : Log.Sound (Fits firstFilled db receiptId) (first :: rest)
  · by_cases alone : rest = []
    · have unused := (findings_single ledger named chain now sound alone).1
      have others : ∀ kind, kind ≠ .receiptAuthorizationUnused →
          ¬ Finds (receiptFindings db workspaceId receiptId now) kind := by
        rintro kind other ⟨findings, result, finding, member, rfl⟩
        exact other (unused findings result finding member)
      subst alone
      exact ⟨⟨fun found => found.elim (fun found => (others _ (by decide) found).elim)
          fun found => (others _ (by decide) found).elim, fun unsound => absurd sound unsound⟩,
        ⟨fun found => (others _ (by decide) found).elim, fun all => absurd all.2 (by simp)⟩⟩
    · obtain ⟨findings, result, terminal, four⟩ := findings_longer ledger named chain now sound alone
      have others : ∀ kind, Finds (receiptFindings db workspaceId receiptId now) kind →
          kind = .receiptTerminal := by
        rintro kind ⟨own, same, finding, member, rfl⟩
        rw [result] at same
        cases same
        exact terminal finding member
      refine ⟨⟨fun found => found.elim (fun found => absurd (others _ found) (by decide))
          fun found => absurd (others _ found) (by decide), fun unsound => absurd sound unsound⟩, ?_⟩
      rw [and_iff_right sound, four]
      constructor
      · rintro ⟨own, same, finding, member, -⟩ empty
        rw [result] at same
        cases same
        rw [empty] at member
        cases member
      · intro some'
        obtain ⟨finding, member⟩ := List.exists_mem_of_ne_nil findings some'
        exact ⟨findings, result, finding, member, terminal finding member⟩
  · obtain ⟨finding, findings, result, kinds⟩ := findings_unsound ledger named chain now readable sound
    refine ⟨⟨fun _ => sound, fun _ => ?_⟩, ⟨?_, fun all => absurd all.1 sound⟩⟩
    · rcases kinds finding (List.mem_cons_self ..) with conflict | incomplete
      · exact .inl ⟨_, result, finding, List.mem_cons_self .., conflict⟩
      · exact .inr ⟨_, result, finding, List.mem_cons_self .., incomplete⟩
    · rintro ⟨own, same, other, member, terminal⟩
      rw [result] at same
      cases same
      rcases kinds other member with conflict | incomplete
      · rw [conflict] at terminal
        cases terminal
      · rw [incomplete] at terminal
        cases terminal

omit [Deployment] ledger in
/-- An authorization alone is in order for both readers. -/
theorem sound_single {first : EventDict} (linked : Linked db receiptId [] first) :
    Log.Sound (Fits firstGiven db receiptId) [first] ∧
      Log.Sound (Fits firstFilled db receiptId) [first] := by
  have given : Agrees firstGiven [] first := by
    intro field _ filled
    simp [settled, firstGiven, ne_null_of_truthy filled]
  have named : Agrees firstFilled [] first := by
    intro field _ filled
    simp [settled, firstFilled, filled]
  have housed : ∀ pick, Housed pick db [] first := fun pick => not_housed linked.1 (by decide)
  have single : ∀ {fits : List EventDict → EventDict → Prop}, fits [] first → Log.Sound fits [first] :=
    fun own => Log.sound_snoc.mpr ⟨Log.sound_nil, own⟩
  exact ⟨single ⟨linked, given, housed _⟩, single ⟨linked, named, housed _⟩⟩

/-- A chain that the doctor reads to its end. -/
theorem agree_of_read {first : EventDict} {rest : List EventDict} (named : receiptId ≠ "")
    (chain : chainOf db receiptId = first :: rest) (readable : ¬ Stops db (first :: rest)) :
    ReadersAgree db workspaceId receiptId instant ↔
      (Log.Sound (Fits firstGiven db receiptId) (first :: rest) ↔
        Log.Sound (Fits firstFilled db receiptId) (first :: rest)) ∧
      (¬ Superseded db workspaceId receiptId → rest = [] → Linked db receiptId [] first →
        SameWindow instant ((payloadOf first).get "expires_at")) := by
  have goesOn : ¬ GivesUp db receiptId (first :: rest) := fun stuck => readable stuck.stops
  obtain ⟨problems, terminal⟩ := problems_iff ledger named chain readable (stampAt instant)
  constructor
  · rintro ⟨broken, -, expired⟩
    rw [reportsBroken_iff ledger chain, problems, and_iff_left goesOn, not_iff_not] at broken
    refine ⟨broken, fun current alone linked => ?_⟩
    subst alone
    obtain ⟨given, filled⟩ := sound_single linked
    have verdict := expired current
    rw [verdict_single ledger chain given rfl,
      (findings_single ledger named chain _ filled rfl).2 current] at verdict
    exact (sameWindow_iff _).mp verdict
  · rintro ⟨alike, window⟩
    refine ⟨?_, ?_, fun current => ?_⟩
    · rw [reportsBroken_iff ledger chain, problems, and_iff_left goesOn, alike]
    · rw [reportsConsumed_iff ledger chain, terminal, alike]
    · by_cases sound : Log.Sound (Fits firstFilled db receiptId) (first :: rest)
      · have given := alike.mpr sound
        by_cases alone : rest = []
        · rw [verdict_single ledger chain given alone,
            (findings_single ledger named chain _ sound alone).2 current]
          subst alone
          exact (sameWindow_iff _).mpr (window current rfl ((sound_fits.mp sound).1 [] first [] rfl))
        · obtain ⟨findings, result, kinds, -⟩ := findings_longer ledger named chain (stampAt instant) sound alone
          have silent : saysExpired findings = false :=
            saysExpired_of_others fun f member => by rw [kinds f member]; decide
          rw [verdict_longer ledger chain given alone, result]
          exact congrArg some silent.symm
      · obtain ⟨finding, findings, result, kinds⟩ :=
          findings_unsound ledger named chain (stampAt instant) readable sound
        have silent : saysExpired (finding :: findings) = false :=
          saysExpired_of_others fun f member => by
            rcases kinds f member with kind | kind <;> rw [kind] <;> decide
        rw [verdict_broken ledger chain (alike.not.mpr sound) goesOn, result]
        exact congrArg some silent.symm

end Cases

end Agreement

namespace Sample

open Coordinate.Sample

local instance unreadCheckout : Deployment := deployment fun _ => .obj []

/-- A receipt that has been authorized, with a window to the second. -/
def authorization : EventRow where
  id := "e"
  workspaceId := some "w"
  eventType := "completion.authorized"
  actor := "operator"
  target := some "t"
  taskId := some "t"
  idempotencyKey := "receipt:r:authorized"
  payloadJson := .value (.obj [("receipt_id", .str "r"), ("workspace_id", .str "w"), ("task_id", .str "t"),
    ("authorized_actor", .str "a"), ("expires_at", .str "2026-01-02T03:04:05Z"),
    ("status", .str "authorized"), ("harness_fingerprint", .str zeroDigest)])
  createdAt := 0

def issued : Db := { Db.empty with events := tableOf authorization }

/-- The end of its window in microseconds. -/
def windowEnd : Nat := 63902919845 * 1000000

theorem issued_ledger : ReceiptLedger issued "r" "w" := by
  have only : ∀ row ∈ issued.events, row = authorization := fun row member => List.mem_singleton.mp member
  refine ⟨?_, ?_, ?_, ?_⟩
  · rintro row member
    obtain rfl := only row member
    exact ⟨_, rfl⟩
  · rintro row member -
    obtain rfl := only row member
    exact ⟨"authorized", by decide, by decide, rfl⟩
  · rintro row member -
    obtain rfl := only row member
    exact ⟨"r", rfl⟩
  · rintro row member - -
    obtain rfl := only row member
    rfl

theorem issued_current : ¬ Superseded issued "w" "r" := by
  rw [issued_ledger.superseded_iff]
  rintro ⟨authorized, rest, -, -, -, other, member, -⟩
  have none : (formedChains issued "w").filterMap consumedReceipt = [] := by decide +kernel
  rw [none] at member
  cases member

end Sample

end Coordinate.Completion

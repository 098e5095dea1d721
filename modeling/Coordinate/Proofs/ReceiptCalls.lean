import Coordinate.Proofs.Receipts

/-! # The operations on receipts keep a lawful ledger

Each operation, at every point at which others may act, finds the rows that it has looked up before and
appends at most the next rows of one chain. A claim relies on `Careful`, which nothing in the code
ensures: between its lookup and its append another claim may be recorded.
-/

namespace Coordinate.Completion

variable [Platform]

section Reports

/-- A row of a type carries the receipt and the fields. -/
def Recorded (s : Ledger) (eventType receiptId : String) (fields : List (String × Json)) : Prop :=
  ∃ row ∈ rowsOf s, row.eventType = eventType ∧ row.receipt = some receiptId ∧
    ∀ field ∈ fields, row.decoded.get field.1 = field.2

omit [Platform] in
theorem Recorded.evolves {s t : Ledger} {eventType receiptId : String}
    {fields : List (String × Json)} (recorded : Recorded s eventType receiptId fields)
    (evolves : Evolves s t) : Recorded t eventType receiptId fields := by
  obtain ⟨row, member, rest⟩ := recorded
  exact ⟨row, evolves.mem member, rest⟩

/-- The fingerprints of a response are those of the recorded event of its transition. -/
def Reported : Call → Response → Ledger → Prop
  | .prepare _, .prepared receipt, s => Recorded s "completion.authorized" receipt.receiptId
      [("harness_fingerprint", .str receipt.harnessFingerprint)]
  | .claim claim, .claimed result, s => Recorded s "completion.claimed" claim.receiptId
      [("before_fingerprint", result.beforeFingerprint),
        ("expected_after_fingerprint", result.expectedAfterFingerprint)]
  | .apply application, .applied result, s => Recorded s "completion.applied" application.receiptId
      [("before_fingerprint", result.beforeFingerprint),
        ("after_fingerprint", result.afterFingerprint)]
  | .consume consumption, .consumed result, s => Recorded s "task.done" consumption.receiptId
      [("applied_fingerprint", result.deployedVerification.get "fingerprint")]
  | _, _, _ => False

/-- The append of a claim expects a digest, and finds no claim of the receipt that expects another. -/
def Careful : Call → Ledger → Statement → Prop
  | .claim claim, s, .append _ => isCanonicalSha256 (.str claim.expectedAfterFingerprint) = true ∧
      ∀ row ∈ rowsOf s, row.eventType = "completion.claimed" → row.receipt = some claim.receiptId →
        row.decoded.get "expected_after_fingerprint" = .str claim.expectedAfterFingerprint
  | _, _, _ => True

/-- The identifier that is drawn is not that of a recorded receipt. -/
def Unused (s : Ledger) : Statement → Prop
  | .issue => ∀ row ∈ rowsOf s, row.receipt ≠ some (Platform.uuid4 s.work.draws)
  | _ => True

/-- What the operations rely on: unused identifiers and careful claims. -/
def Relied (call : Call) (s : Ledger) (tag : Statement) : Prop :=
  Unused s tag ∧ Careful call s tag

end Reports

section Lookups

variable [Deployment] {s t : Ledger} {grant : Grant} {expected : String}

/-- The payload that an operation works with is that of the authorization. -/
theorem receiptPayload_ok (lawful : Lawful s) {receiptId : String} {payload : Json}
    (found : receiptPayload s.work.store receiptId = .ok payload) :
    ∃ (grant : Grant) (row : EventRow), grant.receiptId = receiptId ∧ grant.payload = payload ∧ row ∈ rowsOf s ∧
      grant.Authorizes row := by
  obtain ⟨row, member, type, receipt, rfl⟩ := receiptPayload_row found
  obtain ⟨grant, expected, same, shape⟩ := lawful.chains _ member receiptId receipt
  cases shape.role_of .authorized (mem_receiptRows.mpr ⟨member, receipt⟩) type with
  | authorized authorizes =>
    exact ⟨grant, row, same, by rw [EventRow.decoded, authorizes.decoded], member, authorizes⟩

omit [Deployment] in
/-- What the arguments of an operation that passes the binding are. -/
theorem validateBinding_ok {row : EventRow} (authorizes : grant.Authorizes row)
    {workspaceId taskId : Json} {actor : String} {u : Unit}
    (valid : validateBinding grant.payload workspaceId taskId actor = .ok u) :
    workspaceId = .str grant.workspaceId ∧ taskId = .str grant.taskId ∧ actor = grant.actor := by
  simp only [validateBinding, Except.bind_ok, raiseIf_except_ok, exists_and_left, exists_const,
    ne_eq, not_not, authorizes.workspaceId, authorizes.taskId, authorizes.actor] at valid
  obtain ⟨workspace, task, actors⟩ := valid
  exact ⟨workspace.symm, task.symm, (Json.str.inj actors).symm⟩

/-- A looked up event plays the role of its type in the chain. -/
theorem role_of_lookup (chained : Chained s grant expected) (transition : Transition)
    {event : EventDict}
    (found : eventByReceipt s.work.store transition.eventType grant.receiptId = .ok (some event)) :
    Role grant expected (receiptRows grant.receiptId (rowsOf s)) event.row transition ∧
      event.row ∈ rowsOf s ∧ ∀ key, (payloadOf event).get key = event.row.decoded.get key := by
  obtain ⟨member, type, receipt, decoded⟩ := eventByReceipt_some found
  exact ⟨chained.role_of transition member receipt type, member, fun key => by rw [payloadOf_get, decoded]⟩

/-- The checks that a claim and an application make first. -/
theorem sound_validated {α : Type} {careful : Ledger → Statement → Prop} {post : α → Ledger → Prop}
    {receiptId workspaceId taskId actor : String} {next : Json → LedgerProgram α}
    (rest : ∀ (grant : Grant) (row : EventRow) (t : Ledger), grant.receiptId = receiptId →
      grant.workspaceId = workspaceId → grant.taskId = taskId → grant.actor = actor →
      grant.Authorizes row → row ∈ rowsOf t →
      (next grant.payload).Sound Lawful Evolves careful post t) :
    (lookUp (receiptPayload · receiptId) >>= fun payload =>
      orRaise id (validateBinding payload (.str workspaceId) (.str taskId) actor) >>= fun _ =>
      checkExpiry payload >>= fun _ => notConsumed receiptId >>= fun _ =>
      next payload).Sound Lawful Evolves careful post s := by
  refine discipline.sound_lookUp fun payload t lawful _ found => ?_
  obtain ⟨grant, row, ids, rfl, member, authorizes⟩ := receiptPayload_ok lawful found
  refine Program.sound_orRaise fun _ valid => ?_
  obtain ⟨workspace, task, actors⟩ := validateBinding_ok authorizes valid
  refine discipline.sound_harmless (discipline.harmless_checkExpiry _) fun _ u _ evolves => ?_
  refine discipline.sound_harmless (discipline.harmless_notConsumed _) fun _ v _ evolves' => ?_
  exact rest grant row v ids (Json.str.inj workspace).symm (Json.str.inj task).symm actors.symm
    authorizes (evolves'.mem (evolves.mem member))

end Lookups

section Claims

variable [Deployment] {s t : Ledger} {grant : Grant} {expected : String}

omit [Platform] [Deployment] in
theorem Claims.recorded {row : EventRow} (claims : grant.Claims expected row)
    (member : row ∈ rowsOf t) : Recorded t "completion.claimed" grant.receiptId
      [("before_fingerprint", .str grant.fingerprint),
        ("expected_after_fingerprint", .str expected)] := by
  refine ⟨row, member, claims.records.type, claims.records.receipt, ?_⟩
  obtain ⟨-, claimedAt, eventId, createdAt, rfl⟩ := claims
  simp only [List.mem_cons, List.not_mem_nil, or_false]
  rintro field (rfl | rfl) <;> rfl

omit [Platform] [Deployment] in
theorem Applies.recorded {row : EventRow} (applies : grant.Applies expected row)
    (member : row ∈ rowsOf t) : Recorded t "completion.applied" grant.receiptId
      [("before_fingerprint", .str grant.fingerprint),
        ("after_fingerprint", .str expected)] := by
  refine ⟨row, member, applies.records.type, applies.records.receipt, ?_⟩
  obtain ⟨appliedAt, eventId, createdAt, rfl⟩ := applies
  simp only [List.mem_cons, List.not_mem_nil, or_false]
  rintro field (rfl | rfl) <;> rfl

omit [Platform] [Deployment] in
/-- A claim that is replayed repeats the recorded fingerprint. -/
theorem replayClaimedReceipt_ok {claim : ReceiptClaim} {prior : EventDict} {key problem : String}
    {result : CompletionClaimResult}
    (replayed : replayClaimedReceipt claim prior key problem = .ok result) :
    (payloadOf prior).get key = .str claim.expectedAfterFingerprint ∧
      result = claimResultFrom prior claim.expectedAfterFingerprint := by
  simp only [replayClaimedReceipt, Except.bind_ok, raiseIf_except_ok, exists_and_left, exists_const,
    ne_eq, not_not] at replayed
  obtain ⟨same, _, _, rest⟩ := replayed
  cases rest
  exact ⟨same, rfl⟩

omit [Platform] [Deployment] in
theorem orElse_str_self (text : String) (other : Json) (absent : other = .null) :
    ((Json.str text).orElse other).orElse (.str text) = .str text ∧
      (other.orElse (.str text)).orElse (.str text) = .str text := by
  subst absent
  by_cases empty : text = "" <;> simp [Json.orElse, Json.truthy, empty]

omit [Platform] [Deployment] in
/-- What a replay reports is recorded when the fields that it reads are. -/
theorem reported_replay {claim : ReceiptClaim} {prior : EventDict}
    (ids : grant.receiptId = claim.receiptId)
    (recorded : Recorded t "completion.claimed" grant.receiptId
      [("before_fingerprint", .str grant.fingerprint),
        ("expected_after_fingerprint", .str claim.expectedAfterFingerprint)])
    (before : (payloadOf prior).get "before_fingerprint" = .str grant.fingerprint)
    (after : (((payloadOf prior).get "expected_after_fingerprint").orElse
      ((payloadOf prior).get "after_fingerprint")).orElse (.str claim.expectedAfterFingerprint) =
        .str claim.expectedAfterFingerprint) :
    Reported (.claim claim) (.claimed (claimResultFrom prior claim.expectedAfterFingerprint)) t := by
  rw [Reported, ← ids]
  simp only [claimResultFrom, before, after]
  exact recorded

/-- A claim that is new to the ledger. -/
theorem claimFresh_sound {claim : ReceiptClaim} (same : claim =
      { grant.claim claim.expectedAfterFingerprint with
        beforeFingerprint := claim.beforeFingerprint }) {row : EventRow}
    (member : row ∈ rowsOf s) (authorizes : grant.Authorizes row) :
    (claimFresh claim grant.payload).Sound Lawful Evolves (Relied (.claim claim))
      (fun result => Reported (.claim claim) (.claimed result)) s := by
  refine Program.sound_raiseIf fun matching => ?_
  rw [ne_eq, not_not, authorizes.fingerprint, Json.str.injEq] at matching
  have exact : claim = grant.claim claim.expectedAfterFingerprint := by
    rw [same, ← matching]
    rfl
  refine discipline.sound_harmless discipline.harmless_utcStamp fun claimedAt t lawful evolves => ?_
  refine discipline.sound_transaction ?_
  intro u result w lawful' evolves' careful ran
  obtain ⟨before, chained⟩ := lawful'.chained (evolves'.mem (evolves.mem member)) authorizes
  obtain ⟨-, digest, agrees⟩ := careful
  have ids : claim.receiptId = grant.receiptId := by rw [same]; rfl
  rw [ids] at agrees
  rw [exact] at ran
  have step := claim_step lawful' chained digest agrees ran
  refine ⟨step.lawful, step.evolves, Program.sound_orRaise fun event _ => ?_⟩
  intro v _ later
  have recorded := Claims.recorded step.recorded (later.mem step.member)
  rw [Reported, ids, ← matching]
  exact recorded

theorem claim_sound (claim : ReceiptClaim) :
    (claimCompletionReceipt claim).Sound Lawful Evolves (Relied (.claim claim))
      (fun result => Reported (.claim claim) (.claimed result)) s := by
  refine sound_validated fun grant row t ids workspace task actor authorizes member => ?_
  have same : claim = { grant.claim claim.expectedAfterFingerprint with
      beforeFingerprint := claim.beforeFingerprint } := by
    rw [Grant.claim, ids, workspace, task, actor]
  refine discipline.sound_lookUp fun applied u lawful evolves foundApplied => ?_
  obtain ⟨expected, chained⟩ := lawful.chained (evolves.mem member) authorizes
  rw [← ids] at foundApplied
  cases applied with
  | some prior =>
    obtain ⟨role, priorMember, fields⟩ := role_of_lookup chained .applied foundApplied
    cases role with
    | applied claimedMember claims applies =>
      refine Program.sound_last fun result replayed _ _ later => ?_
      obtain ⟨same, rfl⟩ := replayClaimedReceipt_ok replayed
      have recorded := Claims.recorded claims (later.mem (mem_receiptRows.mp claimedMember).1)
      rw [fields] at same
      obtain ⟨appliedAt, eventId, createdAt, stored⟩ := applies
      rw [stored] at same
      obtain rfl : expected = claim.expectedAfterFingerprint := Json.str.inj same
      refine reported_replay ids recorded ?_ ?_
      · rw [fields, stored]
        rfl
      · rw [fields, fields, stored]
        exact (orElse_str_self _ _ rfl).2
  | none =>
    refine discipline.sound_lookUp fun claimed v lawful' evolves' foundClaimed => ?_
    have stored := evolves'.mem (evolves.mem member)
    obtain ⟨expected, chained⟩ := lawful'.chained stored authorizes
    cases claimed with
    | some prior =>
      rw [← ids] at foundClaimed
      obtain ⟨role, priorMember, fields⟩ := role_of_lookup chained .claimed foundClaimed
      cases role with
      | claimed claims =>
        refine Program.sound_last fun result replayed _ _ later => ?_
        obtain ⟨same, rfl⟩ := replayClaimedReceipt_ok replayed
        have recorded := Claims.recorded claims (later.mem priorMember)
        rw [fields] at same
        obtain ⟨-, claimedAt, eventId, createdAt, stored⟩ := claims
        rw [stored] at same
        obtain rfl : expected = claim.expectedAfterFingerprint := Json.str.inj same
        refine reported_replay ids recorded ?_ ?_
        · rw [fields, stored]
          rfl
        · rw [fields, fields, stored]
          exact (orElse_str_self _ _ rfl).1
    | none => exact claimFresh_sound same stored authorizes

end Claims

section Applications

variable [Deployment] {s t : Ledger} {grant : Grant} {expected : String}

/-- An application that is new to the ledger. -/
theorem applyClaimed_sound {application : ReceiptApplication}
    (same : application = grant.application application.afterFingerprint) {row : EventRow}
    (member : row ∈ rowsOf s) (authorizes : grant.Authorizes row) {claimed : EventDict}
    (claimedMember : claimed.row ∈ rowsOf s) (claims : grant.Claims expected claimed.row)
    (fields : ∀ key, (payloadOf claimed).get key = claimed.row.decoded.get key) :
    (applyClaimed application claimed).Sound Lawful Evolves (Relied (.apply application))
      (fun result => Reported (.apply application) (.applied result)) s := by
  have before : (payloadOf claimed).get "before_fingerprint" = .str grant.fingerprint := by
    obtain ⟨-, claimedAt, eventId, createdAt, stored⟩ := claims
    rw [fields, stored]
    rfl
  have after : (payloadOf claimed).get "expected_after_fingerprint" = .str expected := by
    obtain ⟨-, claimedAt, eventId, createdAt, stored⟩ := claims
    rw [fields, stored]
    rfl
  refine Program.sound_raiseIf fun matching => ?_
  rw [ne_eq, not_not, after, Json.str.injEq] at matching
  refine discipline.sound_harmless discipline.harmless_utcStamp fun appliedAt t _ evolves => ?_
  refine discipline.sound_transaction ?_
  intro u result w lawful evolves' _ ran
  have claimedLater := evolves'.mem (evolves.mem claimedMember)
  obtain ⟨found, chained⟩ := lawful.chained (evolves'.mem (evolves.mem member)) authorizes
  cases chained.role_of .claimed claimedLater claims.records.receipt
    claims.records.type with
  | claimed own =>
    -- the claim of the chain is the one that has been looked up
    obtain rfl := own.expected_eq claims
    rw [before, same, ← matching] at ran
    have step := apply_step lawful chained claimedLater claims ran
    refine ⟨step.lawful, step.evolves, Program.sound_orRaise fun event _ => ?_⟩
    intro v _ later
    have recorded := Applies.recorded step.recorded (later.mem step.member)
    rw [Reported, before, ← matching, same]
    exact recorded

theorem apply_sound (application : ReceiptApplication) :
    (applyCompletionReceipt application).Sound Lawful Evolves (Relied (.apply application))
      (fun result => Reported (.apply application) (.applied result)) s := by
  refine sound_validated fun grant row t ids workspace task actor authorizes member => ?_
  have same : application = grant.application application.afterFingerprint := by
    rw [Grant.application, ids, workspace, task, actor]
  refine discipline.sound_lookUp fun applied u lawful evolves foundApplied => ?_
  obtain ⟨expected, chained⟩ := lawful.chained (evolves.mem member) authorizes
  rw [← ids] at foundApplied
  cases applied with
  | some prior =>
    obtain ⟨role, priorMember, fields⟩ := role_of_lookup chained .applied foundApplied
    cases role with
    | applied _ _ applies =>
      refine Program.sound_last fun result replayed _ _ later => ?_
      obtain ⟨_, -, replayed⟩ := Except.bind_ok.mp replayed
      cases replayed
      have recorded := Applies.recorded applies (later.mem priorMember)
      obtain ⟨appliedAt, eventId, createdAt, stored⟩ := applies
      rw [Reported, ← ids]
      simp only [applyResultFrom, fields, stored]
      exact recorded
  | none =>
    refine discipline.sound_lookUp fun claimed v lawful' evolves' foundClaimed => ?_
    have stored := evolves'.mem (evolves.mem member)
    obtain ⟨expected, chained⟩ := lawful'.chained stored authorizes
    rw [← ids] at foundClaimed
    cases claimed with
    | some prior =>
      obtain ⟨role, priorMember, fields⟩ := role_of_lookup chained .claimed foundClaimed
      cases role with
      | claimed claims => exact applyClaimed_sound same stored authorizes priorMember claims fields
    | none => exact Program.sound_throw _

end Applications

section Consumptions

variable [Deployment] {s t : Ledger} {grant : Grant} {expected : String}

omit [Platform] [Deployment] in
theorem deployedTaskItem_ok {read : Except AdapterError Json} {taskId item : Json}
    (found : deployedTaskItem read taskId = .ok item) :
    ∃ checklist, read = .ok checklist ∧ findItem checklist taskId = some item := by
  cases read with
  | error error => cases found
  | ok checklist =>
    refine ⟨checklist, rfl, ?_⟩
    unfold deployedTaskItem at found
    split at found
    · cases found
    · rename_i same
      cases same
      split at found
      · rename_i listed
        cases found
        exact listed
      · cases found
      · cases found

omit [Deployment] in
theorem verifyDeployed_ok {item taskId : Json} {u : Unit}
    (verified : verifyDeployed item taskId (.str expected) = .ok u) :
    Grant.Finishes expected item := by
  simp only [verifyDeployed, Except.bind_ok, raiseIf_except_ok, exists_and_left, exists_const,
    not_or, ne_eq, not_not, Json.str.injEq, Option.not_isSome_iff_eq_none] at verified
  obtain ⟨⟨status, workflow⟩, unowned, -, fingerprint⟩ := verified
  exact ⟨status, workflow, unowned, fingerprint.symm⟩

omit [Platform] in
/-- A reading stays noted. -/
theorem reading_later {u v : Ledger} {checklist item : Json} {taskId : String} {adapter : Adapter}
    (read : Deployment.readChecklist t.readings.length adapter = .ok checklist)
    (found : findItem checklist (.str taskId) = some item) (rows : rowsOf u = rowsOf t)
    (noted : u.readings = t.readings ++ [(rowsOf t).length]) (evolves : Evolves u v) :
    Reading v taskId item (rowsOf t) := by
  obtain ⟨moreRows, grown⟩ := evolves.rows
  obtain ⟨moreReadings, readings⟩ := evolves.readings
  rw [rows] at grown
  rw [noted] at readings
  refine ⟨⟨t.readings.length, (rowsOf t).length, adapter, checklist, ?_, ?_, read, found, ?_⟩⟩
  · rw [← readings]
    simp
  · rw [← grown, List.length_append]
    exact Nat.le_add_right _ _
  · rw [← grown]
    simp

omit [Deployment] in
theorem Completes.recorded {item : Json} {row : EventRow}
    (completes : grant.Completes expected item row) (member : row ∈ rowsOf t) :
    Recorded t "task.done" grant.receiptId [("applied_fingerprint", .str expected)] := by
  refine ⟨row, member, completes.records.type, completes.records.receipt, ?_⟩
  simp only [List.mem_singleton]
  rintro field rfl
  exact completes.fingerprint

/-- The consumption of an applied receipt. -/
theorem consumeApplied_sound {consumption : ReceiptConsumption} (admits : grant.Admits consumption)
    {row : EventRow} (member : row ∈ rowsOf s) (authorizes : grant.Authorizes row)
    {applied : EventDict} (appliedMember : applied.row ∈ rowsOf s)
    (applies : grant.Applies expected applied.row)
    (fields : ∀ key, (payloadOf applied).get key = applied.row.decoded.get key) :
    (consumeApplied consumption grant.payload applied).Sound Lawful Evolves
      (Relied (.consume consumption))
      (fun result => Reported (.consume consumption) (.consumed result)) s := by
  have after : (payloadOf applied).get "after_fingerprint" = .str expected := by
    obtain ⟨appliedAt, eventId, createdAt, stored⟩ := applies
    rw [fields, stored]
    rfl
  unfold consumeApplied
  simp only [after, authorizes.workspaceId, authorizes.taskId]
  refine Program.sound_orRaise fun workspaceText bound => ?_
  cases bound
  refine Program.sound_orRaise fun taskText bound => ?_
  cases bound
  refine discipline.sound_harmless (discipline.harmless_lookUp _) fun _ t₁ _ evolves₁ => ?_
  refine discipline.sound_harmless (discipline.harmless_lookUp _) fun adapter t₂ _ evolves₂ => ?_
  refine discipline.sound_readAdapter fun t u _ evolves _ _ work noted => ?_
  refine Program.sound_orRaise fun item listed => ?_
  obtain ⟨checklist, read, found⟩ := deployedTaskItem_ok listed
  refine Program.sound_orRaise fun _ verified => ?_
  have finishes := verifyDeployed_ok verified
  refine discipline.sound_harmless discipline.harmless_utcStamp fun consumedAt v _ evolves₃ => ?_
  refine discipline.sound_transaction ?_
  · intro x ⟨done, consumed⟩ w lawful evolves₄ _ ran
    have rows : rowsOf u = rowsOf t := by rw [rowsOf, rowsOf, work]
    have seen : ∀ row ∈ rowsOf s, row ∈ rowsOf t := fun row member =>
      evolves.mem (evolves₂.mem (evolves₁.mem member))
    have onward : Evolves u x := evolves₃.trans _ _ _ evolves₄
    have reading := reading_later read found rows noted onward
    obtain ⟨found', chained⟩ := lawful.chained (reading.earlier.subset (seen _ member)) authorizes
    cases chained.role_of .applied (reading.earlier.subset (seen _ appliedMember))
      applies.records.receipt applies.records.type with
    | applied _ _ own =>
      obtain rfl := own.expected_eq applies
      have step := terminal_step lawful chained admits finishes reading (seen _ appliedMember)
        applies ran
      refine ⟨step.lawful, step.evolves, Program.sound_orRaise fun event _ => ?_⟩
      intro y _ later
      obtain ⟨item', completes⟩ := step.recorded
      have recorded := Completes.recorded completes (later.mem step.member)
      have reported : (deployedVerificationOf item).get "fingerprint" = .str found' :=
        congrArg Json.str finishes.fingerprint
      rw [Reported, admits.receiptId, reported]
      exact recorded

theorem consume_sound (consumption : ReceiptConsumption) :
    (consumeCompletionReceipt consumption).Sound Lawful Evolves (Relied (.consume consumption))
      (fun result => Reported (.consume consumption) (.consumed result)) s := by
  refine discipline.sound_lookUp fun payload t lawful _ found => ?_
  obtain ⟨grant, row, ids, rfl, member, authorizes⟩ := receiptPayload_ok lawful found
  refine Program.sound_orRaise fun _ _ => ?_
  refine Program.sound_orRaise fun _ valid => ?_
  obtain ⟨-, -, actor⟩ := validateBinding_ok authorizes valid
  have admits : grant.Admits consumption := ⟨ids.symm, actor⟩
  refine discipline.sound_harmless (discipline.harmless_checkExpiry _) fun _ u _ evolves => ?_
  refine discipline.sound_lookUp fun consumed v lawful' evolves' _ => ?_
  have stored := evolves'.mem (evolves.mem member)
  cases consumed with
  | some event =>
    refine discipline.sound_lookUp fun done w lawful evolves foundDone => ?_
    obtain ⟨expected, chained⟩ := lawful.chained (evolves.mem stored) authorizes
    rw [← ids] at foundDone
    refine Program.sound_last fun result replayed _ _ later => ?_
    cases done with
    | none => cases replayed
    | some prior =>
      cases replayed
      obtain ⟨role, priorMember, fields⟩ := role_of_lookup chained .done foundDone
      cases role with
      | done _ _ _ _ completes _ _ =>
        have reported : (payloadOf prior).get "applied_fingerprint" = .str expected :=
          (fields _).trans completes.fingerprint
        rw [Reported, ← ids]
        change Recorded _ _ _ [("applied_fingerprint", (payloadOf prior).get "applied_fingerprint")]
        rw [reported]
        exact Completes.recorded completes (later.mem priorMember)
  | none =>
    refine discipline.sound_lookUp fun applied w lawful evolves foundApplied => ?_
    obtain ⟨expected, chained⟩ := lawful.chained (evolves.mem stored) authorizes
    rw [← ids] at foundApplied
    cases applied with
    | none => exact Program.sound_throw _
    | some prior =>
      obtain ⟨role, priorMember, fields⟩ :=
        role_of_lookup chained .applied foundApplied
      cases role with
      | applied _ _ applies =>
        exact consumeApplied_sound admits (evolves.mem stored) authorizes priorMember applies fields

end Consumptions

section Preparations

variable [Deployment] {careful : Ledger → Statement → Prop} {s : Ledger}

/-- What follows the issue of a receipt finds its authorization recorded. -/
theorem issueReceipt_sound {request : PrepareRequest} {facts : String → String → Authorization}
    (unused : ∀ t, careful t .issue → Unused t .issue)
    (own : ∀ receiptId nonce, (facts receiptId nonce).receiptId = receiptId)
    (item : ∀ receiptId nonce, ∃ item,
      (facts receiptId nonce).harnessFingerprint = computeItemFingerprint item)
    {α : Type} {next : Authorization × AppendEventResult → LedgerProgram α} {post : α → Ledger → Prop}
    (rest : ∀ issued result t, Recorded t "completion.authorized" issued.receiptId
        [("harness_fingerprint", .str issued.harnessFingerprint)] →
      (next (issued, result)).Sound Lawful Evolves careful post t) :
    (issueReceipt request facts >>= next).Sound Lawful Evolves careful post s := by
  refine discipline.sound_transaction fun t ⟨issued, result⟩ w lawful _ meets ran => ?_
  obtain ⟨receiptId, _, drawn, ran⟩ := Txn.bind_ok.mp ran
  cases drawn
  obtain ⟨nonce, _, drawn, ran⟩ := Txn.bind_ok.mp ran
  cases drawn
  obtain ⟨_, _, appended, ran⟩ := Txn.bind_ok.mp ran
  cases ran
  have step := issue_step lawful own item (unused t meets) appended
  refine ⟨step.lawful, step.evolves, rest _ _ _
    ⟨result.row, step.member, step.recorded.type, ?_, ?_⟩⟩
  · rw [own]
    exact step.recorded.records.receipt
  · simp only [List.mem_singleton]
    rintro field rfl
    rw [EventRow.decoded, step.recorded.decoded]
    exact step.recorded.fingerprint

theorem prepare_sound (request : PrepareRequest) :
    (prepareCompletionReceipt request).Sound Lawful Evolves (Relied (.prepare request))
      (fun receipt => Reported (.prepare request) (.prepared receipt)) s := by
  refine discipline.sound_harmless (discipline.harmless_lookUp _) fun workspace _ _ _ => ?_
  refine Program.sound_raiseIf fun _ => ?_
  refine discipline.sound_harmless (discipline.harmless_readGatedItem _ _) fun ⟨gate, item⟩ _ _ _ => ?_
  refine discipline.sound_harmless (discipline.harmless_lookUp _) fun forge _ _ _ => ?_
  refine Program.sound_raiseIf fun _ => ?_
  refine discipline.sound_harmless (discipline.harmless_lookUp _) fun review _ _ _ => ?_
  refine discipline.sound_harmless discipline.harmless_utcStamp fun issued _ _ _ => ?_
  refine Program.sound_orRaise fun expires _ => ?_
  refine issueReceipt_sound (fun _ meets => meets.1) (fun _ _ => rfl) (fun _ _ => ⟨item, rfl⟩)
    fun issued result t recorded => Program.sound_orRaise fun event _ => ?_
  exact fun u _ later => recorded.evolves later

end Preparations

/-- The step lemma of the operations: whatever others do in between, each keeps a lawful ledger and
reports what is recorded. -/
theorem perform_sound [Deployment] (call : Call) (s : Ledger) :
    call.perform.Sound Lawful Evolves (Relied call) (Reported call) s := by
  cases call with
  | prepare request => exact Program.sound_map (prepare_sound request)
  | claim claim => exact Program.sound_map (claim_sound claim)
  | apply application => exact Program.sound_map (apply_sound application)
  | consume consumption => exact Program.sound_map (consume_sound consumption)

end Coordinate.Completion

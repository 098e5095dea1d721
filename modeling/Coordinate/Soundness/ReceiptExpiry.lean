import Coordinate.Soundness.ReceiptChain

/-! # Expiry of receipts

The preflight lets only an unused receipt expire. The operations look at the window of the authorization
in every call, whatever has become of the receipt: a retried claim, an application, a consumption and
the replay of a consumption are refused once the window is over. Both agree on unused receipts.
-/

namespace Coordinate.Completion

section Refusals

/-- The reason of a refusal. -/
def refusal {α : Type} : Except Exn α → Option String
  | .error (.completion error) => some error.reason
  | _ => none

/-- No refusal because of the window of the receipt. -/
def OtherReason (e : Exn) : Prop :=
  ∀ error, e = .completion error → error.reason ≠ "expired" ∧ error.reason ≠ "malformed_expiry"

theorem otherReason_receiptError {message reason : String} (expired : reason ≠ "expired")
    (malformed : reason ≠ "malformed_expiry") : OtherReason (receiptError message reason) := by
  rintro error same
  cases same
  exact ⟨expired, malformed⟩

theorem refusal_of_raises {α : Type} {x : Except Exn α} (raises : x.Raises OtherReason) :
    refusal x ≠ some "expired" ∧ refusal x ≠ some "malformed_expiry" := by
  unfold refusal
  split
  · rename_i error
    obtain ⟨expired, malformed⟩ := raises _ rfl error rfl
    simp [expired, malformed]
  · simp

end Refusals

section Raises

theorem raises_decodeColumn (text : JsonText) : (decodeColumn text).Raises OtherReason :=
  Except.raises_orRaise fun _ _ => nofun

theorem raises_toDict (row : EventRow) : row.toDict.Raises OtherReason :=
  Except.raises_bind (raises_decodeColumn _) fun _ => Except.raises_pure _

theorem raises_mapM {α β : Type} {P : Exn → Prop} {f : α → Except Exn β}
    (raises : ∀ a, (f a).Raises P) : ∀ items : List α, (items.mapM f).Raises P
  | [] => Except.raises_pure _
  | item :: rest => by
    rw [List.mapM_cons]
    exact Except.raises_bind (raises item) fun _ =>
      Except.raises_bind (raises_mapM raises rest) fun _ => Except.raises_pure _

theorem raises_hasReceipt (receiptId : String) (row : EventRow) :
    (hasReceipt receiptId row).Raises OtherReason := by
  unfold hasReceipt
  split
  · exact Except.raises_pure _
  · exact Except.raises_throw nofun

theorem raises_eventByReceipt (db : Db) (eventType receiptId : String) :
    (eventByReceipt db eventType receiptId).Raises OtherReason := by
  refine Except.raises_bind (Except.raises_bind (raises_mapM (raises_hasReceipt _) _)
    fun _ => Except.raises_pure _) fun rows => ?_
  split
  · exact Except.raises_pure _
  · exact Except.raises_bind (raises_toDict _) fun _ => Except.raises_pure _

theorem raises_lookUp {α : Type} {P : Exn → Prop} {f : Db → Except Exn α}
    (raises : ∀ db, (f db).Raises P) : (lookUp f).Raises P :=
  Program.raises_statement fun s => raises s.work.store

theorem raises_transaction {α : Type} {P : Exn → Prop} {tag : Statement} {body : DbTxn α}
    (raises : ∀ w e w', body.run w = .error e w' → P e) : (transaction tag body).Raises P := by
  refine Program.raises_statement fun s e raised => ?_
  split at raised
  · cases raised
  · rename_i failed
    cases raised
    exact raises _ _ _ failed

variable [Platform]

theorem raises_recordEvent (event : NewEvent) : (recordEvent event).Raises OtherReason :=
  raises_transaction fun w e w' failed => by
    rw [(appendEvent_error failed).1]
    exact nofun

theorem raises_utcStamp : utcStamp.Raises OtherReason :=
  raises_transaction fun w e w' failed => by cases failed

omit [Platform] in
theorem raises_notConsumed (receiptId : String) : (notConsumed receiptId).Raises OtherReason :=
  Program.raises_bind (raises_lookUp fun db => raises_eventByReceipt db _ _) fun _ =>
    Program.raises_raiseIf _ (otherReason_receiptError (by decide) (by decide))

omit [Platform] in
theorem raises_validateIdempotentBefore (receiptId before : String) (allowed : List Json) :
    (validateIdempotentBefore receiptId before allowed).Raises OtherReason :=
  Except.raises_bind (Except.raises_raiseIf _ nofun) fun _ =>
    Except.raises_raiseIf _ (otherReason_receiptError (by decide) (by decide))

omit [Platform] in
theorem raises_replayClaimedReceipt (claim : ReceiptClaim) (prior : EventDict)
    (key problem : String) : (replayClaimedReceipt claim prior key problem).Raises OtherReason :=
  Except.raises_bind
    (Except.raises_raiseIf _ (otherReason_receiptError (by decide) (by decide))) fun _ =>
      Except.raises_bind (raises_validateIdempotentBefore _ _ _) fun _ => Except.raises_pure _

theorem raises_claimFresh (claim : ReceiptClaim) (payload : Json) :
    (claimFresh claim payload).Raises OtherReason :=
  Program.raises_bind
    (Program.raises_raiseIf _ (otherReason_receiptError (by decide) (by decide))) fun _ =>
      Program.raises_bind raises_utcStamp fun _ =>
        Program.raises_bind (raises_recordEvent _) fun _ =>
          Program.raises_bind (Program.raises_orRaise (raises_toDict _)) fun _ =>
            Program.raises_pure _

theorem raises_applyClaimed (application : ReceiptApplication) (claimed : EventDict) :
    (applyClaimed application claimed).Raises OtherReason :=
  Program.raises_bind
    (Program.raises_raiseIf _ (otherReason_receiptError (by decide) (by decide))) fun _ =>
      Program.raises_bind raises_utcStamp fun _ =>
        Program.raises_bind (raises_recordEvent _) fun _ =>
          Program.raises_bind (Program.raises_orRaise (raises_toDict _)) fun _ =>
            Program.raises_pure _

omit [Platform] in
theorem raises_boundText (value : Json) : (boundText value).Raises OtherReason := by
  cases value <;> first | exact Except.raises_pure _ | exact Except.raises_throw nofun

omit [Platform] in
theorem raises_refuseOtherTerminals (receiptId : String) (taskId : Json) :
    ∀ rows, (refuseOtherTerminals receiptId taskId rows).Raises OtherReason
  | [] => Except.raises_pure _
  | row :: rest => Except.raises_bind (raises_toDict row) fun _ =>
      Except.raises_bind
        (Except.raises_raiseIf _ (otherReason_receiptError (by decide) (by decide))) fun _ =>
          raises_refuseOtherTerminals receiptId taskId rest

omit [Platform] in
theorem raises_deployedAdapterOf (db : Db) (consumption : ReceiptConsumption) (workspaceId : Json) :
    (deployedAdapterOf db consumption workspaceId).Raises OtherReason := by
  unfold deployedAdapterOf
  split
  · exact Except.raises_pure _
  · refine Except.raises_bind (raises_boundText _) fun id => ?_
    split
    · exact Except.raises_pure _
    · exact Except.raises_throw (otherReason_receiptError (by decide) (by decide))

omit [Platform] in
theorem raises_deployedTaskItem (read : Except AdapterError Json) (taskId : Json) :
    (deployedTaskItem read taskId).Raises OtherReason := by
  unfold deployedTaskItem
  split
  · exact Except.raises_throw (otherReason_receiptError (by decide) (by decide))
  · split
    · exact Except.raises_pure _
    · exact Except.raises_throw (otherReason_receiptError (by decide) (by decide))
    · exact Except.raises_throw (otherReason_receiptError (by decide) (by decide))

theorem raises_verifyDeployed (item taskId after : Json) :
    (verifyDeployed item taskId after).Raises OtherReason :=
  Except.raises_bind
    (Except.raises_raiseIf _ (otherReason_receiptError (by decide) (by decide))) fun _ =>
      Except.raises_bind
        (Except.raises_raiseIf _ (otherReason_receiptError (by decide) (by decide))) fun _ =>
          Except.raises_raiseIf _ (otherReason_receiptError (by decide) (by decide))

/-- The savepoint raises what an append or the decoding of its row raises. -/
theorem raises_appendTerminal {consumption : ReceiptConsumption} {payload after item : Json}
    {workspaceId taskId : Option String} {consumedAt : Nat} {w w' : Work Db} {e : Exn}
    (failed : (appendTerminal consumption payload after item workspaceId taskId consumedAt).run w =
      .error e w') : OtherReason e := by
  have integrity : OtherReason .integrity := nofun
  obtain failed | ⟨done, middle, -, failed⟩ := Txn.bind_error.mp failed
  · rw [(appendEvent_error failed).1]
    exact integrity
  obtain failed | ⟨_, _, -, failed⟩ := Txn.bind_error.mp failed
  · obtain ⟨inner, decoded, rfl, -⟩ := Txn.orRaise_error.mp failed
    exact raises_toDict _ _ decoded
  obtain failed | ⟨_, _, -, failed⟩ := Txn.bind_error.mp failed
  · rw [(appendEvent_error failed).1]
    exact integrity
  · cases failed

theorem raises_consumeApplied [Deployment] (consumption : ReceiptConsumption) (payload : Json)
    (applied : EventDict) : (consumeApplied consumption payload applied).Raises OtherReason :=
  Program.raises_bind (Program.raises_orRaise (raises_boundText _)) fun _ =>
    Program.raises_bind (Program.raises_orRaise (raises_boundText _)) fun _ =>
      Program.raises_bind (raises_lookUp fun _ => Except.raises_bind
          (raises_refuseOtherTerminals _ _ _) fun _ => Except.raises_pure _) fun _ =>
        Program.raises_bind (raises_lookUp fun _ => raises_deployedAdapterOf _ _ _) fun _ =>
          Program.raises_bind (Program.raises_statement fun _ => Except.raises_pure _) fun _ =>
            Program.raises_bind (Program.raises_orRaise (raises_deployedTaskItem _ _)) fun _ =>
              Program.raises_bind (Program.raises_orRaise (raises_verifyDeployed _ _ _)) fun _ =>
                Program.raises_bind raises_utcStamp fun _ =>
                  Program.raises_bind (raises_transaction fun _ _ _ => raises_appendTerminal)
                    fun _ => Program.raises_bind (Program.raises_orRaise (raises_toDict _))
                      fun _ => Program.raises_pure _

end Raises

section Windows

variable [Platform] [Deployment] {s : Ledger} {receiptId : String} {payload : Json}

/-- The window of an authorization is over at an instant. -/
def Over (payload : Json) (instant : Nat) : Prop :=
  (payload.get "expires_at").truthy = true ∧
    isPast instant (payload.get "expires_at") = .ok (some true)

/-- The end of the window cannot be read. -/
def Unreadable (payload : Json) (instant : Nat) : Prop :=
  (payload.get "expires_at").truthy = true ∧ isPast instant (payload.get "expires_at") = .ok none

/-- The call passes the binding of the authorization. -/
inductive Matches (receiptId : String) (payload : Json) : Call → Prop
  | claim {claim : ReceiptClaim} (receipt : claim.receiptId = receiptId)
      (workspace : payload.get "workspace_id" = .str claim.workspaceId)
      (task : payload.get "task_id" = .str claim.taskId)
      (actor : payload.get "authorized_actor" = .str claim.actor) :
      Matches receiptId payload (.claim claim)
  | apply {application : ReceiptApplication} (receipt : application.receiptId = receiptId)
      (workspace : payload.get "workspace_id" = .str application.workspaceId)
      (task : payload.get "task_id" = .str application.taskId)
      (actor : payload.get "authorized_actor" = .str application.actor) :
      Matches receiptId payload (.apply application)
  | consume {consumption : ReceiptConsumption} (receipt : consumption.receiptId = receiptId)
      (workspace : ∀ id, consumption.expectedWorkspaceId = some id →
        payload.get "workspace_id" = .str id)
      (actor : payload.get "authorized_actor" = .str consumption.actor) :
      Matches receiptId payload (.consume consumption)

omit [Platform] in
theorem raises_isPast (instant : Nat) (value : Json) :
    (isPast instant value).Raises OtherReason := by
  unfold isPast
  split
  · split
    · exact Except.raises_pure _
    · exact Except.raises_throw nofun
    · exact Except.raises_pure _
  · exact Except.raises_throw nofun

/-- What the window does to a call whose other refusals have other reasons. -/
structure Judged {α : Type} (payload : Json) (instant : Nat) (outcome : Except Exn α) : Prop where
  expired : refusal outcome = some "expired" ↔ Over payload instant
  malformed : refusal outcome = some "malformed_expiry" ↔ Unreadable payload instant

omit [Platform] in
theorem Judged.of_raises {α : Type} {instant : Nat} {outcome : Except Exn α}
    (raises : outcome.Raises OtherReason) (pending : ¬ Over payload instant)
    (readable : ¬ Unreadable payload instant) : Judged payload instant outcome := by
  obtain ⟨expired, malformed⟩ := refusal_of_raises raises
  exact ⟨⟨fun refused => absurd refused expired, fun ended => absurd ended pending⟩,
    ⟨fun refused => absurd refused malformed, fun unreadable => absurd unreadable readable⟩⟩

/-- The check of the window judges the call, whatever follows it. -/
theorem checkExpiry_judged {α : Type} {rest : LedgerProgram α} (raises : rest.Raises OtherReason) :
    Judged payload (instantAt s.work.tick)
      ((checkExpiry payload >>= fun _ => rest).run s).1 := by
  by_cases given : (payload.get "expires_at").truthy = true
  swap
  · have skipped : checkExpiry payload = pure () := by rw [checkExpiry, if_neg given]
    rw [skipped]
    exact .of_raises (raises s) (fun ended => given ended.1) (fun ended => given ended.1)
  have judged : (checkExpiry payload >>= fun _ => rest).run s =
      ((orRaise id (validateExpiry payload (instantAt s.work.tick)) : LedgerProgram Unit) >>=
        fun _ => rest).run { s with work := { s.work with tick := s.work.tick + 1 } } := by
    rw [checkExpiry, if_pos given]
    rfl
  rw [judged]
  cases past : isPast (instantAt s.work.tick) (payload.get "expires_at") with
  | error e =>
    have failed : validateExpiry payload (instantAt s.work.tick) = .error e := by
      rw [validateExpiry, if_pos given, past]
      rfl
    rw [failed]
    refine .of_raises ?_ (fun ended => ?_) (fun ended => ?_)
    · rintro e' same
      cases same
      exact raises_isPast _ _ e past
    · rw [Over, past] at ended
      cases ended.2
    · rw [Unreadable, past] at ended
      cases ended.2
  | ok outcome =>
    cases outcome with
    | none =>
      have failed : validateExpiry payload (instantAt s.work.tick) = .error (receiptError
          ("receipt has malformed expires_at: " ++ (payload.get "expires_at").pyStr)
          "malformed_expiry") := by
        rw [validateExpiry, if_pos given, past]
        rfl
      rw [failed]
      refine ⟨⟨fun refused => ?_, fun ended => ?_⟩, fun _ => ⟨given, past⟩, fun _ => rfl⟩
      · exact absurd (show some "malformed_expiry" = some "expired" from refused) (by decide)
      · rw [Over, past] at ended
        cases ended.2
    | some expired =>
      cases expired with
      | true =>
        have failed : validateExpiry payload (instantAt s.work.tick) = .error (receiptError
            ("receipt expired at " ++ (payload.get "expires_at").pyStr) "expired") := by
          rw [validateExpiry, if_pos given, past]
          rfl
        rw [failed]
        refine ⟨⟨fun _ => ⟨given, past⟩, fun _ => rfl⟩, fun refused => ?_, fun ended => ?_⟩
        · exact absurd (show some "expired" = some "malformed_expiry" from refused) (by decide)
        · rw [Unreadable, past] at ended
          cases ended.2
      | false =>
        have passed : validateExpiry payload (instantAt s.work.tick) = .ok () := by
          rw [validateExpiry, if_pos given, past]
          rfl
        rw [passed]
        refine .of_raises (raises _) (fun ended => ?_) (fun ended => ?_)
        · rw [Over, past] at ended
          cases ended.2
        · rw [Unreadable, past] at ended
          cases ended.2

omit [Platform] in
theorem Judged.map {α β : Type} {instant : Nat} {outcome : Except Exn α} (f : α → β)
    (judged : Judged payload instant outcome) : Judged payload instant (outcome.map f) := by
  have same : refusal (outcome.map f) = refusal outcome := by
    cases outcome with
    | ok a => rfl
    | error e => cases e <;> rfl
  exact ⟨same ▸ judged.expired, same ▸ judged.malformed⟩

omit [Platform] [Deployment] in
theorem validateBinding_of {workspaceId taskId : Json} {actor : String}
    (workspace : payload.get "workspace_id" = workspaceId)
    (task : payload.get "task_id" = taskId)
    (authorized : payload.get "authorized_actor" = .str actor) :
    validateBinding payload workspaceId taskId actor = .ok () := by
  simp [validateBinding, raiseIf, workspace, task, authorized, bind, Except.bind, pure, Except.pure]

/-- A call that passes the binding is judged by the window, in every state of its receipt. -/
theorem perform_judged {call : Call} (found : receiptPayload s.work.store receiptId = .ok payload)
    (matching : Matches receiptId payload call) :
    Judged payload (instantAt s.work.tick) (call.perform.run s).1 := by
  cases matching with
  | @claim claim receipt workspace task actor =>
    subst receipt
    rw [Call.perform, Program.run_map]
    refine Judged.map _ ?_
    rw [claimCompletionReceipt, lookUp_run found, validateBinding_of workspace task actor]
    refine checkExpiry_judged (Program.raises_bind (raises_notConsumed _) fun _ =>
      Program.raises_bind (raises_lookUp fun _ => raises_eventByReceipt _ _ _) fun applied => ?_)
    split
    · exact Program.raises_orRaise (raises_replayClaimedReceipt _ _ _ _)
    · refine Program.raises_bind (raises_lookUp fun _ => raises_eventByReceipt _ _ _)
        fun claimed => ?_
      split
      · exact Program.raises_orRaise (raises_replayClaimedReceipt _ _ _ _)
      · exact raises_claimFresh _ _
  | @apply application receipt workspace task actor =>
    subst receipt
    rw [Call.perform, Program.run_map]
    refine Judged.map _ ?_
    rw [applyCompletionReceipt, lookUp_run found, validateBinding_of workspace task actor]
    refine checkExpiry_judged (Program.raises_bind (raises_notConsumed _) fun _ =>
      Program.raises_bind (raises_lookUp fun _ => raises_eventByReceipt _ _ _) fun applied => ?_)
    split
    · exact Program.raises_orRaise (Except.raises_bind (Except.raises_raiseIf _
        (otherReason_receiptError (by decide) (by decide))) fun _ => Except.raises_pure _)
    · refine Program.raises_bind (raises_lookUp fun _ => raises_eventByReceipt _ _ _)
        fun claimed => ?_
      split
      · exact raises_applyClaimed _ _
      · exact Program.raises_throw (otherReason_receiptError (by decide) (by decide))
  | @consume consumption receipt workspace actor =>
    subst receipt
    have expected : checkExpectedWorkspace consumption.expectedWorkspaceId payload = .ok () := by
      unfold checkExpectedWorkspace
      split
      · rfl
      · rename_i id given
        rw [raiseIf, if_neg (by rw [workspace id given]; simp)]
        rfl
    rw [Call.perform, Program.run_map]
    refine Judged.map _ ?_
    rw [consumeCompletionReceipt, lookUp_run found, expected]
    dsimp only
    rw [validateBinding_of rfl rfl actor]
    refine checkExpiry_judged
      (Program.raises_bind (raises_lookUp fun _ => raises_eventByReceipt _ _ _) fun consumed => ?_)
    split
    · refine Program.raises_bind (raises_lookUp fun _ => raises_eventByReceipt _ _ _) fun done => ?_
      refine Program.raises_orRaise ?_
      unfold replayConsumed
      split
      · exact Except.raises_throw (otherReason_receiptError (by decide) (by decide))
      · exact Except.raises_pure _
    · refine Program.raises_bind (raises_lookUp fun _ => raises_eventByReceipt _ _ _)
        fun applied => ?_
      split
      · exact raises_consumeApplied _ _ _
      · exact Program.raises_throw (otherReason_receiptError (by decide) (by decide))

end Windows

section Agreement

variable {db : Db} {receiptId : String} {scan next : PreflightScan} {event : EventDict}

theorem scanStatus_fresh {payload : Json} {status : String}
    (scanned : scanStatus scan payload = .ok status) :
    status ∈ statusOrder ∧ scan.seen.contains status = false ∧
      (statusOrder.takeWhile (· ≠ status)).all (scan.seen.contains ·) = true := by
  unfold scanStatus at scanned
  dsimp only at scanned
  split at scanned
  · cases scanned
  rename_i known found
  obtain ⟨u, required, scanned⟩ := Except.bind_ok.mp scanned
  obtain ⟨v, fresh, scanned⟩ := Except.bind_ok.mp scanned
  cases scanned
  rw [raiseIf_except_ok] at required fresh
  exact ⟨List.mem_of_find?_eq_some found, by simpa using fresh, by simpa using required⟩

/-- What one event does to the statuses that the scan has seen. -/
theorem scanEvent_status (scanned : scanEvent db receiptId scan event = .ok next) :
    ∃ status, scanStatus scan (payloadOf event) = .ok status ∧ next.status = .str status ∧
      next.seen = status :: scan.seen := by
  obtain ⟨status, found, scanned⟩ := Except.bind_ok.mp scanned
  obtain ⟨linked, links, scanned⟩ := Except.bind_ok.mp scanned
  obtain ⟨marked, fingerprints, scanned⟩ := Except.bind_ok.mp scanned
  cases scanned
  refine ⟨status, found, rfl, ?_⟩
  have seen : linked.seen = status :: scan.seen := by
    obtain ⟨_, -, links⟩ := Except.bind_ok.mp links
    obtain ⟨_, -, links⟩ := Except.bind_ok.mp links
    obtain ⟨_, -, links⟩ := Except.bind_ok.mp links
    cases links
    rfl
  rw [← seen]
  unfold scanFingerprints at fingerprints
  split at fingerprints
  · obtain ⟨_, -, fingerprints⟩ := Except.bind_ok.mp fingerprints
    cases fingerprints
    rfl
  split at fingerprints
  · obtain ⟨_, -, fingerprints⟩ := Except.bind_ok.mp fingerprints
    obtain ⟨_, -, fingerprints⟩ := Except.bind_ok.mp fingerprints
    cases fingerprints
    rfl
  split at fingerprints
  · obtain ⟨_, -, fingerprints⟩ := Except.bind_ok.mp fingerprints
    obtain ⟨_, -, fingerprints⟩ := Except.bind_ok.mp fingerprints
    obtain ⟨_, -, fingerprints⟩ := Except.bind_ok.mp fingerprints
    cases fingerprints
    rfl
  · obtain ⟨_, -, fingerprints⟩ := Except.bind_ok.mp fingerprints
    obtain ⟨_, -, fingerprints⟩ := Except.bind_ok.mp fingerprints
    split at fingerprints
    · cases fingerprints
    · cases fingerprints
    · obtain ⟨_, -, fingerprints⟩ := Except.bind_ok.mp fingerprints
      cases fingerprints
      rfl

/-- A scan that goes on after an authorization does not end with one. -/
theorem scanChain_status : ∀ {events : List EventDict} {scan next : PreflightScan}
    {event : EventDict}, scan.seen.contains statusAuthorized = true →
    scanChain db receiptId scan (event :: events) = .ok next → next.status ≠ .str statusAuthorized
  | [], scan, next, event, seen, scanned => by
    obtain ⟨middle, one, scanned⟩ := Except.bind_ok.mp scanned
    cases scanned
    obtain ⟨status, found, same, -⟩ := scanEvent_status one
    rw [same]
    rintro authorized
    cases authorized
    rw [(scanStatus_fresh found).2.1] at seen
    cases seen
  | second :: rest, scan, next, event, seen, scanned => by
    obtain ⟨middle, one, scanned⟩ := Except.bind_ok.mp scanned
    obtain ⟨status, -, -, grown⟩ := scanEvent_status one
    refine scanChain_status ?_ scanned
    rw [grown, List.contains_cons, seen, Bool.or_true]

/-- The scan of a chain ends with an authorization only where there is nothing else. -/
theorem scanChain_authorized {events : List EventDict}
    (scanned : scanChain db receiptId {} (event :: events) = .ok next)
    (authorized : next.status = .str statusAuthorized) : events = [] := by
  cases events with
  | nil => rfl
  | cons second rest =>
    obtain ⟨middle, one, scanned⟩ := Except.bind_ok.mp scanned
    obtain ⟨status, found, -, grown⟩ := scanEvent_status one
    obtain ⟨known, -, required⟩ := scanStatus_fresh found
    -- the first event has no predecessors
    have first : status = statusAuthorized := by
      simp only [statusOrder, List.mem_cons, List.not_mem_nil, or_false] at known
      obtain rfl | rfl | rfl | rfl := known
      · rfl
      all_goals cases required
    refine absurd authorized (scanChain_status ?_ scanned)
    rw [grown, first]
    rfl

/-- An answer of the lookup is the one derived from the events. -/
theorem preflightOf_of_lookup {events : List EventDict} {answer : Option Preflight}
    (looked : (do
      let events ← (Except.ok events : Except Exn (List EventDict))
      match preflightOf db receiptId events with
      | some (.raised error) => throw error
      | answer => return answer) = .ok answer) : preflightOf db receiptId events = answer := by
  change (match preflightOf db receiptId events with
    | some (.raised error) => throw error
    | answer => return answer : Except Exn (Option Preflight)) = .ok answer at looked
  split at looked
  · cases looked
  · exact Except.ok.inj looked

/-- The window of an unused receipt is the one that the operations look at. -/
theorem lookup_authorized {workspaceId taskId actor issuedAt expiresAt terminalEventId payload : Json}
    (looked : lookupReceiptForPreflight db receiptId = .ok (some (.derived workspaceId taskId actor
      (.str statusAuthorized) issuedAt expiresAt terminalEventId)))
    (found : receiptPayload db receiptId = .ok payload) : payload.get "expires_at" = expiresAt := by
  unfold lookupReceiptForPreflight at looked
  cases scanned : chainEvents db receiptId with
  | error e => rw [scanned] at looked; cases looked
  | ok events =>
    rw [scanned] at looked
    have listed := chainEvents_ok scanned
    replace looked : preflightOf db receiptId events = _ := preflightOf_of_lookup looked
    cases events with
    | nil => cases looked
    | cons first rest =>
      by_cases start : first.row.eventType ≠ "completion.authorized"
      · rw [preflightOf, if_pos start] at looked
        cases looked
      rw [preflightOf, if_neg start] at looked
      cases chain : scanChain db receiptId {} (first :: rest) with
      | error broken =>
        rw [chain] at looked
        obtain ⟨reason, message, rfl⟩ | ⟨error, rfl⟩ := answers_scanChain _ _ _ chain
        · cases looked
        · cases looked
      | ok scan =>
        rw [chain] at looked
        injection looked with looked
        injection looked with _ _ _ status _ expires
        have alone := scanChain_authorized chain status
        subst alone
        obtain ⟨authorized, stored, found⟩ := Except.bind_ok.mp found
        cases authorized with
        | none => cases found
        | some event =>
          cases found
          obtain ⟨member, type, receipt, decoded⟩ := eventByReceipt_some stored
          have inChain : event.row ∈ (receiptRows receiptId db.events.rows).filter isCompletion :=
            List.mem_filter.mpr
              ⟨mem_receiptRows.mpr ⟨member, receipt⟩, by rw [isCompletion, type]; rfl⟩
          have same : (⟨event.row, event.row.decoded⟩ : EventDict) ∈ [first] :=
            listed ▸ List.mem_map_of_mem inChain
          rw [← expires, ← List.mem_singleton.mp same, ← decoded]

variable [Deployment]

/-- Where the preflight does not call an unused receipt expired, its window is open. -/
theorem window_of_unexpired {payload : Json} {instant : Nat}
    (unexpired : preflightExpired (.str statusAuthorized) (payload.get "expires_at") instant =
      .ok false) : ¬ Over payload instant ∧ ¬ Unreadable payload instant := by
  have looks : (payload.get "expires_at").truthy = true → ∀ outcome,
      isPast instant (payload.get "expires_at") = .ok outcome → outcome.getD true = false := by
    intro given outcome past
    rw [preflightExpired, if_neg (by simp [given])] at unexpired
    rw [past] at unexpired
    exact Except.ok.inj unexpired
  refine ⟨fun ended => ?_, fun unreadable => ?_⟩
  · cases looks ended.1 _ ended.2
  · cases looks unreadable.1 _ unreadable.2

end Agreement

section Expiry

variable [Platform] [Deployment]

/-- Neither refusal is about the window of the receipt. -/
def Admitted {α : Type} (outcome : Except Exn α) : Prop :=
  refusal outcome ≠ some "expired" ∧ refusal outcome ≠ some "malformed_expiry"

/-- **Expiry of receipts.** In every ledger and at every time a call that passes the binding is judged by
the window of the authorization, whatever has been recorded since, and by the same window as the
preflight of an unused receipt. -/
theorem expiry_rederived {s : Ledger} {receiptId : String} {payload : Json} {call : Call}
    (found : receiptPayload s.work.store receiptId = .ok payload)
    (matching : Matches receiptId payload call) :
    Judged payload (instantAt s.work.tick) (call.perform.run s).1 ∧
      ∀ workspaceId taskId actor issuedAt expiresAt terminalEventId,
        lookupReceiptForPreflight s.work.store receiptId = .ok (some (.derived workspaceId taskId
          actor (.str statusAuthorized) issuedAt expiresAt terminalEventId)) →
        preflightExpired (.str statusAuthorized) expiresAt (instantAt s.work.tick) = .ok false →
        Admitted (call.perform.run s).1 := by
  have judged := perform_judged found matching
  refine ⟨judged, fun _ _ _ _ expiresAt _ looked unexpired => ?_⟩
  rw [← lookup_authorized looked found] at unexpired
  obtain ⟨pending, readable⟩ := window_of_unexpired unexpired
  exact ⟨fun refused => pending (judged.expired.mp refused),
    fun refused => readable (judged.malformed.mp refused)⟩

/-- No call that passes the binding is refused because of a window that the preflight does not call
expired. -/
def AgreesWithPreflight (s : Ledger) : Prop :=
  ∀ receiptId payload call workspaceId taskId actor status issuedAt expiresAt terminalEventId,
    receiptPayload s.work.store receiptId = .ok payload → Matches receiptId payload call →
    lookupReceiptForPreflight s.work.store receiptId = .ok (some (.derived workspaceId taskId actor
      status issuedAt expiresAt terminalEventId)) →
    preflightExpired status expiresAt (instantAt s.work.tick) = .ok false →
    Admitted (call.perform.run s).1

end Expiry

namespace Sample

open Coordinate.Sample

local instance : Deployment := deployment fun _ => checklistOf item

/-- A receipt with a window of some seconds is claimed and applied. -/
def application : List (Pool.Move Call Ledger) :=
  .start (.prepare { workspaceId := "w", taskId := "t", requester := "a", ttlSeconds := 6 }) ::
    performs 0 8 ++ .start (claimOf zeroDigest) :: performs 1 7 ++
    .start (.apply ⟨receiptId, "w", "t", "a", zeroDigest⟩) :: performs 2 7

def consumption : ReceiptConsumption := { receiptId, actor := "a" }

/-- The receipt is not expired for the preflight and its consumption is refused. -/
def refused (pool : Pool Call Statement Ledger Exn Response) : Bool :=
  match receiptPayload pool.shared.work.store receiptId,
      lookupReceiptForPreflight pool.shared.work.store receiptId with
  | .ok payload, .ok (some (.derived _ _ _ status _ expiresAt _)) =>
    payload.get "authorized_actor" = .str "a" && status = .str statusApplied &&
      (match preflightExpired status expiresAt (instantAt pool.shared.work.tick) with
        | .ok false => true
        | _ => false) &&
      refusal ((Call.consume consumption).perform.run pool.shared).1 = some "expired"
  | _, _ => false

theorem refused_sound {pool : Pool Call Statement Ledger Exn Response} (wrong : refused pool = true) :
    ∃ payload workspaceId taskId actor issuedAt expiresAt terminalEventId,
      receiptPayload pool.shared.work.store receiptId = .ok payload ∧
      Matches receiptId payload (.consume consumption) ∧
      lookupReceiptForPreflight pool.shared.work.store receiptId = .ok (some (.derived workspaceId
        taskId actor (.str statusApplied) issuedAt expiresAt terminalEventId)) ∧
      preflightExpired (.str statusApplied) expiresAt (instantAt pool.shared.work.tick) = .ok false ∧
      refusal ((Call.consume consumption).perform.run pool.shared).1 = some "expired" := by
  unfold refused at wrong
  split at wrong
  swap
  · cases wrong
  rename_i payload _ _ _ status _ _ _ found looked
  simp only [Bool.and_eq_true, decide_eq_true_eq] at wrong
  obtain ⟨⟨⟨actor, rfl⟩, unexpired⟩, late⟩ := wrong
  refine ⟨payload, _, _, _, _, _, _, found, ?_, looked, ?_, late⟩
  · exact .consume rfl (fun _ given => nomatch given) actor
  · split at unexpired
    · assumption
    · cases unexpired

theorem application_refused : ∃ pool, refused pool = true ∧
    operations.Reaches (Pool.Meets fun _ s tag => Unused s tag) (Pool.initial start) pool := by
  have ran : ((operations.runIf (Pool.passes fun _ s tag => unused s tag)
      (Pool.initial start) application).any refused) = true := by
    decide +kernel
  obtain ⟨pool, run, wrong⟩ := Machine.exists_reaches
    (Pool.meets_of_passes fun _ _ _ => unused_sound) ran
  exact ⟨pool, wrong, run⟩

/-- The consumption of an applied receipt is judged by the window. -/
theorem application_judged : ∃ (s : Ledger) (payload : Json),
    receiptPayload s.work.store receiptId = .ok payload ∧
    Judged payload (instantAt s.work.tick) ((Call.consume consumption).perform.run s).1 := by
  obtain ⟨pool, wrong, -⟩ := application_refused
  obtain ⟨payload, _, _, _, _, _, _, found, matching, -⟩ := refused_sound wrong
  exact ⟨pool.shared, payload, found, (expiry_rederived found matching).1⟩

/-- The write of the checklist has been acknowledged, and the completion can never be recorded. -/
theorem application_disagrees : ¬ ∀ s pool, Initial s →
    operations.Reaches (Pool.Meets fun _ s tag => Unused s tag) (Pool.initial s) pool →
      AgreesWithPreflight pool.shared := by
  intro agrees
  obtain ⟨pool, wrong, run⟩ := application_refused
  obtain ⟨payload, _, _, _, _, _, _, found, matching, looked, unexpired, late⟩ := refused_sound wrong
  exact (agrees start pool start_initial run _ _ _ _ _ _ _ _ _ _ found matching looked unexpired).1
    late

end Sample

end Coordinate.Completion

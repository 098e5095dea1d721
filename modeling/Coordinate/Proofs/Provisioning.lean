import Coordinate.Model.Provisioning
import Coordinate.Proofs.Statements

/-! # Requests and outcomes in the ledger

What one step of a call can do to the ledger, and what every such step keeps: each request is recorded
as it was asked, each outcome names its request in its key, and no workspace has two pending requests.
-/

namespace Coordinate.Provisioning

section Rows

variable {db s t : Db} {row : EventRow} {asked other : Asked}

/-- The row of a request. -/
structure Records (row : EventRow) (asked : Asked) : Prop where
  type : row.eventType = requestEventType
  actor : row.actor = asked.principal
  workspace : row.workspaceId = some asked.workspace
  target : row.target = some (requestTarget asked.workspace)
  payload : row.payloadJson = .value asked.payload
  key : row.idempotencyKey = asked.key

theorem requestKey_inj {workspaceId first second : String}
    (same : requestKey workspaceId first = requestKey workspaceId second) : first = second := by
  have chars := congrArg String.toList same
  simp only [requestKey, String.toList_append, List.append_cancel_left_eq] at chars
  exact String.toList_inj.mp chars

theorem key_ne_empty (asked : Asked) : asked.key ≠ "" := by
  simp [Asked.key, requestKey]

theorem terminalKey_ne_empty (requestEventId : String) : terminalKey requestEventId ≠ "" := by
  unfold terminalKey
  simp

/-- A row records one request. -/
theorem records_unique (first : Records row asked) (second : Records row other) : asked = other := by
  have workspace := Option.some.inj (first.workspace.symm.trans second.workspace)
  have principal := first.actor.symm.trans second.actor
  have payload := JsonText.value.inj (first.payload.symm.trans second.payload)
  have key := first.key.symm.trans second.key
  obtain ⟨_, _, name, callerKey⟩ := asked
  obtain ⟨_, _, otherName, _⟩ := other
  cases workspace
  cases principal
  have names : name = otherName := by
    simpa only [Asked.payload, Json.obj.injEq, List.cons.injEq, Prod.mk.injEq, Json.str.injEq,
      true_and, and_true] using payload
  have keys := requestKey_inj key
  cases names
  cases keys
  rfl

theorem assertRequestMatches_ok {u : Unit} :
    assertRequestMatches row asked = .ok u ↔
      row.eventType = requestEventType ∧ row.actor = asked.principal ∧
        row.workspaceId = some asked.workspace ∧
        row.target = some (requestTarget asked.workspace) ∧
        row.payloadJson = .value asked.payload := by
  unfold assertRequestMatches
  rw [raiseIf_except_ok, not_not]

/-- The row that a request finds under its key is its own exactly if the parameters match. -/
theorem assertRequestMatches_iff {u : Unit} (key : row.idempotencyKey = asked.key) :
    assertRequestMatches row asked = .ok u ↔ Records row asked := by
  rw [assertRequestMatches_ok]
  constructor
  · rintro ⟨type, actor, workspace, target, payload⟩
    exact ⟨type, actor, workspace, target, payload, key⟩
  · intro records
    exact ⟨records.type, records.actor, records.workspace, records.target, records.payload⟩

theorem mem_terminalsOf {id : String} :
    row ∈ terminalsOf db id ↔
      row ∈ db.events ∧ row.causationId = some id ∧ isTerminal row = true := by
  simp only [terminalsOf, Table.mem_filter, Bool.and_eq_true, decide_eq_true_eq]

theorem mem_pendingRequests {workspaceId : Option String} :
    row ∈ pendingRequests db workspaceId ↔ row ∈ db.events ∧ row.eventType = requestEventType ∧
      terminalsOf db row.id = [] ∧ (workspaceId = none ∨ row.workspaceId = workspaceId) := by
  simp only [pendingRequests, Table.mem_filter, Bool.and_eq_true, Bool.or_eq_true, decide_eq_true_eq,
    List.isEmpty_iff, Option.isNone_iff_eq_none, and_assoc]

theorem request_not_terminal (type : row.eventType = requestEventType) : isTerminal row = false := by
  simp only [isTerminal, type]
  decide

/-- The outcome of a request, whose payload can be read. -/
structure Ends (row : EventRow) (id : String) : Prop where
  cause : row.causationId = some id
  key : row.idempotencyKey = terminalKey id
  readable : ∃ status, status ≠ .pending ∧ terminalStatus row = .ok status

/-- The invariant of the ledger. -/
structure Kept (db : Db) : Prop where
  requests : ∀ row ∈ db.events, row.eventType = requestEventType →
    ∃ asked, Records row asked ∧ asked.check db = .ok ()
  terminals : ∀ row ∈ db.events, isTerminal row = true → ∃ id, Ends row id
  single : ∀ workspaceId, ∀ a ∈ pendingRequests db (some workspaceId),
    ∀ b ∈ pendingRequests db (some workspaceId), a = b

/-- What a step may change: events are appended, and workspaces stay. -/
structure Extends (s t : Db) : Prop where
  events : s.events.rows <+: t.events.rows
  workspaces : ∀ id, (getWorkspace s id).isSome → (getWorkspace t id).isSome

theorem Extends.refl (s : Db) : Extends s s := ⟨List.prefix_refl _, fun _ => id⟩

theorem Extends.trans {u : Db} (first : Extends s t) (second : Extends t u) : Extends s u :=
  ⟨first.events.trans second.events, fun id found => second.workspaces id (first.workspaces id found)⟩

theorem Extends.mem (extends_ : Extends s t) (member : row ∈ s.events) : row ∈ t.events :=
  extends_.events.subset member

theorem Extends.check (extends_ : Extends s t) (checked : asked.check s = .ok ()) :
    asked.check t = .ok () := by
  unfold Asked.check at checked ⊢
  simp only [Except.bind_ok, raiseIf_except_ok] at checked ⊢
  obtain ⟨u, filled, v, found, rest⟩ := checked
  refine ⟨u, filled, v, ?_, rest⟩
  simp only [Option.isNone_iff_eq_none, ← ne_eq, Option.ne_none_iff_isSome] at found ⊢
  exact extends_.workspaces _ found

theorem Extends.terminals (extends_ : Extends s t) {id : String} {terminal : EventRow}
    (member : terminal ∈ terminalsOf s id) : terminal ∈ terminalsOf t id := by
  rw [mem_terminalsOf] at member ⊢
  exact ⟨extends_.mem member.1, member.2⟩

/-- A request that is pending later has been pending before. -/
theorem Extends.pending (extends_ : Extends s t) {workspaceId : Option String} (old : row ∈ s.events)
    (pending : row ∈ pendingRequests t workspaceId) : row ∈ pendingRequests s workspaceId := by
  rw [mem_pendingRequests] at pending ⊢
  obtain ⟨-, type, none, workspace⟩ := pending
  refine ⟨old, type, List.eq_nil_iff_forall_not_mem.mpr fun terminal member => ?_, workspace⟩
  have later := extends_.terminals member
  rw [none] at later
  cases later

theorem Kept.terminalsOf_le (kept : Kept db) (id : String) : (terminalsOf db id).length ≤ 1 := by
  have apart : (terminalsOf db id).Pairwise fun a b => eventSchema.clash a b = false :=
    db.events.distinct.filter _
  have keys : ∀ row ∈ terminalsOf db id, row.idempotencyKey = terminalKey id := by
    intro row member
    obtain ⟨stored, cause, terminal⟩ := mem_terminalsOf.mp member
    obtain ⟨own, ends⟩ := kept.terminals row stored terminal
    rw [ends.key, Option.some.inj (ends.cause.symm.trans cause)]
  match same : terminalsOf db id with
  | [] => exact Nat.zero_le 1
  | [_] => exact Nat.le_refl 1
  | a :: b :: rest =>
    rw [same] at apart keys
    have clash := (List.pairwise_cons.mp apart).1 b List.mem_cons_self
    have sameKey := (keys a List.mem_cons_self).trans
      (keys b (List.mem_cons_of_mem a List.mem_cons_self)).symm
    simp [eventSchema, sameKey] at clash

/-- `_terminal_for_request` never raises. -/
theorem Kept.terminalForRequest (kept : Kept db) (id : String) :
    terminalForRequest db id = .ok (terminalsOf db id).head? := by
  have short := kept.terminalsOf_le id
  unfold Provisioning.terminalForRequest
  match same : terminalsOf db id with
  | [] => rfl
  | [_] => rfl
  | a :: b :: rest =>
    rw [same] at short
    exact absurd short (by simp)

theorem Kept.pending_le (kept : Kept db) (workspaceId : String) :
    (pendingRequests db (some workspaceId)).length ≤ 1 := by
  have apart : (pendingRequests db (some workspaceId)).Pairwise
      fun a b => eventSchema.clash a b = false := db.events.distinct.filter _
  have single := kept.single workspaceId
  match same : pendingRequests db (some workspaceId) with
  | [] => exact Nat.zero_le 1
  | [_] => exact Nat.le_refl 1
  | a :: b :: rest =>
    rw [same] at apart single
    have clash := (List.pairwise_cons.mp apart).1 b List.mem_cons_self
    have equal := single a List.mem_cons_self b (List.mem_cons_of_mem a List.mem_cons_self)
    simp [eventSchema, equal] at clash

theorem eventPayload_request (records : Records row asked) :
    eventPayload row = .ok asked.payload := by
  unfold eventPayload
  rw [records.payload]
  rfl

/-- The projection of a request never raises. -/
theorem Kept.project (kept : Kept db) (records : Records row asked) :
    ∃ p, projectRequest db row = .ok p ∧
      p.workspaceId = some asked.workspace ∧ p.channelName = .str asked.name ∧
      p.requestEventId = row.id ∧ (p.status = .pending ↔ terminalsOf db row.id = []) := by
  have read := eventPayload_request records
  have named : payloadField asked.payload "channel_name" = .ok (.str asked.name) := rfl
  have looked := kept.terminalForRequest row.id
  cases terminals : terminalsOf db row.id with
  | nil =>
    rw [terminals] at looked
    exact ⟨⟨row.workspaceId, .str asked.name, row.id, .pending, none⟩,
      Except.bind_ok.mpr ⟨_, read, Except.bind_ok.mpr ⟨_, named,
        Except.bind_ok.mpr ⟨_, looked, rfl⟩⟩⟩, records.workspace, rfl, rfl, by simp⟩
  | cons terminal rest =>
    rw [terminals] at looked
    have member : terminal ∈ terminalsOf db row.id := by rw [terminals]; exact List.mem_cons_self
    obtain ⟨stored, _, isTerminal⟩ := mem_terminalsOf.mp member
    obtain ⟨_, ends⟩ := kept.terminals terminal stored isTerminal
    obtain ⟨status, ended, readable⟩ := ends.readable
    exact ⟨⟨row.workspaceId, .str asked.name, row.id, status, some terminal.id⟩,
      Except.bind_ok.mpr ⟨_, read, Except.bind_ok.mpr ⟨_, named,
        Except.bind_ok.mpr ⟨_, looked, Except.bind_ok.mpr ⟨_, readable, rfl⟩⟩⟩⟩,
      records.workspace, rfl, rfl, by simp [ended]⟩

/-- The projection depends on the outcome alone. -/
theorem projectRequest_congr
    (same : Provisioning.terminalForRequest s row.id = Provisioning.terminalForRequest t row.id) :
    projectRequest s row = projectRequest t row := by
  unfold projectRequest
  rw [same]

/-- An outcome stays the outcome. -/
theorem Extends.terminalForRequest (extends_ : Extends s t) (before : Kept s) (after : Kept t)
    {id : String} (ended : terminalsOf s id ≠ []) :
    Provisioning.terminalForRequest t id = Provisioning.terminalForRequest s id := by
  obtain ⟨terminal, member⟩ := List.exists_mem_of_ne_nil _ ended
  have later := extends_.terminals member
  have short := before.terminalsOf_le id
  have shortLater := after.terminalsOf_le id
  rw [before.terminalForRequest, after.terminalForRequest]
  obtain ⟨a, same⟩ : ∃ a, terminalsOf s id = [a] :=
    List.length_eq_one_iff.mp (by have := List.length_pos_of_mem member; omega)
  obtain ⟨b, sameLater⟩ : ∃ b, terminalsOf t id = [b] :=
    List.length_eq_one_iff.mp (by have := List.length_pos_of_mem later; omega)
  rw [same, List.mem_singleton] at member
  rw [sameLater, List.mem_singleton] at later
  rw [same, sameLater, ← member, ← later]

end Rows

section Changes

variable {s t : Db} {row : EventRow}

/-- What kind of row is appended. -/
inductive Kind (s : Db) (row : EventRow) : Prop
  | requested (asked : Asked) (records : Records row asked) (checked : asked.check s = .ok ())
      (free : pendingRequests s (some asked.workspace) = [])
  | finished (id : String) (ends : Ends row id) (terminal : isTerminal row = true)
  | foreign (foreign : isForeign row = true)

/-- What one step can do to the database. -/
inductive Did (s t : Db) : Prop
  | nothing (same : t = s)
  | appended (row : EventRow) (kind : Kind s row) (events : Table eventSchema)
      (inserted : s.events.insert? row = some events) (same : t = { s with events })
  | registered (workspace : Workspace) (workspaces : Table (keyedBy Workspace.id))
      (inserted : s.workspaces.insert? workspace = some workspaces) (same : t = { s with workspaces })

theorem Did.extends (did : Did s t) : Extends s t := by
  cases did with
  | nothing same => exact same ▸ Extends.refl s
  | appended row kind events inserted same =>
    subst same
    exact ⟨⟨[row], (Table.insert?_rows inserted).symm⟩, fun _ found => found⟩
  | registered workspace workspaces inserted same =>
    subst same
    refine ⟨List.prefix_refl _, fun id found => ?_⟩
    change (workspaces.find? (·.id = id)).isSome
    rw [Table.find?, Table.insert?_rows inserted, List.find?_append]
    change (s.workspaces.rows.find? (·.id = id)).isSome at found
    rw [Option.isSome_or, found, Bool.true_or]

/-- The step lemma of the ledger. -/
theorem Did.kept (kept : Kept s) (did : Did s t) : Kept t := by
  have extends_ := did.extends
  cases did with
  | nothing same => exact same ▸ kept
  | registered workspace workspaces inserted same =>
    subst same
    refine ⟨fun row member type => ?_, kept.terminals, kept.single⟩
    obtain ⟨asked, records, checked⟩ := kept.requests row member type
    exact ⟨asked, records, extends_.check checked⟩
  | appended row kind events inserted same =>
    subst same
    have member : ∀ other ∈ events, other ∈ s.events ∨ other = row := fun other inside =>
      (Table.mem_insert? inserted).mp inside
    refine ⟨fun other inside type => ?_, fun other inside terminal => ?_, fun workspaceId a pendingA b
      pendingB => ?_⟩
    · rcases member other inside with old | rfl
      · obtain ⟨asked, records, checked⟩ := kept.requests other old type
        exact ⟨asked, records, extends_.check checked⟩
      · cases kind with
        | requested asked records checked free => exact ⟨asked, records, extends_.check checked⟩
        | finished id ends terminal => rw [request_not_terminal type] at terminal; cases terminal
        | foreign foreign => simp [isForeign, type] at foreign
    · rcases member other inside with old | rfl
      · exact kept.terminals other old terminal
      · cases kind with
        | requested asked records checked free =>
          rw [request_not_terminal records.type] at terminal
          cases terminal
        | finished id ends _ => exact ⟨id, ends⟩
        | foreign foreign => simp [isForeign, terminal] at foreign
    · -- only a new request is pending that has not been, and then no other one is
      have new : ∀ other ∈ pendingRequests { s with events } (some workspaceId),
          other ∈ pendingRequests s (some workspaceId) ∨
            other = row ∧ pendingRequests s (some workspaceId) = [] := by
        intro other pending
        obtain ⟨inside, type, -, workspace⟩ := mem_pendingRequests.mp pending
        rcases member other inside with old | rfl
        · exact .inl (extends_.pending old pending)
        · cases kind with
          | requested asked records checked free =>
            have same : some asked.workspace = some workspaceId :=
              records.workspace.symm.trans (workspace.resolve_left nofun)
            rw [← same]
            exact .inr ⟨rfl, free⟩
          | finished id ends terminal => rw [request_not_terminal type] at terminal; cases terminal
          | foreign foreign => simp [isForeign, type] at foreign
      rcases new a pendingA with oldA | ⟨rfl, free⟩
      · rcases new b pendingB with oldB | ⟨-, free⟩
        · exact kept.single workspaceId a oldA b oldB
        · rw [free] at oldA
          cases oldA
      · rcases new b pendingB with oldB | ⟨rfl, -⟩
        · rw [free] at oldB
          cases oldB
        · rfl

end Changes

section Transactions

variable [Platform] {w w' : Work Db} {row request : EventRow} {asked : Asked}

/-- The transaction of a request finds its row, or records it as the only pending one. -/
theorem recordRequest_ok (checked : asked.check w.store = .ok ())
    (ran : (recordRequest asked).run w = .ok row w') :
    Did w.store w'.store ∧ row ∈ w'.store.events ∧ Records row asked ∧
      ∀ earlier ∈ w.store.events, earlier.idempotencyKey = asked.key → w'.store = w.store := by
  unfold recordRequest at ran
  simp only [Txn.bind_ok, Txn.read_run, EStateM.Result.ok.injEq] at ran
  obtain ⟨existing, _, ⟨rfl, rfl⟩, ran⟩ := ran
  split at ran
  · rename_i earlier found
    simp only [Txn.bind_ok, Txn.orRaise_ok] at ran
    obtain ⟨_, _, ⟨matching, rfl⟩, ran⟩ := ran
    cases ran
    obtain ⟨member, key⟩ := findEventByKey_eq_some.mp found
    exact ⟨.nothing rfl, member, (assertRequestMatches_iff key).mp matching, fun _ _ _ => rfl⟩
  · rename_i absent
    simp only [Txn.bind_ok, Txn.read_run, EStateM.Result.ok.injEq, Txn.raiseIf_ok] at ran
    obtain ⟨_, _, ⟨rfl, rfl⟩, _, _, ⟨free, rfl⟩, result, _, appended, _, _, ⟨created, rfl⟩, ran⟩ := ran
    cases ran
    cases appendEvent_ok appended with
    | existing row member key store => exact absurd Bool.false_ne_true created
    | created events inserted store =>
      have records : Records (asked.event.toRow (Platform.uuid4 w.draws) (now w.tick)) asked :=
        ⟨rfl, rfl, rfl, rfl, rfl, NewEvent.toRow_key _ _ _ rfl (key_ne_empty asked)⟩
      refine ⟨.appended _ (.requested asked records checked (not_not.mp free)) events inserted store,
        ?_, records, fun earlier member key => ?_⟩
      · rw [store]
        exact (Table.mem_insert? inserted).mpr (.inr rfl)
      · have found := findEventByKey_eq_some.mpr ⟨member, key⟩
        rw [absent] at found
        cases found

omit [Platform] in
/-- The payload of an outcome can be read again. -/
theorem outcome_readable {arguments : FinishArguments} {outcome : String × Json}
    (given : arguments.outcome = .ok outcome) (eventId : String) (createdAt : Nat) :
    isTerminal ((terminalEvent request outcome).toRow eventId createdAt) = true ∧
    ∃ status, status ≠ .pending ∧
      terminalStatus ((terminalEvent request outcome).toRow eventId createdAt) = .ok status := by
  unfold FinishArguments.outcome at given
  split at given
  · rename_i channelId _ _
    cases given
    exact ⟨rfl, .provisioned (.str channelId), ProjectionStatus.noConfusion, rfl⟩
  · rename_i reasonCode _ _
    simp only [Except.bind_ok] at given
    obtain ⟨_, _, given⟩ := given
    cases given
    exact ⟨rfl, .failed (.str reasonCode), ProjectionStatus.noConfusion, rfl⟩
  · cases given

/-- The append of a finish records an outcome of its request, or nothing. -/
theorem recordTerminal_ok {arguments : FinishArguments} {outcome : String × Json} {u : Unit}
    (given : arguments.outcome = .ok outcome)
    (ran : (recordTerminal request outcome).run w = .ok u w') : Did w.store w'.store := by
  unfold recordTerminal at ran
  simp only [Txn.bind_ok, Txn.raiseIf_ok] at ran
  obtain ⟨result, _, appended, _, rfl⟩ := ran
  cases appendEvent_ok appended with
  | existing row member key store => exact .nothing store
  | created events inserted store =>
    obtain ⟨terminal, readable⟩ := outcome_readable given (Platform.uuid4 w.draws) (now w.tick)
    exact .appended _ (.finished request.id ⟨rfl,
      NewEvent.toRow_key _ _ _ rfl (terminalKey_ne_empty _), readable⟩ terminal) events inserted store

end Transactions

end Coordinate.Provisioning

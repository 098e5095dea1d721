import Coordinate.Model.AgentRegistry
import Coordinate.Proofs.Statements

/-! # What the writers of the agent registry do to its entries

One inversion lemma for each of the three writers: how a call that returns has changed the entries. A
call that raises changes nothing.
-/

namespace Coordinate

variable [Platform]

/-- The sync repeats the version that the store has. -/
def RosterSync.Repeats (sync : RosterSync) (db : Db) : Prop :=
  ∃ source, db.registrySources.find? (·.workspaceId = sync.workspaceId) = some source ∧
    sync.sourceVersion = source.sourceVersion

/-- How a call changes the entries of the registry. -/
inductive RegistryChange (db : Db) : RegistryCall → RegistryTable → Prop
  | set {request : OverrideRequest} {entries : RegistryTable} (row : RegistryEntryRow)
      (member : row ∈ entries)
      (named : isOverrideOf request.workspaceId (Text.strip request.agentName) row = true)
      (number : row.discordUserId = Text.strip request.discordUserId)
      (expiry : row.expiresAt = request.expiresAt)
      (others : ∀ other, isOverrideOf request.workspaceId (Text.strip request.agentName) other = false →
        (other ∈ entries ↔ other ∈ db.registryEntries)) : RegistryChange db (.set request) entries
  | remove {removal : OverrideRemoval} {entries : RegistryTable}
      (mem : ∀ other, other ∈ entries ↔ other ∈ db.registryEntries ∧
        isOverrideOf removal.workspaceId (Text.strip removal.agentName) other = false) :
      RegistryChange db (.remove removal) entries
  | repeated {sync : RosterSync} (repeats : sync.Repeats db) :
      RegistryChange db (.sync sync) db.registryEntries
  | synced {sync : RosterSync} {entries : RegistryTable} {roster : List RosterAgent}
      (fresh : ¬ sync.Repeats db) (normalized : normalizeRoster [] sync.entries = .ok roster)
      (mem : ∀ other, other ∈ entries ↔
        (other ∈ db.registryEntries ∧ isRosterRow sync.workspaceId other = false) ∨
        ∃ agent ∈ roster, other = agent.row sync.workspaceId) :
      RegistryChange db (.sync sync) entries

section Primitives

variable {w w' : Work Db} {u : Unit}

omit [Platform] in
theorem writeRegistryEntries_ok {next : RegistryTable → Option RegistryTable} :
    (writeRegistryEntries next).run w = .ok u w' ↔
      ∃ entries, next w.store.registryEntries = some entries ∧
        w' = { w with store := { w.store with registryEntries := entries } } :=
  replaceTable_ok

theorem keeps_utcNowStrInside {τ : Type} {part : Db → τ} (supplied : Option String) :
    Txn.Keeps part (utcNowStrInside supplied) := by
  cases supplied with
  | none => exact Txn.keeps_clock stamp
  | some time => exact Txn.keeps_pure time

theorem keeps_writeAgentsJsonProjection (workspaceId : String) (supplied : Option String) :
    Txn.Keeps Db.registryEntries (writeAgentsJsonProjection workspaceId supplied) :=
  Txn.keeps_bind (keeps_utcNowStrInside supplied) fun _ => Txn.keeps_bind (keeps_readOrRaise _)
    fun _ => Txn.keeps_bind (keeps_utcNowStrInside supplied) fun _ =>
    keeps_replaceTable fun _ _ => rfl

theorem reads_utcNowStr (supplied : Option String) : Tx.Reads (utcNowStr supplied) := by
  cases supplied with
  | none => exact Tx.reads_clock stamp
  | some time => exact Tx.reads_pure time

theorem reads_parseExpiresAt (value supplied : Option String) :
    Tx.Reads (parseExpiresAt value supplied) := by
  cases value with
  | none => exact Tx.reads_pure none
  | some text =>
    exact Tx.reads_bind (Tx.reads_raiseIf _ _) fun _ => Tx.reads_bind (Tx.reads_raiseIf _ _)
      fun _ => Tx.reads_bind (reads_utcNowStr supplied) fun _ =>
      Tx.reads_bind (Tx.reads_raiseIf _ _) fun _ => Tx.reads_pure _

/-- An expiry is stored as it is given. -/
theorem parseExpiresAt_ok {value supplied expiry : Option String} {s s' : Session Db}
    (ran : (parseExpiresAt value supplied).run s = .ok expiry s') : expiry = value := by
  cases value with
  | none =>
    cases ran
    rfl
  | some text =>
    simp only [parseExpiresAt, Tx.bind_ok, Tx.pure_run, EStateM.Result.ok.injEq] at ran
    obtain ⟨_, _, _, _, _, _, _, _, _, _, _, _, rfl, _⟩ := ran
    rfl

omit [Platform] in
theorem validateDiscordUserId_ok {value did : String}
    (valid : validateDiscordUserId value = .ok did) : did = Text.strip value := by
  simp only [validateDiscordUserId, Except.bind_ok, raiseIf_except_ok] at valid
  obtain ⟨_, _, _, _, _, _, same⟩ := valid
  cases same
  rfl

omit [Platform] in
theorem requireAgentName_ok {given name : String} (valid : requireAgentName given = .ok name) :
    name = Text.strip given := by
  simp only [requireAgentName, Except.bind_ok, raiseIf_except_ok] at valid
  obtain ⟨_, _, same⟩ := valid
  cases same
  rfl

end Primitives

section Overrides

variable {request : OverrideRequest} {removal : OverrideRemoval} {plan : OverridePlan}
  {w w' : Work Db} {u : Unit}

theorem reads_checkOverride (request : OverrideRequest) : Tx.Reads (checkOverride request) :=
  Tx.reads_bind (Tx.reads_query _) fun _ => Tx.reads_bind (Tx.reads_orRaise _ _) fun _ =>
    Tx.reads_bind (Tx.reads_orRaise _ _) fun _ => Tx.reads_bind (Tx.reads_orRaise _ _) fun _ =>
    Tx.reads_bind (Tx.reads_orRaise _ _) fun _ => Tx.reads_bind (Tx.reads_orRaise _ _) fun _ =>
    Tx.reads_bind (reads_parseExpiresAt _ _) fun _ => Tx.reads_bind (reads_utcNowStr _) fun _ =>
    Tx.reads_bind (Tx.reads_query _) fun _ => Tx.reads_bind (reads_utcNowStr _) fun _ =>
    Tx.reads_bind (Tx.reads_query _) fun _ => Tx.reads_bind (Tx.reads_orRaise _ _) fun _ =>
    Tx.reads_bind (Tx.reads_raiseIf _ _) fun _ => Tx.reads_pure _

theorem checkOverride_ok {s s' : Session Db} (ran : (checkOverride request).run s = .ok plan s') :
    plan.agentName = Text.strip request.agentName ∧ plan.did = Text.strip request.discordUserId ∧
      plan.expiry = request.expiresAt ∧ plan.existing = s.visible.registryEntries.any
        (isOverrideOf request.workspaceId (Text.strip request.agentName)) := by
  simp only [checkOverride, Tx.bind_ok, Tx.query_run, Tx.orRaise_ok, Tx.raiseIf_ok, Tx.pure_run,
    EStateM.Result.ok.injEq] at ran
  obtain ⟨_, _, ⟨_, rfl⟩, _, _, ⟨_, rfl⟩, agentName, _, ⟨name, rfl⟩, _, _, ⟨_, rfl⟩, _, _, ⟨_, rfl⟩,
    did, _, ⟨valid, rfl⟩, expiry, parsed, parsing, _, timed, timing, existing, _, ⟨looked, rfl⟩, _, _,
    _, _, _, _, _, _, _, _, _, _, rfl, _⟩ := ran
  have name := requireAgentName_ok name
  have sight : timed.visible = s.visible :=
    ((reads_utcNowStr _).visible timing).trans ((reads_parseExpiresAt _ _).visible parsing)
  refine ⟨name, validateDiscordUserId_ok valid, parseExpiresAt_ok parsing, ?_⟩
  rw [← looked, sight, name]

/-- The writes of an override: the entries with the new or changed row. -/
theorem writeOverride_ok (ran : (writeOverride request plan).run w = .ok u w') :
    (if plan.existing then
      w.store.registryEntries.update? (isOverrideOf request.workspaceId plan.agentName) fun row =>
        { row with discordUserId := plan.did, expiresAt := plan.expiry }
    else w.store.registryEntries.insert?
      { workspaceId := request.workspaceId, agentName := plan.agentName, entryKind := .override,
        discordUserId := plan.did, displayName := plan.agentName, agentType := "override",
        expiresAt := plan.expiry }) = some w'.store.registryEntries := by
  unfold writeOverride at ran
  split at ran
  all_goals
    rename_i known
    rw [Txn.bind_ok] at ran
    obtain ⟨_, middle, written, ran⟩ := ran
    obtain ⟨entries, stored, rfl⟩ := writeRegistryEntries_ok.mp written
    have same : w'.store.registryEntries = entries := by
      refine Txn.Keeps.of_ok ?_ ran
      exact Txn.keeps_bind (keeps_writeAgentsJsonProjection _ _) fun _ =>
        Txn.keeps_bind keeps_newUuid fun _ => Txn.keeps_bind (keeps_appendEvent _ fun _ _ => rfl) fun _ =>
        Txn.keeps_pure _
    simp only [known, ↓reduceIte, Bool.false_eq_true]
    rw [same]
    exact stored

omit [Platform] in
/-- The changed or new override is the only row of its agent that differs. -/
theorem override_change {db : Db} {entries : RegistryTable} {agentName did : String}
    {expiry : Option String}
    (written : (if db.registryEntries.any (isOverrideOf request.workspaceId agentName) then
      db.registryEntries.update? (isOverrideOf request.workspaceId agentName) fun row =>
        { row with discordUserId := did, expiresAt := expiry }
    else db.registryEntries.insert?
      { workspaceId := request.workspaceId, agentName, entryKind := .override, discordUserId := did,
        displayName := agentName, agentType := "override", expiresAt := expiry }) = some entries) :
    ∃ row ∈ entries, isOverrideOf request.workspaceId agentName row = true ∧
      row.discordUserId = did ∧ row.expiresAt = expiry ∧
      ∀ other, isOverrideOf request.workspaceId agentName other = false →
        (other ∈ entries ↔ other ∈ db.registryEntries) := by
  split at written
  · rename_i known
    obtain ⟨old, member, named⟩ := List.any_eq_true.mp known
    refine ⟨{ old with discordUserId := did, expiresAt := expiry },
      (Table.mem_update? written).mpr ⟨old, member, by simp [named]⟩, named, rfl, rfl, ?_⟩
    intro other apart
    rw [Table.mem_update? written]
    constructor
    · rintro ⟨before, beforeMember, same⟩
      split at same
      · rename_i chosen
        subst same
        exact absurd (chosen.symm.trans apart) (by decide)
      · rwa [same]
    · exact fun otherMember => ⟨other, otherMember, by simp [apart]⟩
  · refine ⟨_, (Table.mem_insert? written).mpr (.inr rfl), by simp [isOverrideOf], rfl, rfl, ?_⟩
    intro other apart
    rw [Table.mem_insert? written]
    refine ⟨fun found => found.resolve_right ?_, .inl⟩
    rintro rfl
    simp [isOverrideOf] at apart

omit [Platform] in
theorem reads_checkRemoval (removal : OverrideRemoval) : Tx.Reads (do
    let checked ← Tx.query (checkRemoval removal)
    orRaise id checked : DbTx RegistryEntryRow) :=
  Tx.reads_bind (Tx.reads_query _) fun _ => Tx.reads_orRaise _ _

omit [Platform] in
theorem checkRemoval_ok {db : Db} {row : RegistryEntryRow}
    (checked : checkRemoval removal db = .ok row) : row.agentName = Text.strip removal.agentName := by
  simp only [checkRemoval, Except.bind_ok] at checked
  obtain ⟨_, _, agentName, named, _, _, _, _, found⟩ := checked
  split at found
  · rename_i existing looked
    cases found
    have same := (Table.find?_some looked).2
    simp only [isOverrideOf, Bool.and_eq_true, decide_eq_true_eq] at same
    exact same.1.2.trans (requireAgentName_ok named)
  · cases found

theorem writeRemoval_ok {row : RegistryEntryRow}
    (ran : (writeRemoval removal row).run w = .ok u w') : w'.store.registryEntries =
      w.store.registryEntries.delete (isOverrideOf removal.workspaceId row.agentName) := by
  rw [writeRemoval, Txn.bind_ok] at ran
  obtain ⟨_, middle, written, ran⟩ := ran
  obtain ⟨entries, stored, rfl⟩ := writeRegistryEntries_ok.mp written
  rw [Option.some.inj stored]
  refine Txn.Keeps.of_ok ?_ ran
  exact Txn.keeps_bind (keeps_writeAgentsJsonProjection _ _) fun _ => Txn.keeps_bind keeps_newUuid
    fun _ => Txn.keeps_bind (keeps_appendEvent _ fun _ _ => rfl) fun _ => Txn.keeps_pure _

end Overrides

section Sync

variable {sync : RosterSync} {w w' : Work Db} {u : Unit}

omit [Platform] in
theorem insertRoster_ok {workspaceId : String} {roster : List RosterAgent}
    (ran : (insertRoster workspaceId roster).run w = .ok u w') (other : RegistryEntryRow) :
    other ∈ w'.store.registryEntries ↔ other ∈ w.store.registryEntries ∨
      ∃ agent ∈ roster, other = agent.row workspaceId := by
  induction roster generalizing w with
  | nil =>
    cases ran
    simp
  | cons agent rest ih =>
    rw [insertRoster, Txn.bind_ok] at ran
    obtain ⟨_, middle, written, ran⟩ := ran
    obtain ⟨entries, inserted, rfl⟩ := writeRegistryEntries_ok.mp written
    rw [ih ran, Table.mem_insert? inserted, List.exists_mem_cons_iff, or_assoc]

theorem writeRoster_ok {sourceId : String} {roster : List RosterAgent} {before : List RosterInfo}
    {result : SyncResult} (ran : (writeRoster sync sourceId roster before).run w = .ok result w')
    (other : RegistryEntryRow) : other ∈ w'.store.registryEntries ↔
      (other ∈ w.store.registryEntries ∧ isRosterRow sync.workspaceId other = false) ∨
      ∃ agent ∈ roster, other = agent.row sync.workspaceId := by
  rw [writeRoster, Txn.bind_ok] at ran
  obtain ⟨_, cleared, written, ran⟩ := ran
  obtain ⟨entries, stored, rfl⟩ := writeRegistryEntries_ok.mp written
  obtain ⟨_, timed, timing, ran⟩ := Txn.bind_ok.mp ran
  obtain ⟨_, filled, inserted, ran⟩ := Txn.bind_ok.mp ran
  have rest : w'.store.registryEntries = filled.store.registryEntries := by
    refine Txn.Keeps.of_ok ?_ ran
    exact Txn.keeps_bind (keeps_replaceTable fun _ _ => rfl) fun _ =>
      Txn.keeps_bind (keeps_writeAgentsJsonProjection _ _) fun _ =>
      Txn.keeps_bind (keeps_utcNowStrInside _) fun _ => Txn.keeps_bind (Txn.keeps_read _) fun _ =>
      Txn.keeps_bind (keeps_appendEvent _ fun _ _ => rfl) fun _ => Txn.keeps_bind (Txn.keeps_read _) fun _ =>
      Txn.keeps_pure _
  have same : timed.store.registryEntries =
      w.store.registryEntries.delete (isRosterRow sync.workspaceId) := by
    rw [Option.some.inj stored]
    exact Txn.Keeps.of_ok (keeps_utcNowStrInside _) timing
  rw [rest, insertRoster_ok inserted, same, Table.mem_delete]

theorem normalizeRosterEntry_ok {known : List RosterAgent} {raw : RosterEntry} {agent : RosterAgent}
    (normalized : normalizeRosterEntry known raw = .ok agent) :
    agent.name = Text.strip raw.id ∧ agent.did = Text.strip raw.discordUserId := by
  simp only [normalizeRosterEntry, Except.bind_ok] at normalized
  obtain ⟨_, _, _, _, did, valid, _, _, _, _, same⟩ := normalized
  cases same
  exact ⟨rfl, validateDiscordUserId_ok valid⟩

/-- The agents of a roster are its entries in their order. -/
theorem normalizeRoster_ok {known roster : List RosterAgent} {entries : List RosterEntry}
    (normalized : normalizeRoster known entries = .ok roster) :
    roster.map (fun agent => (agent.name, agent.did)) =
      known.map (fun agent => (agent.name, agent.did)) ++
        entries.map fun raw => (Text.strip raw.id, Text.strip raw.discordUserId) := by
  induction entries generalizing known with
  | nil =>
    cases normalized
    simp
  | cons raw rest ih =>
    simp only [normalizeRoster, Except.bind_ok] at normalized
    obtain ⟨agent, checked, normalized⟩ := normalized
    obtain ⟨name, did⟩ := normalizeRosterEntry_ok checked
    simp [ih normalized, name, did]

theorem validateSync_ok {db : Db} {sourceId : String} {roster : List RosterAgent}
    (valid : validateSync db sync = .ok (sourceId, roster)) :
    normalizeRoster [] sync.entries = .ok roster := by
  simp only [validateSync, Except.bind_ok] at valid
  obtain ⟨_, _, _, _, _, _, _, _, _, _, _, _, roster, normalized, same⟩ := valid
  cases same
  exact normalized

omit [Platform] in
theorem checkRosterSource_ok {db : Db} {sourceId : String} {repeated : Bool}
    (checked : checkRosterSource db sync sourceId = .ok repeated) :
    repeated = true ↔ sync.Repeats db := by
  unfold checkRosterSource at checked
  unfold RosterSync.Repeats
  split at checked
  · rename_i absent
    cases checked
    simp [absent]
  · rename_i source found
    simp only [Except.bind_ok] at checked
    obtain ⟨_, _, _, _, _, _, same⟩ := checked
    cases same
    simp [found]

end Sync

section Calls

variable {α : Type} {call : RegistryCall} {work : Work Db} {x : DbTx α} {f : α → RegistryResponse}

theorem RegistryCall.after_of_ok (runs : call.run = f <$> x) {a : α} {s : Session Db}
    (ran : x.run (Session.connect work work.store) = .ok a s) :
    call.outcome work = .ok (f a) s ∧ call.after work = s.settle := by
  have outcome : call.outcome work = .ok (f a) s := by
    rw [outcome, runs, Tx.map_run, ran]
  exact ⟨outcome, by rw [after, outcome]; rfl⟩

theorem RegistryCall.after_of_error (runs : call.run = f <$> x) {e : Exn} {s : Session Db}
    (ran : x.run (Session.connect work work.store) = .error e s) :
    call.outcome work = .error e s ∧ call.after work = s.settle := by
  have outcome : call.outcome work = .error e s := by
    rw [outcome, runs, Tx.map_run, ran]
  exact ⟨outcome, by rw [after, outcome]; rfl⟩

theorem RegistryCall.set_runs (request : OverrideRequest) :
    (RegistryCall.set request).run = (fun _ => .overridden) <$> setWorkspaceAgent request := rfl

theorem RegistryCall.remove_runs (removal : OverrideRemoval) :
    (RegistryCall.remove removal).run = .removed <$> removeWorkspaceAgentOverride removal := rfl

theorem RegistryCall.sync_runs (sync : RosterSync) :
    (RegistryCall.sync sync).run = .synced <$> syncWorkspaceAgents sync := rfl

/-- How a sync ends, by its checks and its writes. -/
theorem syncWorkspaceAgents_run (sync : RosterSync) (work : Work Db) :
    (∃ s, (∃ result, (syncWorkspaceAgents sync).run (Session.connect work work.store) =
        .ok result s) ∧ sync.Repeats work.store ∧ s.settle.store = work.store) ∨
    (∃ result w sourceId roster, (syncWorkspaceAgents sync).run (Session.connect work work.store) =
        .ok result ⟨w, w.store, none⟩ ∧ ¬ sync.Repeats work.store ∧
        validateSync work.store sync = .ok (sourceId, roster) ∧
        (writeRoster sync sourceId roster (rosterBefore work.store sync.workspaceId)).run work =
          .ok result w) ∨
    ∃ e s, (syncWorkspaceAgents sync).run (Session.connect work work.store) = .error e s ∧
      s.settle.store = work.store := by
  simp only [syncWorkspaceAgents, Tx.bind_run, Tx.query_run, Session.visible, Session.connect]
  cases valid : validateSync work.store sync with
  | error e => exact .inr (.inr ⟨e, _, rfl, rfl⟩)
  | ok plan =>
    obtain ⟨sourceId, roster⟩ := plan
    simp only [orRaise, Tx.pure_run]
    cases checked : checkRosterSource work.store sync sourceId with
    | error e => exact .inr (.inr ⟨e, _, rfl, rfl⟩)
    | ok repeated =>
      have meaning := checkRosterSource_ok checked
      cases repeated with
      | true =>
        refine .inl ?_
        simp only [Tx.pure_run, ↓reduceIte, Tx.bind_run]
        cases timed : (utcNowStr sync.now).run ⟨work, work.store, none⟩ with
        | ok current s =>
          have same := reads_utcNowStr sync.now ⟨work, work.store, none⟩
          rw [timed] at same
          refine ⟨s, ⟨_, rfl⟩, meaning.mp rfl, ?_⟩
          rw [Session.settle, Session.durable, show s.saved = none from same.2.2]
          exact same.1
        | error e s => cases supplied : sync.now <;> rw [supplied] at timed <;> cases timed
      | false =>
        have fresh : ¬ sync.Repeats work.store := fun repeats => Bool.noConfusion (meaning.mpr repeats)
        simp only [Tx.pure_run, Bool.false_eq_true, ↓reduceIte, Tx.bind_run, Tx.query_run,
          Session.visible, Tx.savepoint_run]
        cases written : (writeRoster sync sourceId roster
            (rosterBefore work.store sync.workspaceId)).run work with
        | ok result w => exact .inr (.inl ⟨result, w, sourceId, roster, rfl, fresh, rfl, written⟩)
        | error e w => exact .inr (.inr ⟨e, _, rfl, rfl⟩)

/-- A call that returns changes the entries as its writer does; a call that raises leaves the store
as it was. -/
theorem RegistryCall.after_cases (call : RegistryCall) (work : Work Db) :
    (∃ response s, call.outcome work = .ok response s) ∧
        RegistryChange work.store call (call.after work).store.registryEntries ∨
      (∃ e s, call.outcome work = .error e s) ∧ (call.after work).store = work.store := by
  cases call with
  | set request =>
    obtain ⟨plan, s, _, w, checked, same, written, ran⟩ | ⟨e, s, ran, same⟩ :=
      Tx.checked_savepoint (reads_checkOverride request) (writeOverride request)
        (fun _ _ => ()) work work.store
    · left
      obtain ⟨returned, left⟩ :=
        after_of_ok (set_runs request) ran
      refine ⟨⟨_, _, returned⟩, ?_⟩
      obtain ⟨name, did, expiry, existing⟩ := checkOverride_ok checked
      have change := writeOverride_ok written
      rw [same, name, did, expiry, existing] at change
      obtain ⟨row, member, named, number, lasting, others⟩ := override_change change
      rw [left]
      exact .set row member named number lasting others
    · right
      obtain ⟨raised, left⟩ :=
        after_of_error (set_runs request) ran
      exact ⟨⟨e, s, raised⟩, left ▸ same⟩
  | remove removal =>
    obtain ⟨row, s, _, w, checked, same, written, ran⟩ | ⟨e, s, ran, same⟩ :=
      Tx.checked_savepoint (reads_checkRemoval removal) (writeRemoval removal)
        (fun row _ => row) work work.store
    · left
      simp only [Tx.bind_ok, Tx.query_run, EStateM.Result.ok.injEq, Tx.orRaise_ok] at checked
      obtain ⟨_, _, ⟨rfl, rfl⟩, found, rfl⟩ := checked
      have name := checkRemoval_ok found
      obtain ⟨returned, left⟩ := after_of_ok (remove_runs removal) ran
      rw [left]
      refine ⟨⟨_, _, returned⟩, .remove fun other => ?_⟩
      change other ∈ w.store.registryEntries ↔ _
      rw [writeRemoval_ok written, name, Table.mem_delete]
      rfl
    · right
      obtain ⟨raised, left⟩ := after_of_error (remove_runs removal) ran
      exact ⟨⟨e, s, raised⟩, left ▸ same⟩
  | sync sync =>
    obtain ⟨s, ⟨result, ran⟩, repeats, same⟩ | ⟨result, w, sourceId, roster, ran, fresh, valid,
      written⟩ | ⟨e, s, ran, same⟩ := syncWorkspaceAgents_run sync work
    · left
      obtain ⟨returned, left⟩ := after_of_ok (sync_runs sync) ran
      rw [left, same]
      exact ⟨⟨_, _, returned⟩, .repeated repeats⟩
    · left
      obtain ⟨returned, left⟩ := after_of_ok (sync_runs sync) ran
      rw [left]
      exact ⟨⟨_, _, returned⟩, .synced fresh (validateSync_ok valid) (writeRoster_ok written)⟩
    · right
      obtain ⟨raised, left⟩ := after_of_error (sync_runs sync) ran
      exact ⟨⟨e, s, raised⟩, left ▸ same⟩

end Calls

end Coordinate

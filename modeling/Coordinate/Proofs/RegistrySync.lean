import Coordinate.Proofs.Ledger
import Coordinate.Proofs.Registry

/-! # What the savepoints of the agent registry leave behind

A savepoint that is released has counted the revision of its workspace up and left the other workspaces
alone; only a sync changes the roster and the source.
-/

namespace Coordinate

variable [Platform]

section Views

/-- The registry entries of a workspace. -/
def entriesOf (db : Db) (workspaceId : String) : List RegistryEntryRow :=
  db.registryEntries.filter (·.workspaceId = workspaceId)

/-- The rows of a workspace that the last sync has written. -/
def authoritativeRows (db : Db) (workspaceId : String) : List RegistryEntryRow :=
  (entriesOf db workspaceId).filter (·.entryKind = .authoritative)

def sourceOf (db : Db) (workspaceId : String) : Option RegistrySourceRow :=
  db.registrySources.find? (·.workspaceId = workspaceId)

/-- The key under which a sync records itself. -/
def RosterSync.key (sync : RosterSync) : String :=
  s!"{sync.workspaceId}:agent-registry-sync:{Text.strip sync.sourceId}:" ++
    s!"{sync.sourceVersion}:{sync.sourceHash}"

/-- The source row that a sync writes. -/
def RosterSync.source (sync : RosterSync) : RegistrySourceRow :=
  ⟨sync.workspaceId, Text.strip sync.sourceId, sync.sourceVersion, sync.sourceHash⟩

/-- The event of a sync. -/
structure RosterSync.Announces (sync : RosterSync) (row : EventRow) : Prop where
  eventType : row.eventType = "workspace.agent_registry.synced"
  workspace : row.workspaceId = some sync.workspaceId
  sourceId : row.decoded.get "source_id" = .str (Text.strip sync.sourceId)
  version : row.decoded.get "source_version" = .int sync.sourceVersion
  hash : row.decoded.get "source_hash" = .str sync.sourceHash

end Views

/-- A change of the registry of one workspace. -/
structure Touches (workspaceId : String) (db db' : Db) : Prop where
  known : ∀ other, (getWorkspace db' other).isSome = (getWorkspace db other).isSome
  revision : (getWorkspace db workspaceId).isSome →
    registryRevision db' workspaceId = registryRevision db workspaceId + 1
  revisions : ∀ other, other ≠ workspaceId → registryRevision db' other = registryRevision db other
  entries : ∀ other, other ≠ workspaceId → entriesOf db' other = entriesOf db other
  sources : ∀ other, other ≠ workspaceId → sourceOf db' other = sourceOf db other

/-- A released override: the roster and the sources stay. -/
structure Overrides (workspaceId : String) (db db' : Db) : Prop extends Touches workspaceId db db' where
  roster : authoritativeRows db' workspaceId = authoritativeRows db workspaceId
  source : sourceOf db' workspaceId = sourceOf db workspaceId

/-- A released sync: the roster and the source are those of the sync. -/
structure RosterSync.Replaces (sync : RosterSync) (db db' : Db) : Prop extends Touches sync.workspaceId db db' where
  roster : ∃ agents, normalizeRoster [] sync.entries = .ok agents ∧
    authoritativeRows db' sync.workspaceId = agents.map (·.row sync.workspaceId)
  source : sourceOf db' sync.workspaceId = some sync.source

section Projection

variable {w w' : Work Db} {u : Unit} {workspaceId : String} {supplied : Option String}

theorem store_of_utcNowStrInside {current : String}
    (ran : (utcNowStrInside supplied).run w = .ok current w') : w'.store = w.store :=
  Txn.Keeps.of_ok (@keeps_utcNowStrInside _ _ id supplied) ran

/-- The projection changes two columns of the workspace. -/
theorem writeAgentsJsonProjection_ok
    (ran : (writeAgentsJsonProjection workspaceId supplied).run w = .ok u w') :
    ∃ projection workspaces, w.store.workspaces.update? (·.id = workspaceId) (fun row =>
        { row with agentsJson := projection, agentRegistryRevision := row.agentRegistryRevision + 1 }) =
          some workspaces ∧
      w'.store = { w.store with workspaces } := by
  rw [writeAgentsJsonProjection, Txn.bind_ok] at ran
  obtain ⟨current, timed, timing, resolving⟩ := ran
  obtain ⟨effective, resolved, reading, projecting⟩ := Txn.bind_ok.mp resolving
  obtain ⟨_, again, timing', written⟩ := Txn.bind_ok.mp projecting
  obtain ⟨-, rfl⟩ := readOrRaise_ok.mp reading
  obtain ⟨workspaces, updated, rfl⟩ := replaceTable_ok.mp written
  have same : again.store = w.store :=
    (store_of_utcNowStrInside timing').trans (store_of_utcNowStrInside timing)
  rw [same] at updated
  refine ⟨_, workspaces, updated, ?_⟩
  dsimp only
  rw [same]

omit [Platform] in
/-- The workspaces after the projection. -/
theorem getWorkspace_of_projected {db : Db} {workspaces} {projection : Json} (updated :
    db.workspaces.update? (·.id = workspaceId) (fun row =>
      { row with agentsJson := projection, agentRegistryRevision := row.agentRegistryRevision + 1 }) =
        some workspaces) (other : String) :
    workspaces.find? (·.id = other) = (getWorkspace db other).map fun row =>
      if row.id = workspaceId then
        { row with agentsJson := projection, agentRegistryRevision := row.agentRegistryRevision + 1 }
      else row := by
  rw [Table.find?_update? updated fun _ => rfl]
  simp only [decide_eq_true_eq]
  rfl

end Projection

section Touching

variable {workspaceId : String} {db db' : Db} {workspaces : Table (keyedBy Workspace.id)}
  {projection : Json}

omit [Platform] in
/-- A projection over changed entries and sources of the workspace. -/
theorem touches_of_projected (updated : db.workspaces.update? (·.id = workspaceId) (fun row =>
      { row with agentsJson := projection, agentRegistryRevision := row.agentRegistryRevision + 1 }) =
        some workspaces)
    (after : db'.workspaces = workspaces)
    (entries : ∀ other, other ≠ workspaceId → entriesOf db' other = entriesOf db other)
    (sources : ∀ other, other ≠ workspaceId → sourceOf db' other = sourceOf db other) :
    Touches workspaceId db db' := by
  have found : ∀ other, getWorkspace db' other = (getWorkspace db other).map fun row =>
      if row.id = workspaceId then
        { row with agentsJson := projection, agentRegistryRevision := row.agentRegistryRevision + 1 }
      else row := by
    intro other
    rw [← getWorkspace_of_projected updated, ← after]
    rfl
  refine ⟨fun other => ?_, fun known => ?_, fun other apart => ?_, entries, sources⟩
  · rw [found, Option.isSome_map]
  · obtain ⟨row, own⟩ := Option.isSome_iff_exists.mp known
    have named : row.id = workspaceId := by simpa using (Table.find?_some own).2
    rw [registryRevision, registryRevision, found, own]
    simp [named]
  · rw [registryRevision, registryRevision, found]
    cases own : getWorkspace db other with
    | none => rfl
    | some row =>
      have named : row.id = other := by simpa using (Table.find?_some own).2
      simp [named, apart]

omit [Platform] in
theorem Touches.revision_le {workspaceId : String} {db db' : Db} (touches : Touches workspaceId db db')
    (known : (getWorkspace db workspaceId).isSome = true) (other : String) :
    registryRevision db other ≤ registryRevision db' other := by
  by_cases own : other = workspaceId
  · rw [own, touches.revision known]
    exact Nat.le_succ _
  · rw [touches.revisions other own]

end Touching

section Overriding

omit [Platform] in
/-- A filter does not see the rows that it leaves out before and after a change. -/
theorem filter_of_changed {rows : List RegistryEntryRow} {p : RegistryEntryRow → Bool}
    {f : RegistryEntryRow → RegistryEntryRow}
    (changed : ∀ row, f row = row ∨ p (f row) = false ∧ p row = false) :
    (rows.map f).filter p = rows.filter p := by
  induction rows with
  | nil => rfl
  | cons row rest ih =>
    rw [List.map_cons, List.filter_cons, List.filter_cons, ih]
    rcases changed row with same | ⟨after, before⟩
    · rw [same]
    · simp only [after, before, Bool.false_eq_true, ↓reduceIte]

variable {request : OverrideRequest} {removal : OverrideRemoval} {plan : OverridePlan}
  {w w' : Work Db} {u : Unit} {workspaceId agentName : String}

/-- What follows the change of an entry in an override savepoint. -/
def finishOverride (workspaceId : String) (supplied : Option String) (event : String → NewEvent) :
    DbTxn Unit := do
  writeAgentsJsonProjection workspaceId supplied
  let key ← newUuid
  let _ ← appendEvent (event key)

theorem finishOverride_ok {supplied : Option String} {event : String → NewEvent}
    (ran : (finishOverride workspaceId supplied event).run w = .ok u w') :
    ∃ projection workspaces, w.store.workspaces.update? (·.id = workspaceId) (fun row =>
        { row with agentsJson := projection, agentRegistryRevision := row.agentRegistryRevision + 1 }) =
          some workspaces ∧ w'.store.workspaces = workspaces ∧
      w'.store.registryEntries = w.store.registryEntries ∧
      w'.store.registrySources = w.store.registrySources := by
  rw [finishOverride, Txn.bind_ok] at ran
  obtain ⟨_, projected, projecting, ran⟩ := ran
  obtain ⟨projection, workspaces, updated, same⟩ := writeAgentsJsonProjection_ok projecting
  have rest : ∀ {τ : Type} (part : Db → τ),
      (∀ (db : Db) (events : Table eventSchema), part { db with events } = part db) →
      part w'.store = part projected.store := by
    intro τ part free
    refine Txn.Keeps.of_ok ?_ ran
    exact Txn.keeps_bind keeps_newUuid fun _ => Txn.keeps_bind (keeps_appendEvent _ free) fun _ =>
      Txn.keeps_pure _
  refine ⟨projection, workspaces, updated, ?_, ?_, ?_⟩
  · rw [rest Db.workspaces fun _ _ => rfl, same]
  · rw [rest Db.registryEntries fun _ _ => rfl, same]
  · rw [rest Db.registrySources fun _ _ => rfl, same]

/-- The entries that no override of the workspace is among. -/
theorem overrides_of_finished (agentName : String) {supplied : Option String} {event : String → NewEvent}
    {entries : RegistryTable}
    (ran : (finishOverride workspaceId supplied event).run
      { w with store := { w.store with registryEntries := entries } } = .ok u w')
    (others : ∀ p : RegistryEntryRow → Bool, (∀ row, isOverrideOf workspaceId agentName row = true →
      p row = false) → entries.filter p = w.store.registryEntries.filter p) :
    Overrides workspaceId w.store w'.store := by
  obtain ⟨projection, workspaces, updated, after, kept, sources⟩ := finishOverride_ok ran
  dsimp only at kept sources updated
  have source : ∀ other, sourceOf w'.store other = sourceOf w.store other := by
    intro other
    rw [sourceOf, sources]
    rfl
  refine ⟨touches_of_projected updated after (fun other apart => ?_) fun other _ => source other, ?_,
    source workspaceId⟩
  · rw [entriesOf, kept]
    refine others _ fun row own => ?_
    simp only [isOverrideOf, Bool.and_eq_true, decide_eq_true_eq] at own
    simp only [decide_eq_false_iff_not, own.1.1]
    exact Ne.symm apart
  · simp only [authoritativeRows, entriesOf, Table.filter, List.filter_filter, kept]
    refine others _ fun row own => ?_
    simp only [isOverrideOf, Bool.and_eq_true, decide_eq_true_eq] at own
    simp [own.2]

theorem writeOverride_overrides (ran : (writeOverride request plan).run w = .ok u w') :
    Overrides request.workspaceId w.store w'.store := by
  unfold writeOverride at ran
  split at ran
  · obtain ⟨_, middle, written, ran⟩ := Txn.bind_ok.mp ran
    obtain ⟨entries, stored, rfl⟩ := writeRegistryEntries_ok.mp written
    refine overrides_of_finished plan.agentName ran fun p apart => ?_
    rw [Table.filter, Table.filter, Table.update?_rows stored]
    exact filter_of_changed fun row => by
      split
      · rename_i own
        exact .inr ⟨apart _ own, apart row own⟩
      · exact .inl rfl
  · obtain ⟨_, middle, written, ran⟩ := Txn.bind_ok.mp ran
    obtain ⟨entries, stored, rfl⟩ := writeRegistryEntries_ok.mp written
    refine overrides_of_finished plan.agentName ran fun p apart => ?_
    rw [Table.filter, Table.filter, Table.insert?_rows stored, List.filter_append,
      List.filter_singleton, apart _ (by simp [isOverrideOf])]
    simp

theorem writeRemoval_overrides {row : RegistryEntryRow}
    (ran : (writeRemoval removal row).run w = .ok u w') :
    Overrides removal.workspaceId w.store w'.store := by
  rw [writeRemoval, Txn.bind_ok] at ran
  obtain ⟨_, middle, written, ran⟩ := ran
  obtain ⟨entries, stored, rfl⟩ := writeRegistryEntries_ok.mp written
  refine overrides_of_finished row.agentName ran fun p apart => ?_
  rw [← Option.some.inj stored, Table.filter, Table.filter, Table.rows_delete, List.filter_filter]
  refine List.filter_congr fun row _ => ?_
  cases chosen : p row with
  | false => rfl
  | true =>
    cases own : isOverrideOf removal.workspaceId _ row with
    | false => rfl
    | true => exact absurd ((apart _ own).symm.trans chosen) (by decide)

end Overriding

section Syncing

variable {sync : RosterSync} {w w' : Work Db} {u : Unit}

omit [Platform] in
theorem insertRoster_rows {workspaceId : String} {roster : List RosterAgent}
    (ran : (insertRoster workspaceId roster).run w = .ok u w') :
    ∃ entries : RegistryTable, w'.store = { w.store with registryEntries := entries } ∧
      entries.rows = w.store.registryEntries.rows ++ roster.map (·.row workspaceId) := by
  induction roster generalizing w with
  | nil =>
    cases ran
    exact ⟨w'.store.registryEntries, rfl, (List.append_nil _).symm⟩
  | cons agent rest ih =>
    obtain ⟨_, middle, written, inserting⟩ := Txn.bind_ok.mp ran
    obtain ⟨first, stored, rfl⟩ := writeRegistryEntries_ok.mp written
    obtain ⟨entries, same, rows⟩ := ih inserting
    refine ⟨entries, same, ?_⟩
    rw [rows, Table.insert?_rows stored, List.map_cons, List.append_assoc]
    rfl

omit [Platform] in
/-- The source of a workspace after an upsert. -/
theorem find?_upserted {row : RegistrySourceRow} {sources : Table (keyedBy RegistrySourceRow.workspaceId)}
    {db : Db} (upserted :
      (db.registrySources.delete (·.workspaceId = row.workspaceId)).insert? row = some sources)
    (other : String) : sources.find? (·.workspaceId = other) =
      if other = row.workspaceId then some row else sourceOf db other := by
  rw [Table.find?, Table.insert?_rows upserted, Table.rows_delete, List.find?_append]
  split
  · rename_i own
    subst own
    have absent : (db.registrySources.rows.filter fun a => !decide (a.workspaceId = row.workspaceId)).find?
        (fun a : RegistrySourceRow => decide (a.workspaceId = row.workspaceId)) = none := by
      rw [List.find?_eq_none]
      intro a member
      obtain ⟨_, kept⟩ := List.mem_filter.mp member
      simpa using kept
    rw [absent]
    simp
  · rename_i apart
    have skipped : [row].find? (fun a : RegistrySourceRow => decide (a.workspaceId = other)) = none := by
      simpa using Ne.symm apart
    rw [skipped, Option.or_none, List.find?_filter, sourceOf, Table.find?]
    congr 1
    funext a
    by_cases named : a.workspaceId = other
    · simp [named, apart]
    · simp [named]

omit [Platform] in
/-- The roster rows that a sync leaves. -/
theorem entries_of_replaced {workspaceId : String} {roster : List RosterAgent} {db : Db}
    {entries : RegistryTable} (rows : entries.rows =
      (db.registryEntries.delete (isRosterRow workspaceId)).rows ++ roster.map (·.row workspaceId)) :
    (entries.filter (·.workspaceId = workspaceId)).filter (·.entryKind = .authoritative) =
      roster.map (·.row workspaceId) ∧
    ∀ other, other ≠ workspaceId → entries.filter (·.workspaceId = other) = entriesOf db other := by
  constructor
  · rw [Table.filter, List.filter_filter, rows, List.filter_append, Table.rows_delete,
      List.filter_filter]
    have gone : db.registryEntries.rows.filter (fun row : RegistryEntryRow =>
        (decide (row.entryKind = .authoritative) && decide (row.workspaceId = workspaceId)) &&
          !isRosterRow workspaceId row) = [] := by
      rw [List.filter_eq_nil_iff]
      intro row _
      simp only [isRosterRow, Bool.and_eq_true, decide_eq_true_eq, Bool.not_eq_true',
        Bool.and_eq_false_imp, Bool.or_eq_false_iff, decide_eq_false_iff_not, not_and]
      rintro ⟨kind, own⟩ apart
      exact absurd kind (apart own).1
    rw [gone, List.nil_append, List.filter_eq_self]
    intro row member
    obtain ⟨agent, -, rfl⟩ := List.mem_map.mp member
    simp [RosterAgent.row]
  · intro other apart
    rw [Table.filter, rows, List.filter_append, Table.rows_delete, List.filter_filter]
    have none : (roster.map (·.row workspaceId)).filter
        (fun row : RegistryEntryRow => decide (row.workspaceId = other)) = [] := by
      rw [List.filter_eq_nil_iff]
      intro row member
      obtain ⟨agent, -, rfl⟩ := List.mem_map.mp member
      simp [RosterAgent.row, Ne.symm apart]
    rw [none, List.append_nil]
    refine List.filter_congr fun row _ => ?_
    by_cases named : row.workspaceId = other
    · simp [isRosterRow, named, apart]
    · simp [named]

omit [Platform] in
theorem RosterSync.key_ne_empty (sync : RosterSync) : sync.key ≠ "" := by
  intro empty
  have colon : ':' ∈ sync.key.toList := by
    simp [RosterSync.key, String.toList_append, ToString.toString]
  rw [empty] at colon
  cases colon

/-- A released sync has replaced the roster and the source, and recorded itself under its key. -/
theorem writeRoster_replaces {roster : List RosterAgent} {before : List RosterInfo} {result : SyncResult}
    (normalized : normalizeRoster [] sync.entries = .ok roster)
    (ran : (writeRoster sync (Text.strip sync.sourceId) roster before).run w = .ok result w') :
    sync.Replaces w.store w'.store ∧
    ((∀ row ∈ w.store.events, row.idempotencyKey ≠ sync.key) →
      ∃ row ∈ w'.store.events, row ∉ w.store.events ∧ sync.Announces row) := by
  rw [writeRoster, Txn.bind_ok] at ran
  obtain ⟨_, cleared, clearing, ran⟩ := ran
  obtain ⟨fewer, deleted, rfl⟩ := writeRegistryEntries_ok.mp clearing
  obtain ⟨_, timed, timing, ran⟩ := Txn.bind_ok.mp ran
  obtain ⟨_, filled, filling, ran⟩ := Txn.bind_ok.mp ran
  obtain ⟨_, sourced, sourcing, ran⟩ := Txn.bind_ok.mp ran
  obtain ⟨_, projected, projecting, ran⟩ := Txn.bind_ok.mp ran
  obtain ⟨current, read, reading, ran⟩ := Txn.bind_ok.mp ran
  obtain ⟨shadowed, _, ⟨rfl, rfl⟩, ran⟩ := Txn.bind_ok.mp ran
  obtain ⟨appended, finished, appending, ran⟩ := Txn.bind_ok.mp ran
  obtain ⟨_, _, ⟨rfl, rfl⟩, ran⟩ := Txn.bind_ok.mp ran
  cases ran
  obtain ⟨entries, fill, rows⟩ := insertRoster_rows filling
  obtain ⟨sources, upserted, rfl⟩ := replaceTable_ok.mp sourcing
  obtain ⟨projection, workspaces, updated, project⟩ := writeAgentsJsonProjection_ok projecting
  have early : filled.store = { w.store with registryEntries := entries } := by
    rw [fill, store_of_utcNowStrInside timing]
  have late : read.store = { w.store with registryEntries := entries, registrySources := sources, workspaces } := by
    rw [store_of_utcNowStrInside reading, project]
    dsimp only
    rw [early]
  have kept : ∀ {τ : Type} (part : Db → τ),
      (∀ (db : Db) (events : Table eventSchema), part { db with events } = part db) →
      part w'.store = part read.store :=
    fun part free => Txn.Keeps.of_ok (keeps_appendEvent _ free) appending
  have rosterRows : w'.store.registryEntries = entries := by
    rw [kept Db.registryEntries fun _ _ => rfl, late]
  have sourceRows : w'.store.registrySources = sources := by
    rw [kept Db.registrySources fun _ _ => rfl, late]
  have filledRows : entries.rows =
      (w.store.registryEntries.delete (isRosterRow sync.workspaceId)).rows ++
        roster.map (·.row sync.workspaceId) := by
    rw [rows, store_of_utcNowStrInside timing]
    exact congrArg (·.rows ++ _) (Option.some.inj deleted).symm
  obtain ⟨own, others⟩ := entries_of_replaced filledRows
  have found : ∀ other, sourceOf w'.store other =
      if other = sync.workspaceId then some sync.source else sourceOf w.store other := by
    intro other
    rw [early] at upserted
    rw [sourceOf, sourceRows]
    exact find?_upserted upserted other
  rw [early] at updated
  refine ⟨⟨touches_of_projected updated ?_ ?_ ?_,
    ⟨roster, normalized, ?_⟩, ?_⟩, fun free => ?_⟩
  · rw [kept Db.workspaces fun _ _ => rfl, late]
  · intro other apart
    rw [entriesOf, rosterRows]
    exact others other apart
  · intro other apart
    rw [found, if_neg apart]
  · rw [authoritativeRows, entriesOf, rosterRows]
    exact own
  · rw [found, if_pos rfl]
  · have events : read.store.events = w.store.events := by rw [late]
    have mem := (appendEvent_ok appending).mem
    cases appendEvent_ok appending with
    | created rows inserted store =>
      refine ⟨_, mem, fun old => ?_, ?_⟩
      · have apart := (Table.insert?_fits inserted).2 _ (events ▸ old)
        simp [eventSchema] at apart
      · exact ⟨rfl, rfl, rfl, rfl, rfl⟩
    | existing row member key store =>
      rw [events] at member
      exact absurd (key.trans (NewEvent.toRow_key _ _ _ rfl sync.key_ne_empty)) (free row member)

end Syncing

end Coordinate

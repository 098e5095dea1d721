import Coordinate.Soundness.CapacityRestore

/-! # Runs of the two catalogs

A run syncs parsed executor and capacity catalogs, captures snapshots and restores captured ones;
between these calls the other tables may change in any way. In every state reached each capacity
source holds the policies of a catalog that was parsed (`Published`).
-/

namespace Coordinate

variable [Platform]

/-- The tables of the two catalogs. -/
def catalogs (db : Db) :=
  (db.catalogSources, db.definitions, db.bindings, db.capacitySources, db.capacityPolicies)

/-- A run so far: its state, and the captured envelopes with their sources. -/
structure CatalogHistory where
  work : Work Db
  snapshots : List (String × Json)

/-- One step of a run. -/
inductive CatalogStep : CatalogHistory → CatalogHistory → Prop
  | executor {history : CatalogHistory} {data : Json} {catalog : ExecutorCatalog}
    (parsed : parseExecutorCatalog data = .ok catalog) : CatalogStep history
      { history with work := (alone (syncExecutorCatalog catalog) history.work).final.settle }
  | capacity {history : CatalogHistory} {path : String} {data : Json} {catalog : CapacityCatalog}
    {sourcePath : Option String} (parsed : parseCapacityCatalog path data = .ok catalog) :
    CatalogStep history { history with
      work := (alone (syncCapacityCatalog catalog sourcePath) history.work).final.settle }
  | capture {history : CatalogHistory} {sourceId : String} {envelope : Json} {session : Session Db}
    (captured : alone (captureCapacitySnapshot sourceId) history.work = .ok envelope session) :
    CatalogStep history ⟨session.settle, (sourceId, envelope) :: history.snapshots⟩
  | restore {history : CatalogHistory} {sourceId : String} {envelope : Json}
    (member : (sourceId, envelope) ∈ history.snapshots) : CatalogStep history { history with
      work := (alone (restoreCapacitySnapshot sourceId (.written envelope)) history.work).final.settle }
  | other {history : CatalogHistory} {next : Work Db}
    (same : catalogs next.store = catalogs history.work.store) :
    CatalogStep history { history with work := next }

/-- The histories of runs from the empty store. -/
def CatalogReachable (history : CatalogHistory) : Prop :=
  Relation.ReflTransGen CatalogStep ⟨initialWork, []⟩ history

section Labels

/-- A text that the label checks accept. -/
def IsLabel (text : String) : Prop :=
  ∀ label, ExecutorIdentity.validateBoundedLabel (.str text) label = .ok text

omit [Platform] in
/-- Acceptance of a label does not depend on its name in the message. -/
theorem isLabel_of_ok {value : Json} {label text : String}
    (valid : ExecutorIdentity.validateBoundedLabel value label = .ok text) : IsLabel text := by
  cases value with
  | str given =>
    intro other
    simp only [ExecutorIdentity.validateBoundedLabel, Except.bind_ok, raiseIf_except_ok] at valid ⊢
    obtain ⟨_, stripped, _, nonempty, _, short, _, safe, same⟩ := valid
    cases same
    exact ⟨(), stripped, (), nonempty, (), short, (), safe, rfl⟩
  | _ => cases valid

omit [Platform] in
theorem isLabel_of_capacity {value : Json} {label text : String}
    (valid : ExecutorCapacity.validateBoundedLabel value label = .ok text) : IsLabel text := by
  rw [ExecutorCapacity.validateBoundedLabel, orRaise_except_ok] at valid
  exact isLabel_of_ok valid

omit [Platform] in
theorem IsLabel.capacity {text : String} (isLabel : IsLabel text) (label : String) :
    ExecutorCapacity.validateBoundedLabel (.str text) label = .ok text := by
  rw [ExecutorCapacity.validateBoundedLabel, orRaise_except_ok]
  exact isLabel label

omit [Platform] in
theorem parseAgentEntry_label {definitionIds seen : List String} {raw : Json}
    {binding : ExecutorInstanceBinding}
    (parsed : parseAgentEntry definitionIds seen raw = .ok (some binding)) :
    IsLabel binding.agentId := by
  simp only [parseAgentEntry, Except.bind_ok] at parsed
  obtain ⟨agentId, labelled, _, _, parsed⟩ := parsed
  split at parsed
  · cases parsed
  · simp only [Except.bind_ok] at parsed
    obtain ⟨_, _, _, _, _, _, _, _, _, _, _, _, parsed⟩ := parsed
    split at parsed
    · cases parsed
      exact isLabel_of_ok labelled
    · cases parsed

omit [Platform] in
theorem parseAgents_label {definitionIds : List String} :
    ∀ {items : List Json} {seen : List String} {bindings : List ExecutorInstanceBinding},
      parseAgents definitionIds seen items = .ok bindings →
      ∀ binding ∈ bindings, IsLabel binding.agentId
  | [], _, _, parsed => by
    cases parsed
    nofun
  | raw :: rest, seen, bindings, parsed => by
    simp only [parseAgents, Except.bind_ok] at parsed
    obtain ⟨entry, entryParsed, parsed⟩ := parsed
    cases entry with
    | none => exact parseAgents_label parsed
    | some binding =>
      simp only [Except.bind_ok] at parsed
      obtain ⟨later, laterParsed, same⟩ := parsed
      cases same
      rw [List.forall_mem_cons]
      exact ⟨parseAgentEntry_label entryParsed, parseAgents_label laterParsed⟩

theorem parseExecutorCatalog_labels {data : Json} {catalog : ExecutorCatalog}
    (parsed : parseExecutorCatalog data = .ok catalog) :
    ∀ binding ∈ catalog.bindings, IsLabel binding.agentId := by
  simp only [parseExecutorCatalog, Except.bind_ok] at parsed
  obtain ⟨_, _, _, _, _, _, _, _, _, _, parsed⟩ := parsed
  split at parsed
  · simp only [Except.bind_ok] at parsed
    obtain ⟨_, _, _, _, _, _, bindings, agents, _, _, same⟩ := parsed
    cases same
    exact parseAgents_label agents
  · cases parsed

/-- What the capacity parser guarantees of a catalog. -/
structure Parsed (catalog : CapacityCatalog) : Prop where
  sourceId : IsLabel catalog.sourceId
  version : 0 ≤ catalog.sourceVersion
  hash : catalog.catalogHash = computeCapacityCatalogHash catalog
  distinct : catalog.agents.Nodup

omit [Platform] in
theorem parseCapacityPolicies_distinct : ∀ {items : List Json} {seen : List String}
    {policies : List CapacityPolicy}, parseCapacityPolicies seen items = .ok policies →
      (policies.map (·.agentId)).Nodup ∧ ∀ policy ∈ policies, policy.agentId ∉ seen
  | [], _, _, parsed => by
    cases parsed
    exact ⟨.nil, nofun⟩
  | raw :: rest, seen, policies, parsed => by
    simp only [parseCapacityPolicies, Except.bind_ok] at parsed
    obtain ⟨policy, policyParsed, later, laterParsed, same⟩ := parsed
    cases same
    obtain ⟨distinct, fresh⟩ := parseCapacityPolicies_distinct laterParsed
    simp only [parseCapacityPolicy, Except.bind_ok, raiseIf_except_ok] at policyParsed
    obtain ⟨_, _, _, _, agentId, _, _, unseen, _, _, same⟩ := policyParsed
    cases same
    rw [List.map_cons, List.nodup_cons, List.forall_mem_cons]
    refine ⟨⟨fun repeated => ?_, distinct⟩, unseen, fun policy member repeated =>
      fresh policy member (List.mem_cons_of_mem _ repeated)⟩
    obtain ⟨policy, member, same⟩ := List.mem_map.mp repeated
    exact fresh policy member (same ▸ List.mem_cons_self ..)

theorem parsed_of_ok {path : String} {data : Json} {catalog : CapacityCatalog}
    (parsed : parseCapacityCatalog path data = .ok catalog) : Parsed catalog := by
  simp only [parseCapacityCatalog, Except.bind_ok, orRaise_except_ok] at parsed
  obtain ⟨_, _, _, _, _, _, sourceId, labelled, version, versionParsed, _, _, policies,
    policiesParsed, same⟩ := parsed
  cases same
  refine ⟨isLabel_of_capacity labelled, ?_, rfl, (parseCapacityPolicies_distinct policiesParsed).1⟩
  unfold parseCapacityVersion at versionParsed
  split at versionParsed
  · rw [Except.bind_ok] at versionParsed
    obtain ⟨_, nonnegative, same⟩ := versionParsed
    cases same
    exact Int.not_lt.mp (raiseIf_except_ok.mp nonnegative)
  · cases versionParsed

end Labels

section Published

variable {db s t : Db} {sourceId : String}

/-- The stored policies of a source are the ones of a parsed catalog of its version and hash. -/
structure Publishes (db : Db) (source : CapacitySourceRow) (catalog : CapacityCatalog) : Prop where
  parsed : Parsed catalog
  sourceId : catalog.sourceId = source.sourceId
  version : catalog.sourceVersion = source.sourceVersion
  hash : catalog.catalogHash = source.catalogHash
  entries : ∀ row ∈ db.capacityPolicies, row.sourceId = source.sourceId →
    ∃ policy ∈ catalog.policies, row.agentId = policy.agentId ∧
      row.capacityPolicyId = catalog.policyId policy
  rows : ∀ policy ∈ catalog.policies, ∃ row ∈ db.capacityPolicies,
    row.sourceId = source.sourceId ∧ row.agentId = policy.agentId

/-- The rows of one source id: its policies have a source row, and its source a catalog. -/
structure PublishedAt (sourceId : String) (db : Db) : Prop where
  owner : ∀ row ∈ db.capacityPolicies, row.sourceId = sourceId →
    ∃ source ∈ db.capacitySources, source.sourceId = sourceId
  catalog : ∀ source ∈ db.capacitySources, source.sourceId = sourceId →
    ∃ catalog, Publishes db source catalog

theorem PublishedAt.transfer (same : SameProjection sourceId s t)
    (published : PublishedAt sourceId s) : PublishedAt sourceId t := by
  refine ⟨fun row member mine => ?_, fun source member mine => ?_⟩
  · obtain ⟨source, sourceMember, owner⟩ :=
      published.owner row ((same.policies row mine).mp member) mine
    exact ⟨source, (same.sources source owner).mpr sourceMember, owner⟩
  · obtain ⟨catalog, publishes⟩ :=
      published.catalog source ((same.sources source mine).mp member) mine
    refine ⟨catalog, publishes.parsed, publishes.sourceId, publishes.version, publishes.hash,
      fun row rowMember owned => publishes.entries row
        ((same.policies row (owned.trans mine)).mp rowMember) owned, fun policy policyMember => ?_⟩
    obtain ⟨row, rowMember, owned, agent⟩ := publishes.rows policy policyMember
    exact ⟨row, (same.policies row (owned.trans mine)).mpr rowMember, owned, agent⟩

/-- A changing sync publishes its catalog. -/
theorem Replaces.published {catalog : CapacityCatalog} {sourcePath : Option String} {current : String}
    (parsed : Parsed catalog) (replaces : Replaces catalog sourcePath current s t) :
    PublishedAt catalog.sourceId t := by
  have sourceMember : ∀ source ∈ t.capacitySources, source.sourceId = catalog.sourceId →
      source = catalog.sourceRow sourcePath current := by
    intro source member mine
    rw [Table.mem_def, replaces.sources, List.mem_append, ← Table.mem_def, Table.mem_delete,
      List.mem_singleton] at member
    obtain ⟨_, other⟩ | same := member
    · exact absurd mine (of_decide_eq_false other)
    · exact same
  have policyMember : ∀ row, row ∈ t.capacityPolicies ↔
      (row ∈ s.capacityPolicies ∧ row.sourceId ≠ catalog.sourceId) ∨
        ∃ policy ∈ catalog.policies, catalog.policyRow current policy = row := by
    intro row
    rw [Table.mem_def, replaces.policies, List.mem_append, ← Table.mem_def, Table.mem_delete,
      List.mem_map]
    simp
  refine ⟨fun _ _ _ => ⟨catalog.sourceRow sourcePath current, ?_, rfl⟩, fun source member mine => ?_⟩
  · rw [Table.mem_def, replaces.sources]
    exact List.mem_append_right _ (List.mem_singleton.mpr rfl)
  · obtain rfl := sourceMember source member mine
    refine ⟨catalog, parsed, rfl, rfl, rfl, fun row rowMember owned => ?_, fun policy inside => ?_⟩
    · obtain ⟨_, other⟩ | ⟨policy, inside, rfl⟩ := (policyMember row).mp rowMember
      · exact absurd owned other
      · exact ⟨policy, inside, rfl, rfl⟩
    · exact ⟨_, (policyMember _).mpr (.inr ⟨policy, inside, rfl⟩), rfl, rfl⟩

theorem SyncsCapacity.published {catalog : CapacityCatalog} {sourcePath : Option String}
    {current : String} (parsed : Parsed catalog)
    (syncs : SyncsCapacity catalog sourcePath current s t)
    (published : ∀ sourceId, PublishedAt sourceId s) (sourceId : String) :
    PublishedAt sourceId t := by
  by_cases mine : sourceId = catalog.sourceId
  · subst mine
    cases syncs with
    | unchanged => exact published _
    | changed _ _ replaces => exact replaces.published parsed
  · exact (published sourceId).transfer (syncs.others mine)

end Published

section Steps

/-- What holds in every state of a run: the policies of each source are published, the captured
envelopes hold published rows, and bound agents have proper names. -/
structure Published (history : CatalogHistory) : Prop where
  at_ : ∀ sourceId, PublishedAt sourceId history.work.store
  snapshots : ∀ sourceId envelope, (sourceId, envelope) ∈ history.snapshots →
    ∃ db state preserved, PublishedAt sourceId db ∧ Captures db sourceId state ∧
      envelope = buildSnapshotEnvelope (captureObject state) preserved sourceId
  labels : ∀ binding ∈ history.work.store.bindings, IsLabel binding.agentId

omit [Platform] in
theorem insertBindings_rows {sourceId : String} : ∀ {bindings : List ExecutorInstanceBinding}
    {table next : Table (keyedBy BindingRow.agentId)}, insertBindings sourceId bindings table = some next →
      next.rows = table.rows ++ bindings.map fun b =>
        ⟨b.agentId, sourceId, b.executorDefinitionId, b.runnerProfileId, b.enabled⟩
  | [], table, next, inserted => by
    cases inserted
    simp
  | binding :: rest, table, next, inserted => by
    simp only [insertBindings, Option.bind_eq_bind, Option.bind_eq_some_iff] at inserted
    obtain ⟨middle, first, later⟩ := inserted
    rw [insertBindings_rows later, Table.insert?_rows first, List.map_cons, List.append_assoc]
    rfl

omit [Platform] in
/-- An executor sync leaves the capacity tables alone and binds agents of its catalog. -/
theorem syncExecutorCatalog_effect (catalog : ExecutorCatalog) (work : Work Db) :
    let after := (alone (syncExecutorCatalog catalog) work).final.settle.store
    capacity after = capacity work.store ∧ ∀ binding ∈ after.bindings,
      binding ∈ work.store.bindings ∨
        ∃ given ∈ catalog.bindings, given.agentId = binding.agentId := by
  obtain ⟨changed, after, ran, outcome⟩ | ⟨e, after, _, outcome⟩ :=
    alone_atomically (syncExecutorCatalogBody catalog) work
  · dsimp only
    rw [syncExecutorCatalog, outcome]
    change capacity after.store = _ ∧ ∀ binding ∈ after.store.bindings, _
    simp only [syncExecutorCatalogBody, Txn.bind_ok, Txn.read_run, EStateM.Result.ok.injEq,
      Txn.orRaise_ok] at ran
    obtain ⟨_, _, ⟨rfl, rfl⟩, _, _, ⟨_, rfl⟩, ran⟩ := ran
    split at ran
    · cases ran
      exact ⟨rfl, fun binding member => .inl member⟩
    · simp only [Txn.bind_ok, Txn.orRaise_ok, Txn.write_ok] at ran
      obtain ⟨_, _, ⟨_, rfl⟩, _, _, ⟨replaced, _, _⟩, same⟩ := ran
      cases same
      simp only [replaceCatalog, Option.bind_eq_bind, Option.bind_eq_some_iff, Option.pure_def,
        Option.some.injEq] at replaced
      obtain ⟨sources, _, bindings, inserted, definitions, _, same⟩ := replaced
      rw [← same]
      refine ⟨rfl, fun binding member => ?_⟩
      rw [Table.mem_def, insertBindings_rows inserted, List.mem_append, ← Table.mem_def,
        Table.mem_delete, List.mem_map] at member
      obtain ⟨old, _⟩ | ⟨given, inside, rfl⟩ := member
      · exact .inl old
      · exact .inr ⟨given, inside, rfl⟩
  · dsimp only
    rw [syncExecutorCatalog, outcome]
    exact ⟨rfl, fun binding member => .inl member⟩

omit [Platform] in
theorem SameProjection.of_capacity {sourceId : String} {s t : Db} (same : capacity t = capacity s) :
    SameProjection sourceId s t := by
  have tables : t.capacitySources = s.capacitySources ∧ t.capacityPolicies = s.capacityPolicies := by
    simpa [capacity] using same
  exact ⟨fun row _ => by rw [tables.1], fun row _ => by rw [tables.2]⟩

/-- A call that leaves the store as it was. -/
theorem Published.unchanged {history : CatalogHistory} {work : Work Db}
    (published : Published history) (same : work.store = history.work.store) :
    Published { history with work } :=
  ⟨fun sourceId => by rw [same]; exact published.at_ sourceId, published.snapshots,
    by rw [same]; exact published.labels⟩

theorem Published.step {history next : CatalogHistory} (published : Published history)
    (step : CatalogStep history next) : Published next := by
  cases step with
  | @executor data catalog parsed =>
    obtain ⟨same, bound⟩ := syncExecutorCatalog_effect catalog history.work
    refine ⟨fun sourceId => (published.at_ sourceId).transfer (.of_capacity same),
      published.snapshots, fun binding member => ?_⟩
    obtain old | ⟨given, inside, agent⟩ := bound binding member
    · exact published.labels binding old
    · exact agent ▸ parseExecutorCatalog_labels parsed given inside
  | @capacity path data catalog sourcePath parsed =>
    cases outcome : alone (syncCapacityCatalog catalog sourcePath) history.work with
    | error e session => exact published.unchanged (alone_error outcome)
    | ok result session =>
      obtain ⟨_, t, rfl, syncs⟩ := syncCapacityCatalog_ok.mp ⟨result, outcome⟩
      refine ⟨syncs.published (parsed_of_ok parsed) published.at_, published.snapshots, ?_⟩
      exact syncs.bindings ▸ published.labels
  | @capture sourceId envelope session captured =>
    obtain ⟨valid, same⟩ := captureCapacitySnapshot_ok captured
    obtain ⟨state, preserved, captures, written⟩ := captureEnvelope_ok valid
    have kept := published.unchanged (congrArg Work.store same)
    refine ⟨kept.at_, fun other given member => ?_, kept.labels⟩
    obtain _ | ⟨_, old⟩ := member
    · exact ⟨history.work.store, state, preserved, published.at_ _, captures, written⟩
    · exact published.snapshots other given old
  | @restore sourceId envelope member =>
    obtain ⟨e, session, failed, same⟩ | ⟨request, t, parsed, _, restores, returned⟩ :=
      restoreCapacitySnapshot_cases sourceId (.written envelope) history.work
    · rw [failed]
      exact published.unchanged same
    · rw [returned]
      have owned := parseRestoreRequest_owned parsed
      obtain ⟨db, state, preserved, at_, captures, written⟩ :=
        published.snapshots sourceId envelope member
      have read : request.captured = state := parseRestoreRequest_written (written ▸ parsed)
      refine ⟨fun other => ?_, published.snapshots, ?_⟩
      · by_cases mine : other = sourceId
        · subst mine
          exact at_.transfer (.of_captures captures (read ▸ restores.captures owned))
        · exact (published.at_ other).transfer (restores.others owned mine)
      · have bindings : t.bindings = history.work.store.bindings := by rw [restores.rest]
        exact bindings ▸ published.labels
  | @other next same =>
    simp only [catalogs, Prod.mk.injEq] at same
    obtain ⟨_, _, bindings, sources, policies⟩ := same
    exact ⟨fun sourceId => (published.at_ sourceId).transfer
        (.of_capacity (by simp [capacity, sources, policies])),
      published.snapshots, bindings ▸ published.labels⟩

/-- The policies are published in every state of a run. -/
theorem CatalogReachable.published {history : CatalogHistory} (reachable : CatalogReachable history) :
    Published history := by
  induction reachable with
  | refl => exact ⟨fun _ => ⟨nofun, nofun⟩, nofun, nofun⟩
  | tail _ step published => exact published.step step

end Steps

end Coordinate

import Coordinate.Model.CapacitySnapshot
import Coordinate.Proofs.Statements

/-! # What the capacity calls do to the policies

The checks of a sync as statements about the store, its effect on the two capacity tables and the
effect of a restore.
-/

namespace Coordinate

variable [Platform]

abbrev CapacitySources := Table (keyedBy CapacitySourceRow.sourceId)

abbrev CapacityPolicies := Table
  (keyedBy CapacityPolicyRow.agentId fun row =>
    1 ≤ row.maxConcurrentJobs && row.maxConcurrentJobs ≤ 32)

/-- The two capacity tables of a store. -/
def capacity (db : Db) : CapacitySources × CapacityPolicies :=
  (db.capacitySources, db.capacityPolicies)

section Lookups

variable {db : Db}

omit [Platform] in
theorem getCapacitySource_eq_some {sourceId : String} {source : CapacitySourceRow} :
    getCapacitySource db sourceId = some source ↔
      source ∈ db.capacitySources ∧ source.sourceId = sourceId := by
  constructor
  · intro found
    obtain ⟨member, same⟩ := Table.find?_some found
    exact ⟨member, of_decide_eq_true same⟩
  · rintro ⟨member, rfl⟩
    exact Table.find?_eq_some_of_mem member (decide_eq_true rfl) fun _ _ same => same

omit [Platform] in
theorem getCapacitySource_eq_none {sourceId : String} :
    getCapacitySource db sourceId = none ↔
      ∀ source ∈ db.capacitySources, source.sourceId ≠ sourceId := by
  constructor
  · intro absent source member
    exact of_decide_eq_false (Table.find?_none absent source member)
  · intro absent
    cases found : getCapacitySource db sourceId with
    | none => rfl
    | some source =>
      obtain ⟨member, same⟩ := getCapacitySource_eq_some.mp found
      exact absurd same (absent source member)

omit [Platform] in
theorem resolveCapacityPolicy_eq_some {agentId : String} {policy : CapacityPolicyRow} :
    resolveCapacityPolicy db agentId = some policy ↔
      policy ∈ db.capacityPolicies ∧ policy.agentId = agentId := by
  constructor
  · intro found
    obtain ⟨member, same⟩ := Table.find?_some found
    exact ⟨member, of_decide_eq_true same⟩
  · rintro ⟨member, rfl⟩
    exact Table.find?_eq_some_of_mem member (decide_eq_true rfl) fun _ _ same => same

omit [Platform] in
theorem capacityPolicy_unique {a b : CapacityPolicyRow} (left : a ∈ db.capacityPolicies)
    (right : b ∈ db.capacityPolicies) (same : a.agentId = b.agentId) : a = b :=
  Table.eq_of_clash left right (decide_eq_true same)

omit [Platform] in
theorem capacitySource_unique {a b : CapacitySourceRow} (left : a ∈ db.capacitySources)
    (right : b ∈ db.capacitySources) (same : a.sourceId = b.sourceId) : a = b :=
  Table.eq_of_clash left right (decide_eq_true same)

end Lookups

section Checks

variable {db : Db} {catalog : CapacityCatalog} {u : Unit}

/-- An agent has a typed executor binding, enabled or not. -/
def Typed (db : Db) (agentId : String) : Prop :=
  ∃ binding ∈ db.bindings, binding.agentId = agentId

/-- The version gate and the global invariants that a sync checks before anything else. -/
structure Admits (db : Db) (catalog : CapacityCatalog) : Prop where
  version : ∀ source ∈ db.capacitySources, source.sourceId = catalog.sourceId →
    source.sourceVersion ≤ catalog.sourceVersion ∧
      (catalog.sourceVersion = source.sourceVersion → catalog.catalogHash = source.catalogHash)
  proposed : ∀ agentId ∈ catalog.agents, Typed db agentId
  known : ∀ row ∈ db.capacityPolicies, Typed db row.agentId
  owned : ∀ row ∈ db.capacityPolicies, row.agentId ∈ catalog.agents →
    row.sourceId = catalog.sourceId
  covered : ∀ binding ∈ db.bindings, binding.enabled = true →
    binding.agentId ∈ catalog.agents ∨ ∃ row ∈ db.capacityPolicies,
      row.sourceId ≠ catalog.sourceId ∧ row.agentId = binding.agentId

/-- No policy that the sync would drop is one that an active lease refers to. -/
def Releases (db : Db) (catalog : CapacityCatalog) : Prop :=
  ∀ row ∈ db.capacityPolicies, row.sourceId = catalog.sourceId →
    row.capacityPolicyId ∈ activeLeasePolicyIds db →
    ∃ policy ∈ catalog.policies, catalog.policyId policy = row.capacityPolicyId

omit [Platform] in
theorem mem_allTypedAgentIds {agentId : String} :
    agentId ∈ allTypedAgentIds db ↔ Typed db agentId := by
  simp only [allTypedAgentIds, List.mem_map, Typed, Table.mem_def]

omit [Platform] in
theorem checkCapacityVersion_ok :
    checkCapacityVersion db catalog = .ok u ↔ ∀ source ∈ db.capacitySources,
      source.sourceId = catalog.sourceId → source.sourceVersion ≤ catalog.sourceVersion ∧
        (catalog.sourceVersion = source.sourceVersion →
          catalog.catalogHash = source.catalogHash) := by
  unfold checkCapacityVersion
  cases found : getCapacitySource db catalog.sourceId with
  | none =>
    have absent := getCapacitySource_eq_none.mp found
    exact ⟨fun _ source member same => absurd same (absent source member), fun _ => rfl⟩
  | some stored =>
    obtain ⟨member, id⟩ := getCapacitySource_eq_some.mp found
    simp only [Except.bind_ok, raiseIf_except_ok, exists_const, not_and, not_not, Int.not_lt]
    constructor
    · rintro ⟨upgrade, hash⟩ source sourceMember same
      obtain rfl := capacitySource_unique sourceMember member (same.trans id.symm)
      exact ⟨upgrade, hash⟩
    · intro gate
      exact gate stored member id

omit [Platform] in
theorem checkCapacityOwnership_ok :
    checkCapacityOwnership db catalog = .ok u ↔ ∀ row ∈ db.capacityPolicies,
      row.agentId ∈ catalog.agents → row.sourceId = catalog.sourceId := by
  unfold checkCapacityOwnership
  dsimp only
  split
  · rename_i none
    rw [sortBy_eq_nil, List.eq_nil_iff_forall_not_mem] at none
    simp only [Table.mem_filter, Bool.and_eq_true, List.contains_iff_mem, decide_eq_true_eq,
      not_and, not_not] at none
    exact ⟨fun _ row member inside => none row member inside, fun _ => rfl⟩
  · rename_i row rest taken
    have member : row ∈ sortBy (fun a b => decide (a.agentId < b.agentId)) _ :=
      taken ▸ List.mem_cons_self ..
    simp only [mem_sortBy, Table.mem_filter, Bool.and_eq_true, List.contains_iff_mem,
      decide_eq_true_eq] at member
    exact ⟨nofun, fun owned => absurd (owned row member.1 member.2.1) member.2.2⟩

omit [Platform] in
theorem checkCapacityInvariants_ok :
    checkCapacityInvariants db catalog = .ok u ↔
      (∀ agentId ∈ catalog.agents, Typed db agentId) ∧
      (∀ row ∈ db.capacityPolicies, Typed db row.agentId) ∧
      (∀ row ∈ db.capacityPolicies, row.agentId ∈ catalog.agents →
        row.sourceId = catalog.sourceId) ∧
      (∀ binding ∈ db.bindings, binding.enabled = true →
        binding.agentId ∈ catalog.agents ∨ ∃ row ∈ db.capacityPolicies,
          row.sourceId ≠ catalog.sourceId ∧ row.agentId = binding.agentId) := by
  have unknown : unknownCapacityAgents db catalog = [] ↔
      (∀ agentId ∈ catalog.agents, Typed db agentId) ∧
        ∀ row ∈ db.capacityPolicies, Typed db row.agentId := by
    simp only [unknownCapacityAgents, List.filter_eq_nil_iff, List.mem_append, List.mem_map,
      decide_eq_true_eq, not_not, mem_allTypedAgentIds, or_imp, forall_and,
      forall_exists_index, and_imp, forall_apply_eq_imp_iff₂, Table.mem_def]
  have missing : missingCapacityAgents db catalog = [] ↔ ∀ binding ∈ db.bindings,
      binding.enabled = true → binding.agentId ∈ catalog.agents ∨
        ∃ row ∈ db.capacityPolicies, row.sourceId ≠ catalog.sourceId ∧
          row.agentId = binding.agentId := by
    simp only [missingCapacityAgents, enabledTypedAgentIds, otherSourcePolicyAgents,
      List.filter_eq_nil_iff, List.mem_map, Table.mem_filter, forall_exists_index, and_imp,
      decide_eq_true_eq, not_not, List.mem_append, and_assoc]
    exact ⟨fun covered binding member enabled => covered _ binding member enabled rfl,
      fun covered _ binding member enabled same => same ▸ covered binding member enabled⟩
  simp only [checkCapacityInvariants, Except.bind_ok, raiseIf_except_ok, exists_const, not_not,
    checkCapacityOwnership_ok, unknown, missing, and_assoc]

omit [Platform] in
theorem admits_iff : Admits db catalog ↔
    checkCapacityVersion db catalog = .ok () ∧ checkCapacityInvariants db catalog = .ok () := by
  rw [checkCapacityVersion_ok, checkCapacityInvariants_ok]
  exact ⟨fun ⟨version, proposed, known, owned, covered⟩ =>
      ⟨version, proposed, known, owned, covered⟩,
    fun ⟨version, proposed, known, owned, covered⟩ => ⟨version, proposed, known, owned, covered⟩⟩

theorem checkActiveLeases_ok : checkActiveLeases db catalog = .ok u ↔ Releases db catalog := by
  unfold checkActiveLeases Releases thisSourcePolicies
  dsimp only
  split
  · rename_i none
    rw [sortBy_eq_nil, List.eq_nil_iff_forall_not_mem] at none
    simp only [List.mem_filter, Table.mem_filter, decide_eq_true_eq, List.mem_map, not_and,
      and_imp] at none
    refine ⟨fun _ row member same active => ?_, fun _ => rfl⟩
    by_contra dropped
    exact none row member same dropped active
  · rename_i row rest blocked
    have member : row ∈ sortBy (fun a b => decide (a.agentId < b.agentId)) _ :=
      blocked ▸ List.mem_cons_self ..
    simp only [mem_sortBy, List.mem_filter, Table.mem_filter, decide_eq_true_eq, List.mem_map]
      at member
    exact ⟨nofun, fun releases =>
      absurd (releases row member.1.1 member.1.2 member.2.2) member.2.1⟩

omit [Platform] in
theorem isCurrentCapacityCatalog_iff : isCurrentCapacityCatalog db catalog = true ↔
    ∃ source ∈ db.capacitySources, source.sourceId = catalog.sourceId ∧
      catalog.sourceVersion = source.sourceVersion ∧
      catalog.catalogHash = source.catalogHash := by
  simp only [isCurrentCapacityCatalog, Option.any_eq_true, getCapacitySource_eq_some,
    Bool.and_eq_true, decide_eq_true_eq, and_assoc]

end Checks

section Writes

variable {w w' : Work Db} {u : Unit}

omit [Platform] in
theorem bindInteger_ok {value : Int} :
    (bindInteger value).run w = .ok u w' ↔ fitsInteger value = true ∧ w' = w := by
  rw [bindInteger, Txn.raiseIf_ok]
  exact and_congr (by simp) eq_comm

omit [Platform] in
theorem insertCapacityPolicies_ok : ∀ {rows : List CapacityPolicyRow} {w w' : Work Db},
    (insertCapacityPolicies rows).run w = .ok u w' ↔
      (∀ row ∈ rows, fitsInteger row.sourceVersion = true ∧
        fitsInteger row.maxConcurrentJobs = true) ∧
      ∃ policies : CapacityPolicies, policies.rows = w.store.capacityPolicies.rows ++ rows ∧
        w' = { w with store := { w.store with capacityPolicies := policies } }
  | [], w, w' => by
    simp only [insertCapacityPolicies, Txn.pure_run, EStateM.Result.ok.injEq, List.not_mem_nil,
      List.append_nil, true_and]
    constructor
    · rintro rfl
      exact ⟨nofun, w.store.capacityPolicies, rfl, rfl⟩
    · rintro ⟨_, policies, same, rfl⟩
      rw [Table.ext same]
  | row :: rest, w, w' => by
    simp only [insertCapacityPolicies, insertCapacityPolicy, Txn.bind_ok, bindInteger_ok,
      replaceTable_ok, @insertCapacityPolicies_ok rest, List.forall_mem_cons]
    constructor
    · rintro ⟨_, _, ⟨_, _, ⟨version, rfl⟩, _, _, ⟨jobs, rfl⟩, middle, inserted, rfl⟩, fits, policies,
        rows, rfl⟩
      exact ⟨⟨⟨version, jobs⟩, fits⟩, policies,
        by rw [rows, Table.insert?_rows inserted, List.append_assoc]; rfl, rfl⟩
    · rintro ⟨⟨⟨version, jobs⟩, fits⟩, policies, rows, rfl⟩
      have checked := policies.checked row (by rw [rows]; simp)
      have free : ∀ other ∈ w.store.capacityPolicies,
          (keyedBy CapacityPolicyRow.agentId fun row =>
            1 ≤ row.maxConcurrentJobs && row.maxConcurrentJobs ≤ 32).clash other row = false := by
        intro other member
        have apart := policies.distinct
        rw [rows, List.pairwise_append] at apart
        exact apart.2.2 other member row (List.mem_cons_self ..)
      obtain ⟨middle, inserted⟩ := Table.exists_insert? checked free
      exact ⟨u, { w with store := { w.store with capacityPolicies := middle } },
        ⟨u, w, ⟨version, rfl⟩, u, w, ⟨jobs, rfl⟩, middle, inserted, rfl⟩, fits, policies,
        by rw [rows, Table.insert?_rows inserted, List.append_assoc]; rfl, rfl⟩

omit [Platform] in
theorem writeCapacitySources_ok {next : CapacitySources → Option CapacitySources} :
    (writeCapacitySources next).run w = .ok u w' ↔
      ∃ sources, next w.store.capacitySources = some sources ∧
        w' = { w with store := { w.store with capacitySources := sources } } :=
  replaceTable_ok

omit [Platform] in
theorem deleteCapacityPolicies_ok {sourceId : String} :
    (deleteCapacityPolicies sourceId).run w = .ok u w' ↔
      w' = { w with store := { w.store with
        capacityPolicies := w.store.capacityPolicies.delete (·.sourceId = sourceId) } } := by
  simp only [deleteCapacityPolicies, replaceTable_ok, Option.some.injEq, exists_eq_left']

/-- The tables after a sync that changes the policies of a source. -/
structure Replaces (catalog : CapacityCatalog) (sourcePath : Option String) (current : String)
    (s t : Db) : Prop where
  fits : fitsInteger catalog.sourceVersion = true
  fitsJobs : ∀ policy ∈ catalog.policies, fitsInteger policy.maxConcurrentJobs = true
  sources : t.capacitySources.rows = (s.capacitySources.delete
    (·.sourceId = catalog.sourceId)).rows ++ [catalog.sourceRow sourcePath current]
  policies : t.capacityPolicies.rows = (s.capacityPolicies.delete
    (·.sourceId = catalog.sourceId)).rows ++ catalog.policies.map (catalog.policyRow current)
  rest : t = { s with capacitySources := t.capacitySources, capacityPolicies := t.capacityPolicies }

theorem writeCapacityCatalog_ok {catalog : CapacityCatalog} {sourcePath : Option String}
    {current : String} : (writeCapacityCatalog catalog sourcePath current).run w = .ok u w' ↔
      ∃ t, Replaces catalog sourcePath current w.store t ∧ w' = { w with store := t } := by
  simp only [writeCapacityCatalog, Txn.bind_ok, bindInteger_ok, writeCapacitySources_ok,
    deleteCapacityPolicies_ok, insertCapacityPolicies_ok, List.forall_mem_map]
  constructor
  · rintro ⟨_, _, ⟨fits, rfl⟩, _, _, ⟨sources, inserted, rfl⟩, _, _, rfl, jobs, policies, rows, rfl⟩
    exact ⟨_, ⟨fits, fun policy member => (jobs policy member).2, Table.insert?_rows inserted, rows,
      rfl⟩, rfl⟩
  · rintro ⟨t, ⟨fits, jobs, sources, policies, rest⟩, rfl⟩
    have free : ∀ other ∈ w.store.capacitySources.delete (·.sourceId = catalog.sourceId),
        (keyedBy CapacitySourceRow.sourceId).clash other (catalog.sourceRow sourcePath current) =
          false := by
      intro other member
      have apart := t.capacitySources.distinct
      rw [sources, List.pairwise_append] at apart
      exact apart.2.2 other member _ (List.mem_singleton.mpr rfl)
    obtain ⟨table, inserted⟩ := Table.exists_insert? rfl free
    have same : table = t.capacitySources := Table.ext ((Table.insert?_rows inserted).trans sources.symm)
    refine ⟨u, w, ⟨fits, rfl⟩, u, _, ⟨table, inserted, rfl⟩, u, _, rfl,
      fun policy member => ⟨fits, jobs policy member⟩, t.capacityPolicies, policies, ?_⟩
    rw [same]
    exact congrArg (fun store => { w with store }) rest

end Writes

section Sync

variable {α : Type} {work : Work Db} {catalog : CapacityCatalog} {sourcePath : Option String}

omit [Platform] in
/-- A transaction alone on the store either fails and changes nothing or commits its body. -/
theorem alone_atomically (body : DbTxn α) (work : Work Db) :
    (∃ a after, body.run work = .ok a after ∧
      alone (Tx.atomically Exn.nestedBegin body) work = .ok a ⟨after, after.store, none⟩) ∨
    ∃ e after, body.run work = .error e after ∧ alone (Tx.atomically Exn.nestedBegin body) work =
      .error e ⟨{ after with store := work.store }, work.store, none⟩ :=
  Tx.atomically_cases (s := Session.connect work work.store) rfl

omit [Platform] in
/-- A sync alone on the store that raises changes nothing. -/
theorem alone_error {body : DbTxn α} {e : Exn} {session : Session Db}
    (failed : alone (Tx.atomically Exn.nestedBegin body) work = .error e session) :
    session.settle.store = work.store := by
  obtain ⟨a, after, _, outcome⟩ | ⟨e', after, _, outcome⟩ := alone_atomically body work
  · rw [failed] at outcome
    cases outcome
  · rw [failed] at outcome
    cases outcome
    rfl

/-- How a sync that returns has changed the store. -/
inductive SyncsCapacity (catalog : CapacityCatalog) (sourcePath : Option String) (current : String)
    (s : Db) : Db → Prop
  | unchanged (same : isCurrentCapacityCatalog s catalog = true) :
    SyncsCapacity catalog sourcePath current s s
  | changed {t : Db} (fresh : isCurrentCapacityCatalog s catalog = false)
    (releases : Releases s catalog) (replaces : Replaces catalog sourcePath current s t) :
    SyncsCapacity catalog sourcePath current s t

theorem SyncsCapacity.bindings {current : String} {s t : Db}
    (syncs : SyncsCapacity catalog sourcePath current s t) : t.bindings = s.bindings := by
  cases syncs with
  | unchanged => rfl
  | changed _ _ replaces => rw [replaces.rest]

/-- A sync returns exactly when the store admits the catalog and its writes fit. -/
theorem syncCapacityCatalogBody_ok {after : Work Db} :
    (∃ result, (syncCapacityCatalogBody catalog sourcePath).run work = .ok result after) ↔
      Admits work.store catalog ∧ after.tick = work.tick + 1 ∧ after.draws = work.draws ∧
        SyncsCapacity catalog sourcePath (Calendar.isoformat (now work.tick)) work.store
          after.store := by
  obtain ⟨t, tick, draws⟩ := after
  simp only [syncCapacityCatalogBody, Txn.bind_ok, utcNow_run, EStateM.Result.ok.injEq,
    Txn.read_run, Txn.orRaise_ok, admits_iff, id_eq]
  constructor
  · rintro ⟨result, _, _, ⟨rfl, rfl⟩, _, _, ⟨rfl, rfl⟩, _, _, ⟨version, rfl⟩, _, _,
      ⟨invariants, rfl⟩, ran⟩
    split at ran
    · rename_i same
      cases ran
      exact ⟨⟨version, invariants⟩, rfl, rfl, .unchanged same⟩
    · rename_i fresh
      simp only [Txn.bind_ok, Txn.orRaise_ok, checkActiveLeases_ok, writeCapacityCatalog_ok,
        Txn.pure_run, EStateM.Result.ok.injEq] at ran
      obtain ⟨_, _, ⟨releases, rfl⟩, _, _, ⟨_, replaces, rfl⟩, rfl, same⟩ := ran
      cases same
      exact ⟨⟨version, invariants⟩, rfl, rfl, .changed (Bool.not_eq_true _ ▸ fresh) releases replaces⟩
  · rintro ⟨⟨version, invariants⟩, rfl, rfl, syncs⟩
    cases syncs with
    | unchanged same =>
      refine ⟨unchangedCapacitySync catalog, _, _, ⟨rfl, rfl⟩, _, _, ⟨rfl, rfl⟩, (), _,
        ⟨version, rfl⟩, (), _, ⟨invariants, rfl⟩, ?_⟩
      rw [if_pos same]
      rfl
    | changed fresh releases replaces =>
      refine ⟨changedCapacitySync work.store catalog, _, _, ⟨rfl, rfl⟩, _, _, ⟨rfl, rfl⟩, (), _,
        ⟨version, rfl⟩, (), _, ⟨invariants, rfl⟩, ?_⟩
      rw [if_neg (by rw [fresh]; decide)]
      simp only [Txn.bind_ok, Txn.orRaise_ok, checkActiveLeases_ok, writeCapacityCatalog_ok]
      exact ⟨(), _, ⟨releases, rfl⟩, (), _, ⟨t, replaces, rfl⟩, rfl⟩

/-- A sync alone on the store that returns. -/
theorem syncCapacityCatalog_ok {session : Session Db} :
    (∃ result, alone (syncCapacityCatalog catalog sourcePath) work = .ok result session) ↔
      Admits work.store catalog ∧ ∃ t, session =
        ⟨⟨t, work.tick + 1, work.draws⟩, t, none⟩ ∧ SyncsCapacity catalog sourcePath
          (Calendar.isoformat (now work.tick)) work.store t := by
  obtain ⟨result, after, ran, outcome⟩ | ⟨e, after, ran, outcome⟩ :=
    alone_atomically (syncCapacityCatalogBody catalog sourcePath) work
  · obtain ⟨admits, tick, draws, syncs⟩ := syncCapacityCatalogBody_ok.mp ⟨result, ran⟩
    obtain ⟨store, _, _⟩ := after
    cases tick
    cases draws
    simp only [syncCapacityCatalog, outcome, EStateM.Result.ok.injEq]
    constructor
    · rintro ⟨_, _, rfl⟩
      exact ⟨admits, store, rfl, syncs⟩
    · rintro ⟨_, t, rfl, other⟩
      have again : ∃ result, (syncCapacityCatalogBody catalog sourcePath).run work =
          .ok result ⟨t, work.tick + 1, work.draws⟩ :=
        syncCapacityCatalogBody_ok.mpr ⟨admits, rfl, rfl, other⟩
      obtain ⟨_, again⟩ := again
      rw [ran] at again
      cases again
      exact ⟨result, rfl, rfl⟩
  · constructor
    · rintro ⟨result, returned⟩
      rw [syncCapacityCatalog, outcome] at returned
      cases returned
    · rintro ⟨admits, t, _, syncs⟩
      have again : ∃ result, (syncCapacityCatalogBody catalog sourcePath).run work =
          .ok result ⟨t, work.tick + 1, work.draws⟩ :=
        syncCapacityCatalogBody_ok.mpr ⟨admits, rfl, rfl, syncs⟩
      obtain ⟨_, again⟩ := again
      rw [ran] at again
      cases again

end Sync

end Coordinate

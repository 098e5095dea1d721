import Mathlib.Data.List.Dedup
import Coordinate.Proofs.CapacityRuns

/-! # What a capacity sync keeps, and when one is possible

A sync keeps the policy id that an active lease refers to, and afterwards every policy has one
source and every enabled typed binding one policy. While a stored policy belongs to an agent
without a typed binding, no sync and no restore is possible; otherwise a higher version of every
source is.
-/

namespace Coordinate

section Stability

variable [Platform]

omit [Platform] in
theorem text_injective {a b : Json} (same : a.text = b.text) : a.reload = b.reload :=
  Json.render_injective same

/-- Policy ids of different agents are different. -/
theorem policyId_agent (injective : Function.Injective (sha256 : List Char → String))
    {catalog other : CapacityCatalog} {policy entry : CapacityPolicy}
    (same : catalog.policyId policy = other.policyId entry) : policy.agentId = entry.agentId := by
  have digests := congrArg String.toList same
  simp only [CapacityCatalog.policyId, computeCapacityPolicyId, String.toList_append,
    List.append_cancel_left_eq, String.toList_inj] at digests
  have agents := congrArg (·.get "agent_id") (text_injective (injective digests))
  simp only [Json.get_reload] at agents
  exact Json.str.inj agents

/-- Catalogs with one hash have the same agents. -/
theorem agents_of_hash (injective : Function.Injective (sha256 : List Char → String))
    {catalog other : CapacityCatalog}
    (same : computeCapacityCatalogHash catalog = computeCapacityCatalogHash other) :
    ∀ agentId ∈ catalog.agents, agentId ∈ other.agents := by
  have items := congrArg (·.get "policies") (text_injective (injective same))
  simp only [Json.get_reload] at items
  change (Json.arr _).reload = (Json.arr _).reload at items
  rw [Json.reload_arr, Json.reload_arr, Json.arr.injEq, List.map_map, List.map_map] at items
  intro agentId member
  obtain ⟨policy, inside, rfl⟩ := List.mem_map.mp member
  have listed : policy.canonicalDict.reload ∈
      (sortBy (fun a b => a.agentId < b.agentId) other.policies).map
        (Json.reload ∘ fun entry => entry.canonicalDict) :=
    items ▸ List.mem_map.mpr ⟨policy, mem_sortBy.mpr inside, rfl⟩
  obtain ⟨entry, entryInside, object⟩ := List.mem_map.mp listed
  have agents := congrArg (·.get "agent_id") object
  simp only [Function.comp_apply, Json.get_reload] at agents
  exact List.mem_map.mpr ⟨entry, mem_sortBy.mp entryInside, Json.str.inj agents⟩

variable {history : CatalogHistory} {path : String} {data : Json} {catalog : CapacityCatalog}
  {sourcePath : Option String} {result : CapacitySyncResult} {session : Session Db}
  {current : String} {s t : Db}

omit [Platform] in
theorem activeLeasePolicyIds_of_mem {lease : LeaseRow} (member : lease ∈ s.leases)
    (active : lease.status = .active) : lease.capacityPolicyId ∈ activeLeasePolicyIds s := by
  have checked := s.leases.checked lease member
  have key : isKeyText lease.capacityPolicyId = true := by
    simp only [leaseSchema, LeaseRow.check, Bool.and_eq_true] at checked
    tauto
  have nonempty : lease.capacityPolicyId ≠ "" := by
    intro empty
    rw [empty] at key
    revert key
    decide
  simp only [activeLeasePolicyIds, List.mem_filter, List.mem_map, Table.mem_filter,
    decide_eq_true_eq]
  exact ⟨⟨lease, ⟨member, active⟩, rfl⟩, nonempty⟩

/-- A policy that an active lease refers to keeps its id. -/
theorem SyncsCapacity.keepsLeased (injective : Function.Injective (sha256 : List Char → String))
    (syncs : SyncsCapacity catalog sourcePath current s t)
    (published : ∀ sourceId, PublishedAt sourceId s) {row : CapacityPolicyRow}
    (member : row ∈ s.capacityPolicies) (leased : row.capacityPolicyId ∈ activeLeasePolicyIds s) :
    ∃ later ∈ t.capacityPolicies, later.agentId = row.agentId ∧
      later.capacityPolicyId = row.capacityPolicyId := by
  cases syncs with
  | unchanged => exact ⟨row, member, rfl, rfl⟩
  | changed fresh releases replaces =>
    by_cases mine : row.sourceId = catalog.sourceId
    · obtain ⟨policy, inside, same⟩ := releases row member mine leased
      obtain ⟨source, sourceMember, owner⟩ := (published _).owner row member rfl
      obtain ⟨old, publishes⟩ := (published _).catalog source sourceMember owner
      obtain ⟨entry, _, agent, id⟩ := publishes.entries row member owner.symm
      refine ⟨catalog.policyRow current policy, ?_, ?_, same⟩
      · rw [Table.mem_def, replaces.policies]
        exact List.mem_append_right _ (List.mem_map_of_mem inside)
      · rw [agent]
        exact policyId_agent injective (same.trans id)
    · exact ⟨row, (((SyncsCapacity.changed fresh releases replaces).others mine).policies row
        rfl).mpr member, rfl, rfl⟩

/-- After a sync every enabled typed binding has a policy. -/
theorem SyncsCapacity.covers (injective : Function.Injective (sha256 : List Char → String))
    (admits : Admits s catalog) (parsed : Parsed catalog)
    (syncs : SyncsCapacity catalog sourcePath current s t)
    (published : ∀ sourceId, PublishedAt sourceId s) {binding : BindingRow}
    (member : binding ∈ t.bindings) (enabled : binding.enabled = true) :
    ∃ row ∈ t.capacityPolicies, row.agentId = binding.agentId := by
  rw [syncs.bindings] at member
  obtain proposed | ⟨row, rowMember, other, agent⟩ := admits.covered binding member enabled
  · cases syncs with
    | unchanged same =>
      obtain ⟨source, sourceMember, owner, _, hash⟩ := isCurrentCapacityCatalog_iff.mp same
      obtain ⟨old, publishes⟩ := (published _).catalog source sourceMember rfl
      have hashes : computeCapacityCatalogHash catalog = computeCapacityCatalogHash old :=
        parsed.hash.symm.trans (hash.trans (publishes.hash.symm.trans publishes.parsed.hash))
      obtain ⟨policy, inside, agent⟩ :=
        List.mem_map.mp (agents_of_hash injective hashes _ proposed)
      obtain ⟨row, rowMember, _, rowAgent⟩ := publishes.rows policy inside
      exact ⟨row, rowMember, rowAgent.trans agent⟩
    | changed _ _ replaces =>
      obtain ⟨policy, inside, agent⟩ := List.mem_map.mp proposed
      refine ⟨catalog.policyRow current policy, ?_, agent⟩
      rw [Table.mem_def, replaces.policies]
      exact List.mem_append_right _ (List.mem_map_of_mem inside)
  · exact ⟨row, ((syncs.others other).policies row rfl).mpr rowMember, agent⟩

/-- A successful sync keeps the policy id of every active lease, and leaves each policy with one
source and each enabled typed binding with one policy. -/
theorem capacity_sync_stable (injective : Function.Injective (sha256 : List Char → String))
    (reachable : CatalogReachable history) (parsed : parseCapacityCatalog path data = .ok catalog)
    (ran : alone (syncCapacityCatalog catalog sourcePath) history.work = .ok result session) :
    (∀ lease ∈ history.work.store.leases, lease.status = .active →
      ∀ policy, resolveCapacityPolicy history.work.store lease.agentId = some policy →
        policy.capacityPolicyId = lease.capacityPolicyId →
        ∃ later, resolveCapacityPolicy session.settle.store lease.agentId = some later ∧
          later.capacityPolicyId = lease.capacityPolicyId) ∧
    (∀ policy ∈ session.settle.store.capacityPolicies,
      (∃! source, source ∈ session.settle.store.capacitySources ∧
        source.sourceId = policy.sourceId) ∧
      ∀ other ∈ session.settle.store.capacityPolicies, other.agentId = policy.agentId →
        other = policy) ∧
    ∀ binding ∈ session.settle.store.bindings, binding.enabled = true →
      ∃! policy, policy ∈ session.settle.store.capacityPolicies ∧
        policy.agentId = binding.agentId := by
  have before := reachable.published.at_
  obtain ⟨admits, t, rfl, syncs⟩ := syncCapacityCatalog_ok.mp ⟨result, ran⟩
  have after := syncs.published (parsed_of_ok parsed) before
  refine ⟨fun lease member active policy resolved same => ?_, fun policy member => ⟨?_, ?_⟩,
    fun binding member enabled => ?_⟩
  · obtain ⟨policyMember, agent⟩ := resolveCapacityPolicy_eq_some.mp resolved
    obtain ⟨later, laterMember, laterAgent, id⟩ := syncs.keepsLeased injective before policyMember
      (same ▸ activeLeasePolicyIds_of_mem member active)
    exact ⟨later, resolveCapacityPolicy_eq_some.mpr ⟨laterMember, laterAgent.trans agent⟩,
      id.trans same⟩
  · obtain ⟨source, sourceMember, owner⟩ := (after _).owner policy member rfl
    exact ⟨source, ⟨sourceMember, owner⟩, fun other ⟨otherMember, otherOwner⟩ =>
      capacitySource_unique otherMember sourceMember (otherOwner.trans owner.symm)⟩
  · exact fun other otherMember same => capacityPolicy_unique otherMember member same
  · obtain ⟨row, rowMember, agent⟩ :=
      syncs.covers injective admits (parsed_of_ok parsed) before member enabled
    exact ⟨row, ⟨rowMember, agent⟩, fun other ⟨otherMember, otherAgent⟩ =>
      capacityPolicy_unique otherMember rowMember (otherAgent.trans agent.symm)⟩

end Stability

section Successor

variable [Platform]

/-- A capacity file that gives each of its agents one job at a time. -/
def capacityData (sourceId : String) (sourceVersion : Int) (agents : List String) : Json :=
  .obj [("capacity_registry", .obj [("id", .str sourceId), ("version", .int sourceVersion)]),
    ("executor_capacities", .arr (agents.map fun agentId =>
      .obj [("agent_id", .str agentId), ("max_concurrent_jobs", .int 1)]))]

omit [Platform] in
theorem parseCapacityPolicies_data : ∀ {agents seen : List String}, agents.Nodup →
    (∀ agentId ∈ agents, IsLabel agentId) → (∀ agentId ∈ agents, agentId ∉ seen) →
    parseCapacityPolicies seen (agents.map fun agentId =>
      .obj [("agent_id", .str agentId), ("max_concurrent_jobs", .int 1)]) =
      .ok (agents.map fun agentId => ⟨agentId, 1⟩)
  | [], _, _, _, _ => rfl
  | agentId :: rest, seen, distinct, labels, fresh => by
    rw [List.nodup_cons] at distinct
    rw [List.forall_mem_cons] at labels fresh
    have first : parseCapacityPolicy seen
        (.obj [("agent_id", .str agentId), ("max_concurrent_jobs", .int 1)]) = .ok ⟨agentId, 1⟩ := by
      simp only [parseCapacityPolicy, Except.bind_ok, raiseIf_except_ok]
      exact ⟨(), by simp [Json.isObj], (), by simp [unknownKeys, Json.keys, allowedCapacityPolicyKeys],
        agentId, labels.1.capacity _, (), fresh.1, 1, rfl, rfl⟩
    have later := @parseCapacityPolicies_data _ (agentId :: seen) distinct.2 labels.2
      fun other member repeated => by
        obtain rfl | old := List.mem_cons.mp repeated
        · exact distinct.1 member
        · exact fresh.2 other member old
    simp only [List.map_cons, parseCapacityPolicies, Except.bind_ok]
    exact ⟨_, first, _, later, rfl⟩

/-- The file parses to the catalog that it describes. -/
theorem parseCapacityCatalog_data {path sourceId : String} {sourceVersion : Int}
    {agents : List String} (label : IsLabel sourceId) (version : 0 ≤ sourceVersion)
    (distinct : agents.Nodup) (labels : ∀ agentId ∈ agents, IsLabel agentId) :
    ∃ catalog, parseCapacityCatalog path (capacityData sourceId sourceVersion agents) =
        .ok catalog ∧ catalog.sourceId = sourceId ∧ catalog.sourceVersion = sourceVersion ∧
      catalog.policies = agents.map fun agentId => ⟨agentId, 1⟩ := by
  let policies : List CapacityPolicy := agents.map fun agentId => ⟨agentId, 1⟩
  let draft : CapacityCatalog := ⟨sourceId, sourceVersion, "", some path, policies⟩
  refine ⟨{ draft with catalogHash := computeCapacityCatalogHash draft }, ?_, rfl, rfl, rfl⟩
  have parsedVersion : parseCapacityVersion (.int sourceVersion) = .ok sourceVersion := by
    simp only [parseCapacityVersion, Except.bind_ok, raiseIf_except_ok]
    exact ⟨(), Int.not_lt.mpr version, rfl⟩
  simp only [parseCapacityCatalog, Except.bind_ok, raiseIf_except_ok, orRaise_except_ok]
  exact ⟨(), by simp [unknownKeys, capacityData, Json.keys, allowedSharedRootKeys], (),
    by simp [capacityData, Json.get, Json.field?, Json.isObj], (),
    by simp [unknownKeys, capacityData, Json.keys, Json.get, Json.field?,
      allowedCapacityRegistryKeys], sourceId, label.capacity _, sourceVersion, parsedVersion, _,
    rfl, policies, parseCapacityPolicies_data distinct labels
      (fun _ _ => List.not_mem_nil), rfl⟩

variable {history : CatalogHistory} {source : CapacitySourceRow} {s : Db}

/-- The agents of a next catalog: the ones that the source has policies for, and the enabled ones
that no other source covers. -/
def successorAgents (db : Db) (sourceId : String) : List String :=
  ((thisSourcePolicies db sourceId).map (·.agentId) ++ (enabledTypedAgentIds db).filter fun agentId =>
    agentId ∉ otherSourcePolicyAgents db sourceId).dedup

omit [Platform] in
theorem mem_successorAgents {sourceId agentId : String} : agentId ∈ successorAgents s sourceId ↔
    (∃ row ∈ s.capacityPolicies, row.sourceId = sourceId ∧ row.agentId = agentId) ∨
    (∃ binding ∈ s.bindings, binding.enabled = true ∧ binding.agentId = agentId) ∧
      ¬ ∃ row ∈ s.capacityPolicies, row.sourceId ≠ sourceId ∧ row.agentId = agentId := by
  simp only [successorAgents, List.mem_dedup, List.mem_append, thisSourcePolicies,
    enabledTypedAgentIds, otherSourcePolicyAgents, List.mem_map, Table.mem_filter, List.mem_filter,
    decide_eq_true_eq, and_assoc]

omit [Platform] in
/-- A store whose policies all belong to typed agents admits a next catalog of any source. -/
theorem admits_successor {catalog : CapacityCatalog} (typed : ∀ row ∈ s.capacityPolicies,
      Typed s row.agentId) (agents : catalog.agents = successorAgents s catalog.sourceId)
    (higher : ∀ source ∈ s.capacitySources, source.sourceId = catalog.sourceId →
      source.sourceVersion < catalog.sourceVersion) : Admits s catalog where
  version source member mine :=
    ⟨Int.le_of_lt (higher source member mine),
      fun same => absurd same (Int.ne_of_gt (higher source member mine))⟩
  proposed agentId member := by
    rw [agents, mem_successorAgents] at member
    obtain ⟨row, rowMember, _, rfl⟩ | ⟨⟨binding, bindingMember, _, rfl⟩, _⟩ := member
    · exact typed row rowMember
    · exact ⟨binding, bindingMember, rfl⟩
  known := typed
  owned row member inside := by
    rw [agents, mem_successorAgents] at inside
    obtain ⟨mine, mineMember, owner, same⟩ | ⟨_, free⟩ := inside
    · rw [← capacityPolicy_unique mineMember member same]
      exact owner
    · by_contra other
      exact free ⟨row, member, other, rfl⟩
  covered binding member enabled := by
    rw [agents, mem_successorAgents]
    by_cases other : ∃ row ∈ s.capacityPolicies,
        row.sourceId ≠ catalog.sourceId ∧ row.agentId = binding.agentId
    · exact .inr other
    · exact .inl (.inr ⟨⟨binding, member, enabled, rfl⟩, other⟩)

omit [Platform] in
theorem activeLeasePolicyIds_nil (released : ∀ lease ∈ s.leases, lease.status ≠ .active) :
    activeLeasePolicyIds s = [] := by
  simp only [activeLeasePolicyIds, List.filter_eq_nil_iff, List.mem_map, Table.mem_filter,
    decide_eq_true_eq]
  rintro _ ⟨lease, ⟨member, active⟩, _⟩
  exact absurd active (released lease member)

/-- The writes of a catalog that the store admits fit its tables. -/
theorem exists_replaces {catalog : CapacityCatalog} {sourcePath : Option String} {current : String}
    (admits : Admits s catalog) (distinct : catalog.agents.Nodup)
    (fits : fitsInteger catalog.sourceVersion = true)
    (single : ∀ policy ∈ catalog.policies, policy.maxConcurrentJobs = 1) :
    ∃ t, Replaces catalog sourcePath current s t := by
  let kept := s.capacityPolicies.delete (·.sourceId = catalog.sourceId)
  have sourceFree : ∀ other ∈ s.capacitySources.delete (·.sourceId = catalog.sourceId),
      (keyedBy CapacitySourceRow.sourceId).clash other (catalog.sourceRow sourcePath current) =
        false := fun other member => (Table.mem_delete.mp member).2
  obtain ⟨sources, inserted⟩ := Table.exists_insert? rfl sourceFree
  let policies : CapacityPolicies :=
    { rows := kept.rows ++ catalog.policies.map (catalog.policyRow current)
      checked := fun row member => by
        obtain old | new := List.mem_append.mp member
        · exact kept.checked row old
        · obtain ⟨policy, inside, rfl⟩ := List.mem_map.mp new
          simp [keyedBy, CapacityCatalog.policyRow, single policy inside]
      distinct := List.pairwise_append.mpr ⟨kept.distinct,
        List.pairwise_map.mpr ((List.pairwise_map.mp distinct).imp fun apart =>
          decide_eq_false apart),
        fun old oldMember row rowMember => decide_eq_false fun same => by
          obtain ⟨policy, inside, rfl⟩ := List.mem_map.mp rowMember
          obtain ⟨stored, other⟩ := Table.mem_delete.mp oldMember
          exact of_decide_eq_false other (admits.owned old stored
            (List.mem_map.mpr ⟨policy, inside, same.symm⟩))⟩ }
  exact ⟨{ s with capacitySources := sources, capacityPolicies := policies }, fits,
    fun policy inside => by rw [single policy inside]; decide, Table.insert?_rows inserted, rfl, rfl⟩

/-- Without active leases a store whose policies all belong to typed agents takes a next version of
each source. -/
theorem Published.successor (published : Published history)
    (typed : ∀ row ∈ history.work.store.capacityPolicies, Typed history.work.store row.agentId)
    (released : ∀ lease ∈ history.work.store.leases, lease.status ≠ .active)
    (member : source ∈ history.work.store.capacitySources) (room : source.sourceVersion + 1 < 2 ^ 63) :
    ∃ path data catalog sourcePath result session,
      parseCapacityCatalog path data = .ok catalog ∧ catalog.sourceId = source.sourceId ∧
      source.sourceVersion < catalog.sourceVersion ∧
      alone (syncCapacityCatalog catalog sourcePath) history.work = .ok result session := by
  obtain ⟨old, publishes⟩ := (published.at_ source.sourceId).catalog source member rfl
  have nonnegative : 0 ≤ source.sourceVersion := publishes.version ▸ publishes.parsed.version
  have labels : ∀ agentId ∈ successorAgents history.work.store source.sourceId,
      IsLabel agentId := by
    intro agentId inside
    have bound : Typed history.work.store agentId := by
      obtain ⟨row, rowMember, _, rfl⟩ | ⟨⟨binding, bindingMember, _, rfl⟩, _⟩ :=
        mem_successorAgents.mp inside
      · exact typed row rowMember
      · exact ⟨binding, bindingMember, rfl⟩
    obtain ⟨binding, bindingMember, rfl⟩ := bound
    exact published.labels binding bindingMember
  have distinct : (successorAgents history.work.store source.sourceId).Nodup := List.nodup_dedup _
  obtain ⟨catalog, parsed, owner, version, policies⟩ := @parseCapacityCatalog_data _ "/c"
    source.sourceId (source.sourceVersion + 1) _ (publishes.sourceId ▸ publishes.parsed.sourceId)
    (by omega) distinct labels
  have agents : catalog.agents = successorAgents history.work.store catalog.sourceId := by
    rw [CapacityCatalog.agents, policies, List.map_map, owner]
    exact List.map_id _
  have admits := admits_successor typed agents fun other otherMember same => by
    obtain rfl := capacitySource_unique otherMember member (same.trans owner)
    omega
  have fresh : isCurrentCapacityCatalog history.work.store catalog = false := by
    rw [Bool.eq_false_iff, ne_eq, isCurrentCapacityCatalog_iff]
    rintro ⟨other, otherMember, same, equal, _⟩
    obtain rfl := capacitySource_unique otherMember member (same.trans owner)
    omega
  have releases : Releases history.work.store catalog := by
    intro row _ _ leased
    rw [activeLeasePolicyIds_nil released] at leased
    cases leased
  obtain ⟨t, replaces⟩ := @exists_replaces _ _ catalog none
    (Calendar.isoformat (now history.work.tick)) admits (by rw [agents, owner]; exact distinct)
    (by rw [version, fitsInteger, Bool.and_eq_true, decide_eq_true_eq, decide_eq_true_eq]; omega)
    fun policy inside => by
      rw [policies] at inside
      obtain ⟨_, _, rfl⟩ := List.mem_map.mp inside
      rfl
  obtain ⟨result, ran⟩ := syncCapacityCatalog_ok.mpr
    ⟨admits, t, rfl, .changed fresh releases replaces⟩
  exact ⟨_, _, catalog, none, result, _, parsed, owner, by omega, ran⟩

/-- While a stored policy belongs to an agent without a typed binding no sync returns. -/
theorem no_sync_of_untyped {work : Work Db} {row : CapacityPolicyRow}
    (member : row ∈ work.store.capacityPolicies) (untyped : ¬ Typed work.store row.agentId)
    (catalog : CapacityCatalog) (sourcePath : Option String) (result : CapacitySyncResult)
    (session : Session Db) : alone (syncCapacityCatalog catalog sourcePath) work ≠ .ok result session :=
  fun ran => untyped ((syncCapacityCatalog_ok.mp ⟨result, ran⟩).1.known row member)

/-- While a stored policy belongs to an agent without a typed binding no restore returns. -/
theorem no_restore_of_untyped {work : Work Db} {row : CapacityPolicyRow}
    (member : row ∈ work.store.capacityPolicies) (untyped : ¬ Typed work.store row.agentId)
    (sourceId : String) (file : SnapshotFile) (restored : Json) (session : Session Db) :
    alone (restoreCapacitySnapshot sourceId file) work ≠ .ok restored session := by
  intro ran
  obtain ⟨e, s, failed, _⟩ | ⟨request, t, _, checked, _, _⟩ :=
    restoreCapacitySnapshot_cases sourceId file work
  · rw [ran] at failed
    cases failed
  · simp only [checkRestore, Except.bind_ok] at checked
    obtain ⟨⟨_, _⟩, valid, _⟩ := checked
    exact untyped ((strictValidateCurrentProjection_ok valid).2.2 row member)

/-- Without active leases a source has an acceptable next version exactly when every stored policy
belongs to an agent with a typed binding and the version column has room; otherwise neither a sync
nor a restore of any source is possible. -/
theorem capacity_successor_iff (reachable : CatalogReachable history)
    (released : ∀ lease ∈ history.work.store.leases, lease.status ≠ .active)
    (member : source ∈ history.work.store.capacitySources) :
    ((∃ path data catalog sourcePath result session,
        parseCapacityCatalog path data = .ok catalog ∧ catalog.sourceId = source.sourceId ∧
        source.sourceVersion < catalog.sourceVersion ∧
        alone (syncCapacityCatalog catalog sourcePath) history.work = .ok result session) ↔
      (∀ row ∈ history.work.store.capacityPolicies, Typed history.work.store row.agentId) ∧
        source.sourceVersion + 1 < 2 ^ 63) ∧
    ((∃ row ∈ history.work.store.capacityPolicies, ¬ Typed history.work.store row.agentId) →
      (∀ catalog sourcePath result session,
        alone (syncCapacityCatalog catalog sourcePath) history.work ≠ .ok result session) ∧
      ∀ sourceId file restored session,
        alone (restoreCapacitySnapshot sourceId file) history.work ≠ .ok restored session) := by
  refine ⟨⟨?_, fun ⟨typed, room⟩ => reachable.published.successor typed released member room⟩, ?_⟩
  · rintro ⟨path, data, catalog, sourcePath, result, session, _, owner, higher, ran⟩
    obtain ⟨admits, t, _, syncs⟩ := syncCapacityCatalog_ok.mp ⟨result, ran⟩
    refine ⟨admits.known, ?_⟩
    cases syncs with
    | unchanged same =>
      obtain ⟨other, otherMember, mine, equal, _⟩ := isCurrentCapacityCatalog_iff.mp same
      obtain rfl := capacitySource_unique otherMember member (mine.trans owner)
      omega
    | changed _ _ replaces =>
      have fits := replaces.fits
      rw [fitsInteger, Bool.and_eq_true, decide_eq_true_eq, decide_eq_true_eq] at fits
      omega
  · rintro ⟨row, rowMember, untyped⟩
    exact ⟨no_sync_of_untyped rowMember untyped, no_restore_of_untyped rowMember untyped⟩

end Successor

namespace Sample

/-- A hash of known digests that writes any other text behind a mark is injective. -/
theorem lookup_injective {known : List (Json × String)} (distinct : (known.map (·.2)).Nodup)
    (unmarked : ∀ entry ∈ known, entry.2.toList.head? ≠ some '!') :
    Function.Injective fun text : List Char =>
      match known.find? fun entry => entry.1.text = text with
      | some entry => entry.2
      | none => String.ofList ('!' :: text) := by
  intro a b same
  dsimp only at same
  cases foundA : known.find? fun entry => entry.1.text = a with
  | none =>
    cases foundB : known.find? fun entry => entry.1.text = b with
    | none =>
      rw [foundA, foundB] at same
      exact (List.cons.inj (String.ofList_injective same)).2
    | some entry =>
      rw [foundA, foundB] at same
      change String.ofList _ = entry.2 at same
      exact absurd (by rw [← same]; simp) (unmarked entry (List.mem_of_find?_eq_some foundB))
  | some entry =>
    cases foundB : known.find? fun entry => entry.1.text = b with
    | none =>
      rw [foundA, foundB] at same
      change entry.2 = String.ofList _ at same
      exact absurd (by rw [same]; simp) (unmarked entry (List.mem_of_find?_eq_some foundA))
    | some other =>
      rw [foundA, foundB] at same
      have equal := List.inj_on_of_nodup_map distinct (List.mem_of_find?_eq_some foundA)
        (List.mem_of_find?_eq_some foundB) same
      have textA : entry.1.text = a := by simpa using List.find?_some foundA
      have textB : other.1.text = b := by simpa using List.find?_some foundB
      rw [← textA, ← textB, equal]

section Catalogs

attribute [local instance] capacityPlatform

theorem sha256_injective : Function.Injective capacityPlatform.sha256 :=
  @lookup_injective capacityDigests (by decide +kernel) (by decide +kernel)

/-- The file of the executor catalog with the given version and agent entries. -/
def executorData (version : Int) (agents : List Json) : Json :=
  .obj [("registry", .obj [("id", .str "s"), ("version", .int version)]),
    ("executor_definitions", .arr [.obj [("id", .str "d"), ("provider", .str "p"),
      ("adapter", .str "x")]]),
    ("agents", .arr agents)]

def boundAgent : Json :=
  .obj [("id", .str "a"), ("executor_definition_id", .str "d"), ("runner_profile_id", .str "a")]

def executorStep (data : Json) (work : Work Db) : Work Db :=
  match parseExecutorCatalog data with
  | .ok catalog => (alone (syncExecutorCatalog catalog) work).final.settle
  | .error _ => work

def capacityStep (data : Json) (work : Work Db) : Work Db :=
  match parseCapacityCatalog "/c" data with
  | .ok catalog => (alone (syncCapacityCatalog catalog none) work).final.settle
  | .error _ => work

theorem reachable_executorStep {work : Work Db} (data : Json)
    (reachable : CatalogReachable ⟨work, []⟩) : CatalogReachable ⟨executorStep data work, []⟩ := by
  unfold executorStep
  split
  · rename_i parsed
    exact reachable.tail (.executor parsed)
  · exact reachable

theorem reachable_capacityStep {work : Work Db} (data : Json)
    (reachable : CatalogReachable ⟨work, []⟩) : CatalogReachable ⟨capacityStep data work, []⟩ := by
  unfold capacityStep
  split
  · rename_i parsed
    exact reachable.tail (.capacity parsed)
  · exact reachable

/-- The installation with its agent bound by an executor catalog. -/
def boundWork : Work Db :=
  executorStep (executorData 1 [boundAgent]) { initialWork with
    store := { configured with capacitySources := .empty, capacityPolicies := .empty } }

/-- The agent has a capacity policy. -/
def coveredWork : Work Db := capacityStep (capacityData "cap" 1 ["a"]) boundWork

/-- The next executor catalog binds no agent. -/
def wedgedWork : Work Db := executorStep (executorData 2 []) coveredWork

theorem reachable_boundWork : CatalogReachable ⟨boundWork, []⟩ :=
  reachable_executorStep _ (.single (.other rfl))

theorem reachable_coveredWork : CatalogReachable ⟨coveredWork, []⟩ :=
  reachable_capacityStep _ reachable_boundWork

def capacitySource : CapacitySourceRow :=
  ⟨"cap", 1, capacityCatalog.catalogHash, some "/c", "2025-01-01T00:00:00Z"⟩

theorem reachable_wedgedWork : CatalogReachable ⟨wedgedWork, []⟩ :=
  reachable_executorStep _ reachable_coveredWork

theorem sample_tables : coveredWork.store.capacitySources.rows = [capacitySource] ∧
    coveredWork.store.capacityPolicies.rows.map (·.agentId) = ["a"] ∧
    coveredWork.store.bindings.rows.map (·.agentId) = ["a"] ∧
    wedgedWork.store.capacitySources.rows = [capacitySource] ∧
    wedgedWork.store.capacityPolicies.rows.map (·.agentId) = ["a"] ∧
    wedgedWork.store.bindings.rows = [] ∧ wedgedWork.store.leases.rows = [] ∧
    coveredWork.store.leases.rows = [] ∧
    (parseCapacityCatalog "/c" (capacityData "cap" 1 ["a"])).isOk = true ∧
    boundWork.store.capacityPolicies.rows = [] := by
  decide +kernel

/-- The covered agent's source has a next version. -/
theorem capacity_successor_exists : ∃ path data catalog sourcePath result session,
    parseCapacityCatalog path data = .ok catalog ∧ catalog.sourceId = capacitySource.sourceId ∧
    capacitySource.sourceVersion < catalog.sourceVersion ∧
    alone (syncCapacityCatalog catalog sourcePath) coveredWork = .ok result session := by
  obtain ⟨sources, policies, bindings, _, _, _, _, leases, _⟩ := sample_tables
  have released : ∀ lease ∈ coveredWork.store.leases, lease.status ≠ .active := by
    intro lease member
    rw [Table.mem_def, leases] at member
    cases member
  have member : capacitySource ∈ coveredWork.store.capacitySources := by
    rw [Table.mem_def, sources]
    exact List.mem_singleton.mpr rfl
  refine (capacity_successor_iff reachable_coveredWork released member).1.mpr
    ⟨fun row rowMember => ?_, by decide⟩
  have agent : row.agentId ∈ coveredWork.store.bindings.rows.map (·.agentId) := by
    rw [bindings, ← policies]
    exact List.mem_map_of_mem rowMember
  exact List.mem_map.mp agent

/-- When the executor catalog has dropped the binding of an agent with a capacity policy, no next
version of its source is accepted. -/
theorem dropped_binding_wedges : CatalogReachable ⟨wedgedWork, []⟩ ∧
    (∀ lease ∈ wedgedWork.store.leases, lease.status ≠ .active) ∧
    capacitySource ∈ wedgedWork.store.capacitySources ∧
    ¬ ∃ catalog sourcePath result session, catalog.sourceId = capacitySource.sourceId ∧
      capacitySource.sourceVersion < catalog.sourceVersion ∧
      alone (syncCapacityCatalog catalog sourcePath) wedgedWork = .ok result session := by
  obtain ⟨_, _, _, sources, policies, bindings, leases, _⟩ := sample_tables
  refine ⟨reachable_wedgedWork, fun lease member => ?_, ?_, ?_⟩
  · rw [Table.mem_def, leases] at member
    cases member
  · rw [Table.mem_def, sources]
    exact List.mem_singleton.mpr rfl
  · rintro ⟨catalog, sourcePath, result, session, _, _, ran⟩
    obtain ⟨row, member, _⟩ : ∃ row ∈ wedgedWork.store.capacityPolicies.rows, row.agentId = "a" :=
      List.mem_map.mp (policies ▸ List.mem_singleton.mpr rfl)
    refine no_sync_of_untyped member (fun ⟨binding, bound, _⟩ => ?_) catalog sourcePath result session
      ran
    rw [Table.mem_def, bindings] at bound
    cases bound

/-- The first sync of the installation covers its agent. -/
theorem capacity_sync_covers : ∃ result session catalog,
    alone (syncCapacityCatalog catalog none) boundWork = .ok result session ∧
    ∀ binding ∈ session.settle.store.bindings, binding.enabled = true →
      ∃! policy, policy ∈ session.settle.store.capacityPolicies ∧
        policy.agentId = binding.agentId := by
  obtain ⟨_, policies, _, _, _, _, _, _, parses, uncovered⟩ := sample_tables
  cases parsed : parseCapacityCatalog "/c" (capacityData "cap" 1 ["a"]) with
  | error e => simp [parsed, Except.isOk, Except.toBool] at parses
  | ok catalog =>
    have reached : coveredWork =
        (alone (syncCapacityCatalog catalog none) boundWork).final.settle := by
      rw [coveredWork, capacityStep, parsed]
    cases ran : alone (syncCapacityCatalog catalog none) boundWork with
    | error e session =>
      rw [reached, ran, EStateM.Result.final_error, alone_error ran, uncovered] at policies
      cases policies
    | ok result session =>
      exact ⟨result, session, catalog, ran,
        (capacity_sync_stable sha256_injective reachable_boundWork parsed ran).2.2⟩

end Catalogs

end Sample

end Coordinate

import Coordinate.Model.ExecutorRouting
import Coordinate.Proofs.Statements
import Mathlib.Data.Prod.Lex
import Mathlib.Data.String.Basic

/-! # The candidates of a routing request

The filters of a candidate as one predicate, the policy order as a linear order of keys, and what the
candidates of a store are: those of the enabled bindings that pass, in policy order, whatever the order of
the rows.
-/

namespace Coordinate

section Sorting

variable {α : Type} {before : α → α → Bool}

/-- Inserting keeps a list strictly sorted, if the item compares with all of it. -/
theorem pairwise_insert_sortBy (trans : ∀ a b c, before a b = true → before b c = true → before a c = true)
    {item : α} : ∀ {kept : List α}, (∀ other ∈ kept, before other item = true ∨ before item other = true) →
      kept.Pairwise (before · · = true) → (sortBy.insert before item kept).Pairwise (before · · = true)
  | [], _, _ => List.pairwise_singleton _ _
  | head :: tail, compares, sorted => by
    obtain ⟨first, later⟩ := List.pairwise_cons.mp sorted
    obtain ⟨own, others⟩ := List.forall_mem_cons.mp compares
    unfold sortBy.insert
    split
    · rename_i behind
      refine List.pairwise_cons.mpr ⟨fun other member => ?_, pairwise_insert_sortBy trans others later⟩
      rcases mem_insert_sortBy.mp member with rfl | inTail
      · exact behind
      · exact first other inTail
    · rename_i ahead
      have ahead : before item head = true := own.resolve_left ahead
      refine List.pairwise_cons.mpr ⟨List.forall_mem_cons.mpr ⟨ahead, fun other member => ?_⟩, sorted⟩
      exact trans _ _ _ ahead (first other member)

/-- Sorting what is pairwise comparable gives a strictly sorted list. -/
theorem pairwise_sortBy (trans : ∀ a b c, before a b = true → before b c = true → before a c = true) :
    ∀ {items : List α}, items.Pairwise (fun a b => before b a = true ∨ before a b = true) →
      (sortBy before items).Pairwise (before · · = true)
  | [], _ => .nil
  | item :: rest, compares => by
    obtain ⟨own, others⟩ := List.pairwise_cons.mp compares
    refine pairwise_insert_sortBy trans (fun other member => ?_) (pairwise_sortBy trans others)
    exact own other (mem_sortBy.mp member)

/-- What is pairwise comparable has one sorted order. -/
theorem sortBy_perm_eq (trans : ∀ a b c, before a b = true → before b c = true → before a c = true)
    (irrefl : ∀ a, before a a = false) {items items' : List α} (perm : items.Perm items')
    (compares : items.Pairwise fun a b => before b a = true ∨ before a b = true)
    (compares' : items'.Pairwise fun a b => before b a = true ∨ before a b = true) :
    sortBy before items = sortBy before items' := by
  refine List.Perm.eq_of_pairwise (fun a b _ _ first second => ?_) (pairwise_sortBy trans compares)
    (pairwise_sortBy trans compares') ((sortBy_perm items).trans (perm.trans (sortBy_perm items').symm))
  have loop := trans a b a first second
  rw [irrefl] at loop
  cases loop

end Sorting

section Order

/-- `Candidate.sort_key`. -/
def Candidate.sortKey (c : Candidate) : ℕ ×ₗ ℕ ×ₗ String ×ₗ String :=
  toLex (c.hostRank, toLex (c.routingLoad, toLex (c.binding.executorDefinitionId, c.agentId)))

/-- The policy order compares the keys. -/
theorem Candidate.before_iff (a b : Candidate) : a.before b = true ↔ a.sortKey < b.sortKey := by
  simp [Candidate.before, Candidate.sortKey, Prod.Lex.toLex_lt_toLex]

theorem Candidate.before_trans (a b c : Candidate) (first : a.before b = true) (second : b.before c = true) :
    a.before c = true := by
  rw [Candidate.before_iff] at first second ⊢
  exact first.trans second

theorem Candidate.before_irrefl (a : Candidate) : a.before a = false := by
  rw [← Bool.not_eq_true, Candidate.before_iff]
  exact lt_irrefl _

/-- Candidates of different agents compare. -/
theorem Candidate.before_total {a b : Candidate} (apart : a.agentId ≠ b.agentId) :
    b.before a = true ∨ a.before b = true := by
  rw [Candidate.before_iff, Candidate.before_iff]
  refine lt_or_gt_of_ne fun same => apart ?_
  have parts := congrArg (fun key => (ofLex (ofLex (ofLex key).2).2).2) same
  exact parts.symm

end Order

section Filters

variable [Platform] {db : Db} {current : Nat} {workspaceId : String} {effective : List String}
  {row : BindingRow} {request : RoutingRequest} {candidate : Candidate}

/-- The filters that a binding passes, and what its candidate says of it. -/
structure Eligible (db : Db) (current : Nat) (workspaceId : String) (effective : List String)
    (request : RoutingRequest) (row : BindingRow) (candidate : Candidate) : Prop where
  authorized : row.agentId ∈ effective
  agent : ∃ agent, getAgent db row.agentId = some agent ∧ agent.clientType = some "agentd" ∧
    agent.onlineState = "online" ∧ isAgentLivenessFresh agent.lastSeenAt current = true ∧
    agent.hostId = some candidate.hostId ∧ candidate.onlineState = agent.onlineState ∧
    candidate.lastSeenAt = agent.lastSeenAt
  placed : candidate.hostId ≠ ""
  profile : ∃ profile, getWorkspaceHostProfile db workspaceId candidate.hostId = .ok (some profile)
  runner : ∃ runner, getRunnerProfile db row.runnerProfileId = .ok (some runner) ∧
    runner.runnerType = "agentd"
  binding : resolveExactExecutorBinding db row.agentId = .ok (some candidate.binding)
  definition : ∀ definitionId, request.executorDefinitionId = some definitionId →
    candidate.binding.executorDefinitionId = definitionId
  capabilities : ∀ capability ∈ request.requiredCapabilities,
    .str capability ∈ candidate.binding.capabilities
  agentId : candidate.agentId = row.agentId
  runnerProfileId : candidate.runnerProfileId = row.runnerProfileId
  bindingId : candidate.bindingId = candidate.binding.bindingId
  routingLoad : candidate.routingLoad = computeRoutingLoad db row.agentId
  hostRank : candidate.hostRank = if request.preferredHostId.all (· = candidate.hostId) then 0 else 1
  preferredHost : candidate.preferredHost = decide (request.preferredHostId = some candidate.hostId)

omit [Platform] in
/-- A filter that has not sorted a binding out. -/
theorem passes_iff {α : Type} {fails : Prop} [Decidable fails] {rest : Except Exn (Option α)} {found : α} :
    (if fails then pure none else rest) = .ok (some found) ↔ ¬ fails ∧ rest = .ok (some found) := by
  split
  · rename_i fails
    refine iff_of_false (fun ran => ?_) (fun ran => ran.1 fails)
    cases ran
  · rename_i passes
    exact (and_iff_right passes).symm

/-- **A binding has a candidate exactly if it passes the filters.** -/
theorem resolveCandidate_some :
    resolveCandidate db current workspaceId effective row request = .ok (some candidate) ↔
      Eligible db current workspaceId effective request row candidate := by
  unfold resolveCandidate
  rw [passes_iff, not_not]
  constructor
  · rintro ⟨authorized, ran⟩
    split at ran
    · cases ran
    rename_i agent found
    obtain ⟨online, ran⟩ := passes_iff.mp ran
    obtain ⟨fresh, ran⟩ := passes_iff.mp ran
    split at ran
    · cases ran
    · cases ran
    rename_i hostId placed hosted
    obtain ⟨profile, profiled, ran⟩ := Except.bind_ok.mp ran
    obtain ⟨known, ran⟩ := passes_iff.mp ran
    obtain ⟨answer, answered, ran⟩ := Except.bind_ok.mp ran
    split at ran
    · cases ran
    rename_i runner
    obtain ⟨isAgentd, ran⟩ := passes_iff.mp ran
    split at ran
    · cases ran
    · cases ran
    · cases ran
    rename_i binding resolved
    obtain ⟨named, ran⟩ := passes_iff.mp ran
    obtain ⟨able, ran⟩ := passes_iff.mp ran
    cases ran
    obtain ⟨client, state⟩ := not_or.mp online
    cases profile with
    | none => exact absurd rfl known
    | some profile =>
      refine ⟨authorized, ⟨agent, found, not_not.mp client, not_not.mp state, by simpa using fresh, hosted,
        rfl, rfl⟩, placed, ⟨profile, profiled⟩, ⟨runner, answered, not_not.mp isAgentd⟩, resolved, ?_, ?_,
        rfl, rfl, rfl, rfl, rfl, rfl⟩
      · intro definitionId given
        rw [given, Option.any_some, decide_eq_true_eq, not_not] at named
        exact named.symm
      · simpa using able
  · rintro ⟨authorized, ⟨agent, found, client, state, fresh, hosted, stateOf, seenOf⟩, placed,
      ⟨profile, profiled⟩, ⟨runner, answered, isAgentd⟩, resolved, named, able, agentId, runnerProfileId,
      bindingId, load, rank, preferred⟩
    refine ⟨authorized, ?_⟩
    rw [found]
    dsimp only
    rw [passes_iff, passes_iff, hosted]
    refine ⟨by simp [client, state], by simp [fresh], ?_⟩
    split
    · rename_i other
      cases other
    · rename_i other
      exact absurd (Option.some.inj other) placed
    · rename_i other same
      obtain rfl := Option.some.inj same
      refine Except.bind_ok.mpr ⟨some profile, profiled, ?_⟩
      rw [passes_iff]
      refine ⟨by simp, Except.bind_ok.mpr ⟨some runner, answered, ?_⟩⟩
      dsimp only
      rw [passes_iff, resolved]
      dsimp only
      rw [passes_iff, passes_iff]
      refine ⟨by simp [isAgentd], ?_, ?_, ?_⟩
      · cases wanted : request.executorDefinitionId with
        | none => simp
        | some definitionId => simp [named definitionId wanted]
      · simpa using able
      · refine congrArg (fun found => Except.ok (some found)) ?_
        cases candidate
        dsimp only at *
        rw [agentId, runnerProfileId, bindingId, load, rank, preferred, stateOf, seenOf]

end Filters

section Candidates

variable [Platform] {db : Db} {current : Nat} {workspaceId : String} {effective : List String}
  {request : RoutingRequest} {rows : List BindingRow} {candidates : List Candidate}

/-- The candidate of a binding, if there is one. -/
def candidateOf (db : Db) (current : Nat) (workspaceId : String) (effective : List String)
    (request : RoutingRequest) (row : BindingRow) : Option Candidate :=
  (resolveCandidate db current workspaceId effective row request).toOption.join

theorem candidateOf_eq_some {row : BindingRow} {candidate : Candidate} :
    candidateOf db current workspaceId effective request row = some candidate ↔
      Eligible db current workspaceId effective request row candidate := by
  rw [← resolveCandidate_some, candidateOf]
  cases resolveCandidate db current workspaceId effective row request with
  | error error => simp [Except.toOption]
  | ok answer => simp [Except.toOption]

/-- The candidates of a list of bindings, if none of the lookups raises. -/
theorem collectCandidates_ok :
    collectCandidates db current workspaceId effective request rows = .ok candidates ↔
      (∀ row ∈ rows, ∃ answer, resolveCandidate db current workspaceId effective row request = .ok answer) ∧
        candidates = rows.filterMap (candidateOf db current workspaceId effective request) := by
  induction rows generalizing candidates with
  | nil => simp [collectCandidates, pure, Except.pure, eq_comm]
  | cons row rest ih =>
    rw [collectCandidates, Except.bind_ok, List.forall_mem_cons]
    constructor
    · rintro ⟨answer, resolved, ran⟩
      obtain ⟨later, collected, ran⟩ := Except.bind_ok.mp ran
      cases ran
      obtain ⟨others, rfl⟩ := ih.mp collected
      refine ⟨⟨⟨answer, resolved⟩, others⟩, ?_⟩
      rw [List.filterMap_cons, candidateOf, resolved]
      cases answer <;> rfl
    · rintro ⟨⟨⟨answer, resolved⟩, others⟩, rfl⟩
      refine ⟨answer, resolved, Except.bind_ok.mpr ⟨_, ih.mpr ⟨others, rfl⟩, ?_⟩⟩
      rw [List.filterMap_cons, candidateOf, resolved]
      cases answer <;> rfl

/-- Bindings of different agents have candidates of different agents. -/
theorem candidates_distinct (distinct : rows.Pairwise fun a b => a.agentId ≠ b.agentId) :
    (rows.filterMap (candidateOf db current workspaceId effective request)).Pairwise
      fun a b => a.agentId ≠ b.agentId := by
  refine List.pairwise_filterMap.mpr (distinct.imp fun {a b} apart => ?_)
  intro first own second other same
  apply apart
  rw [← (candidateOf_eq_some.mp own).agentId, ← (candidateOf_eq_some.mp other).agentId, same]

end Candidates

section Shuffles

variable [Platform] {db db' : Db}

/-- The same rows in another order. -/
structure Shuffled (db db' : Db) : Prop where
  workspaces : db.workspaces.rows.Perm db'.workspaces.rows
  hostProfiles : db.hostProfiles.rows.Perm db'.hostProfiles.rows
  agents : db.agents.rows.Perm db'.agents.rows
  runnerProfiles : db.runnerProfiles.rows.Perm db'.runnerProfiles.rows
  catalogSources : db.catalogSources.rows.Perm db'.catalogSources.rows
  definitions : db.definitions.rows.Perm db'.definitions.rows
  bindings : db.bindings.rows.Perm db'.bindings.rows
  jobs : db.jobs.rows.Perm db'.jobs.rows
  registryEntries : db.registryEntries = db'.registryEntries

omit [Platform] in
/-- A lookup by a unique key does not depend on the order of the rows. -/
theorem find?_shuffled {Row : Type} {schema : Schema Row} {table table' : Table schema} {p : Row → Bool}
    (perm : table.rows.Perm table'.rows)
    (unique : ∀ a b, p a = true → p b = true → schema.clash a b = true) :
    table.find? p = table'.find? p := by
  cases found : table'.find? p with
  | none =>
    refine List.find?_eq_none.mpr fun row member holds => ?_
    have fails := Table.find?_none found row (perm.mem_iff.mp member)
    rw [holds] at fails
    cases fails
  | some row =>
    obtain ⟨member, holds⟩ := Table.find?_some found
    exact Table.find?_eq_some_of_mem (perm.mem_iff.mpr member) holds fun other _ passes =>
      unique other row passes holds

/-- What is looked up for a binding is the same. -/
theorem resolveCandidate_shuffled (shuffled : Shuffled db db') (current : Nat) (workspaceId : String)
    (effective : List String) (row : BindingRow) (request : RoutingRequest) :
    resolveCandidate db current workspaceId effective row request =
      resolveCandidate db' current workspaceId effective row request := by
  have agents : ∀ agentId, getAgent db agentId = getAgent db' agentId := fun agentId =>
    find?_shuffled shuffled.agents fun a b own other => by simp_all [keyedBy]
  have profiles : ∀ hostId, getWorkspaceHostProfile db workspaceId hostId =
      getWorkspaceHostProfile db' workspaceId hostId := by
    intro hostId
    unfold getWorkspaceHostProfile
    rw [find?_shuffled shuffled.hostProfiles fun a b own other => by simp_all [keyedBy]]
  have runners : ∀ profileId, db.runnerProfiles.find? (·.id = profileId) =
      db'.runnerProfiles.find? (·.id = profileId) := fun profileId =>
    find?_shuffled shuffled.runnerProfiles fun a b own other => by simp_all [keyedBy]
  have bindings : ∀ agentId, db.bindings.find? (·.agentId = agentId) =
      db'.bindings.find? (·.agentId = agentId) := fun agentId =>
    find?_shuffled shuffled.bindings fun a b own other => by simp_all [keyedBy]
  have definitions : ∀ definitionId sourceId,
      (db.definitions.find? fun row => row.id = definitionId && row.sourceId = sourceId) =
        db'.definitions.find? fun row => row.id = definitionId && row.sourceId = sourceId :=
    fun definitionId sourceId =>
      find?_shuffled shuffled.definitions fun a b own other => by simp_all [keyedBy]
  have sources : ∀ sourceId, db.catalogSources.find? (·.sourceId = sourceId) =
      db'.catalogSources.find? (·.sourceId = sourceId) := fun sourceId =>
    find?_shuffled shuffled.catalogSources fun a b own other => by simp_all [keyedBy]
  have loads : computeRoutingLoad db row.agentId = computeRoutingLoad db' row.agentId :=
    (shuffled.jobs.filter _).length_eq
  have resolved : resolveExactExecutorBinding db row.agentId = resolveExactExecutorBinding db' row.agentId := by
    unfold resolveExactExecutorBinding
    simp only [bindings, runners, definitions, sources]
  have runner : getRunnerProfile db row.runnerProfileId = getRunnerProfile db' row.runnerProfileId := by
    unfold getRunnerProfile
    rw [runners]
  unfold resolveCandidate
  simp only [agents, profiles, resolved, runner, loads]

end Shuffles

end Coordinate

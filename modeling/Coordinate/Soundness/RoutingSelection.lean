import Coordinate.Model.Installation
import Coordinate.Proofs.ExecutorRouting

/-! # Routing selects the least candidate, whatever the order of the rows

The decision of a routed request depends on the rows of the store and not on their order. It selects the
least of the eligible candidates, or the one that the operator names, and records all of them, and nothing
of the bindings that are not eligible. More candidates than the cap are refused.
-/

namespace Coordinate

section Selection

variable [Platform] {db db' : Db} {current : Nat} {workspaceId : String} {request : RoutingRequest}
  {candidates : List Candidate}

/-- Resolving the candidates of a request and selecting one of them. -/
def routeRequest (db : Db) (current : Nat) (workspaceId : String) (request : RoutingRequest) :
    Except Exn RoutingDecision := do
  let candidates ← resolveRoutingCandidates db current workspaceId request
  orRaise Exn.routing (selectRoutingDecision request candidates)

/-- A binding of the store that routing considers. -/
def Considered (db : Db) (row : BindingRow) : Prop := row ∈ db.bindings ∧ row.enabled = true

/-- A candidate of one of the bindings that are considered. -/
def IsCandidate (db : Db) (current : Nat) (workspaceId : String) (request : RoutingRequest)
    (candidate : Candidate) : Prop :=
  ∃ effective row, resolveEffectiveAgents db workspaceId (Calendar.isoformat current) = .ok effective ∧
    Considered db row ∧
    Eligible db current workspaceId (effective.map (·.agentName)) request row candidate

omit [Platform] in
theorem enabled_distinct (db : Db) :
    (db.bindings.filter (·.enabled)).Pairwise fun a b => a.agentId ≠ b.agentId :=
  (db.bindings.distinct.imp fun apart => of_decide_eq_false apart).filter _

theorem resolveRoutingCandidates_ok :
    resolveRoutingCandidates db current workspaceId request = .ok candidates ↔
      (getWorkspace db workspaceId).isSome = true ∧
      ∃ effective, resolveEffectiveAgents db workspaceId (Calendar.isoformat current) = .ok effective ∧
        (∀ row ∈ db.bindings.filter (·.enabled), ∃ answer, resolveCandidate db current workspaceId
          (effective.map (·.agentName)) row request = .ok answer) ∧
        candidates = sortBy Candidate.before ((db.bindings.filter (·.enabled)).filterMap
          (candidateOf db current workspaceId (effective.map (·.agentName)) request)) := by
  unfold resolveRoutingCandidates
  simp only [Except.bind_ok, raiseIf_except_ok, collectCandidates_ok]
  constructor
  · rintro ⟨_, known, effective, resolved, _, ⟨answers, rfl⟩, same⟩
    exact ⟨by simpa [Option.isSome_iff_ne_none] using known, effective, resolved, answers,
      (Except.ok.inj same).symm⟩
  · rintro ⟨known, effective, resolved, answers, rfl⟩
    exact ⟨(), by simpa [Option.isSome_iff_ne_none] using known, effective, resolved, _, ⟨answers, rfl⟩, rfl⟩

/-- **The candidates do not depend on the order of the rows.** -/
theorem resolveRoutingCandidates_shuffled (shuffled : Shuffled db db')
    (resolved : resolveRoutingCandidates db current workspaceId request = .ok candidates) :
    resolveRoutingCandidates db' current workspaceId request = .ok candidates := by
  obtain ⟨known, effective, authorized, answers, rfl⟩ := resolveRoutingCandidates_ok.mp resolved
  have perm : (db.bindings.filter (·.enabled)).Perm (db'.bindings.filter (·.enabled)) :=
    shuffled.bindings.filter _
  have same : candidateOf db current workspaceId (effective.map (·.agentName)) request =
      candidateOf db' current workspaceId (effective.map (·.agentName)) request := by
    funext row
    rw [candidateOf, candidateOf, resolveCandidate_shuffled shuffled]
  refine resolveRoutingCandidates_ok.mpr ⟨?_, effective, ?_, fun row member => ?_, ?_⟩
  · rw [getWorkspace, ← find?_shuffled shuffled.workspaces fun a b own other => by simp_all [keyedBy]]
    exact known
  · rw [← authorized]
    unfold resolveEffectiveAgents effectiveEntries
    rw [shuffled.registryEntries]
  · obtain ⟨answer, found⟩ := answers row (perm.mem_iff.mpr member)
    exact ⟨answer, by rw [← resolveCandidate_shuffled shuffled, found]⟩
  · rw [same]
    refine sortBy_perm_eq Candidate.before_trans Candidate.before_irrefl (perm.filterMap _) ?_ ?_
    · rw [← same]
      exact (candidates_distinct (enabled_distinct db)).imp Candidate.before_total
    · exact (candidates_distinct (enabled_distinct db')).imp Candidate.before_total

omit [Platform] in
theorem Shuffled.symm (shuffled : Shuffled db db') : Shuffled db' db :=
  ⟨shuffled.workspaces.symm, shuffled.hostProfiles.symm, shuffled.agents.symm,
    shuffled.runnerProfiles.symm, shuffled.catalogSources.symm, shuffled.definitions.symm,
    shuffled.bindings.symm, shuffled.jobs.symm, shuffled.registryEntries.symm⟩

theorem mem_candidates (resolved : resolveRoutingCandidates db current workspaceId request = .ok candidates)
    (candidate : Candidate) :
    candidate ∈ candidates ↔ IsCandidate db current workspaceId request candidate := by
  obtain ⟨-, effective, authorized, -, rfl⟩ := resolveRoutingCandidates_ok.mp resolved
  simp only [mem_sortBy, List.mem_filterMap, candidateOf_eq_some, Table.mem_filter, IsCandidate, Considered]
  constructor
  · rintro ⟨row, considered, eligible⟩
    exact ⟨effective, row, authorized, considered, eligible⟩
  · rintro ⟨other, row, again, considered, eligible⟩
    cases authorized.symm.trans again
    exact ⟨row, considered, eligible⟩

theorem candidates_sorted
    (resolved : resolveRoutingCandidates db current workspaceId request = .ok candidates) :
    candidates.Pairwise (fun a b => a.sortKey < b.sortKey) ∧ (candidates.map (·.agentId)).Nodup := by
  obtain ⟨-, effective, -, -, rfl⟩ := resolveRoutingCandidates_ok.mp resolved
  have distinct := @candidates_distinct _ db current workspaceId (effective.map (·.agentName)) request _
    (enabled_distinct db)
  refine ⟨?_, ?_⟩
  · refine (pairwise_sortBy Candidate.before_trans (distinct.imp Candidate.before_total)).imp ?_
    intro a b before
    exact (Candidate.before_iff a b).mp before
  · refine List.Perm.nodup_iff ((sortBy_perm _).map _) |>.mpr ?_
    exact List.pairwise_map.mpr distinct

omit [Platform] in
/-- What is selected of the candidates. -/
theorem selectRoutingDecision_ok {decision : RoutingDecision} :
    selectRoutingDecision request candidates = .ok decision ↔ candidates.length ≤ maxCandidates ∧
      ((request.operatorOverrideAgentId = none ∧ ∃ first, candidates.head? = some first ∧
          decision = ⟨request.routingRequestId, .automatic, first, candidates⟩) ∨
        ∃ override selected, request.operatorOverrideAgentId = some override ∧
          candidates.find? (·.agentId = override) = some selected ∧
          decision = ⟨request.routingRequestId, .operatorOverride, selected, candidates⟩) := by
  unfold selectRoutingDecision
  rw [Except.bind_ok]
  constructor
  · rintro ⟨_, bounded, ran⟩
    have bounded := not_lt.mp (raiseIf_except_ok.mp bounded)
    refine ⟨bounded, ?_⟩
    cases candidates with
    | nil => cases ran
    | cons first rest =>
      dsimp only at ran
      split at ran
      · rename_i free
        cases ran
        exact .inl ⟨free, first, rfl, rfl⟩
      · rename_i override named
        split at ran
        · cases ran
        · rename_i selected found
          cases ran
          exact .inr ⟨override, selected, named, found, rfl⟩
  · rintro ⟨bounded, ends⟩
    refine ⟨(), raiseIf_except_ok.mpr (not_lt.mpr bounded), ?_⟩
    rcases ends with ⟨free, first, starts, rfl⟩ | ⟨override, selected, named, found, rfl⟩
    · cases candidates with
      | nil => cases starts
      | cons head rest =>
        cases starts
        simp only [free]
        rfl
    · cases candidates with
      | nil => cases found
      | cons head rest =>
        simp only [named, found]
        rfl

omit [Platform] in
/-- The smallest of a sorted list is its first. -/
theorem head_least {first : Candidate} (sorted : candidates.Pairwise fun a b => a.sortKey < b.sortKey)
    (starts : candidates.head? = some first) :
    first ∈ candidates ∧ ∀ other ∈ candidates, first.sortKey ≤ other.sortKey := by
  cases candidates with
  | nil => cases starts
  | cons head rest =>
    cases starts
    refine ⟨List.mem_cons_self .., List.forall_mem_cons.mpr ⟨le_rfl, fun other member => ?_⟩⟩
    exact ((List.pairwise_cons.mp sorted).1 other member).le

/-- **Routing selects the least candidate, whatever the order of the rows.** The decision of a store is that
of every store with the same rows in another order. Of the candidates that are resolved, which are those of
the considered bindings that pass the filters, one of each agent and in policy order, a decision records all
and nothing else. Without an override there is a decision exactly if there are candidates and no more than
the cap, and it selects the least of them in the lexicographic order of host rank, load, definition and
agent. With an override there is one exactly if the named agent is among the candidates, and there are no
more than the cap, and it selects that agent. -/
theorem routing_selection :
    (∀ db', Shuffled db db' → (routeRequest db current workspaceId request).toOption =
      (routeRequest db' current workspaceId request).toOption) ∧
    ∀ candidates, resolveRoutingCandidates db current workspaceId request = .ok candidates →
      (∀ candidate, candidate ∈ candidates ↔ IsCandidate db current workspaceId request candidate) ∧
      (candidates.map (·.agentId)).Nodup ∧ candidates.Pairwise (fun a b => a.sortKey < b.sortKey) ∧
      (∀ decision, routeRequest db current workspaceId request = .ok decision →
        decision.eligibleCandidates = candidates) ∧
      (request.operatorOverrideAgentId = none →
        ((∃ decision, routeRequest db current workspaceId request = .ok decision) ↔
          candidates ≠ [] ∧ candidates.length ≤ maxCandidates) ∧
        ∀ decision, routeRequest db current workspaceId request = .ok decision →
          decision.selected ∈ candidates ∧
            ∀ other ∈ candidates, decision.selected.sortKey ≤ other.sortKey) ∧
      ∀ override, request.operatorOverrideAgentId = some override →
        ((∃ decision, routeRequest db current workspaceId request = .ok decision) ↔
          (∃ candidate ∈ candidates, candidate.agentId = override) ∧
            candidates.length ≤ maxCandidates) ∧
        ∀ decision, routeRequest db current workspaceId request = .ok decision →
          decision.selected ∈ candidates ∧ decision.selected.agentId = override := by
  refine ⟨fun db' shuffled => ?_, fun candidates resolved => ?_⟩
  · cases found : resolveRoutingCandidates db current workspaceId request with
    | ok candidates =>
      unfold routeRequest
      rw [found, resolveRoutingCandidates_shuffled shuffled found]
    | error error =>
      cases other : resolveRoutingCandidates db' current workspaceId request with
      | ok candidates =>
        have again := resolveRoutingCandidates_shuffled shuffled.symm other
        cases found.symm.trans again
      | error error' =>
        unfold routeRequest
        rw [found, other]
        rfl
  · obtain ⟨sorted, distinct⟩ := candidates_sorted resolved
    have routed : ∀ decision, routeRequest db current workspaceId request = .ok decision ↔
        selectRoutingDecision request candidates = .ok decision := by
      intro decision
      rw [routeRequest, resolved, Except.bind_ok]
      simp only [Except.ok.injEq, exists_eq_left', orRaise_except_ok]
    simp only [routed, selectRoutingDecision_ok]
    refine ⟨mem_candidates resolved, distinct, sorted, ?_, fun free => ⟨⟨?_, ?_⟩, ?_⟩,
      fun override named => ⟨⟨?_, ?_⟩, ?_⟩⟩
    · rintro decision ⟨-, ⟨-, _, -, rfl⟩ | ⟨_, _, -, -, rfl⟩⟩
      · rfl
      · rfl
    · rintro ⟨decision, bounded, ⟨-, first, starts, -⟩ | ⟨_, _, named, -, -⟩⟩
      · refine ⟨?_, bounded⟩
        rintro rfl
        cases starts
      · cases free.symm.trans named
    · rintro ⟨nonempty, bounded⟩
      obtain ⟨first, rest, rfl⟩ := List.exists_cons_of_ne_nil nonempty
      exact ⟨_, bounded, .inl ⟨free, first, rfl, rfl⟩⟩
    · rintro decision ⟨-, ⟨-, first, starts, rfl⟩ | ⟨_, _, named, -, -⟩⟩
      · exact head_least sorted starts
      · cases free.symm.trans named
    · rintro ⟨decision, bounded, ⟨free, -⟩ | ⟨other, selected, same, found, -⟩⟩
      · cases named.symm.trans free
      · cases named.symm.trans same
        have own := List.find?_some found
        exact ⟨⟨selected, List.mem_of_find?_eq_some found, of_decide_eq_true own⟩, bounded⟩
    · rintro ⟨⟨candidate, member, own⟩, bounded⟩
      obtain ⟨selected, found⟩ : ∃ selected, candidates.find? (·.agentId = override) = some selected :=
        Option.isSome_iff_exists.mp (List.find?_isSome.mpr ⟨candidate, member, decide_eq_true own⟩)
      exact ⟨_, bounded, .inr ⟨override, selected, named, found, rfl⟩⟩
    · rintro decision ⟨-, ⟨free, -⟩ | ⟨other, selected, same, found, rfl⟩⟩
      · cases named.symm.trans free
      · cases named.symm.trans same
        have own := List.find?_some found
        exact ⟨List.mem_of_find?_eq_some found, of_decide_eq_true own⟩

end Selection

namespace Sample

/-- Two bindings of the catalog, of which one has an agent. -/
def routed : Db := { configured with
  agents := tableOf
    { id := "a", clientType := some "agentd", onlineState := "online", hostId := some "h"
      lastSeenAt := some 63871286400 }
  registryEntries := tableOf
    { workspaceId := "w", agentName := "a", entryKind := .authoritative, discordUserId := "1"
      displayName := "A", agentType := "worker" }
  catalogSources := tableOf { sourceId := "s", sourceVersion := 1, catalogHash := zeroDigest }
  definitions := tableOf
    { id := "d", sourceId := "s", provider := "p", adapter := "x"
      capabilitiesJson := .value (.arr [.str "code"]) }
  bindings := ⟨[⟨"a", "s", "d", "a", true⟩, ⟨"b", "s", "d", "b", true⟩], by decide, by decide⟩ }

def asksForCode : RoutingRequest := ⟨["code"], none, none, none, none, "sha256:" ++ zeroDigest⟩

/-- The agents of the candidates that a decision records. -/
def recorded : List String :=
  match routeRequest routed 63871286400 "w" asksForCode with
  | .ok decision => decision.eligibleCandidates.map (·.agentId)
  | .error _ => []

/-- A binding that is not eligible is considered, and leaves no trace in the decision. -/
theorem ineligible_unrecorded : ¬ ∀ (db : Db) current workspaceId request decision,
    routeRequest db current workspaceId request = .ok decision → ∀ row, Considered db row →
      ∃ candidate ∈ decision.eligibleCandidates, candidate.agentId = row.agentId := by
  intro complete
  have agents : recorded = ["a"] := by decide +kernel
  unfold recorded at agents
  split at agents
  · rename_i decision ran
    obtain ⟨candidate, member, named⟩ := complete _ _ _ _ decision ran ⟨"b", "s", "d", "b", true⟩
      ⟨List.mem_cons_of_mem _ (List.mem_singleton_self _), rfl⟩
    have present : "b" ∈ decision.eligibleCandidates.map (·.agentId) :=
      List.mem_map.mpr ⟨candidate, member, named⟩
    rw [agents] at present
    exact absurd present (by decide)
  · cases agents

/-- The one candidate is selected. -/
theorem only_candidate_selected : ∃ candidates decision,
    resolveRoutingCandidates routed 63871286400 "w" asksForCode = .ok candidates ∧
      routeRequest routed 63871286400 "w" asksForCode = .ok decision ∧
      decision.selected ∈ candidates ∧ decision.eligibleCandidates = candidates := by
  have agents : recorded = ["a"] := by decide +kernel
  unfold recorded at agents
  split at agents
  · rename_i decision ran
    obtain ⟨candidates, resolved, -⟩ := Except.bind_ok.mp ran
    obtain ⟨-, -, -, records, least, -⟩ :=
      (@routing_selection _ routed 63871286400 "w" asksForCode).2 candidates resolved
    exact ⟨candidates, decision, resolved, ran, ((least rfl).2 decision ran).1, records decision ran⟩
  · cases agents

end Sample

end Coordinate

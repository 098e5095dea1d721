import Coordinate.Library.Roster
import Coordinate.Model.Installation
import Coordinate.Proofs.Registry
import Mathlib.Data.List.Nodup
import Mathlib.Data.String.Basic

/-! # The effective agents of a workspace have distinct ids

The registry entries of a workspace are a roster with expiring overrides (`Roster`), whose keys are
the discord ids as numbers. A write that keeps the roster safe keeps the registry resolvable at every
later time. The checks of the writers look at the texts that are effective when the write happens, so
what they leave to their callers is `RegistryCall.Fits`.
-/

namespace Coordinate

section KeepFirst

variable {α κ : Type} [DecidableEq κ] (key : α → κ)

/-- The rows with the first row of each key. -/
def keepFirst (kept rows : List α) : List α :=
  rows.foldl (fun kept row =>
    if kept.any (fun other => key other = key row) then kept else kept ++ [row]) kept

theorem find?_keepFirst (k : κ) (rows : List α) : ∀ kept, (keepFirst key kept rows).find?
    (fun row => key row = k) = (kept ++ rows).find? fun row => key row = k := by
  induction rows with
  | nil => intro kept; simp [keepFirst]
  | cons row rest ih =>
    intro kept
    change (keepFirst key (if kept.any (fun other => key other = key row) then kept
      else kept ++ [row]) rest).find? _ = _
    rw [ih]
    split
    · rename_i known
      obtain ⟨other, member, same⟩ := List.any_eq_true.mp known
      simp only [List.find?_append, List.find?_cons]
      by_cases chosen : key row = k
      · have found : (kept.find? fun row => key row = k).isSome = true :=
          List.find?_isSome.mpr ⟨other, member, by simpa [chosen] using same⟩
        obtain ⟨first, isFirst⟩ := Option.isSome_iff_exists.mp found
        rw [isFirst]
        rfl
      · simp [chosen]
    · simp

theorem keepFirst_pairwise (rows : List α) : ∀ kept, kept.Pairwise (fun a b => key a ≠ key b) →
    (keepFirst key kept rows).Pairwise fun a b => key a ≠ key b := by
  induction rows with
  | nil => exact fun kept distinct => distinct
  | cons row rest ih =>
    intro kept distinct
    change (keepFirst key (if kept.any (fun other => key other = key row) then kept
      else kept ++ [row]) rest).Pairwise _
    refine ih _ ?_
    split
    · exact distinct
    · rename_i unknown
      refine List.pairwise_append.mpr ⟨distinct, List.pairwise_singleton _ _, ?_⟩
      intro other member fresh isRow same
      rw [List.mem_singleton.mp isRow] at same
      exact unknown (List.any_eq_true.mpr ⟨other, member, decide_eq_true same⟩)

/-- A row is the first one with its key when the keys are distinct. -/
theorem find?_eq_self {rows : List α} (distinct : rows.Pairwise fun a b => key a ≠ key b) {row : α}
    (member : row ∈ rows) : rows.find? (fun other => key other = key row) = some row := by
  induction rows with
  | nil => cases member
  | cons first rest ih =>
    obtain ⟨apart, later⟩ := List.pairwise_cons.mp distinct
    obtain rfl | inRest := List.mem_cons.mp member
    · simp
    · rw [List.find?_cons_of_neg (by simpa using apart row inRest), ih later inRest]

end KeepFirst

section Refinement

variable {entries : RegistryTable} {workspaceId : String}

def RegistryEntryRow.number (row : RegistryEntryRow) : Nat :=
  decimalValue row.discordUserId

/-- The time until which a row with this expiry is in force. -/
def expiryOf : Option String → WithTop String
  | none => ⊤
  | some time => time

/-- The entry of an agent of one kind. -/
def entryOf (entries : RegistryTable) (workspaceId : String) (kind : RegistryEntryKind)
    (name : String) : Option RegistryEntryRow :=
  entries.find? fun row =>
    row.workspaceId = workspaceId && row.agentName = name && row.entryKind = kind

/-- The registry entries of a workspace as a roster of numbers. -/
def rosterOf (entries : RegistryTable) (workspaceId : String) : Roster String Nat String where
  base name := ((entryOf entries workspaceId .authoritative name).or
    (entryOf entries workspaceId .legacy name)).map RegistryEntryRow.number
  override name := (entryOf entries workspaceId .override name).map fun row =>
    (row.number, expiryOf row.expiresAt)

theorem entryOf_eq_some {kind : RegistryEntryKind} {name : String} {row : RegistryEntryRow} :
    entryOf entries workspaceId kind name = some row ↔ row ∈ entries ∧
      row.workspaceId = workspaceId ∧ row.agentName = name ∧ row.entryKind = kind := by
  constructor
  · intro found
    obtain ⟨member, same⟩ := Table.find?_some found
    simp only [Bool.and_eq_true, decide_eq_true_eq] at same
    exact ⟨member, same.1.1, same.1.2, same.2⟩
  · rintro ⟨member, rfl, rfl, rfl⟩
    refine Table.find?_eq_some_of_mem member (by simp) fun other _ same => ?_
    simp only [Bool.and_eq_true, decide_eq_true_eq] at same
    simp [keyedBy, same]

theorem entryOf_eq_none {kind : RegistryEntryKind} {name : String} :
    entryOf entries workspaceId kind name = none ↔ ∀ row ∈ entries,
      row.workspaceId = workspaceId → row.agentName = name → row.entryKind ≠ kind := by
  constructor
  · intro absent row member workspace agent same
    rw [entryOf_eq_some.mpr ⟨member, workspace, agent, same⟩] at absent
    cases absent
  · intro absent
    refine Option.eq_none_iff_forall_ne_some.mpr fun row found => ?_
    obtain ⟨member, workspace, agent, same⟩ := entryOf_eq_some.mp found
    exact absent row member workspace agent same

/-- Whether a row has expired by a time; only overrides do. -/
def expired (time : String) (row : RegistryEntryRow) : Bool :=
  row.entryKind = .override && row.expiresAt.any (· ≤ time)

theorem expired_override {time : String} {row : RegistryEntryRow}
    (override : row.entryKind = .override) :
    expired time row = false ↔ (time : WithTop String) < expiryOf row.expiresAt := by
  cases limit : row.expiresAt with
  | none => simp [expired, limit, expiryOf]
  | some expiry => simp [expired, override, limit, expiryOf]

/-- The live entries of one kind with one name. -/
theorem find?_live (time name : String) (kind : RegistryEntryKind) :
    ((entries.filter fun row => row.workspaceId = workspaceId && !expired time row).filter
      fun row => row.entryKind = kind).find? (fun row => row.agentName = name) =
      (entryOf entries workspaceId kind name).filter fun row => !expired time row := by
  rw [Table.filter, List.find?_filter, List.find?_filter]
  cases found : entryOf entries workspaceId kind name with
  | none =>
    have absent := entryOf_eq_none.mp found
    simp only [Option.filter_none, List.find?_eq_none]
    intro row member chosen
    simp only [Bool.and_eq_true, decide_eq_true_eq] at chosen
    exact absent row member chosen.1.1 chosen.2.2 chosen.2.1
  | some row =>
    obtain ⟨member, workspace, agent, same⟩ := entryOf_eq_some.mp found
    have unique : ∀ other ∈ entries, other.workspaceId = workspaceId → other.agentName = name →
        other.entryKind = kind → other = row := fun other otherMember first second third =>
      Table.eq_of_clash otherMember member (by simp [keyedBy, first, second, third, workspace, agent,
        same])
    cases dead : expired time row with
    | true =>
      simp only [Option.filter_some, dead, Bool.not_true, Bool.false_eq_true, ↓reduceIte,
        List.find?_eq_none]
      intro other otherMember chosen
      simp only [Bool.and_eq_true, decide_eq_true_eq, Bool.not_eq_true'] at chosen
      rw [unique other otherMember chosen.1.1 chosen.2.2 chosen.2.1, dead] at chosen
      exact absurd chosen.1.2 (by decide)
    | false =>
      simp only [Option.filter_some, dead, Bool.not_false, ↓reduceIte]
      refine Table.find?_eq_some_of_mem member (by simp [workspace, agent, same, dead]) ?_
      intro other otherMember chosen
      simp only [Bool.and_eq_true, decide_eq_true_eq, Bool.not_eq_true'] at chosen
      rw [unique other otherMember chosen.1.1 chosen.2.2 chosen.2.1]
      simp [keyedBy]

theorem effectiveEntries_eq (db : Db) (workspaceId time : String) :
    effectiveEntries db workspaceId time =
      let live := db.registryEntries.filter fun row =>
        row.workspaceId = workspaceId && !expired time row
      keepFirst RegistryEntryRow.agentName [] (live.filter (·.entryKind = .override) ++
        live.filter (·.entryKind = .authoritative) ++ live.filter (·.entryKind = .legacy)) := rfl

/-- The effective entry of a name shows the number that the roster shows. -/
theorem visible_rosterOf (db : Db) (workspaceId time name : String) :
    (rosterOf db.registryEntries workspaceId).visible time name =
      ((effectiveEntries db workspaceId time).find? (·.agentName = name)).map
        RegistryEntryRow.number := by
  rw [effectiveEntries_eq, find?_keepFirst, List.nil_append, List.find?_append, List.find?_append,
    find?_live, find?_live, find?_live]
  have lasting : ∀ kind, kind ≠ .override →
      (entryOf db.registryEntries workspaceId kind name).filter (fun row => !expired time row) =
      entryOf db.registryEntries workspaceId kind name := by
    intro kind other
    cases found : entryOf db.registryEntries workspaceId kind name with
    | none => rfl
    | some row =>
      have same := (entryOf_eq_some.mp found).2.2.2
      simp [expired, same, other]
  rw [lasting .authoritative nofun, lasting .legacy nofun]
  simp only [Roster.visible, rosterOf]
  cases found : entryOf db.registryEntries workspaceId .override name with
  | none => rfl
  | some row =>
    have override := (entryOf_eq_some.mp found).2.2.2
    simp only [Option.map_some, Option.filter_some]
    cases dead : expired time row with
    | true =>
      rw [if_neg fun live => by
        rw [(expired_override override).mpr live] at dead
        cases dead]
      rfl
    | false => rw [if_pos ((expired_override override).mp dead)]; rfl

end Refinement

section Changes

variable {db : Db} {entries changed : RegistryTable} {workspaceId name : String}

theorem entryOf_congr {kind : RegistryEntryKind} (same : ∀ row : RegistryEntryRow,
    row.workspaceId = workspaceId → row.agentName = name → row.entryKind = kind →
    (row ∈ changed ↔ row ∈ entries)) :
    entryOf changed workspaceId kind name = entryOf entries workspaceId kind name := by
  refine Option.ext fun row => ?_
  rw [entryOf_eq_some, entryOf_eq_some]
  constructor
  · rintro ⟨member, workspace, agent, kept⟩
    exact ⟨(same row workspace agent kept).mp member, workspace, agent, kept⟩
  · rintro ⟨member, workspace, agent, kept⟩
    exact ⟨(same row workspace agent kept).mpr member, workspace, agent, kept⟩

/-- A change of other workspaces does not show. -/
theorem rosterOf_congr (same : ∀ row : RegistryEntryRow, row.workspaceId = workspaceId →
    (row ∈ changed ↔ row ∈ entries)) :
    rosterOf changed workspaceId = rosterOf entries workspaceId := by
  have kept : ∀ kind name, entryOf changed workspaceId kind name =
      entryOf entries workspaceId kind name := fun kind name =>
    entryOf_congr fun row workspace _ _ => same row workspace
  simp only [rosterOf, kept]

theorem rosterOf_setOverride {row : RegistryEntryRow} (member : row ∈ changed)
    (named : isOverrideOf workspaceId name row = true)
    (others : ∀ other, isOverrideOf workspaceId name other = false →
      (other ∈ changed ↔ other ∈ entries)) :
    rosterOf changed workspaceId =
      (rosterOf entries workspaceId).setOverride name row.number (expiryOf row.expiresAt) := by
  simp only [isOverrideOf, Bool.and_eq_true, decide_eq_true_eq] at named
  have own : entryOf changed workspaceId .override name = some row :=
    entryOf_eq_some.mpr ⟨member, named.1.1, named.1.2, named.2⟩
  have base : ∀ kind, kind ≠ .override → ∀ other, entryOf changed workspaceId kind other =
      entryOf entries workspaceId kind other := fun kind differs other =>
    entryOf_congr fun row _ _ same => others row (by simp [isOverrideOf, same, differs])
  simp only [rosterOf, Roster.setOverride, base .authoritative (by decide), base .legacy (by decide),
    Roster.mk.injEq, true_and]
  funext other
  by_cases same : other = name
  · rw [same, own, Function.update_self]
    rfl
  · rw [Function.update_of_ne same, entryOf_congr fun row _ agent _ => others row ?_]
    simp [isOverrideOf, agent, same]

theorem rosterOf_removeOverride (mem : ∀ other, other ∈ changed ↔ other ∈ entries ∧
      isOverrideOf workspaceId name other = false) :
    rosterOf changed workspaceId = (rosterOf entries workspaceId).removeOverride name := by
  have own : entryOf changed workspaceId .override name = none := by
    refine entryOf_eq_none.mpr fun row member workspace agent kind => ?_
    have apart := ((mem row).mp member).2
    simp [isOverrideOf, workspace, agent, kind] at apart
  have kept : ∀ kind other, kind ≠ .override ∨ other ≠ name →
      entryOf changed workspaceId kind other = entryOf entries workspaceId kind other := by
    intro kind other differs
    refine entryOf_congr fun row _ agent same => (mem row).trans (and_iff_left ?_)
    obtain differs | differs := differs <;> simp [isOverrideOf, agent, same, differs]
  simp only [rosterOf, Roster.removeOverride, kept .authoritative _ (.inl (by decide)),
    kept .legacy _ (.inl (by decide)), Roster.mk.injEq, true_and]
  funext other
  by_cases same : other = name
  · rw [same, own, Function.update_self]
    rfl
  · rw [Function.update_of_ne same, kept .override other (.inr same)]

/-- The own keys of a workspace whose roster rows are these agents. -/
def ownKeys (roster : List RosterAgent) (name : String) : Option Nat :=
  (roster.find? (·.name = name)).map fun agent => decimalValue agent.did

theorem ownKeys_eq_some {roster : List RosterAgent} {number : Nat}
    (found : ownKeys roster name = some number) :
    ∃ agent ∈ roster, agent.name = name ∧ decimalValue agent.did = number := by
  obtain ⟨agent, chosen, same⟩ := Option.map_eq_some_iff.mp found
  exact ⟨agent, List.mem_of_find?_eq_some chosen, by simpa using List.find?_some chosen, same⟩

theorem rosterOf_replaceBase {roster : List RosterAgent}
    (mem : ∀ other, other ∈ changed ↔
      (other ∈ entries ∧ isRosterRow workspaceId other = false) ∨
      ∃ agent ∈ roster, other = agent.row workspaceId) :
    rosterOf changed workspaceId =
      { rosterOf entries workspaceId with base := ownKeys roster } := by
  have overrides : ∀ other, entryOf changed workspaceId .override other =
      entryOf entries workspaceId .override other := by
    refine fun other => entryOf_congr fun row _ _ kind => (mem row).trans ?_
    constructor
    · rintro (⟨member, _⟩ | ⟨agent, _, rfl⟩)
      · exact member
      · cases kind
    · exact fun member => .inl ⟨member, by simp [isRosterRow, kind]⟩
  have legacy : ∀ other, entryOf changed workspaceId .legacy other = none := by
    refine fun other => entryOf_eq_none.mpr fun row member workspace _ kind => ?_
    obtain ⟨_, apart⟩ | ⟨agent, _, rfl⟩ := (mem row).mp member
    · simp [isRosterRow, workspace, kind] at apart
    · cases kind
  simp only [rosterOf, overrides, legacy, Option.or_none, Roster.mk.injEq, and_true]
  funext other
  unfold ownKeys
  cases found : roster.find? (·.name = other) with
  | none =>
    have absent : entryOf changed workspaceId .authoritative other = none := by
      refine entryOf_eq_none.mpr fun row member workspace agent kind => ?_
      obtain ⟨_, apart⟩ | ⟨added, addedMember, rfl⟩ := (mem row).mp member
      · simp [isRosterRow, workspace, kind] at apart
      · have differs : ¬ added.name = other := by
          simpa using List.find?_eq_none.mp found added addedMember
        exact absurd agent differs
    rw [absent]
    rfl
  | some agent =>
    have chosen : agent.name = other := by simpa using List.find?_some found
    have present : entryOf changed workspaceId .authoritative other =
        some (agent.row workspaceId) :=
      entryOf_eq_some.mpr ⟨(mem _).mpr (.inr ⟨agent, List.mem_of_find?_eq_some found, rfl⟩), rfl,
        chosen, rfl⟩
    rw [present]
    rfl

end Changes

section Runs

/-- Every workspace has a safe roster. -/
def SafeRegistry (entries : RegistryTable) (time : String) : Prop :=
  ∀ workspaceId, (rosterOf entries workspaceId).Safe time

/-- The number of a roster entry. -/
def RosterEntry.number (entry : RosterEntry) : Nat :=
  decimalValue (Text.strip entry.discordUserId)

variable [Platform]

/-- What a call that is made at a time must leave to its checks: numbers that meet no other agent's
number, neither now nor when overrides have expired. -/
def RegistryCall.Fits (db : Db) (moment : String) : RegistryCall → Prop
  | set request => (rosterOf db.registryEntries request.workspaceId).Fits moment
      (Text.strip request.agentName) (decimalValue (Text.strip request.discordUserId))
      (expiryOf request.expiresAt)
  | remove removal =>
    let roster := rosterOf db.registryEntries removal.workspaceId
    ∀ number limit, roster.base (Text.strip removal.agentName) = some number →
      ¬ roster.Overridden moment (Text.strip removal.agentName) number limit
  | sync request =>
    let roster := rosterOf db.registryEntries request.workspaceId
    ¬ request.Repeats db → (request.entries.map RosterEntry.number).Nodup ∧
      ∀ entry ∈ request.entries, ∀ limit,
        roster.Overridden moment (Text.strip entry.id) entry.number limit →
        ∃ cover own, roster.override (Text.strip entry.id) = some (cover, own) ∧ limit ≤ own

/-- A change that fits keeps the rosters safe. -/
theorem SafeRegistry.change {db : Db} {time moment : String} {call : RegistryCall}
    {entries : RegistryTable} (safe : SafeRegistry db.registryEntries time)
    (later : time ≤ moment) (fits : call.Fits db moment) (change : RegistryChange db call entries) :
    SafeRegistry entries moment := by
  intro workspaceId
  cases change with
  | @set request _ row member named number expiry others =>
    by_cases same : workspaceId = request.workspaceId
    · rw [same, rosterOf_setOverride member named others, RegistryEntryRow.number, number, expiry]
      exact (safe request.workspaceId).setOverride later fits
    · rw [rosterOf_congr fun other workspace => others other (by
        simp [isOverrideOf, workspace, same])]
      exact (safe workspaceId).mono later
  | @remove removal _ mem =>
    by_cases same : workspaceId = removal.workspaceId
    · rw [same, rosterOf_removeOverride mem]
      exact (safe removal.workspaceId).removeOverride later fits
    · rw [rosterOf_congr fun other workspace => (mem other).trans (and_iff_left (by
        simp [isOverrideOf, workspace, same]))]
      exact (safe workspaceId).mono later
  | repeated repeats => exact (safe workspaceId).mono later
  | @synced sync _ roster fresh normalized mem =>
    have same := normalizeRoster_ok normalized
    by_cases here : workspaceId = sync.workspaceId
    · obtain ⟨apart, covered⟩ := fits fresh
      have numbers : roster.map (fun agent => decimalValue agent.did) =
          sync.entries.map RosterEntry.number := by
        have both := congrArg (List.map fun pair : String × String => decimalValue pair.2) same
        rw [List.map_map] at both
        exact both.trans List.map_map
      rw [here, rosterOf_replaceBase mem]
      refine (safe sync.workspaceId).replaceBase later ?_ ?_
      · intro a b number left right
        obtain ⟨first, firstMember, firstName, firstNumber⟩ := ownKeys_eq_some left
        obtain ⟨second, secondMember, secondName, secondNumber⟩ := ownKeys_eq_some right
        have one : first = second := List.inj_on_of_nodup_map (numbers ▸ apart) firstMember
          secondMember (firstNumber.trans secondNumber.symm)
        rw [← firstName, ← secondName, one]
      · intro name number limit own overridden
        obtain ⟨agent, member, agentName, agentNumber⟩ := ownKeys_eq_some own
        have listed : (agent.name, agent.did) ∈
            sync.entries.map fun raw => (Text.strip raw.id, Text.strip raw.discordUserId) := by
          have found := List.mem_map_of_mem (f := fun agent => (agent.name, agent.did)) member
          rwa [same] at found
        obtain ⟨entry, entryMember, pair⟩ := List.mem_map.mp listed
        simp only [Prod.mk.injEq] at pair
        rw [← agentName, ← pair.1] at overridden ⊢
        rw [← agentNumber, ← pair.2] at overridden
        exact covered entry entryMember limit overridden
    · rw [rosterOf_congr fun other workspace => ?_]
      · exact (safe workspaceId).mono later
      · rw [mem other]
        constructor
        · rintro (⟨member, _⟩ | ⟨agent, _, rfl⟩)
          · exact member
          · exact absurd workspace.symm here
        · exact fun member => .inl ⟨member, by simp [isRosterRow, workspace, here]⟩

/-- The time of a call: the one that it is given, or its last reading of the clock. -/
def RegistryCall.moment (call : RegistryCall) (work : Work Db) : String :=
  call.supplied.getD (stamp ((call.after work).tick - 1))

/-- The runs of the registry whose times do not decrease and whose calls fit when they return. -/
inductive RegistryRun (start : Work Db) : String → Work Db → Prop
  | start (time : String) : RegistryRun start time start
  | call {time : String} {work : Work Db} (call : RegistryCall) (run : RegistryRun start time work)
      (later : time ≤ call.moment work)
      (fits : (∃ response s, call.outcome work = .ok response s) →
        call.Fits work.store (call.moment work)) :
      RegistryRun start (call.moment work) (call.after work)

theorem RegistryRun.safe {start work : Work Db} {time : String} (run : RegistryRun start time work)
    (safe : ∀ time, SafeRegistry start.store.registryEntries time) :
    SafeRegistry work.store.registryEntries time := by
  induction run with
  | start time => exact safe time
  | call call run later fits ih =>
    obtain ⟨returned, change⟩ | ⟨_, same⟩ := call.after_cases _
    · exact ih.change later (fits returned) change
    · rw [same]
      exact fun workspaceId => (ih workspaceId).mono later

end Runs

section Resolution

variable {db : Db} {time workspaceId : String}

/-- The effective agents of a workspace have distinct names and, as numbers, distinct ids. -/
theorem effectiveEntries_distinct (safe : SafeRegistry db.registryEntries time)
    (workspaceId : String) : (effectiveEntries db workspaceId time).Pairwise fun a b =>
      a.agentName ≠ b.agentName ∧ a.number ≠ b.number := by
  have names : (effectiveEntries db workspaceId time).Pairwise fun a b =>
      a.agentName ≠ b.agentName := keepFirst_pairwise _ _ _ .nil
  have shows : ∀ row ∈ effectiveEntries db workspaceId time,
      (rosterOf db.registryEntries workspaceId).visible time row.agentName = some row.number := by
    intro row member
    rw [visible_rosterOf, find?_eq_self _ names member]
    rfl
  refine names.imp_of_mem fun {a b} left right differs => ⟨differs, fun same => differs ?_⟩
  exact (safe workspaceId).shown time le_rfl a.agentName b.agentName a.number (shows a left)
    (by rw [same]; exact shows b right)

/-- Distinct numbers are distinct texts. -/
theorem duplicateDiscordId_eq_none {seen rows : List RegistryEntryRow}
    (apart : ∀ a ∈ seen, ∀ b ∈ rows, a.number ≠ b.number)
    (distinct : rows.Pairwise fun a b => a.number ≠ b.number) :
    duplicateDiscordId seen rows = none := by
  induction rows generalizing seen with
  | nil => rfl
  | cons row rest ih =>
    have fresh : seen.find? (·.discordUserId = row.discordUserId) = none := by
      refine List.find?_eq_none.mpr fun other member same => ?_
      refine apart other member row (List.mem_cons_self ..) ?_
      rw [RegistryEntryRow.number, of_decide_eq_true same, RegistryEntryRow.number]
    obtain ⟨first, later⟩ := List.pairwise_cons.mp distinct
    simp only [duplicateDiscordId, fresh]
    refine ih (fun a member b inRest => ?_) later
    obtain rfl | earlier := List.mem_cons.mp member
    · exact first b inRest
    · exact apart a earlier b (List.mem_cons_of_mem _ inRest)

theorem resolveEffectiveAgents_safe (safe : SafeRegistry db.registryEntries time)
    (workspaceId : String) :
    resolveEffectiveAgents db workspaceId time = .ok (effectiveEntries db workspaceId time) := by
  have unique : duplicateDiscordId [] (effectiveEntries db workspaceId time) = none :=
    duplicateDiscordId_eq_none nofun ((effectiveEntries_distinct safe workspaceId).imp And.right)
  simp only [resolveEffectiveAgents, unique]
  rfl

/-- The part of a workspace in the registry map. -/
def registryPart (workspaceId : String) (rows : List RegistryEntryRow) :
    List (Nat × String × String) :=
  rows.map fun row => (row.number, workspaceId, row.agentName)

/-- Agents with distinct numbers, none of which the map has for their workspace, are added one by
one. -/
theorem assignAgents_eq {rows : List RegistryEntryRow} {registry : List (Nat × String × String)}
    (fresh : ∀ entry ∈ registry, ∀ row ∈ rows, ¬ (entry.1 = row.number ∧ entry.2.1 = workspaceId))
    (distinct : rows.Pairwise fun a b => a.number ≠ b.number) :
    assignAgents registry workspaceId rows = registry ++ registryPart workspaceId rows := by
  induction rows generalizing registry with
  | nil => simp [assignAgents, registryPart]
  | cons row rest ih =>
    obtain ⟨first, later⟩ := List.pairwise_cons.mp distinct
    have added : assignAgent registry (decimalValue row.discordUserId) workspaceId row.agentName =
        registry ++ [(row.number, workspaceId, row.agentName)] := by
      have absent : (registry.any fun entry => entry.1 = decimalValue row.discordUserId &&
          entry.2.1 = workspaceId) = false := by
        refine List.any_eq_false.mpr fun entry member taken => ?_
        simp only [Bool.and_eq_true, decide_eq_true_eq] at taken
        exact fresh entry member row (List.mem_cons_self ..) taken
      simp only [assignAgent, absent, Bool.false_eq_true, ↓reduceIte]
      rfl
    change assignAgents (assignAgent registry _ workspaceId row.agentName) workspaceId rest = _
    rw [added, ih ?_ later, List.append_assoc]
    · rfl
    · intro entry member other inRest
      obtain known | isRow := List.mem_append.mp member
      · exact fresh entry known other (List.mem_cons_of_mem _ inRest)
      · rw [List.mem_singleton.mp isRow]
        exact fun same => first other inRest same.1

theorem foldlM_assignAgents (safe : SafeRegistry db.registryEntries time)
    {workspaces : List Workspace} {registry : List (Nat × String × String)}
    (fresh : ∀ entry ∈ registry, ∀ workspace ∈ workspaces, entry.2.1 ≠ workspace.id)
    (distinct : workspaces.Pairwise fun a b => a.id ≠ b.id) :
    workspaces.foldlM (fun registry workspace => do
      let entries ← resolveEffectiveAgents db workspace.id time
      return assignAgents registry workspace.id entries) registry =
    (.ok (registry ++ workspaces.flatMap fun workspace =>
      registryPart workspace.id (effectiveEntries db workspace.id time)) :
        Except Exn (List (Nat × String × String))) := by
  induction workspaces generalizing registry with
  | nil => simp [pure, Except.pure]
  | cons workspace rest ih =>
    obtain ⟨first, later⟩ := List.pairwise_cons.mp distinct
    have part : assignAgents registry workspace.id (effectiveEntries db workspace.id time) =
        registry ++ registryPart workspace.id (effectiveEntries db workspace.id time) :=
      assignAgents_eq
        (fun entry member row _ same => fresh entry member workspace (List.mem_cons_self ..) same.2)
        ((effectiveEntries_distinct safe workspace.id).imp And.right)
    rw [List.foldlM_cons, resolveEffectiveAgents_safe safe]
    simp only [bind, Except.bind, pure, Except.pure, part]
    refine (ih ?_ later).trans ?_
    · intro entry member other inRest
      obtain known | added := List.mem_append.mp member
      · exact fresh entry known other (List.mem_cons_of_mem _ inRest)
      · obtain ⟨row, _, rfl⟩ := List.mem_map.mp added
        exact first other inRest
    · rw [List.flatMap_cons, List.append_assoc]

/-- The entries of the registry map. -/
def registryMap (db : Db) (time : String) : List (Nat × String × String) :=
  db.workspaces.rows.flatMap fun workspace =>
    registryPart workspace.id (effectiveEntries db workspace.id time)

theorem mem_registryMap {number : Nat} {name : String} :
    (number, workspaceId, name) ∈ registryMap db time ↔
      (∃ workspace ∈ db.workspaces, workspace.id = workspaceId) ∧
      ∃ row ∈ effectiveEntries db workspaceId time, row.number = number ∧ row.agentName = name := by
  simp only [registryMap, List.mem_flatMap, registryPart, List.mem_map, Prod.mk.injEq]
  constructor
  · rintro ⟨workspace, known, row, member, rfl, rfl, rfl⟩
    exact ⟨⟨workspace, known, rfl⟩, row, member, rfl, rfl⟩
  · rintro ⟨⟨workspace, known, rfl⟩, row, member, rfl, rfl⟩
    exact ⟨workspace, known, row, member, rfl, rfl, rfl⟩

/-- What callers of the registry rely on at a time: no workspace raises, its agents have distinct
names and numbers, and the map of the daemon has exactly the effective agents, one for each number
and workspace. -/
structure Resolvable (db : Db) (time : String) : Prop where
  agents : ∀ workspaceId, ∃ entries, resolveEffectiveAgents db workspaceId time = .ok entries ∧
    entries.Pairwise fun a b => a.agentName ≠ b.agentName ∧ a.number ≠ b.number
  map : ∃ registry, buildAgentRegistryMap db time = .ok registry ∧
    (∀ number workspaceId name, (number, workspaceId, name) ∈ registry ↔
      (∃ workspace ∈ db.workspaces, workspace.id = workspaceId) ∧
      ∃ row ∈ effectiveEntries db workspaceId time,
        row.number = number ∧ row.agentName = name) ∧
    ∀ number workspaceId name other, (number, workspaceId, name) ∈ registry →
      (number, workspaceId, other) ∈ registry → name = other

theorem SafeRegistry.resolvable (safe : SafeRegistry db.registryEntries time) :
    Resolvable db time := by
  have workspaces : db.workspaces.rows.Pairwise fun a b => a.id ≠ b.id :=
    db.workspaces.distinct.imp fun apart same => by simp [keyedBy, same] at apart
  refine ⟨fun workspaceId => ⟨_, resolveEffectiveAgents_safe safe workspaceId,
    effectiveEntries_distinct safe workspaceId⟩, registryMap db time,
    foldlM_assignAgents safe (fun _ member => absurd member List.not_mem_nil) workspaces, fun _ _ _ => mem_registryMap, ?_⟩
  intro number workspaceId name other left right
  obtain ⟨_, a, aMember, rfl, rfl⟩ := mem_registryMap.mp left
  obtain ⟨_, b, bMember, same, rfl⟩ := mem_registryMap.mp right
  have distinct := (effectiveEntries_distinct safe workspaceId).imp And.right
  have first := find?_eq_self RegistryEntryRow.number distinct aMember
  have second := find?_eq_self RegistryEntryRow.number distinct bMember
  rw [same, first] at second
  rw [Option.some.inj second]

end Resolution

namespace Sample

/-- An installation without registry entries. -/
def unregistered : Work Db := { initialWork with store := configured }

def rosterCall : RegistryCall := .sync
  { workspaceId := "w", sourceId := "s", sourceVersion := 1, sourceHash := zeroDigest,
    entries := [⟨"a", "1", none, none⟩], now := some "2025-01-01T00:00:00Z" }

def overrideCall (agentName discordUserId : String) (expiresAt : Option String) : RegistryCall :=
  .set { workspaceId := "w", agentName, discordUserId, actor := "o", reason := "r", expiresAt,
         now := some "2025-01-01T00:00:00Z" }

/-- An override of a day. -/
def dayOverride : RegistryCall := overrideCall "a" "2" (some "2025-01-02T00:00:00Z")

/-- The id of the agent is overridden for a day, and another agent takes it for good. -/
def sharingCalls : List RegistryCall :=
  [rosterCall, dayOverride, overrideCall "b" "1" none]

def returns (call : RegistryCall) (work : Work Db) : Bool :=
  match call.outcome work with
  | .ok _ _ => true
  | .error _ _ => false

/-- The state after the calls, and whether all of them returned. -/
def registryAfter (calls : List RegistryCall) : Work Db × Bool :=
  calls.foldl (fun (work, returned) call => (call.after work, returned && returns call work))
    (unregistered, true)

end Sample

end Coordinate

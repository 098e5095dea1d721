import Coordinate.Model.Installation
import Coordinate.Model.RegistryCalls
import Coordinate.Proofs.Calls
import Coordinate.Proofs.RegistrySync

/-! # The registry only goes forward

Where every replacement of a roster finds the rules that its call has checked still met, and no event under
its key, the source of a workspace stays, its versions rise, the roster is that of the last sync, and each
sync has recorded itself.
-/

namespace Coordinate.RegistryCalls

open Program DbCall

section Predicates

variable [Platform]

/-- The replacement of a roster finds a source that the sync may still replace, and no event under its
key. -/
def Careful : RegistryCall → List (Performed DbStatement (Work Db)) → Work Db → DbStatement → Prop
  | .sync sync, _, w, .transaction =>
    checkRosterSource w.store sync (Text.strip sync.sourceId) = .ok false ∧
      ∀ row ∈ w.store.events, row.idempotencyKey ≠ sync.key
  | _, _, _, _ => True

/-- A call that sets or removes an override in the workspace. -/
def OverridesIn (workspaceId : String) : RegistryCall → Prop
  | .set request => request.workspaceId = workspaceId
  | .remove removal => removal.workspaceId = workspaceId
  | .sync _ => False

/-- What a statement of a call has done. -/
inductive Effect (call : RegistryCall) (entry : Performed DbStatement (Work Db)) : Prop
  | silent (same : Silent entry)
  | overridden (workspaceId : String) (own : OverridesIn workspaceId call)
      (known : (getWorkspace entry.before.store workspaceId).isSome = true)
      (change : Overrides workspaceId entry.before.store entry.after.store)
      (events : entry.before.store.events.rows <+: entry.after.store.events.rows)
  | replaced (sync : RosterSync) (own : call = .sync sync)
      (known : (getWorkspace entry.before.store sync.workspaceId).isSome = true)
      (allowed : checkRosterSource entry.before.store sync (Text.strip sync.sourceId) = .ok false)
      (change : sync.Replaces entry.before.store entry.after.store)
      (events : entry.before.store.events.rows <+: entry.after.store.events.rows)
      (recorded : ∃ row ∈ entry.after.store.events, row ∉ entry.before.store.events ∧ sync.Announces row)

/-- The workspaces that are known from the start. -/
def Known (start : Db) (w : Work Db) : Prop :=
  ∀ workspaceId, (getWorkspace w.store workspaceId).isSome = (getWorkspace start workspaceId).isSome

end Predicates

section Calls

variable [Platform] {start : Db} {call : RegistryCall}

theorem Effect.of_silent (_ : List (Performed DbStatement (Work Db)))
    (entry : Performed DbStatement (Work Db)) (same : Silent entry) : Effect call entry :=
  .silent same

omit [Platform] in
theorem known_of_same (w w' : Work Db) (known : Known start w) (same : w'.store = w.store) :
    Known start w' := by
  intro workspaceId
  rw [same, known]

omit [Platform] in
theorem known_of_touched {w w' : Work Db} {workspaceId : String} (known : Known start w)
    (touches : Touches workspaceId w.store w'.store) : Known start w' :=
  fun other => (touches.known other).trans (known other)

omit [Platform] in
theorem Known.of_required {w : Work Db} {workspaceId : String} {workspace : Workspace}
    (known : Known start w) (required : (match getWorkspace w.store workspaceId with
      | some workspace => Except.ok workspace
      | none => .error (Exn.value s!"unknown workspace: {workspaceId}")) = .ok workspace) :
    (getWorkspace start workspaceId).isSome = true := by
  rw [← known workspaceId]
  split at required
  · rename_i found
    rw [found]
    rfl
  · cases required

section Rules

variable {α β : Type} {past : List (Performed DbStatement (Work Db))}

theorem ends_utcNowStr {ends : List (Performed DbStatement (Work Db)) → Except Exn β → Prop}
    {supplied : Option String} {k : String → DbCall β}
    (rest : ∀ past current, Ends (Known start) (Careful call) (fun _ => Effect call) ends past (k current)) :
    Ends (Known start) (Careful call) (fun _ => Effect call) ends past (utcNowStr supplied >>= k) := by
  cases supplied with
  | none => exact ends_clock Effect.of_silent known_of_same fun w current _ => rest _ current
  | some time => exact rest past time

theorem ends_parseExpiresAt {value supplied : Option String} {k : Option String → DbCall β}
    (rest : ∀ past expiry, Ends (Known start) (Careful call) (fun _ => Effect call) (fun _ _ => True) past
      (k expiry)) :
    Ends (Known start) (Careful call) (fun _ => Effect call) (fun _ _ => True) past
      (parseExpiresAt value supplied >>= k) := by
  cases value with
  | none => exact rest past none
  | some text =>
    exact ends_bind (ends_raiseIf (fun _ => trivial) fun _ => ends_raiseIf (fun _ => trivial) fun _ =>
      ends_utcNowStr fun past current => ends_raiseIf (fun _ => trivial) fun _ => rest past (some text))

end Rules

theorem abides_set (request : OverrideRequest) :
    Ends (Known start) (Careful (.set request)) (fun _ => Effect (.set request)) (fun _ _ => True) []
      (body (.set request)) := by
  refine ends_map (ends_queryOrRaise Effect.of_silent (fun _ _ _ _ => trivial) fun w workspace known required => ?_)
  have present := known.of_required required
  refine ends_orRaise (fun _ _ => trivial) fun agentName _ => ends_orRaise (fun _ _ => trivial) fun _ _ =>
    ends_orRaise (fun _ _ => trivial) fun _ _ => ends_orRaise (fun _ _ => trivial) fun did _ =>
    ends_parseExpiresAt fun past expiry => ends_utcNowStr fun past _ =>
    ends_query Effect.of_silent fun w _ => ends_utcNowStr fun past current =>
    ends_queryOrRaise Effect.of_silent (fun _ _ _ _ => trivial) fun w effective _ _ =>
    ends_raiseIf (fun _ => trivial) fun _ => ?_
  refine ends_execute Effect.of_silent known_of_same (fun _ _ _ _ _ => trivial) fun w w' _ known _ ran => ?_
  have change := writeOverride_overrides ran
  exact ⟨known_of_touched known change.toTouches,
    .overridden request.workspaceId rfl ((known _).trans present) change (ledger_of_ok ran), trivial⟩

theorem abides_remove (removal : OverrideRemoval) :
    Ends (Known start) (Careful (.remove removal)) (fun _ => Effect (.remove removal)) (fun _ _ => True) []
      (body (.remove removal)) := by
  refine ends_map (ends_queryOrRaise Effect.of_silent (fun _ _ _ _ => trivial) fun w workspace known required => ?_)
  have present := known.of_required required
  refine ends_orRaise (fun _ _ => trivial) fun agentName _ => ends_orRaise (fun _ _ => trivial) fun _ _ =>
    ends_orRaise (fun _ _ => trivial) fun _ _ =>
    ends_queryOrRaise Effect.of_silent (fun _ _ _ _ => trivial) fun w row _ _ => ?_
  refine ends_execute Effect.of_silent known_of_same (fun _ _ _ _ _ => trivial) fun w w' _ known _ ran => ?_
  have change := writeRemoval_overrides ran
  exact ⟨known_of_touched known change.toTouches,
    .overridden removal.workspaceId rfl ((known _).trans present) change (ledger_of_ok ran), trivial⟩

/-- What a sync has checked before its queries. -/
theorem validateSync_checks {sync : RosterSync} {db : Db} {sourceId : String} {roster : List RosterAgent}
    (valid : validateSync db sync = .ok (sourceId, roster)) :
    (getWorkspace db sync.workspaceId).isSome = true ∧ sourceId = Text.strip sync.sourceId ∧
      normalizeRoster [] sync.entries = .ok roster := by
  have normalized := validateSync_ok valid
  simp only [validateSync, Except.bind_ok, requireWorkspace, raiseIf_except_ok] at valid
  obtain ⟨_, known, _, _, _, _, _, _, _, _, _, _, _, _, same⟩ := valid
  cases same
  exact ⟨by simpa [Option.isSome_iff_ne_none] using known, rfl, normalized⟩

theorem abides_sync (sync : RosterSync) :
    Ends (Known start) (Careful (.sync sync)) (fun _ => Effect (.sync sync)) (fun _ _ => True) []
      (body (.sync sync)) := by
  refine ends_map (ends_queryOrRaise Effect.of_silent (fun _ _ _ _ => trivial) fun w plan known valid => ?_)
  obtain ⟨sourceId, roster⟩ := plan
  obtain ⟨present, rfl, normalized⟩ := validateSync_checks valid
  refine ends_queryOrRaise Effect.of_silent (fun _ _ _ _ => trivial) fun w repeated _ _ => ?_
  split
  · exact ends_query Effect.of_silent fun w _ => ends_query Effect.of_silent fun w _ =>
      ends_utcNowStr fun past current => ends_query Effect.of_silent fun w _ => trivial
  · refine ends_query Effect.of_silent fun w _ => ?_
    refine ends_last (ends_execute Effect.of_silent known_of_same (fun _ _ _ _ _ => trivial)
      fun w w' _ kept meets ran => ?_)
    obtain ⟨allowed, free⟩ := meets
    obtain ⟨change, recorded⟩ := writeRoster_replaces normalized ran
    have present : (getWorkspace w.store sync.workspaceId).isSome = true := by
      rw [kept, ← known, present]
    exact ⟨known_of_touched kept change.toTouches,
      .replaced sync rfl present allowed change (ledger_of_ok ran) (recorded free), trivial⟩

/-- Each call does to the registry what it says. -/
theorem abides (start : Db) (call : RegistryCall) :
    Ends (Known start) (Careful call) (fun _ => Effect call) (fun _ _ => True) [] (body call) := by
  cases call with
  | set request => exact abides_set request
  | remove removal => exact abides_remove removal
  | sync sync => exact abides_sync sync

end Calls

section Runs

variable [Platform]

/-- The calls in progress with what they have performed. -/
abbrev Recorded := Pool RegistryCall DbStatement (Work Db) Exn RegistryResponse ×
  List (Nat × Performed DbStatement (Work Db))

/-- From one store to a later one: a source stays, its version rises, a version keeps its hash. -/
structure Advances (db db' : Db) : Prop where
  source : ∀ workspaceId source, sourceOf db workspaceId = some source →
    ∃ later, sourceOf db' workspaceId = some later ∧ later.sourceId = source.sourceId ∧
      source.sourceVersion ≤ later.sourceVersion ∧
      (later.sourceVersion = source.sourceVersion → later.sourceHash = source.sourceHash)
  revision : ∀ workspaceId, registryRevision db workspaceId ≤ registryRevision db' workspaceId

/-- The statement is the one that has applied the sync of its call. -/
def Applied (s : Recorded) (sync : RosterSync) (entry : Nat × Performed DbStatement (Work Db)) : Prop :=
  (∃ rest, s.1.parties[entry.1]? = some (.sync sync, rest)) ∧ ¬ Silent entry.2

/-- The source and the roster are those of the sync. -/
structure Holds (sync : RosterSync) (db : Db) : Prop where
  source : sourceOf db sync.workspaceId = some sync.source
  roster : ∃ agents, normalizeRoster [] sync.entries = .ok agents ∧
    authoritativeRows db sync.workspaceId = agents.map (·.row sync.workspaceId)

/-- The roster of a workspace is that of the last sync applied to it, or no sync was applied to it. -/
def Rostered (start : Db) (s : Recorded) (workspaceId : String) : Prop :=
  (sourceOf s.1.shared.store workspaceId = sourceOf start workspaceId ∧
    authoritativeRows s.1.shared.store workspaceId = authoritativeRows start workspaceId ∧
    ∀ entry ∈ s.2, ∀ sync, Applied s sync entry → sync.workspaceId ≠ workspaceId) ∨
  ∃ earlier entry later sync, s.2 = earlier ++ entry :: later ∧ Applied s sync entry ∧
    sync.workspaceId = workspaceId ∧ Holds sync s.1.shared.store ∧
    ∀ other ∈ later, ∀ another, Applied s another other → another.workspaceId ≠ workspaceId

/-- A statement that changes the registry of a workspace counts its revision up. -/
def Counted (entry : Performed DbStatement (Work Db)) : Prop :=
  ∀ workspaceId, entriesOf entry.after.store workspaceId ≠ entriesOf entry.before.store workspaceId ∨
    sourceOf entry.after.store workspaceId ≠ sourceOf entry.before.store workspaceId →
    registryRevision entry.before.store workspaceId < registryRevision entry.after.store workspaceId

omit [Platform] in
theorem Advances.refl (db : Db) : Advances db db :=
  ⟨fun _ source found => ⟨source, found, rfl, Int.le_refl _, fun _ => rfl⟩, fun _ => Nat.le_refl _⟩

omit [Platform] in
theorem Advances.trans (a b c : Db) (first : Advances a b) (second : Advances b c) : Advances a c := by
  refine ⟨fun workspaceId source found => ?_, fun workspaceId =>
    (first.revision workspaceId).trans (second.revision workspaceId)⟩
  obtain ⟨middle, foundMiddle, id, version, hash⟩ := first.source workspaceId source found
  obtain ⟨later, foundLater, id', version', hash'⟩ := second.source workspaceId middle foundMiddle
  refine ⟨later, foundLater, id'.trans id, Int.le_trans version version', fun same => ?_⟩
  have middleSame : middle.sourceVersion = source.sourceVersion := by omega
  exact (hash' (by omega)).trans (hash middleSame)

omit [Platform] in
/-- A sync that is allowed raises the version of its source. -/
theorem checkRosterSource_allowed {db : Db} {sync : RosterSync} {sourceId : String}
    (allowed : checkRosterSource db sync sourceId = .ok false) {source : RegistrySourceRow}
    (found : sourceOf db sync.workspaceId = some source) :
    sourceId = source.sourceId ∧ source.sourceVersion < sync.sourceVersion := by
  unfold checkRosterSource at allowed
  rw [sourceOf] at found
  rw [found] at allowed
  simp only [Except.bind_ok, raiseIf_except_ok] at allowed
  obtain ⟨_, same, _, newer, _, _, fresh⟩ := allowed
  have apart : sync.sourceVersion ≠ source.sourceVersion := by
    simpa using Except.ok.inj fresh
  exact ⟨not_not.mp same, by omega⟩

variable {call : RegistryCall} {entry : Performed DbStatement (Work Db)}

theorem Effect.advances (effect : Effect call entry) : Advances entry.before.store entry.after.store := by
  cases effect with
  | silent same =>
    rw [same]
    exact Advances.refl _
  | overridden workspaceId own known change events =>
    refine ⟨fun other source found => ?_, change.toTouches.revision_le known⟩
    have kept : sourceOf entry.after.store other = sourceOf entry.before.store other := by
      by_cases same : other = workspaceId
      · rw [same, change.source]
      · exact change.sources other same
    exact ⟨source, kept.trans found, rfl, Int.le_refl _, fun _ => rfl⟩
  | replaced sync own known allowed change events recorded =>
    refine ⟨fun other source found => ?_, change.toTouches.revision_le known⟩
    by_cases same : other = sync.workspaceId
    · subst same
      obtain ⟨id, newer⟩ := checkRosterSource_allowed allowed found
      refine ⟨sync.source, change.source, id, Int.le_of_lt newer, fun version => ?_⟩
      exact absurd version (Int.ne_of_gt newer)
    · exact ⟨source, (change.sources other same).trans found, rfl, Int.le_refl _, fun _ => rfl⟩

theorem Effect.counted (effect : Effect call entry) : Counted entry := by
  intro workspaceId changed
  cases effect with
  | silent same =>
    rw [same] at changed
    simp at changed
  | overridden own _ known change events =>
    by_cases same : workspaceId = own
    · rw [same, change.revision known]
      exact Nat.lt_succ_self _
    · rw [change.entries _ same, change.sources _ same] at changed
      simp at changed
  | replaced sync _ known allowed change events recorded =>
    by_cases same : workspaceId = sync.workspaceId
    · rw [same, change.revision known]
      exact Nat.lt_succ_self _
    · rw [change.entries _ same, change.sources _ same] at changed
      simp at changed

theorem Effect.events (effect : Effect call entry) (row : EventRow)
    (member : row ∈ entry.before.store.events) : row ∈ entry.after.store.events := by
  cases effect with
  | silent same => rwa [same]
  | overridden _ _ _ _ events => exact events.mem member
  | replaced _ _ _ _ _ events _ => exact events.mem member

/-- Only an applied sync changes the source and the roster of its workspace. -/
theorem Effect.keeps_roster (effect : Effect call entry) {workspaceId : String}
    (others : ∀ sync, call = .sync sync → ¬ Silent entry → sync.workspaceId ≠ workspaceId) :
    sourceOf entry.after.store workspaceId = sourceOf entry.before.store workspaceId ∧
      authoritativeRows entry.after.store workspaceId = authoritativeRows entry.before.store workspaceId := by
  by_cases silent : Silent entry
  · rw [silent]
    exact ⟨rfl, rfl⟩
  cases effect with
  | silent same => exact absurd same silent
  | overridden own _ _ change _ =>
    by_cases same : workspaceId = own
    · exact ⟨same ▸ change.source, same ▸ change.roster⟩
    · exact ⟨change.sources _ same, by rw [authoritativeRows, change.entries _ same]; rfl⟩
  | replaced sync own _ _ change _ _ =>
    have apart : workspaceId ≠ sync.workspaceId := (others sync own silent).symm
    exact ⟨change.sources _ apart, by rw [authoritativeRows, change.entries _ apart]; rfl⟩

/-- The statement that has applied a sync. -/
theorem Effect.applied (effect : Effect call entry) {sync : RosterSync} (own : call = .sync sync)
    (changes : ¬ Silent entry) : Holds sync entry.after.store ∧
      ∃ row ∈ entry.after.store.events, row ∉ entry.before.store.events ∧ sync.Announces row := by
  subst own
  cases effect with
  | silent same => exact absurd same changes
  | overridden _ own _ _ _ => cases own
  | replaced sync own _ _ change _ recorded =>
    cases own
    exact ⟨⟨change.source, change.roster⟩, recorded⟩

omit [Platform] in
/-- The last element of a list that satisfies `p`, if there is one. -/
theorem last_or_none {α : Type} {p : α → Prop} (l : List α) : (∀ x ∈ l, ¬ p x) ∨
    ∃ earlier x later, l = earlier ++ x :: later ∧ p x ∧ ∀ y ∈ later, ¬ p y := by
  induction l with
  | nil => exact .inl (List.forall_mem_nil _)
  | cons x rest ih =>
    rcases ih with none | ⟨earlier, y, later, rfl, holds, last⟩
    · by_cases own : p x
      · exact .inr ⟨[], x, rest, rfl, own, none⟩
      · exact .inl (List.forall_mem_cons.mpr ⟨own, none⟩)
    · exact .inr ⟨x :: earlier, y, later, rfl, holds, last⟩

/-- The record of a run: the stores that its statements start from and leave. -/
def stores (record : List (Nat × Performed DbStatement (Work Db))) : List (Revision Db) :=
  record.map fun entry => ⟨entry.2.before.store, entry.2.after.store⟩

omit [Platform] in
theorem store_of_wait (readings : Nat) (w w' : Work Db) (waited : wait readings w = some w') :
    w'.store = w.store := by
  cases waited
  rfl

variable {start : Work Db} {s t : Recorded}

/-- Every statement of a careful run has its effect. -/
theorem effects (run : calls.Reaches (Pool.Heeds Careful) (Pool.initial start, []) t) :
    ∀ entry ∈ t.2, ∃ call rest, t.1.parties[entry.1]? = some (call, rest) ∧ Effect call entry.2 := by
  obtain ⟨-, effects, -, -⟩ := Pool.ended (fun call => abides start.store call)
    (fun readings w w' known waited => known_of_same w w' known (store_of_wait readings w w' waited))
    (fun _ => rfl) run
  rintro ⟨index, entry⟩ member
  obtain ⟨call, rest, _, found, _, effect⟩ := effects index entry member
  exact ⟨call, rest, found, effect⟩

omit [Platform] in
/-- What every effect respects, the revisions of the record respect. -/
theorem steps_of_effects {R : Db → Db → Prop} {record : List (Nat × Performed DbStatement (Work Db))}
    (respects : ∀ entry ∈ record, R entry.2.before.store entry.2.after.store) :
    ∀ revision ∈ stores record, R revision.before revision.after := by
  intro revision member
  obtain ⟨entry, own, rfl⟩ := List.mem_map.mp member
  exact respects entry own

theorem rostered (run : calls.Reaches (Pool.Heeds Careful) (Pool.initial start, []) t)
    (workspaceId : String) : Rostered start.store t workspaceId := by
  have effects := effects run
  obtain ⟨more, same, chain⟩ := Pool.chained Work.store store_of_wait run
  rw [List.nil_append] at same
  subst same
  have keeps : ∀ later : List (Nat × Performed DbStatement (Work Db)), (∀ entry ∈ later, entry ∈ t.2) →
      (∀ entry ∈ later, ¬ ∃ sync, Applied t sync entry ∧ sync.workspaceId = workspaceId) →
      ∀ initial value, Revision.Chain initial (stores later) value →
        sourceOf value workspaceId = sourceOf initial workspaceId ∧
          authoritativeRows value workspaceId = authoritativeRows initial workspaceId := by
    intro later inside others initial value chain
    refine Revision.Chain.related (R := fun a b => sourceOf b workspaceId = sourceOf a workspaceId ∧
        authoritativeRows b workspaceId = authoritativeRows a workspaceId)
      (fun _ => ⟨rfl, rfl⟩) (fun a b c first second => ⟨second.1.trans first.1, second.2.trans first.2⟩)
      chain (steps_of_effects (R := fun a b => sourceOf b workspaceId = sourceOf a workspaceId ∧
        authoritativeRows b workspaceId = authoritativeRows a workspaceId) fun entry member => ?_)
    obtain ⟨call, rest, found, effect⟩ := effects entry (inside entry member)
    refine effect.keeps_roster ?_
    rintro sync rfl changes own
    exact others entry member ⟨sync, ⟨⟨rest, found⟩, changes⟩, own⟩
  rcases last_or_none (p := fun entry => ∃ sync, Applied t sync entry ∧ sync.workspaceId = workspaceId) t.2
    with none | ⟨earlier, entry, later, split, ⟨sync, applied, own⟩, last⟩
  · obtain ⟨source, roster⟩ := keeps t.2 (fun _ member => member) none _ _ chain
    exact .inl ⟨source, roster, fun entry member sync applied own => none entry member ⟨sync, applied, own⟩⟩
  · refine .inr ⟨earlier, entry, later, sync, split, applied, own, ?_,
      fun other member another applied own => last other member ⟨another, applied, own⟩⟩
    have member : entry ∈ t.2 := by
      rw [split]
      exact List.mem_append_right _ List.mem_cons_self
    obtain ⟨call, rest, found, effect⟩ := effects entry member
    obtain ⟨⟨rest', found'⟩, changes⟩ := applied
    rw [found'] at found
    cases found
    obtain ⟨holds, -⟩ := effect.applied rfl changes
    have after : Revision.Chain entry.2.after.store (stores later) t.1.shared.store := by
      rw [split, List.map_append, List.map_cons] at chain
      exact chain.split.2
    obtain ⟨source, roster⟩ := keeps later (fun other inside => by
      rw [split]
      exact List.mem_append_right _ (List.mem_cons_of_mem _ inside)) last _ _ after
    subst own
    exact ⟨source.trans holds.source, by rw [roster]; exact holds.roster⟩

/-- Every applied sync has an event that no other has. -/
theorem announced (run : calls.Reaches (Pool.Heeds Careful) (Pool.initial start, []) t) :
    ∃ announcement : Nat → EventRow,
      (∀ (k : Nat) (entry : Nat × Performed DbStatement (Work Db)) (sync : RosterSync),
        t.2[k]? = some entry → Applied t sync entry →
        sync.Announces (announcement k) ∧ announcement k ∈ t.1.shared.store.events) ∧
      ∀ (k l : Nat) (first next : Nat × Performed DbStatement (Work Db)) (sync another : RosterSync),
        t.2[k]? = some first → t.2[l]? = some next → Applied t sync first → Applied t another next →
        announcement k = announcement l → k = l := by
  have effects := effects run
  obtain ⟨more, same, chain⟩ := Pool.chained Work.store store_of_wait run
  rw [List.nil_append] at same
  subst same
  have born : ∀ k : Nat, ∃ row, ∀ (entry : Nat × Performed DbStatement (Work Db)) (sync : RosterSync),
      t.2[k]? = some entry → Applied t sync entry →
      sync.Announces row ∧ row ∉ entry.2.before.store.events ∧ row ∈ entry.2.after.store.events := by
    intro k
    by_cases applied : ∃ entry sync, t.2[k]? = some entry ∧ Applied t sync entry
    · obtain ⟨entry, sync, at_k, ⟨rest, found⟩, changes⟩ := applied
      obtain ⟨call, _, found', effect⟩ := effects entry (List.mem_of_getElem? at_k)
      rw [found] at found'
      cases found'
      obtain ⟨-, row, present, fresh, announces⟩ := effect.applied rfl changes
      refine ⟨row, fun other another same own => ?_⟩
      cases at_k.symm.trans same
      obtain ⟨⟨_, again⟩, -⟩ := own
      rw [found] at again
      cases again
      exact ⟨announces, fresh, present⟩
    · exact ⟨⟨"", none, "", "", none, none, none, "", .blank, 0⟩, fun entry sync at_k own => absurd ⟨entry, sync, at_k, own⟩ applied⟩
  choose announcement born using born
  have kept : ∀ revision ∈ stores t.2, ∀ row ∈ revision.before.events, row ∈ revision.after.events := by
    refine steps_of_effects (R := fun a b => ∀ row ∈ a.events, row ∈ b.events) fun entry member => ?_
    obtain ⟨call, rest, -, effect⟩ := effects entry member
    exact effect.events
  have ordered : ∀ (k : Nat) (entry : Nat × Performed DbStatement (Work Db)), t.2[k]? = some entry →
      (∀ row ∈ entry.2.after.store.events, row ∈ t.1.shared.store.events) ∧
      ∀ (l : Nat) (next : Nat × Performed DbStatement (Work Db)), k < l → t.2[l]? = some next →
        ∀ row ∈ entry.2.after.store.events, row ∈ next.2.before.store.events := by
    intro k entry at_k
    have position : ∀ (l : Nat) (next : Nat × Performed DbStatement (Work Db)), t.2[l]? = some next →
        (stores t.2)[l]? = some ⟨next.2.before.store, next.2.after.store⟩ := by
      intro l next at_l
      rw [stores, List.getElem?_map, at_l]
      rfl
    obtain ⟨last, between⟩ := chain.ordered
      (R := fun a b : Db => ∀ row : EventRow, row ∈ a.events → row ∈ b.events)
      (fun _ _ member => member) (fun a b c first second row member => second row (first row member))
      kept (position k entry at_k)
    exact ⟨last, fun l next later at_l => between l _ later (position l next at_l)⟩
  refine ⟨announcement, fun k entry sync at_k own => ?_, fun k l first next sync another at_k at_l one two same => ?_⟩
  · obtain ⟨announces, -, present⟩ := born k entry sync at_k own
    exact ⟨announces, (ordered k entry at_k).1 _ present⟩
  · obtain ⟨-, freshOne, presentOne⟩ := born k first sync at_k one
    obtain ⟨-, freshTwo, presentTwo⟩ := born l next another at_l two
    rcases Nat.lt_trichotomy k l with before | equal | after
    · exact absurd (same ▸ (ordered k first at_k).2 l next before at_l _ presentOne) freshTwo
    · exact equal
    · exact absurd (same ▸ (ordered l next at_l).2 k first after at_k _ presentTwo) freshOne

end Runs

/-- **The agent registry is monotone.** In every run of registry calls whose replacements are careful: from any
state to any later one the source of a workspace stays, its version does not fall, one version has one hash and
no revision falls; every change counts the revision up; the authoritative rows are those of the last sync that
was applied, whose source is stored; and every applied sync has its own event. -/
theorem registry_monotone [Platform] {start : Work Db} {s t : Recorded}
    (run : calls.Reaches (Pool.Heeds Careful) (Pool.initial start, []) s)
    (later : calls.Reaches (Pool.Heeds Careful) s t) :
    Advances s.1.shared.store t.1.shared.store ∧ (∀ entry ∈ t.2, Counted entry.2) ∧
    (∀ workspaceId, Rostered start.store t workspaceId) ∧
    ∃ announcement : Nat → EventRow,
      (∀ (k : Nat) (entry : Nat × Performed DbStatement (Work Db)) (sync : RosterSync),
        t.2[k]? = some entry → Applied t sync entry →
        sync.Announces (announcement k) ∧ announcement k ∈ t.1.shared.store.events) ∧
      ∀ (k l : Nat) (first next : Nat × Performed DbStatement (Work Db)) (sync another : RosterSync),
        t.2[k]? = some first → t.2[l]? = some next → Applied t sync first → Applied t another next →
        announcement k = announcement l → k = l := by
  have whole := run.trans later
  refine ⟨?_, fun entry member => ?_, rostered whole, announced whole⟩
  · obtain ⟨more, added, chain⟩ := Pool.chained Work.store store_of_wait later
    refine chain.related Advances.refl Advances.trans (steps_of_effects fun entry member => ?_)
    obtain ⟨call, rest, -, effect⟩ := effects whole entry (added ▸ List.mem_append_right _ member)
    exact effect.advances
  · obtain ⟨call, rest, -, effect⟩ := effects whole entry member
    exact effect.counted

namespace Sample

open Coordinate.Sample

def start : Work Db :=
  { initialWork with store := { Db.empty with
    workspaces := tableOf { id := "w", path := "/w", harnessRoot := "/w" } } }

def syncing (sourceId : String) (sourceVersion : Int) (discordUserId : String) : RegistryCall :=
  .sync { workspaceId := "w", sourceId, sourceVersion, sourceHash := zeroDigest,
          entries := [⟨"a", discordUserId, none, none⟩], now := some "2025-01-01T00:00:00Z" }

/-- An override of the agent for a day. -/
def overriding : RegistryCall :=
  .set { workspaceId := "w", agentName := "a", discordUserId := "2", actor := "o", reason := "r",
         expiresAt := some "2025-01-02T00:00:00Z", now := some "2025-01-01T00:00:00Z" }

/-- The source of the workspace and its version. -/
def sourceIn (w : Work Db) : Option (String × Int) :=
  (sourceOf w.store "w").map fun source => (source.sourceId, source.sourceVersion)

/-- A statement that replaces one source by another with an older version. -/
def takesOver (entry : Nat × Performed DbStatement (Work Db)) : Bool :=
  sourceIn entry.2.before = some ("s", 2) && sourceIn entry.2.after = some ("other", 1)

/-- Two syncs of different sources are checked before either is applied, and the second takes over. -/
theorem source_taken_over : ∃ t : Recorded, calls.Reaches Machine.anyStep (Pool.initial start, []) t ∧
    ∃ entry ∈ t.2, sourceIn entry.2.before = some ("s", 2) ∧ sourceIn entry.2.after = some ("other", 1) := by
  obtain ⟨t, run, checked⟩ :=
    @Machine.exists_reaches _ _ calls Machine.anyStep (Pool.initial start, []) (fun _ _ => true)
      (fun t => t.2.any takesOver) (fun _ _ _ => trivial)
      ([.start (syncing "s" 2 "1"), .start (syncing "other" 1 "2")] ++
        List.replicate 3 (.perform 1) ++ List.replicate 4 (.perform 0) ++ [.perform 1]) (by decide +kernel)
  obtain ⟨entry, member, taken⟩ := List.any_eq_true.mp checked
  simp only [takesOver, Bool.and_eq_true, decide_eq_true_eq] at taken
  exact ⟨t, run, entry, member, taken⟩

/-- The source may be replaced and the key is free. -/
def mayReplace (call : RegistryCall) (w : Work Db) : DbStatement → Bool
  | .transaction =>
    match call with
    | .sync sync =>
      (match checkRosterSource w.store sync (Text.strip sync.sourceId) with
        | .ok repeated => !repeated
        | .error _ => false) && w.store.events.rows.all fun row => row.idempotencyKey ≠ sync.key
    | _ => true
  | _ => true

theorem careful_of_mayReplace (call : RegistryCall) (past : List (Performed DbStatement (Work Db)))
    (w : Work Db) (tag : DbStatement) (passed : mayReplace call w tag = true) :
    Careful call past w tag := by
  cases tag with
  | transaction =>
    cases call with
    | sync sync =>
      simp only [mayReplace, Bool.and_eq_true, List.all_eq_true, decide_eq_true_eq] at passed
      obtain ⟨allowed, free⟩ := passed
      refine ⟨?_, free⟩
      split at allowed
      · rename_i repeated checked
        rw [Bool.not_eq_true'] at allowed
        rw [checked, allowed]
      · cases allowed
    | _ => trivial
  | _ => cases call <;> trivial

/-- Two syncs of one source, one after the other, with an override in between. -/
theorem source_kept : ∃ t : Recorded, calls.Reaches (Pool.Heeds Careful) (Pool.initial start, []) t ∧
    sourceIn t.1.shared = some ("s", 2) ∧ Advances start.store t.1.shared.store ∧
    (∀ entry ∈ t.2, Counted entry.2) ∧ Rostered start.store t "w" := by
  obtain ⟨t, run, checked⟩ :=
    @Machine.exists_reaches _ _ calls (Pool.Heeds Careful) (Pool.initial start, [])
      (Pool.heeding fun call _ => mayReplace call) (fun t => sourceIn t.1.shared = some ("s", 2))
      (Pool.heeds_of_heeding careful_of_mayReplace)
      ([.start (syncing "s" 1 "1")] ++ List.replicate 4 (.perform 0) ++ [.start overriding] ++
        List.replicate 4 (.perform 1) ++ [.start (syncing "s" 2 "1")] ++ List.replicate 4 (.perform 2))
      (by decide +kernel)
  obtain ⟨advances, counted, rostered, -⟩ := registry_monotone .refl run
  exact ⟨t, run, of_decide_eq_true checked, advances, counted, rostered "w"⟩

end Sample

end Coordinate.RegistryCalls

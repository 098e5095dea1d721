import Coordinate.Model.Installation
import Coordinate.Proofs.CapacitySnapshot

/-! # The restore of a capacity snapshot undoes the syncs after its capture

A sync of one source leaves the rows of every other source alone. A restore of the file that a
capture wrote either fails and changes nothing or brings the rows of the source back, and doing it
again changes nothing.
-/

namespace Coordinate

section Inverse

variable [Platform]

/-- The source row and the policies of one source id are the same in two stores. -/
structure SameProjection (sourceId : String) (s t : Db) : Prop where
  sources : ∀ row : CapacitySourceRow, row.sourceId = sourceId →
    (row ∈ t.capacitySources ↔ row ∈ s.capacitySources)
  policies : ∀ row : CapacityPolicyRow, row.sourceId = sourceId →
    (row ∈ t.capacityPolicies ↔ row ∈ s.capacityPolicies)

/-- Every table but the two capacity tables is the same. -/
def SameElsewhere (s t : Db) : Prop :=
  t = { s with capacitySources := t.capacitySources, capacityPolicies := t.capacityPolicies }

/-- A successful sync of a catalog of one source. -/
inductive SourceSync (sourceId : String) : Work Db → Work Db → Prop
  | sync {work : Work Db} {catalog : CapacityCatalog} {sourcePath : Option String}
    {result : CapacitySyncResult} {session : Session Db} (mine : catalog.sourceId = sourceId)
    (ran : alone (syncCapacityCatalog catalog sourcePath) work = .ok result session) :
    SourceSync sourceId work session.settle

namespace SameProjection

variable {sourceId : String} {s t u : Db}

omit [Platform] in
theorem refl (s : Db) : SameProjection sourceId s s :=
  ⟨fun _ _ => Iff.rfl, fun _ _ => Iff.rfl⟩

omit [Platform] in
theorem trans (first : SameProjection sourceId s t) (second : SameProjection sourceId t u) :
    SameProjection sourceId s u :=
  ⟨fun row mine => (second.sources row mine).trans (first.sources row mine),
    fun row mine => (second.policies row mine).trans (first.policies row mine)⟩

omit [Platform] in
/-- Two stores with the same captured rows. -/
theorem of_captures {captured : Option CapturedState} (left : Captures s sourceId captured)
    (right : Captures t sourceId captured) : SameProjection sourceId s t := by
  cases captured with
  | none =>
    exact ⟨fun row mine => iff_of_false (fun member => right.1 row member mine)
        fun member => left.1 row member mine,
      fun row mine => iff_of_false (fun member => right.2 row member mine)
        fun member => left.2 row member mine⟩
  | some captured =>
    obtain ⟨leftSource, owner, leftPolicies⟩ := left
    obtain ⟨rightSource, _, rightPolicies⟩ := right
    refine ⟨fun row mine => ?_, fun row mine => ?_⟩
    · constructor
      · intro member
        rwa [capacitySource_unique member rightSource (mine.trans owner.symm)]
      · intro member
        rwa [capacitySource_unique member leftSource (mine.trans owner.symm)]
    · constructor
      · intro member
        exact ((leftPolicies row).mp ((rightPolicies row).mpr ⟨member, mine⟩)).1
      · intro member
        exact ((rightPolicies row).mp ((leftPolicies row).mpr ⟨member, mine⟩)).1

omit [Platform] in
/-- Rows that replace the ones of another source do not count. -/
theorem of_rows {other : String} {sources : List CapacitySourceRow}
    {policies : List CapacityPolicyRow} (apart : sourceId ≠ other)
    (sourceRows : t.capacitySources.rows =
      (s.capacitySources.delete (·.sourceId = other)).rows ++ sources)
    (policyRows : t.capacityPolicies.rows =
      (s.capacityPolicies.delete (·.sourceId = other)).rows ++ policies)
    (sourcesOwned : ∀ row ∈ sources, row.sourceId = other)
    (policiesOwned : ∀ row ∈ policies, row.sourceId = other) : SameProjection sourceId s t := by
  refine ⟨fun row mine => ?_, fun row mine => ?_⟩
  · rw [Table.mem_def, sourceRows, List.mem_append, ← Table.mem_def, Table.mem_delete]
    constructor
    · rintro (⟨member, _⟩ | member)
      · exact member
      · exact absurd (mine.symm.trans (sourcesOwned row member)) apart
    · intro member
      exact .inl ⟨member, decide_eq_false fun same => apart (mine.symm.trans same)⟩
  · rw [Table.mem_def, policyRows, List.mem_append, ← Table.mem_def, Table.mem_delete]
    constructor
    · rintro (⟨member, _⟩ | member)
      · exact member
      · exact absurd (mine.symm.trans (policiesOwned row member)) apart
    · intro member
      exact .inl ⟨member, decide_eq_false fun same => apart (mine.symm.trans same)⟩

end SameProjection

section Sync

variable {sourceId : String} {catalog : CapacityCatalog} {sourcePath : Option String}
  {current : String} {s t : Db}

/-- A sync leaves the rows of the other sources alone. -/
theorem SyncsCapacity.others (syncs : SyncsCapacity catalog sourcePath current s t)
    (apart : sourceId ≠ catalog.sourceId) : SameProjection sourceId s t := by
  cases syncs with
  | unchanged => exact .refl s
  | changed _ _ replaces =>
    refine .of_rows apart replaces.sources replaces.policies (fun row member => ?_)
      fun row member => ?_
    · rw [List.mem_singleton.mp member]
      rfl
    · obtain ⟨policy, _, rfl⟩ := List.mem_map.mp member
      rfl

theorem SourceSync.others {work next : Work Db} (step : SourceSync sourceId work next)
    {other : String} (apart : other ≠ sourceId) : SameProjection other work.store next.store := by
  cases step with
  | sync mine ran =>
    obtain ⟨_, t, rfl, syncs⟩ := syncCapacityCatalog_ok.mp ⟨_, ran⟩
    exact syncs.others (mine ▸ apart)

/-- Syncs of one source leave the rows of the others alone. -/
theorem others_of_syncs {work later : Work Db}
    (syncs : Relation.ReflTransGen (SourceSync sourceId) work later) {other : String}
    (apart : other ≠ sourceId) : SameProjection other work.store later.store := by
  induction syncs with
  | refl => exact .refl _
  | tail _ step same => exact same.trans (step.others apart)

end Sync

section Restore

variable {sourceId : String} {start : Work Db} {envelope : Json} {session : Session Db}
  {file : SnapshotFile}

/-- A capture reads the store and leaves it as it was. -/
theorem captureCapacitySnapshot_ok
    (captured : alone (captureCapacitySnapshot sourceId) start = .ok envelope session) :
    captureEnvelope start.store sourceId = .ok envelope ∧ session.settle = start := by
  simp only [alone, captureCapacitySnapshot, Tx.bind_ok, Tx.orRaise_ok] at captured
  obtain ⟨_, _, ⟨_, rfl⟩, captured⟩ := captured
  obtain ⟨result, after, ran, outcome⟩ | ⟨e, after, _, outcome⟩ :=
    alone_atomically (captureCapacityBody sourceId) start
  · rw [alone] at outcome
    rw [outcome] at captured
    cases captured
    simp only [captureCapacityBody, Txn.bind_ok, Txn.read_run, EStateM.Result.ok.injEq,
      Txn.orRaise_ok] at ran
    obtain ⟨_, _, ⟨rfl, rfl⟩, valid, rfl⟩ := ran
    exact ⟨valid, rfl⟩
  · rw [alone] at outcome
    rw [outcome] at captured
    cases captured

omit [Platform] in
/-- A restore leaves the rows of the other sources alone. -/
theorem Restores.others {captured : Option CapturedState} {s t : Db}
    (restores : Restores sourceId captured s t)
    (owned : ∀ state, captured = some state → state.source.sourceId = sourceId ∧
      ∀ policy ∈ state.policies, policy.sourceId = sourceId) {other : String}
    (apart : other ≠ sourceId) : SameProjection other s t := by
  refine .of_rows apart restores.sources restores.policies (fun row member => ?_)
    fun row member => ?_
  · obtain ⟨state, same, rfl⟩ := Option.map_eq_some_iff.mp (Option.mem_toList.mp member)
    exact (owned state same).1
  · cases captured with
    | none => cases member
    | some state => exact (owned state rfl).2 row member

/-- A restore alone on the store fails and changes nothing, or writes the rows of the file. -/
theorem restoreCapacitySnapshot_cases (sourceId : String) (file : SnapshotFile) (work : Work Db) :
    (∃ e s, alone (restoreCapacitySnapshot sourceId file) work = .error e s ∧
      s.settle.store = work.store) ∨
    ∃ request t, parseRestoreRequest file sourceId = .ok request ∧
      checkRestore work.store sourceId request = .ok () ∧
      Restores sourceId request.captured work.store t ∧
      alone (restoreCapacitySnapshot sourceId file) work =
        .ok request.envelope ⟨{ work with store := t }, t, none⟩ := by
  unfold restoreCapacitySnapshot alone
  rw [Tx.bind_run]
  cases label : ExecutorCapacity.validateBoundedLabel (.str sourceId) "target_source_id" with
  | error e => exact .inl ⟨_, _, rfl, rfl⟩
  | ok target =>
    simp only [orRaise, Tx.pure_run, Tx.bind_run]
    cases parsed : parseRestoreRequest file sourceId with
    | error e => exact .inl ⟨_, _, rfl, rfl⟩
    | ok request =>
      simp only [Tx.pure_run]
      obtain ⟨restored, after, ran, outcome⟩ | ⟨e, after, _, outcome⟩ :=
        alone_atomically (restoreCapacityBody sourceId request) work
      · obtain ⟨rfl, checked, t, restores, rfl⟩ := restoreCapacityBody_ok ran
        rw [alone] at outcome
        exact .inr ⟨request, t, rfl, checked, restores, outcome⟩
      · rw [alone] at outcome
        exact .inl ⟨_, _, outcome, rfl⟩

/-- A restore of a captured file, after syncs of its source only, fails and changes nothing or
brings the rows of the source back as they were captured and touches nothing else; a second restore
changes nothing. -/
theorem capacity_restore_inverse {later : Work Db}
    (captured : alone (captureCapacitySnapshot sourceId) start = .ok envelope session)
    (syncs : Relation.ReflTransGen (SourceSync sourceId) session.settle later) :
    (∀ e after, alone (restoreCapacitySnapshot sourceId (.written envelope)) later = .error e after →
      after.settle.store = later.store) ∧
    ∀ restored after,
      alone (restoreCapacitySnapshot sourceId (.written envelope)) later = .ok restored after →
      SameProjection sourceId start.store after.settle.store ∧
      (∀ other, other ≠ sourceId → SameProjection other start.store after.settle.store ∧
        SameProjection other later.store after.settle.store) ∧
      SameElsewhere later.store after.settle.store ∧
      (alone (restoreCapacitySnapshot sourceId (.written envelope)) after.settle).final.settle.store =
        after.settle.store := by
  obtain ⟨valid, unchanged⟩ := captureCapacitySnapshot_ok captured
  obtain ⟨state, preserved, captures, written⟩ := captureEnvelope_ok valid
  obtain ⟨e, after, failed, same⟩ | ⟨request, t, parsed, _, restores, returned⟩ :=
    restoreCapacitySnapshot_cases sourceId (.written envelope) later
  · rw [failed]
    exact ⟨fun _ _ raised => by cases raised; exact same, fun _ _ ran => by cases ran⟩
  · rw [returned]
    refine ⟨fun _ _ raised => (by cases raised), fun restored after ran => ?_⟩
    cases ran
    have owned := parseRestoreRequest_owned parsed
    have read : request.captured = state := parseRestoreRequest_written (written ▸ parsed)
    refine ⟨.of_captures captures (read ▸ restores.captures owned), fun other apart => ?_,
      restores.rest, ?_⟩
    · have before := others_of_syncs syncs apart
      rw [unchanged] at before
      exact ⟨before.trans (restores.others owned apart), restores.others owned apart⟩
    · obtain ⟨e, after, failed, same⟩ | ⟨request', u, parsed', _, second, again⟩ :=
        restoreCapacitySnapshot_cases sourceId (.written envelope) ⟨t, later.tick, later.draws⟩
      · exact (congrArg (·.final.settle.store) failed).trans same
      · rw [parsed] at parsed'
        cases parsed'
        exact (congrArg (·.final.settle.store) again).trans (restores.again second owned)

end Restore

end Inverse

namespace Sample

/-- A capacity catalog of one agent. -/
def capacityCatalog : CapacityCatalog :=
  ⟨"cap", 1, "d49cf635d4c15584b56cce1b38c9e19684c30f6285274f1c5185889e4e92bd03", some "/c",
    [⟨"a", 1⟩]⟩

/-- The digests of the catalog texts of the sample runs. -/
def capacityDigests : List (Json × String) := [
  (capacityPolicyDict "a" capacityCatalog.catalogHash 1 "cap" 1,
    "20d1485884d50e332bb14b9cfa5963027423f45939691868ab1030e7a96bf58f"),
  (canonicalCapacityCatalogDict capacityCatalog, capacityCatalog.catalogHash),
  (canonicalExecutorCatalogDict typedCatalog, typedCatalog.catalogHash),
  (canonicalExecutorCatalogDict untypedCatalog, untypedCatalog.catalogHash),
  (innerSnapshot .null emptyWitness "cap",
    "a61e432b640c773c22456548b3dc446124a7bee7b50685941c1bf5c251051c10")]

/-- The platform of the installation with the catalog texts and a hash that keeps all texts apart. -/
@[reducible] def capacityPlatform : Platform :=
  { platform fun _ => zeroDigest with
    sha256 := fun text => match capacityDigests.find? fun known => known.1.text = text with
      | some known => known.2
      | none => String.ofList ('!' :: text) }

section Capacity

attribute [local instance] capacityPlatform

/-- One agent with a disabled binding and no capacity policy. -/
def uncoveredWork : Work Db :=
  { initialWork with store := { Db.empty with bindings := tableOf ⟨"a", "s", "d", "a", false⟩ } }

def captureOutcome : EStateM.Result Exn (Session Db) Json :=
  alone (captureCapacitySnapshot "cap") uncoveredWork

def envelope : Json :=
  match captureOutcome with
  | .ok envelope _ => envelope
  | .error _ _ => .null

def syncOutcome : EStateM.Result Exn (Session Db) CapacitySyncResult :=
  alone (syncCapacityCatalog capacityCatalog none) captureOutcome.final.settle

def restoreOutcome : EStateM.Result Exn (Session Db) Json :=
  alone (restoreCapacitySnapshot "cap" (.written envelope)) syncOutcome.final.settle

def returned {α : Type} : EStateM.Result Exn (Session Db) α → Bool
  | .ok _ _ => true
  | .error _ _ => false

theorem exists_ok {α : Type} {outcome : EStateM.Result Exn (Session Db) α}
    (ran : returned outcome = true) : ∃ result, outcome = .ok result outcome.final := by
  cases outcome with
  | ok result => exact ⟨result, rfl⟩
  | error => simp [returned] at ran

theorem runs_return : returned captureOutcome = true ∧ returned syncOutcome = true ∧
    returned restoreOutcome = true := by
  decide +kernel

theorem captured :
    alone (captureCapacitySnapshot "cap") uncoveredWork = .ok envelope captureOutcome.final := by
  obtain ⟨result, ran⟩ := exists_ok runs_return.1
  rw [envelope, ran]
  exact ran

/-- Before the first sync of a source its projection is empty, and a restore empties it again. -/
theorem capacity_restored : ∃ restored, restoreOutcome = .ok restored restoreOutcome.final ∧
    SameProjection "cap" uncoveredWork.store restoreOutcome.final.settle.store := by
  obtain ⟨result, synced⟩ := exists_ok runs_return.2.1
  obtain ⟨restored, ran⟩ := exists_ok runs_return.2.2
  have step : SourceSync "cap" captureOutcome.final.settle syncOutcome.final.settle :=
    .sync (by decide) synced
  exact ⟨restored, ran, ((capacity_restore_inverse captured (.single step)).2 restored _ ran).1⟩

end Capacity

end Sample

end Coordinate

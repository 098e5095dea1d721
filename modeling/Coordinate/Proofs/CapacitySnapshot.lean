import Coordinate.Proofs.Capacity

/-! # What a snapshot holds and what its restore writes

A check of a captured object that succeeds returns the row that the object describes, so a restore
of an unchanged file writes the captured rows.
-/

namespace Coordinate

variable [Platform]

open ExecutorCapacity

section Values

variable {value : Json} {label : String}

omit [Platform] in
theorem validateBoundedLabel_ok {text : String} (valid : validateBoundedLabel value label = .ok text) :
    value = .str text := by
  rw [validateBoundedLabel, orRaise_except_ok] at valid
  cases value with
  | str given =>
    simp only [ExecutorIdentity.validateBoundedLabel, Except.bind_ok] at valid
    obtain ⟨_, _, _, _, _, _, _, _, same⟩ := valid
    cases same
    rfl
  | _ => cases valid

omit [Platform] in
theorem validateSnapshotSourceVersion_ok {version : Int}
    (valid : validateSnapshotSourceVersion value label = .ok version) : value = .int version := by
  cases value with
  | int given =>
    simp only [validateSnapshotSourceVersion, Except.bind_ok] at valid
    obtain ⟨_, _, same⟩ := valid
    cases same
    rfl
  | _ => cases valid

omit [Platform] in
theorem validateSnapshotHash_ok {text : String} (valid : validateSnapshotHash value label = .ok text) :
    value = .str text := by
  cases value with
  | str given =>
    simp only [validateSnapshotHash, Except.bind_ok] at valid
    obtain ⟨_, _, same⟩ := valid
    cases same
    rfl
  | _ => cases valid

omit [Platform] in
theorem validateSnapshotPolicyId_ok {text : String}
    (valid : validateSnapshotPolicyId value label = .ok text) : value = .str text := by
  cases value with
  | str given =>
    simp only [validateSnapshotPolicyId, Except.bind_ok] at valid
    obtain ⟨_, _, same⟩ := valid
    cases same
    rfl
  | _ => cases valid

omit [Platform] in
theorem validateMaxConcurrentJobs_ok {count : Int}
    (valid : validateMaxConcurrentJobs value label = .ok count) :
    value = .int count ∧ 1 ≤ count ∧ count ≤ maxConcurrentJobsLimit := by
  cases value with
  | int given =>
    simp only [validateMaxConcurrentJobs, Except.bind_ok, raiseIf_except_ok, not_or, Int.not_lt] at valid
    obtain ⟨_, ⟨low, high⟩, same⟩ := valid
    cases same
    exact ⟨rfl, low, high⟩
  | _ => cases valid

omit [Platform] in
theorem validateSnapshotTimestamp_ok {text : String}
    (valid : validateSnapshotTimestamp value label = .ok text) : value = .str text := by
  cases value with
  | str given =>
    simp only [validateSnapshotTimestamp, Except.bind_ok] at valid
    obtain ⟨_, _, valid⟩ := valid
    split at valid
    · cases valid
    · rw [Except.bind_ok] at valid
      obtain ⟨_, _, same⟩ := valid
      cases same
      rfl
  | _ => cases valid

omit [Platform] in
theorem validateSourcePath_ok {path : Option String} (valid : validateSourcePath value label = .ok path) :
    value = .ofOption path := by
  cases value with
  | null =>
    cases valid
    rfl
  | str given =>
    simp only [validateSourcePath, Except.bind_ok] at valid
    obtain ⟨_, _, valid⟩ := valid
    split at valid
    · cases valid
    · cases valid
      rfl
  | _ => cases valid

end Values

section Rows

variable {label : String} {value : Json}

omit [Platform] in
theorem get_reload_source (source : CapacitySourceRow) (key : String) :
    (canonicalSourceDict source).reload.get key = (canonicalSourceDict source).get key := by
  rw [Json.get_reload]
  simp only [canonicalSourceDict, Json.get, Json.field?, List.lookup_cons, List.lookup_nil]
  repeat' split
  all_goals first | rfl | exact Json.reload_ofOption _

omit [Platform] in
theorem get_reload_policy (policy : CapacityPolicyRow) (key : String) :
    (canonicalPolicyDict policy).reload.get key = (canonicalPolicyDict policy).get key := by
  rw [Json.get_reload]
  simp only [canonicalPolicyDict, Json.get, Json.field?, List.lookup_cons, List.lookup_nil]
  repeat' split
  all_goals rfl

omit [Platform] in
/-- The columns that are read are the ones of the row that the object describes. -/
theorem validateSourceColumns_ok {source checked : CapacitySourceRow}
    (describes : ∀ key, value.get key = (canonicalSourceDict source).get key)
    (valid : validateSourceColumns label source.sourceId value = .ok checked) : checked = source := by
  simp only [validateSourceColumns, Except.bind_ok] at valid
  obtain ⟨version, versionValid, hash, hashValid, path, pathValid, updatedAt, updatedValid, same⟩ :=
    valid
  have versionSame := (describes _).symm.trans (validateSnapshotSourceVersion_ok versionValid)
  have hashSame := (describes _).symm.trans (validateSnapshotHash_ok hashValid)
  have pathSame := (describes _).symm.trans (validateSourcePath_ok pathValid)
  have updatedSame := (describes _).symm.trans (validateSnapshotTimestamp_ok updatedValid)
  cases same
  cases versionSame
  cases hashSame
  cases updatedSame
  have paths : source.sourcePath = path := by
    change Json.ofOption source.sourcePath = .ofOption path at pathSame
    revert pathSame
    cases source.sourcePath <;> cases path <;> simp [Json.ofOption]
  rw [← paths]

/-- The columns that are read are the ones of the row, under the source that owns it. -/
theorem validateOwnedPolicy_ok {source : CapacitySourceRow} {policy checked : CapacityPolicyRow}
    (describes : ∀ key, value.get key = (canonicalPolicyDict policy).get key)
    (valid : validateOwnedPolicy label source policy.agentId value = .ok checked) :
    checked = { policy with sourceId := source.sourceId } := by
  simp only [validateOwnedPolicy, Except.bind_ok] at valid
  obtain ⟨version, versionValid, _, _, hash, hashValid, _, _, jobs, jobsValid, policyId, idValid, _,
    _, createdAt, createdValid, updatedAt, updatedValid, same⟩ := valid
  have versionSame := (describes _).symm.trans (validateSnapshotSourceVersion_ok versionValid)
  have hashSame := (describes _).symm.trans (validateSnapshotHash_ok hashValid)
  have jobsSame := (describes _).symm.trans (validateMaxConcurrentJobs_ok jobsValid).1
  have idSame := (describes _).symm.trans (validateSnapshotPolicyId_ok idValid)
  have createdSame := (describes _).symm.trans (validateSnapshotTimestamp_ok createdValid)
  have updatedSame := (describes _).symm.trans (validateSnapshotTimestamp_ok updatedValid)
  cases same
  cases versionSame
  cases hashSame
  cases jobsSame
  cases idSame
  cases createdSame
  cases updatedSame
  rfl

omit [Platform] in
/-- Items that describe rows check as these rows. -/
theorem checkItems_ok {ε α β : Type} {check : Nat → Option β → α → Except ε β} {describe : β → α}
    (each : ∀ i before row checked, check i before (describe row) = .ok checked → checked = row) :
    ∀ {rows : List β} {i : Nat} {before : Option β} {out : List β},
      checkItems check i before (rows.map describe) = .ok out → out = rows
  | [], _, _, _, valid => by
    cases valid
    rfl
  | row :: rest, i, before, out, valid => by
    simp only [List.map_cons, checkItems, Except.bind_ok] at valid
    obtain ⟨checked, checkedValid, later, laterValid, same⟩ := valid
    cases same
    rw [each i before row checked checkedValid, checkItems_ok each laterValid]

omit [Platform] in
/-- What holds of each checked item holds of all of them. -/
theorem checkItems_forall {ε α β : Type} {check : Nat → Option β → α → Except ε β} {P : β → Prop}
    (each : ∀ i before item checked, check i before item = .ok checked → P checked) :
    ∀ {items : List α} {i : Nat} {before : Option β} {out : List β},
      checkItems check i before items = .ok out → ∀ checked ∈ out, P checked
  | [], _, _, _, valid => by
    cases valid
    exact fun _ member => absurd member List.not_mem_nil
  | item :: rest, i, before, out, valid => by
    simp only [checkItems, Except.bind_ok] at valid
    obtain ⟨checked, checkedValid, later, laterValid, same⟩ := valid
    cases same
    rw [List.forall_mem_cons]
    exact ⟨each i before item checked checkedValid, checkItems_forall each laterValid⟩

end Rows

section Captured

variable {targetSourceId : String}

omit [Platform] in
theorem validateSourceColumns_id {label sourceId : String} {value : Json} {checked : CapacitySourceRow}
    (valid : validateSourceColumns label sourceId value = .ok checked) :
    checked.sourceId = sourceId := by
  simp only [validateSourceColumns, Except.bind_ok] at valid
  obtain ⟨_, _, _, _, _, _, _, _, same⟩ := valid
  cases same
  rfl

theorem validateOwnedPolicy_source {label agentId : String} {source : CapacitySourceRow} {value : Json}
    {checked : CapacityPolicyRow}
    (valid : validateOwnedPolicy label source agentId value = .ok checked) :
    checked.sourceId = source.sourceId := by
  simp only [validateOwnedPolicy, Except.bind_ok] at valid
  obtain ⟨_, _, _, _, _, _, _, _, _, _, _, _, _, _, _, _, _, _, same⟩ := valid
  cases same
  rfl

omit [Platform] in
theorem validateCapturedSource_ok {value : Json} {checked : CapacitySourceRow}
    (valid : validateCapturedSource targetSourceId value = .ok checked) :
    value.get "source_id" = .str targetSourceId ∧ checked.sourceId = targetSourceId ∧
      validateSourceColumns "source" targetSourceId value = .ok checked := by
  simp only [validateCapturedSource, Except.bind_ok, raiseIf_except_ok, not_not] at valid
  obtain ⟨_, _, _, _, _, stored, sourceId, idValid, columns⟩ := valid
  have same := stored.symm.trans (validateBoundedLabel_ok idValid)
  cases same
  exact ⟨stored, validateSourceColumns_id columns, columns⟩

theorem validateCapturedPolicy_ok {source : CapacitySourceRow} {i : Nat}
    {before : Option CapacityPolicyRow} {value : Json} {checked : CapacityPolicyRow}
    (valid : validateCapturedPolicy targetSourceId source i before value = .ok checked) :
    value.get "source_id" = .str targetSourceId ∧ ∃ agentId, value.get "agent_id" = .str agentId ∧
      validateOwnedPolicy s!"policy[{i}]" source agentId value = .ok checked := by
  simp only [validateCapturedPolicy, Except.bind_ok, raiseIf_except_ok, not_not] at valid
  obtain ⟨_, _, agentId, agentValid, _, _, _, stored, _, _, owned⟩ := valid
  exact ⟨stored, agentId, validateBoundedLabel_ok agentValid, owned⟩

/-- The rows of an accepted captured state belong to the target. -/
theorem strictValidateCapturedState_owned {value : Json} {captured : CapturedState}
    (valid : strictValidateCapturedState value targetSourceId = .ok (some captured)) :
    captured.source.sourceId = targetSourceId ∧
      ∀ policy ∈ captured.policies, policy.sourceId = targetSourceId := by
  unfold strictValidateCapturedState at valid
  split at valid
  · cases valid
  · simp only [Except.bind_ok] at valid
    obtain ⟨_, _, _, _, source, sourceValid, valid⟩ := valid
    have owner := (validateCapturedSource_ok sourceValid).2.1
    split at valid
    · rw [Except.bind_ok] at valid
      obtain ⟨policies, policiesValid, same⟩ := valid
      cases same
      refine ⟨owner, checkItems_forall (fun i before item checked checkedValid => ?_) policiesValid⟩
      obtain ⟨_, agentId, _, owned⟩ := validateCapturedPolicy_ok checkedValid
      exact (validateOwnedPolicy_source owned).trans owner
    · cases valid

/-- The captured object of a source and its policies. -/
def capturedObject (source : CapacitySourceRow) (policies : List CapacityPolicyRow) : Json :=
  .obj [("source", canonicalSourceDict source), ("policies", .arr (policies.map canonicalPolicyDict))]

/-- Reading a captured object back gives its rows. -/
theorem strictValidateCapturedState_reload {source : CapacitySourceRow}
    {policies : List CapacityPolicyRow} {result : Option CapturedState}
    (valid : strictValidateCapturedState (capturedObject source policies).reload targetSourceId =
      .ok result) : result = some ⟨source, policies⟩ := by
  unfold strictValidateCapturedState at valid
  split at valid
  · rename_i null
    cases null
  · simp only [Except.bind_ok] at valid
    obtain ⟨_, _, _, _, checked, sourceValid, valid⟩ := valid
    have sourceObject : (capturedObject source policies).reload.get "source" =
        (canonicalSourceDict source).reload := Json.get_reload _ _
    have policyItems : (capturedObject source policies).reload.get "policies" =
        .arr (policies.map fun policy => (canonicalPolicyDict policy).reload) := by
      rw [Json.get_reload]
      change (Json.arr (policies.map canonicalPolicyDict)).reload = _
      rw [Json.reload_arr, List.map_map]
      rfl
    rw [sourceObject] at sourceValid
    obtain ⟨stored, owner, columns⟩ := validateCapturedSource_ok sourceValid
    rw [get_reload_source] at stored
    have sameId : source.sourceId = targetSourceId := by
      cases stored
      rfl
    rw [← sameId] at columns
    obtain rfl := validateSourceColumns_ok (get_reload_source source) columns
    rw [policyItems] at valid
    simp only [Except.bind_ok] at valid
    obtain ⟨rows, rowsValid, same⟩ := valid
    cases same
    have each : ∀ i before row found, validateCapturedPolicy targetSourceId checked i before
        (canonicalPolicyDict row).reload = .ok found → found = row := by
      intro i before row found foundValid
      obtain ⟨storedId, agentId, agent, owned⟩ := validateCapturedPolicy_ok foundValid
      rw [get_reload_policy] at storedId agent
      cases agent
      cases storedId
      rw [validateOwnedPolicy_ok (get_reload_policy row) owned, owner]
    rw [checkItems_ok each rowsValid]

end Captured

section Current

variable {db : Db} {sources : List CapacitySourceRow} {policies : List CapacityPolicyRow}

omit [Platform] in
theorem validateCurrentSource_ok {i : Nat} {before : Option CapacitySourceRow}
    {source checked : CapacitySourceRow}
    (valid : validateCurrentSource i before source = .ok checked) : checked = source := by
  simp only [validateCurrentSource, Except.bind_ok] at valid
  obtain ⟨sourceId, idValid, _, _, columns⟩ := valid
  cases validateBoundedLabel_ok idValid
  exact validateSourceColumns_ok (fun _ => rfl) columns

theorem validateCurrentPolicy_ok {typed : List String} {i : Nat} {before : Option CapacityPolicyRow}
    {policy checked : CapacityPolicyRow}
    (valid : validateCurrentPolicy sources typed i before policy = .ok checked) :
    checked = policy ∧ policy.agentId ∈ typed := by
  simp only [validateCurrentPolicy, Except.bind_ok] at valid
  obtain ⟨agentId, agentValid, _, _, sourceId, sourceValid, valid⟩ := valid
  cases validateBoundedLabel_ok agentValid
  cases validateBoundedLabel_ok sourceValid
  split at valid
  · cases valid
  · rename_i source found
    simp only [Except.bind_ok, raiseIf_except_ok, not_not] at valid
    obtain ⟨row, rowValid, _, known, same⟩ := valid
    cases same
    have owner : source.sourceId = policy.sourceId := by simpa using List.find?_some found
    rw [validateOwnedPolicy_ok (fun _ => rfl) rowValid, owner]
    exact ⟨rfl, known⟩

/-- The strict validation returns the stored rows in the order of their ids, and every policy is of a
typed agent. -/
theorem strictValidateCurrentProjection_ok
    (valid : strictValidateCurrentProjection db = .ok (sources, policies)) :
    sources = listCapacitySources db ∧ policies = listCapacityPolicies db ∧
      ∀ policy ∈ db.capacityPolicies, Typed db policy.agentId := by
  simp only [strictValidateCurrentProjection, Except.bind_ok] at valid
  obtain ⟨checkedSources, sourcesValid, checkedPolicies, policiesValid, _, _, same⟩ := valid
  cases same
  have sourcesSame : sources = listCapacitySources db := by
    rw [← List.map_id (listCapacitySources db)] at sourcesValid
    exact checkItems_ok (fun _ _ _ _ checkedValid => validateCurrentSource_ok checkedValid) sourcesValid
  have policiesSame : policies = listCapacityPolicies db := by
    rw [← List.map_id (listCapacityPolicies db)] at policiesValid
    exact checkItems_ok (fun _ _ _ _ checkedValid => (validateCurrentPolicy_ok checkedValid).1)
      policiesValid
  refine ⟨sourcesSame, policiesSame, fun policy member => ?_⟩
  have listed : policy ∈ policies := by
    rw [policiesSame]
    exact mem_sortBy.mpr member
  have known : ∀ row ∈ policies, Typed db row.agentId :=
    checkItems_forall (fun i before item checked checkedValid => by
      obtain ⟨rfl, known⟩ := validateCurrentPolicy_ok checkedValid
      exact mem_allTypedAgentIds.mp known) policiesValid
  exact known policy listed

end Current

section Capture

variable {db : Db} {targetSourceId : String}

/-- The rows of a source are the captured ones. -/
def Captures (db : Db) (targetSourceId : String) : Option CapturedState → Prop
  | none => (∀ source ∈ db.capacitySources, source.sourceId ≠ targetSourceId) ∧
      ∀ policy ∈ db.capacityPolicies, policy.sourceId ≠ targetSourceId
  | some captured => captured.source ∈ db.capacitySources ∧
      captured.source.sourceId = targetSourceId ∧ ∀ policy, policy ∈ captured.policies ↔
        policy ∈ db.capacityPolicies ∧ policy.sourceId = targetSourceId

/-- The object that a capture stores. -/
def captureObject : Option CapturedState → Json
  | none => .null
  | some captured => capturedObject captured.source captured.policies

theorem captureTarget_ok {object : Json}
    (captured : captureTarget (listCapacitySources db) (listCapacityPolicies db) targetSourceId =
      .ok object) : ∃ state, Captures db targetSourceId state ∧ object = captureObject state := by
  unfold captureTarget at captured
  dsimp only at captured
  split at captured
  · rename_i absent
    simp only [Except.bind_ok, raiseIf_except_ok, not_not] at captured
    obtain ⟨_, owned, same⟩ := captured
    cases same
    refine ⟨none, ⟨fun source member => ?_, fun policy member => ?_⟩, rfl⟩
    · simpa using List.find?_eq_none.mp absent source (mem_sortBy.mpr member)
    · simpa using List.filter_eq_nil_iff.mp owned policy (mem_sortBy.mpr member)
  · rename_i source found
    simp only [Except.bind_ok] at captured
    obtain ⟨_, _, same⟩ := captured
    cases same
    have owner : source.sourceId = targetSourceId := by simpa using List.find?_some found
    refine ⟨some ⟨source, _⟩, ⟨mem_sortBy.mp (List.mem_of_find?_eq_some found), owner,
      fun policy => ?_⟩, rfl⟩
    rw [mem_sortBy, List.mem_filter, decide_eq_true_eq]
    exact and_congr_left' mem_sortBy

/-- A capture puts the rows of the target into the envelope. -/
theorem captureEnvelope_ok {envelope : Json}
    (captured : captureEnvelope db targetSourceId = .ok envelope) :
    ∃ state preserved, Captures db targetSourceId state ∧
      envelope = buildSnapshotEnvelope (captureObject state) preserved targetSourceId := by
  simp only [captureEnvelope, Except.bind_ok] at captured
  obtain ⟨⟨sources, policies⟩, valid, object, target, preserved, _, same⟩ := captured
  cases same
  obtain ⟨rfl, rfl, _⟩ := strictValidateCurrentProjection_ok valid
  obtain ⟨state, captures, rfl⟩ := captureTarget_ok target
  exact ⟨state, preserved, captures, rfl⟩

/-- The rows of a parsed snapshot belong to its target. -/
theorem parseRestoreRequest_owned {file : SnapshotFile} {request : RestoreRequest}
    (parsed : parseRestoreRequest file targetSourceId = .ok request) :
    ∀ state, request.captured = some state → state.source.sourceId = targetSourceId ∧
      ∀ policy ∈ state.policies, policy.sourceId = targetSourceId := by
  simp only [parseRestoreRequest, Except.bind_ok] at parsed
  obtain ⟨_, _, _, _, ⟨_, _⟩, _, _, _, _, _, _, _, captured, valid, same⟩ := parsed
  cases same
  rintro state rfl
  exact strictValidateCapturedState_owned valid

/-- Reading the file of a capture back gives the captured rows. -/
theorem parseRestoreRequest_written {state : Option CapturedState} {preserved : Json}
    {request : RestoreRequest}
    (parsed : parseRestoreRequest (.written (buildSnapshotEnvelope (captureObject state) preserved
      targetSourceId)) targetSourceId = .ok request) : request.captured = state := by
  simp only [parseRestoreRequest, Except.bind_ok] at parsed
  obtain ⟨envelope, checked, _, _, ⟨_, _⟩, _, _, _, _, _, _, _, captured, valid, same⟩ := parsed
  cases same
  have read : envelope =
      (buildSnapshotEnvelope (captureObject state) preserved targetSourceId).reload := by
    simp only [checkEnvelope, SnapshotFile.written, Except.bind_ok] at checked
    obtain ⟨_, _, _, _, _, _, _, _, _, _, same⟩ := checked
    cases same
    rfl
  have object : (envelope.get "snapshot").get "captured_state" = (captureObject state).reload := by
    rw [read, Json.get_reload, Json.get_reload]
    rfl
  rw [object] at valid
  cases state with
  | none =>
    cases valid
    rfl
  | some captured => exact strictValidateCapturedState_reload valid

end Capture

section Restore

variable {w w' : Work Db} {u : Unit} {targetSourceId : String} {request : RestoreRequest}

/-- The tables after a restore. -/
structure Restores (targetSourceId : String) (captured : Option CapturedState) (s t : Db) : Prop where
  sources : t.capacitySources.rows = (s.capacitySources.delete (·.sourceId = targetSourceId)).rows ++
    (captured.map (·.source)).toList
  policies : t.capacityPolicies.rows =
    (s.capacityPolicies.delete (·.sourceId = targetSourceId)).rows ++
      (captured.map (·.policies)).getD []
  rest : t = { s with capacitySources := t.capacitySources, capacityPolicies := t.capacityPolicies }

omit [Platform] in
theorem insertCaptured_ok {captured : Option CapturedState}
    (ran : (insertCaptured captured).run w = .ok u w') :
    w'.store.capacitySources.rows =
        w.store.capacitySources.rows ++ (captured.map (·.source)).toList ∧
      w'.store.capacityPolicies.rows =
        w.store.capacityPolicies.rows ++ (captured.map (·.policies)).getD [] ∧
      w' = { w with store := { w.store with
        capacitySources := w'.store.capacitySources
        capacityPolicies := w'.store.capacityPolicies } } := by
  cases captured with
  | none =>
    cases ran
    simp
  | some captured =>
    simp only [insertCaptured, Txn.bind_ok, bindInteger_ok, writeCapacitySources_ok,
      insertCapacityPolicies_ok] at ran
    obtain ⟨_, _, ⟨_, rfl⟩, _, _, ⟨sources, inserted, rfl⟩, _, policies, rows, rfl⟩ := ran
    exact ⟨Table.insert?_rows inserted, rows, rfl⟩

/-- A restore that returns has checked the store and written the captured rows. -/
theorem restoreCapacityBody_ok {envelope : Json}
    (ran : (restoreCapacityBody targetSourceId request).run w = .ok envelope w') :
    envelope = request.envelope ∧ checkRestore w.store targetSourceId request = .ok () ∧
      ∃ t, Restores targetSourceId request.captured w.store t ∧ w' = { w with store := t } := by
  simp only [restoreCapacityBody, Txn.bind_ok, Txn.read_run, EStateM.Result.ok.injEq,
    Txn.orRaise_ok, deleteCapacityPolicies_ok, writeCapacitySources_ok, Option.some.injEq,
    Txn.pure_run] at ran
  obtain ⟨_, _, ⟨rfl, rfl⟩, _, _, ⟨checked, rfl⟩, _, _, rfl, _, _, ⟨sources, rfl, rfl⟩, _, written,
    inserted, _, _, ⟨rfl, rfl⟩, _, _, ⟨_, rfl⟩, returned, rfl⟩ := ran
  obtain ⟨sourceRows, policyRows, same⟩ := insertCaptured_ok inserted
  exact ⟨returned.symm, checked, written.store,
    ⟨sourceRows, policyRows, congrArg Work.store same⟩, by rw [same]⟩

omit [Platform] in
/-- A restore makes the rows of the target the captured ones. -/
theorem Restores.captures {captured : Option CapturedState} {s t : Db}
    (restores : Restores targetSourceId captured s t)
    (owned : ∀ state, captured = some state → state.source.sourceId = targetSourceId ∧
      ∀ policy ∈ state.policies, policy.sourceId = targetSourceId) :
    Captures t targetSourceId captured := by
  have sourceMember : ∀ source, source ∈ t.capacitySources ↔
      (source ∈ s.capacitySources ∧ source.sourceId ≠ targetSourceId) ∨
        source ∈ (captured.map (·.source)).toList := by
    intro source
    rw [Table.mem_def, restores.sources, List.mem_append, ← Table.mem_def, Table.mem_delete]
    simp
  have policyMember : ∀ policy, policy ∈ t.capacityPolicies ↔
      (policy ∈ s.capacityPolicies ∧ policy.sourceId ≠ targetSourceId) ∨
        policy ∈ (captured.map (·.policies)).getD [] := by
    intro policy
    rw [Table.mem_def, restores.policies, List.mem_append, ← Table.mem_def, Table.mem_delete]
    simp
  cases captured with
  | none =>
    refine ⟨fun source member => ?_, fun policy member => ?_⟩
    · simpa using ((sourceMember source).mp member).imp_left And.right
    · simpa using ((policyMember policy).mp member).imp_left And.right
  | some state =>
    obtain ⟨sourceOwned, policiesOwned⟩ := owned state rfl
    refine ⟨(sourceMember _).mpr (.inr (by simp)), sourceOwned, fun policy => ?_⟩
    rw [policyMember]
    constructor
    · intro member
      exact ⟨.inr member, policiesOwned policy member⟩
    · rintro ⟨⟨_, other⟩ | member, mine⟩
      · exact absurd mine other
      · exact member

omit [Platform] in
/-- The rows that a restore writes belong to the target, so a second restore writes them again in
their places. -/
theorem Restores.again {captured : Option CapturedState} {s t u : Db}
    (first : Restores targetSourceId captured s t) (second : Restores targetSourceId captured t u)
    (owned : ∀ state, captured = some state → state.source.sourceId = targetSourceId ∧
      ∀ policy ∈ state.policies, policy.sourceId = targetSourceId) : u = t := by
  have sources : u.capacitySources = t.capacitySources := by
    apply Table.ext
    rw [second.sources, Table.rows_delete, first.sources, Table.rows_delete, List.filter_append,
      List.filter_filter]
    cases captured with
    | none => simp
    | some state => simp [(owned state rfl).1]
  have policies : u.capacityPolicies = t.capacityPolicies := by
    apply Table.ext
    rw [second.policies, Table.rows_delete, first.policies, Table.rows_delete, List.filter_append,
      List.filter_filter]
    cases captured with
    | none => simp
    | some state =>
      have dropped : state.policies.filter (fun row => !decide (row.sourceId = targetSourceId)) =
          [] := by
        simpa using (owned state rfl).2
      simp [dropped]
  rw [second.rest, sources, policies]

end Restore

end Coordinate

import Coordinate.Library.JsonErasure
import Coordinate.Model.MirrorReconcile
import Coordinate.Proofs.ChecklistRules
import Coordinate.Proofs.TaskMirrors

/-! # What a reconcile does to one task

The merge of an item with the row that there is: what it keeps of the row, and that a row that holds a merged
mirror is merged with the same item into itself.
-/

namespace Coordinate.MirrorReconcile

open Coordinate.Checklist (isIn isIn_ok OneOf ItemRules ArtifactRules isNonEmptyString)

variable [Platform]

section SplitOperations

variable {value item payload : Json} {source : String} {projected : Option Json}

theorem validateUuid_text (valid : validateUuid value = .ok ()) : ∃ text, value = .str text := by
  cases value with
  | str text => exact ⟨text, rfl⟩
  | _ => cases valid

omit [Platform] in
theorem validateSha256_text (valid : validateSha256 value = .ok ()) : ∃ text, value = .str text := by
  cases value with
  | str text => exact ⟨text, rfl⟩
  | _ => cases valid

/-- A reduced record stays one when it is written and read. -/
theorem validate_reload (valid : validateTaskMirrorSplitOperation value source = .ok ()) :
    validateTaskMirrorSplitOperation value.reload source = .ok () := by
  have same := Json.same_reload value
  simp only [validateTaskMirrorSplitOperation, Except.bind_ok, raiseIf_except_ok, not_not] at valid ⊢
  obtain ⟨_, isObj, _, keys, _, version, known, kind, _, one, _, uuid, prints⟩ := valid
  have texts : ∀ {key text}, value.get key = .str text → value.reload.get key = value.get key := by
    intro key text own
    rw [Json.get_reload, own, Json.reload_str]
  obtain ⟨id, uuidText⟩ := validateUuid_text uuid
  cases known with
  | false => exact absurd one (by decide)
  | true =>
    obtain ⟨name, -, kindText⟩ := (isIn_ok.mp kind).2.mp rfl
    refine ⟨(), by rw [same.isObj, isObj], (), by rw [same.hasExactlyKeys, keys], (), ?_, true, ?_, (), rfl,
      (), ?_, ?_⟩
    · have equal := (same.get "contract_version").pyEq
      simp only [Json.pyEq, decide_eq_true_eq] at equal version ⊢
      rw [equal, version]
    · rw [texts kindText, kind]
    · rw [texts uuidText, uuid]
    · rw [forM_iff] at prints ⊢
      intro key member
      obtain ⟨print, text⟩ := validateSha256_text (prints key member)
      rw [texts text]
      exact prints key member

/-- A reduced record has exactly its six keys. -/
structure Reduced (value : Json) (source : String) : Prop where
  isObj : value.isObj = true
  keys : value.hasExactlyKeys taskMirrorSplitOperationKeys = true
  valid : validateTaskMirrorSplitOperation value source = .ok ()

theorem reduced_of_valid (valid : validateTaskMirrorSplitOperation value source = .ok ()) :
    Reduced value source := by
  have checks := valid
  simp only [validateTaskMirrorSplitOperation, Except.bind_ok, raiseIf_except_ok, not_not] at checks
  obtain ⟨_, isObj, _, keys, -⟩ := checks
  exact ⟨isObj, keys, valid⟩

theorem Reduced.reload (reduced : Reduced value source) : Reduced value.reload source :=
  reduced_of_valid (validate_reload reduced.valid)

end SplitOperations

section Values

variable {value item existing : Json} {taskId field : String} {trusted bound : Option String}
  {supplied merged : Json} {operation : Option Json}

omit [Platform] in
theorem truthy_of_field? {key : String} {found : Json} (has : value.field? key = some found) :
    value.truthy = true := by
  cases value with
  | obj fields =>
    cases fields with
    | nil => cases has
    | cons _ _ => rfl
  | _ => cases has

omit [Platform] in
/-- A payload with a field is read as it was written. -/
theorem loads_dumps {key : String} {found : Json} (has : value.field? key = some found) :
    (JsonText.dumps value.reload).loads = .ok value.reload := by
  have truthy : value.reload.truthy = true :=
    (Json.Same.truthy (Json.same_reload value)).trans (truthy_of_field? has)
  rw [JsonText.dumps, Json.orElse, if_pos truthy]
  rfl

omit [Platform] in
theorem truthy_of_isNonEmptyString (solid : isNonEmptyString value = true) : value.truthy = true := by
  cases value with
  | str text =>
    by_cases empty : text = ""
    · subst empty
      exact absurd solid (by decide)
    · simp [Json.truthy, empty]
  | _ => cases solid

/-- A value that an item can supply for a branch or a pull request. -/
def Suppliable (supplied : Json) : Prop :=
  supplied = .null ∨ supplied = .arr [] ∨ supplied.truthy = true

omit [Platform] in
theorem suppliable_artifact (rules : ItemRules item) (key : String) :
    Suppliable ((item.get "artifacts").get key) := by
  by_cases absent : item.get "artifacts" = .null
  · rw [absent]
    exact .inl rfl
  · obtain ⟨fields, own, each⟩ := rules.artifacts absent
    rw [own, Json.get, Json.field?]
    cases found : fields.lookup key with
    | none => exact .inl rfl
    | some value =>
      have member : (key, value) ∈ fields := by
        obtain ⟨before, after, whole, -⟩ := List.lookup_eq_some_iff.mp found
        rw [whole]
        exact List.mem_append_right _ List.mem_cons_self
      have texts := (each _ member).texts
      dsimp only at texts
      rcases texts with text | ⟨entries, list, -⟩
      · exact .inr (.inr (truthy_of_isNonEmptyString text))
      · cases entries with
        | nil => exact .inr (.inl list)
        | cons _ _ =>
          refine .inr (.inr ?_)
          rw [Option.getD_some]
          rw [list]
          rfl

omit [Platform] in
theorem suppliable_orElse {first : Json} (second : Suppliable value) : Suppliable (first.orElse value) := by
  rw [Json.orElse]
  split
  · rename_i truthy
    exact .inr (.inr truthy)
  · exact second

omit [Platform] in
/-- A value of the coordinator stands. -/
theorem mergeBinding_kept (suppliable : Suppliable supplied) (ran : mergeBinding taskId field trusted supplied = .ok merged)
    (binds : bindText merged = .ok bound) {text : String} (own : trusted = some text) (some : text ≠ "") :
    bound = trusted := by
  subst own
  simp only [mergeBinding, Except.bind_ok, raiseIf_except_ok, Option.getD_some] at ran
  obtain ⟨_, agrees, same⟩ := ran
  cases same
  rcases suppliable with rfl | rfl | truthy
  · exact (Except.ok.inj binds).symm
  · cases binds
  · have equal : supplied = Json.ofOption (.some text) := by
      by_contra other
      exact agrees ⟨some, truthy, other⟩
    subst equal
    exact (Except.ok.inj binds).symm

end Values

section Kept

/-- What a reconcile leaves of the row of a task: the values of the coordinator. -/
structure Kept (old new : TaskMirror) : Prop where
  workspaceId : new.workspaceId = old.workspaceId
  taskId : new.taskId = old.taskId
  lastEventId : new.lastEventId = old.lastEventId
  branch : ∀ text, old.branch = some text → text ≠ "" → new.branch = old.branch
  pr : ∀ text, old.pr = some text → text ≠ "" → new.pr = old.pr
  publish : ∀ payload, old.payloadJson.loads = .ok payload → isPublished (payload.get "publish_metadata") = true →
    ∃ payload', new.payloadJson.loads = .ok payload' ∧
      Json.Same (payload'.get "publish_metadata") (payload.get "publish_metadata")
  operation : ∀ payload metadata, old.payloadJson.loads = .ok payload →
    payload.field? "split_operation" = some metadata → metadata.isObj = true →
    metadata.hasExactlyKeys taskMirrorSplitOperationKeys = true →
    ∃ payload' metadata', new.payloadJson.loads = .ok payload' ∧
      payload'.field? "split_operation" = some metadata' ∧ Json.Same metadata' metadata

omit [Platform] in
theorem Kept.refl (row : TaskMirror) : Kept row row where
  workspaceId := rfl
  taskId := rfl
  lastEventId := rfl
  branch _ _ _ := rfl
  pr _ _ _ := rfl
  publish payload decoded _ := ⟨payload, decoded, rfl⟩
  operation payload metadata decoded found _ _ := ⟨payload, metadata, decoded, found, rfl⟩

omit [Platform] in
theorem isPublished_congr {a b : Json} (same : Json.Same a b) : isPublished a = isPublished b := by
  rw [isPublished, isPublished, same.isObj, same.truthy]

omit [Platform] in
theorem Kept.trans {a b c : TaskMirror} (first : Kept a b) (second : Kept b c) : Kept a c where
  workspaceId := second.workspaceId.trans first.workspaceId
  taskId := second.taskId.trans first.taskId
  lastEventId := second.lastEventId.trans first.lastEventId
  branch text own some := by
    have middle := first.branch text own some
    exact (second.branch text (middle.trans own) some).trans middle
  pr text own some := by
    have middle := first.pr text own some
    exact (second.pr text (middle.trans own) some).trans middle
  publish payload decoded published := by
    obtain ⟨middle, decoded', same⟩ := first.publish payload decoded published
    obtain ⟨payload', decoded'', same'⟩ := second.publish middle decoded' (by rw [isPublished_congr same, published])
    exact ⟨payload', decoded'', Eq.trans same' same⟩
  operation payload metadata decoded found isObj keys := by
    obtain ⟨middle, metadata', decoded', found', same⟩ := first.operation payload metadata decoded found isObj keys
    obtain ⟨payload', metadata'', decoded'', found'', same'⟩ := second.operation middle metadata' decoded' found'
      (by rw [same.isObj, isObj]) (by rw [same.hasExactlyKeys, keys])
    exact ⟨payload', metadata'', decoded'', found'', Eq.trans same' same⟩

end Kept

section Merge

variable {operations : List SplitOperationRow} {workspaceId taskId : String} {item merged existing metadata : Json}
  {projected operation : Option Json} {stored : JsonText} {row new : TaskMirror} {mirror : MirrorValues}

omit [Platform] in
theorem isObj_update (target source : Json) : (target.update source).isObj = target.isObj := by
  cases source with
  | obj fields => exact Json.isObj_update target
  | _ => rfl

omit [Platform] in
/-- Publish metadata that are recorded are in the merged payload. -/
theorem overlay_publish (item : Json) (operation : Option Json) (isObj : existing.isObj = true)
    (published : isPublished (existing.get "publish_metadata") = true) :
    (overlay existing item operation).field? "publish_metadata" = some (existing.get "publish_metadata") := by
  unfold overlay
  rw [if_pos published]
  refine Json.field?_set_self ?_ _ _
  cases operation with
  | none => rw [isObj_update, isObj]
  | some metadata => rw [Json.isObj_set, isObj_update, isObj]

omit [Platform] in
/-- A split operation that is recorded is in the merged payload. -/
theorem overlay_operation (item metadata : Json) (isObj : existing.isObj = true) :
    (overlay existing item (some metadata)).field? "split_operation" = some metadata := by
  have inner : ((existing.update item).set "split_operation" metadata).field? "split_operation" = some metadata :=
    Json.field?_set_self (by rw [isObj_update, isObj]) _ _
  unfold overlay
  dsimp only
  split
  · rw [Json.field?_set_ne (by decide), inner]
  · exact inner

/-- The merge of a payload that is an object. -/
structure Merges (taskId : String) (existing item : Json) (projected : Option Json) (merged : Json) : Prop where
  publish : isPublished (existing.get "publish_metadata") = true → item.get "publish_metadata" = .null ∨
    (item.get "publish_metadata").pyEq (existing.get "publish_metadata") = true
  operation : ∃ operation, storedSplitOperationMetadata existing item projected = .ok operation ∧
    (∀ old ∈ operation, ∀ new ∈ projected, old.pyEq new = true) ∧
    merged = overlay existing item (operation.or projected)

theorem mergePayload_ok (isObj : (decodedPayload stored).isObj = true) :
    mergePayload taskId stored item projected = .ok merged ↔
      Merges taskId (decodedPayload stored) item projected merged := by
  unfold mergePayload
  dsimp only
  rw [if_neg (by rw [isObj]; decide)]
  simp only [Except.bind_ok, raiseIf_except_ok, not_and, not_exists, not_not]
  constructor
  · rintro ⟨_, publish, operation, stored, _, agrees, same⟩
    refine ⟨fun published => ?_, operation, stored, fun old left new right => ?_, (Except.ok.inj same).symm⟩
    · by_cases absent : item.get "publish_metadata" = .null
      · exact .inl absent
      · exact .inr (publish published absent)
    · exact agrees old left new right
  · rintro ⟨publish, operation, stored, agrees, rfl⟩
    refine ⟨(), fun published some => ?_, operation, stored, (), fun old left new right => ?_, rfl⟩
    · exact (publish published).resolve_left some
    · exact agrees old left new right

/-- A reduced record that is stored is the one that is merged. -/
theorem stored_reduced {other : Option Json} (found : existing.field? "split_operation" = some metadata)
    (isObj : metadata.isObj = true) (keys : metadata.hasExactlyKeys taskMirrorSplitOperationKeys = true)
    (ran : storedSplitOperationMetadata existing item projected = .ok other) : other = some metadata := by
  unfold storedSplitOperationMetadata at ran
  rw [found] at ran
  dsimp only at ran
  rw [if_pos (by rw [isObj, keys]; rfl)] at ran
  simp only [Except.bind_ok, orRaise_except_ok] at ran
  obtain ⟨_, _, same⟩ := ran
  exact (Except.ok.inj same).symm

omit [Platform] in
theorem decodedPayload_of_loads (decoded : stored.loads = .ok existing) : decodedPayload stored = existing := by
  rw [decodedPayload, decoded]

omit [Platform] in
/-- A field of the merged payload is read from the row that holds it. -/
theorem stored_field {key : String} {value : Json} (found : merged.field? key = some value) :
    ∃ payload value', (JsonText.dumps merged.reload).loads = .ok payload ∧ payload.field? key = some value' ∧
      Json.Same value' value := by
  have related := (Json.same_reload merged).field? key
  rw [found] at related
  cases reloaded : merged.reload.field? key with
  | none =>
    rw [reloaded] at related
    cases related
  | some value' =>
    rw [reloaded] at related
    cases related with
    | some same => exact ⟨merged.reload, value', loads_dumps found, reloaded, same⟩

omit [Platform] in
theorem bindRow_ok {lastEventId : Option String} : bindRow workspaceId mirror lastEventId = .ok new ↔
    bindText mirror.phase = .ok new.phase ∧ bindText mirror.owner = .ok new.owner ∧
      bindText mirror.branch = .ok new.branch ∧ bindText mirror.pr = .ok new.pr ∧
      new.workspaceId = workspaceId ∧ new.taskId = mirror.taskId ∧ new.lastEventId = lastEventId ∧
      new.payloadJson = .dumps mirror.payload.reload := by
  simp only [bindRow, Except.bind_ok]
  constructor
  · rintro ⟨phase, boundPhase, owner, boundOwner, branch, boundBranch, pr, boundPr, same⟩
    cases same
    exact ⟨boundPhase, boundOwner, boundBranch, boundPr, rfl, rfl, rfl, rfl⟩
  · rintro ⟨phase, owner, branch, pr, own, task, last, payload⟩
    refine ⟨_, phase, _, owner, _, branch, _, pr, ?_⟩
    cases new
    cases own
    cases task
    cases last
    cases payload
    rfl

/-- The merge with a row that there is. -/
structure MergesRow (operations : List SplitOperationRow) (workspaceId taskId : String) (item : Json)
    (row : TaskMirror) (mirror : MirrorValues) : Prop where
  own : mirror.taskId = taskId
  phase : mirror.phase = (taskMirrorFromItem taskId item).phase
  owner : mirror.owner = item.get "owner"
  branch : mergeBinding taskId "branch" row.branch (taskMirrorFromItem taskId item).branch = .ok mirror.branch
  pr : mergeBinding taskId "pr" row.pr (taskMirrorFromItem taskId item).pr = .ok mirror.pr
  payload : ∃ projected, projectSplitOperationMetadata item = .ok projected ∧
    checkAdoption operations workspaceId taskId projected = .ok () ∧
    mergePayload taskId row.payloadJson item projected = .ok mirror.payload

theorem mergeMirror_some : mergeMirror operations workspaceId taskId item (some row) = .ok mirror ↔
    MergesRow operations workspaceId taskId item row mirror := by
  simp only [mergeMirror, Except.bind_ok]
  constructor
  · rintro ⟨projected, projects, _, adopts, branch, bound, pr, bound', payload, merges, same⟩
    cases same
    exact ⟨rfl, rfl, rfl, bound, bound', projected, projects, adopts, merges⟩
  · rintro ⟨task, phase, owner, bound, bound', projected, projects, adopts, merges⟩
    refine ⟨projected, projects, (), adopts, _, bound, _, bound', _, merges, ?_⟩
    cases mirror
    cases task
    cases phase
    cases owner
    rfl

/-- The merged values that a row is written from keep what the coordinator has recorded. -/
theorem kept_of_merges (rules : ItemRules item) (own : isTask workspaceId taskId row = true)
    (merges : MergesRow operations workspaceId taskId item row mirror)
    (binds : bindRow workspaceId mirror row.lastEventId = .ok new) : Kept row new := by
  obtain ⟨-, -, branch, pr, workspace, task, last, payload⟩ := bindRow_ok.mp binds
  obtain ⟨rfl, rfl⟩ := isTask_iff.mp own
  obtain ⟨projected, -, -, merged⟩ := merges.payload
  have inner : ∀ stored, row.payloadJson.loads = .ok stored → stored.isObj = true →
      Merges row.taskId stored item projected mirror.payload := by
    intro stored decoded isObj
    have same := decodedPayload_of_loads decoded
    rw [← same] at isObj ⊢
    exact (mergePayload_ok isObj).mp merged
  refine ⟨workspace, task.trans merges.own, last, fun text held some => ?_, fun text held some => ?_,
    fun stored decoded published => ?_, fun stored metadata decoded found isObj keys => ?_⟩
  · exact mergeBinding_kept (suppliable_orElse (suppliable_artifact rules "branch")) merges.branch branch held some
  · exact mergeBinding_kept (suppliable_orElse (suppliable_artifact rules "pull_request")) merges.pr pr held some
  · have isObj : stored.isObj = true := by
      cases stored with
      | obj fields => rfl
      | _ => cases published
    obtain ⟨operation, -, -, same⟩ := (inner stored decoded isObj).operation
    have placed := overlay_publish item (operation.or projected) isObj published
    rw [← same] at placed
    obtain ⟨payload', value', loaded, found', related⟩ := stored_field placed
    refine ⟨payload', by rw [payload, loaded], ?_⟩
    rw [Json.get, found']
    exact related
  · have isObj' : stored.isObj = true := by
      cases stored with
      | obj fields => rfl
      | _ => cases found
    obtain ⟨operation, reads, -, same⟩ := (inner stored decoded isObj').operation
    have kept := stored_reduced found isObj keys reads
    subst kept
    have placed := overlay_operation item metadata isObj'
    rw [Option.some_or] at same
    rw [← same] at placed
    obtain ⟨payload', value', loaded, found', related⟩ := stored_field placed
    exact ⟨payload', value', by rw [payload, loaded], found', related⟩

end Merge

section Again

variable {operations : List SplitOperationRow} {workspaceId taskId field source : String}
  {item payload existing metadata merged value : Json} {projected operation : Option Json} {row new : TaskMirror}
  {mirror : MirrorValues} {trusted : Option String} {supplied : Json}

omit [Platform] in
/-- A value that the coordinator has already is merged into itself. -/
theorem mergeBinding_again (held : supplied = .null ∨ supplied = Json.ofOption trusted) :
    mergeBinding taskId field trusted supplied = .ok (Json.ofOption trusted) := by
  have agrees : ¬ (trusted.getD "" ≠ "" ∧ supplied.truthy = true ∧ supplied ≠ Json.ofOption trusted) := by
    rintro ⟨-, truthy, other⟩
    rcases held with absent | same
    · rw [absent] at truthy
      cases truthy
    · exact other same
  unfold mergeBinding
  rw [show raiseIf _ _ = .ok () from raiseIf_except_ok.mpr agrees]
  rcases held with absent | same
  · subst absent
    rfl
  · subst same
    by_cases absent : Json.ofOption trusted = .null
    · exact congrArg Except.ok (if_pos absent)
    · exact congrArg Except.ok (if_neg absent)

omit [Platform] in
theorem supplied_of_mergeBinding {bound : Option String} (ran : mergeBinding taskId field trusted supplied = .ok merged)
    (same : Json.ofOption bound = merged) : supplied = .null ∨ supplied = Json.ofOption bound := by
  simp only [mergeBinding, Except.bind_ok, raiseIf_except_ok] at ran
  obtain ⟨_, _, kept⟩ := ran
  by_cases absent : supplied = .null
  · exact .inl absent
  · rw [if_neg absent] at kept
    exact .inr ((Except.ok.inj kept).trans same.symm)

theorem validate_source {other : String} (valid : validateTaskMirrorSplitOperation value source = .ok ()) :
    validateTaskMirrorSplitOperation value other = .ok () := by
  simp only [validateTaskMirrorSplitOperation, Except.bind_ok, raiseIf_except_ok] at valid ⊢
  exact valid

theorem project_none (projects : projectSplitOperationMetadata item = .ok none) :
    item.field? "split_operation" = none := by
  unfold projectSplitOperationMetadata at projects
  split at projects
  · assumption
  · rename_i envelope _
    cases ran : orRaise (m := Except Exn) (splitConflict (item.get "id"))
      (projectTaskMirrorSplitOperation envelope "checklist item") with
    | error e =>
      rw [ran] at projects
      cases projects
    | ok value =>
      rw [ran] at projects
      cases projects

theorem project_some (projects : projectSplitOperationMetadata item = .ok (some metadata)) :
    Reduced metadata "stored task mirror" := by
  unfold projectSplitOperationMetadata at projects
  split at projects
  · cases projects
  · rename_i envelope _
    cases ran : orRaise (m := Except Exn) (splitConflict (item.get "id"))
      (projectTaskMirrorSplitOperation envelope "checklist item") with
    | error e =>
      rw [ran] at projects
      cases projects
    | ok value =>
      rw [ran] at projects
      cases projects
      have inner := orRaise_except_ok.mp ran
      simp only [projectTaskMirrorSplitOperation, Except.bind_ok, raiseIf_except_ok] at inner
      obtain ⟨_, _, _, _, _, valid, same⟩ := inner
      cases same
      exact reduced_of_valid (validate_source valid)

/-- A merged payload that holds what its item says, as far as the coordinator lets it. -/
structure Absorbs (item payload : Json) (projected : Option Json) : Prop where
  isObj : payload.isObj = true
  distinct : payload.keys.Nodup
  publish : isPublished (payload.get "publish_metadata") = true → item.get "publish_metadata" = .null ∨
    (item.get "publish_metadata").pyEq (payload.get "publish_metadata") = true
  fields : ∀ key, key ≠ "split_operation" →
    (key = "publish_metadata" → isPublished (payload.get "publish_metadata") = false) →
    ∀ value, item.field? key = some value → payload.field? key = some value
  operation : payload.field? "split_operation" = none ∧ projected = none ∨
    ∃ metadata, payload.field? "split_operation" = some metadata ∧ Reduced metadata "stored task mirror" ∧
      ∀ new ∈ projected, metadata.pyEq new = true

omit [Platform] in
theorem pyEq_refl (value : Json) : value.pyEq value = true := by simp [Json.pyEq]

/-- The payload of a new mirror. -/
theorem absorbs_created (isObj : item.isObj = true) (distinct : item.keys.Nodup)
    (same : payload = match projected with
      | some metadata => item.set "split_operation" metadata
      | none => item)
    (projects : projectSplitOperationMetadata item = .ok projected) : Absorbs item payload projected := by
  cases projected with
  | none =>
    dsimp only at same
    subst same
    refine ⟨isObj, distinct, fun _ => .inr (pyEq_refl _), fun _ _ _ _ found => found,
      .inl ⟨project_none projects, rfl⟩⟩
  | some metadata =>
    dsimp only at same
    subst same
    have publish : (item.set "split_operation" metadata).get "publish_metadata" = item.get "publish_metadata" := by
      rw [Json.get, Json.get, Json.field?_set_ne (by decide)]
    refine ⟨by rw [Json.isObj_set, isObj], Json.nodup_keys_set distinct, fun _ => .inr ?_,
      fun key apart _ value found => ?_, .inr ⟨metadata, Json.field?_set_self isObj _ _, project_some projects, ?_⟩⟩
    · rw [publish]
      exact pyEq_refl _
    · rw [Json.field?_set_ne apart, found]
    · intro new member
      obtain rfl := Option.mem_some_iff.mp member
      exact pyEq_refl _

theorem stored_absent (absent : projected = none)
    (reads : storedSplitOperationMetadata existing item projected = .ok none) :
    existing.field? "split_operation" = none := by
  subst absent
  unfold storedSplitOperationMetadata at reads
  split at reads
  · rename_i gone
    exact gone
  · split at reads
    · simp only [Except.bind_ok] at reads
      obtain ⟨_, _, same⟩ := reads
      cases same
    · cases reads

/-- The operation that a payload is merged with is a reduced record. -/
theorem stored_some (projects : projectSplitOperationMetadata item = .ok projected)
    (reads : storedSplitOperationMetadata existing item projected = .ok (some metadata)) :
    Reduced metadata "stored task mirror" := by
  unfold storedSplitOperationMetadata at reads
  split at reads
  · cases reads
  · split at reads
    · simp only [Except.bind_ok, orRaise_except_ok] at reads
      obtain ⟨_, valid, same⟩ := reads
      cases same
      exact reduced_of_valid valid
    · split at reads
      · obtain rfl := Except.ok.inj reads
        exact project_some projects
      · cases reads

omit [Platform] in
theorem overlay_field? {key : String} (isObj : existing.isObj = true) (isItem : item.isObj = true)
    (distinct : item.keys.Nodup) (apart : key = "split_operation" → operation = none)
    (free : key = "publish_metadata" → isPublished (existing.get "publish_metadata") = false) :
    (overlay existing item operation).field? key = (item.field? key).or (existing.field? key) := by
  obtain ⟨fields, rfl⟩ : ∃ fields, item = .obj fields := by
    cases item with
    | obj fields => exact ⟨fields, rfl⟩
    | _ => cases isItem
  have outer : ∀ merged : Json, (if isPublished (existing.get "publish_metadata") then
      merged.set "publish_metadata" (existing.get "publish_metadata") else merged).field? key = merged.field? key := by
    intro merged
    split
    · rename_i published
      rw [Json.field?_set_ne]
      rintro rfl
      rw [free rfl] at published
      cases published
    · rfl
  rw [← Json.field?_update isObj distinct]
  cases operation with
  | none => exact outer _
  | some metadata =>
    refine (outer _).trans (Json.field?_set_ne ?_ _ _)
    intro own
    cases apart own

omit [Platform] in
theorem isObj_overlay : (overlay existing item operation).isObj = existing.isObj := by
  unfold overlay
  dsimp only
  cases operation <;> split <;> simp only [Json.isObj_set, isObj_update]

omit [Platform] in
theorem nodup_keys_overlay (distinct : existing.keys.Nodup) : (overlay existing item operation).keys.Nodup := by
  have updated : (existing.update item).keys.Nodup := by
    cases item with
    | obj fields => exact Json.nodup_keys_update distinct
    | _ => exact distinct
  unfold overlay
  cases operation with
  | none =>
    dsimp only
    split
    · exact Json.nodup_keys_set updated
    · exact updated
  | some metadata =>
    dsimp only
    split
    · exact Json.nodup_keys_set (Json.nodup_keys_set updated)
    · exact Json.nodup_keys_set updated

/-- The payload that is merged with a stored one. -/
theorem absorbs_overlay (isItem : item.isObj = true) (distinctItem : item.keys.Nodup)
    (isObj : existing.isObj = true) (distinct : existing.keys.Nodup)
    (projects : projectSplitOperationMetadata item = .ok projected)
    (merges : Merges taskId existing item projected payload) : Absorbs item payload projected := by
  obtain ⟨operation, reads, agrees, rfl⟩ := merges.operation
  have others : ∀ key, (key = "split_operation" → operation.or projected = none) →
      (key = "publish_metadata" → isPublished (existing.get "publish_metadata") = false) →
      (overlay existing item (operation.or projected)).field? key = (item.field? key).or (existing.field? key) :=
    fun key apart free => overlay_field? isObj isItem distinctItem apart free
  refine ⟨by rw [isObj_overlay, isObj], nodup_keys_overlay distinct, fun published => ?_,
    fun key apart free value found => ?_, ?_⟩
  · cases recorded : isPublished (existing.get "publish_metadata") with
    | true =>
      have placed := overlay_publish item (operation.or projected) isObj recorded
      rw [Json.get.eq_def (overlay _ _ _), placed]
      exact merges.publish recorded
    | false =>
      have field := others "publish_metadata" (fun own => absurd own (by decide)) fun _ => recorded
      cases supplied : item.field? "publish_metadata" with
      | none => exact .inl (by rw [Json.get, supplied]; rfl)
      | some value =>
        rw [supplied] at field
        refine .inr ?_
        rw [Json.get, Json.get, supplied, field]
        exact pyEq_refl _
  · rw [others key fun own => absurd own apart, found]
    · rfl
    · intro own
      by_contra recorded
      have placed := overlay_publish item (operation.or projected) isObj (by simpa using recorded)
      have gone := free own
      rw [Json.get, placed] at gone
      exact recorded gone
  · cases operation with
    | some metadata =>
      exact .inr ⟨metadata, overlay_operation _ _ isObj, stored_some projects reads, agrees metadata rfl⟩
    | none =>
      cases projected with
      | some metadata =>
        refine .inr ⟨metadata, overlay_operation _ _ isObj, project_some projects, fun new member => ?_⟩
        obtain rfl := Option.mem_some_iff.mp member
        exact pyEq_refl _
      | none =>
        refine .inl ⟨?_, rfl⟩
        rw [others "split_operation" (fun _ => rfl) fun own => absurd own (by decide), project_none projects,
          stored_absent rfl reads]
        rfl

omit [Platform] in
theorem nodup_keys_reload (distinct : value.keys.Nodup) : value.reload.keys.Nodup := by
  cases value with
  | obj fields =>
    have perm := (Json.sortFields_perm fields).map Prod.fst
    rw [List.map_map] at perm
    exact perm.nodup_iff.mpr distinct
  | _ => exact distinct

omit [Platform] in
theorem pyEq_congr {a b c : Json} (same : Json.Same a b) (equal : b.pyEq c = true) : a.pyEq c = true := by
  have first := same.pyEq
  simp only [Json.pyEq, decide_eq_true_eq] at first equal ⊢
  exact first.trans equal

omit [Platform] in
theorem pyEq_comm {a b : Json} (equal : a.pyEq b = true) : b.pyEq a = true := by
  simp only [Json.pyEq, decide_eq_true_eq] at equal ⊢
  exact equal.symm

omit [Platform] in
theorem rel_same_refl (found : Option Json) : Option.Rel Json.Same found found := by
  cases found with
  | none => exact .none
  | some value => exact .some rfl

/-- The operation that a payload holds is read back. -/
theorem Absorbs.reads (absorbs : Absorbs item payload projected) :
    ∃ operation, storedSplitOperationMetadata payload.reload item projected = .ok operation ∧
      (∀ old ∈ operation, ∀ new ∈ projected, old.pyEq new = true) ∧
      Option.Rel Json.Same (operation.or projected) (payload.field? "split_operation") := by
  have related := (Json.same_reload payload).field? "split_operation"
  rcases absorbs.operation with ⟨absent, rfl⟩ | ⟨metadata, found, reduced, agrees⟩
  · rw [absent] at related ⊢
    cases read : payload.reload.field? "split_operation" with
    | some other =>
      rw [read] at related
      cases related
    | none =>
      refine ⟨none, ?_, fun old member => (by cases member), .none⟩
      rw [storedSplitOperationMetadata, read]
      rfl
  · have own := Json.get_reload payload "split_operation"
    rw [found] at related ⊢
    cases read : payload.reload.field? "split_operation" with
    | none =>
      rw [read] at related
      cases related
    | some other =>
      rw [Json.get, Json.get, read, found, Option.getD_some, Option.getD_some] at own
      subst own
      have stored := reduced.reload
      refine ⟨some metadata.reload, ?_, fun old member new member' => ?_, .some (Json.same_reload metadata)⟩
      · rw [storedSplitOperationMetadata, read]
        dsimp only
        rw [if_pos (by rw [stored.isObj, stored.keys]; rfl)]
        simp only [Except.bind_ok, orRaise_except_ok]
        exact ⟨(), stored.valid, rfl⟩
      · obtain rfl := Option.mem_some_iff.mp member
        exact pyEq_congr (Json.same_reload metadata) (agrees new member')

/-- A payload that was merged with an item is merged with it into itself. -/
theorem mergePayload_again (taskId : String) {key : String} (isItem : item.isObj = true) (distinctItem : item.keys.Nodup)
    (absorbs : Absorbs item payload projected) (projects : projectSplitOperationMetadata item = .ok projected)
    (has : payload.field? key = some value) :
    ∃ payload', mergePayload taskId (.dumps payload.reload) item projected = .ok payload' ∧
      Json.Same payload' payload := by
  have same := Json.same_reload payload
  have isObj : payload.reload.isObj = true := by rw [same.isObj, absorbs.isObj]
  have decoded := decodedPayload_of_loads (loads_dumps has)
  obtain ⟨operation, reads, agrees, related⟩ := absorbs.reads
  have publishSame := same.get "publish_metadata"
  refine ⟨overlay payload.reload item (operation.or projected), (mergePayload_ok (by rw [decoded, isObj])).mpr ?_, ?_⟩
  · rw [decoded]
    refine ⟨fun published => ?_, operation, reads, agrees, rfl⟩
    rw [isPublished_congr publishSame] at published
    refine (absorbs.publish published).imp_right fun equal => ?_
    exact pyEq_comm (pyEq_congr publishSame (pyEq_comm equal))
  · refine Json.same_of_field? (by rw [isObj_overlay, isObj]) absorbs.isObj
      (nodup_keys_overlay (nodup_keys_reload absorbs.distinct)) absorbs.distinct fun name => ?_
    by_cases split : name = "split_operation"
    · subst split
      cases merged : operation.or projected with
      | some metadata =>
        rw [overlay_operation _ _ isObj, ← merged]
        exact related
      | none =>
        rw [merged] at related
        obtain ⟨rfl, rfl⟩ := Option.or_eq_none_iff.mp merged
        rw [overlay_field? isObj isItem distinctItem (fun _ => rfl) fun own => absurd own (by decide),
          project_none projects, stored_absent rfl reads]
        exact related
    · by_cases closed : name = "publish_metadata" ∧ isPublished (payload.get "publish_metadata") = true
      · obtain ⟨rfl, recorded⟩ := closed
        rw [overlay_publish item _ isObj (by rw [isPublished_congr publishSame, recorded])]
        cases found : payload.field? "publish_metadata" with
        | none =>
          rw [Json.get, found] at recorded
          cases recorded
        | some other =>
          rw [Json.get.eq_def payload, found] at publishSame
          exact .some publishSame
      · have free : name = "publish_metadata" → isPublished (payload.get "publish_metadata") = false :=
          fun own => Bool.eq_false_iff.mpr fun recorded => closed ⟨own, recorded⟩
        rw [overlay_field? isObj isItem distinctItem (fun own => absurd own split)
          fun own => by rw [isPublished_congr publishSame, free own]]
        cases supplied : item.field? name with
        | none => exact same.field? name
        | some other =>
          rw [absorbs.fields name split free other supplied]
          exact rel_same_refl _

end Again

section Plan

variable {operations : List SplitOperationRow} {workspaceId taskId field : String} {item value supplied merged : Json}
  {projected : Option Json} {row new : TaskMirror} {mirror : MirrorValues} {plan : ItemPlan} {db db' : Db}
  {trusted bound : Option String}

/-- A value whose column gives it back, or that cannot be bound. -/
def Bindable (value : Json) : Prop :=
  value = .null ∨ (∃ text, value = .str text) ∨ ∃ items, value = .arr items

omit [Platform] in
theorem ofOption_of_bindText (bindable : Bindable value) (binds : bindText value = .ok bound) :
    Json.ofOption bound = value := by
  rcases bindable with rfl | ⟨text, rfl⟩ | ⟨items, rfl⟩
  · cases binds
    rfl
  · cases binds
    rfl
  · cases binds

omit [Platform] in
theorem bindable_ofOption (trusted : Option String) : Bindable (Json.ofOption trusted) := by
  cases trusted with
  | none => exact .inl rfl
  | some text => exact .inr (.inl ⟨text, rfl⟩)

omit [Platform] in
theorem bindable_orElse {other : Json} (first : Bindable value) (second : Bindable other) :
    Bindable (value.orElse other) := by
  unfold Json.orElse
  split
  · exact first
  · exact second

omit [Platform] in
theorem bindable_of_oneOf {names : List String} (one : OneOf value names) : Bindable value := by
  obtain ⟨name, -, rfl⟩ := one
  exact .inr (.inl ⟨name, rfl⟩)

omit [Platform] in
theorem bindable_artifact (rules : ItemRules item) (key : String) : Bindable ((item.get "artifacts").get key) := by
  by_cases absent : item.get "artifacts" = .null
  · rw [absent]
    exact .inl rfl
  · obtain ⟨fields, own, each⟩ := rules.artifacts absent
    rw [own, Json.get, Json.field?]
    cases found : fields.lookup key with
    | none => exact .inl rfl
    | some value =>
      obtain ⟨before, after, whole, -⟩ := List.lookup_eq_some_iff.mp found
      have member : (key, value) ∈ fields := by
        rw [whole]
        exact List.mem_append_right _ List.mem_cons_self
      rcases (each _ member).texts with solid | ⟨entries, list, -⟩
      · cases value with
        | str text => exact .inr (.inl ⟨text, rfl⟩)
        | _ => cases solid
      · exact .inr (.inr ⟨entries, list⟩)

omit [Platform] in
theorem bindable_phase (rules : ItemRules item) :
    Bindable (((item.get "workflow").get "status").orElse (item.get "status")) := by
  refine bindable_orElse ?_ (bindable_of_oneOf rules.status)
  by_cases absent : item.get "workflow" = .null
  · rw [absent]
    exact .inl rfl
  · by_cases unset : (item.get "workflow").get "status" = .null
    · exact .inl unset
    · exact bindable_of_oneOf ((rules.workflow absent).status unset)

omit [Platform] in
theorem bindable_mergeBinding (bindable : Bindable supplied)
    (ran : mergeBinding taskId field trusted supplied = .ok merged) : Bindable merged := by
  simp only [mergeBinding, Except.bind_ok, raiseIf_except_ok] at ran
  obtain ⟨_, _, same⟩ := ran
  cases same
  split
  · exact bindable_ofOption trusted
  · exact bindable

/-- An item whose columns are texts. -/
structure Textual (item : Json) : Prop where
  owner : item.get "owner" = .null ∨ ∃ text, item.get "owner" = .str text
  branch : (item.get "workflow").get "branch" = .null ∨ ∃ text, (item.get "workflow").get "branch" = .str text

/-- A stored payload that is a dictionary, or that does not parse. -/
structure Readable (row : TaskMirror) : Prop where
  isObj : (decodedPayload row.payloadJson).isObj = true
  distinct : (decodedPayload row.payloadJson).keys.Nodup

omit [Platform] in
theorem bindable_branch (taskId : String) (rules : ItemRules item) (textual : Textual item) :
    Bindable (taskMirrorFromItem taskId item).branch :=
  bindable_orElse (textual.branch.imp_right .inl) (bindable_artifact rules "branch")

omit [Platform] in
theorem bindable_pr (taskId : String) (rules : ItemRules item) : Bindable (taskMirrorFromItem taskId item).pr :=
  bindable_orElse (bindable_artifact rules "pr") (bindable_artifact rules "pull_request")

omit [Platform] in
theorem holds_iff : holds row mirror = true ↔ Json.ofOption row.phase = mirror.phase ∧
    Json.ofOption row.owner = mirror.owner ∧ Json.ofOption row.branch = mirror.branch ∧
    Json.ofOption row.pr = mirror.pr ∧ row.payloadJson = .dumps mirror.payload.reload := by
  simp only [holds, Bool.and_eq_true, decide_eq_true_eq, and_assoc]

/-- A row whose columns are the merged values. -/
structure Written (operations : List SplitOperationRow) (workspaceId taskId : String) (item : Json) (row : TaskMirror)
    (mirror : MirrorValues) : Prop where
  phase : Json.ofOption row.phase = (taskMirrorFromItem taskId item).phase
  owner : Json.ofOption row.owner = item.get "owner"
  branch : (taskMirrorFromItem taskId item).branch = .null ∨
    (taskMirrorFromItem taskId item).branch = Json.ofOption row.branch
  pr : (taskMirrorFromItem taskId item).pr = .null ∨ (taskMirrorFromItem taskId item).pr = Json.ofOption row.pr
  payloadJson : row.payloadJson = .dumps mirror.payload.reload
  named : ∃ id, mirror.payload.field? "id" = some id
  payload : ∃ projected, projectSplitOperationMetadata item = .ok projected ∧
    checkAdoption operations workspaceId taskId projected = .ok () ∧ Absorbs item mirror.payload projected

/-- Such a row is merged with its item into itself. -/
theorem Written.again (written : Written operations workspaceId taskId item row mirror) (isItem : item.isObj = true)
    (distinct : item.keys.Nodup) :
    ∃ mirror', MergesRow operations workspaceId taskId item row mirror' ∧ holds row mirror' = true := by
  obtain ⟨projected, projects, adopts, absorbs⟩ := written.payload
  obtain ⟨id, named⟩ := written.named
  obtain ⟨payload', merges, same⟩ := mergePayload_again taskId isItem distinct absorbs projects named
  refine ⟨⟨taskId, (taskMirrorFromItem taskId item).phase, item.get "owner", Json.ofOption row.branch,
    Json.ofOption row.pr, payload'⟩, ⟨rfl, rfl, rfl, mergeBinding_again written.branch, mergeBinding_again written.pr,
    projected, projects, adopts, ?_⟩, holds_iff.mpr ⟨written.phase, written.owner, rfl, rfl, ?_⟩⟩
  · rw [written.payloadJson]
    exact merges
  · rw [written.payloadJson]
    exact congrArg JsonText.dumps (Eq.symm same)

theorem planItem_some (found : findTask db workspaceId taskId = some row) :
    planItem operations workspaceId taskId item db = .ok plan ↔
      ∃ mirror, MergesRow operations workspaceId taskId item row mirror ∧
        ((holds row mirror = true ∧ plan = ⟨mirror, .unchanged, row⟩) ∨ (holds row mirror = false ∧
          ∃ new, bindRow workspaceId mirror row.lastEventId = .ok new ∧ plan = ⟨mirror, .updated, new⟩)) := by
  unfold planItem
  simp only [found, Except.bind_ok, mergeMirror_some]
  refine exists_congr fun mirror => and_congr_right fun _ => ?_
  cases same : holds row mirror with
  | true =>
    rw [if_pos rfl]
    simp [pure, Except.pure, @eq_comm _ plan]
  | false =>
    rw [if_neg Bool.false_ne_true, Except.bind_ok]
    simp [pure, Except.pure, @eq_comm _ plan]

theorem planItem_none (absent : findTask db workspaceId taskId = none) :
    planItem operations workspaceId taskId item db = .ok plan ↔
      ∃ mirror new, mergeMirror operations workspaceId taskId item none = .ok mirror ∧
        bindRow workspaceId mirror none = .ok new ∧ plan = ⟨mirror, .created, new⟩ := by
  unfold planItem
  simp only [absent, Except.bind_ok, pure, Except.pure, Except.ok.injEq, exists_and_left, @eq_comm _ plan]

/-- A plan depends on the row of its task only. -/
theorem planItem_congr (same : findTask db workspaceId taskId = findTask db' workspaceId taskId) :
    planItem operations workspaceId taskId item db = planItem operations workspaceId taskId item db' := by
  unfold planItem
  rw [same]

theorem mergeMirror_none (ran : mergeMirror operations workspaceId taskId item none = .ok mirror) :
    ∃ projected payload, projectSplitOperationMetadata item = .ok projected ∧
      checkAdoption operations workspaceId taskId projected = .ok () ∧
      payload = (match projected with
        | some metadata => item.set "split_operation" metadata
        | none => item) ∧
      mirror = { taskMirrorFromItem taskId item with payload } := by
  simp only [mergeMirror, Except.bind_ok] at ran
  obtain ⟨projected, projects, _, adopts, same⟩ := ran
  refine ⟨projected, _, projects, adopts, rfl, ?_⟩
  cases projected with
  | none => exact (Except.ok.inj same).symm
  | some metadata => exact (Except.ok.inj same).symm

/-- The row of a plan is that of its task. -/
theorem isTask_plan (ran : planItem operations workspaceId taskId item db = .ok plan) :
    isTask workspaceId taskId plan.row = true := by
  cases found : findTask db workspaceId taskId with
  | none =>
    obtain ⟨mirror, new, merges, binds, rfl⟩ := (planItem_none found).mp ran
    obtain ⟨projected, payload, -, -, -, rfl⟩ := mergeMirror_none merges
    obtain ⟨-, -, -, -, workspace, task, -, -⟩ := bindRow_ok.mp binds
    exact isTask_iff.mpr ⟨workspace, task⟩
  | some row =>
    obtain ⟨mirror, merges, ⟨-, rfl⟩ | ⟨-, new, binds, rfl⟩⟩ := (planItem_some found).mp ran
    · exact (findTask_eq_some.mp found).2
    · obtain ⟨-, -, -, -, workspace, task, -, -⟩ := bindRow_ok.mp binds
      exact isTask_iff.mpr ⟨workspace, task.trans merges.own⟩

/-- What the coordinator has recorded stays in the row of a plan. -/
theorem kept_plan (rules : ItemRules item) (found : findTask db workspaceId taskId = some row)
    (ran : planItem operations workspaceId taskId item db = .ok plan) : Kept row plan.row := by
  obtain ⟨mirror, merges, ⟨-, rfl⟩ | ⟨-, new, binds, rfl⟩⟩ := (planItem_some found).mp ran
  · exact .refl row
  · exact kept_of_merges rules (findTask_eq_some.mp found).2 merges binds

omit [Platform] in
theorem named_of_rules (rules : ItemRules item) : ∃ id, item.field? "id" = some id :=
  Option.isSome_iff_exists.mp (rules.required "id" (by decide))

/-- The plan of a task for the row that its item was merged into. -/
theorem planItem_again (rules : ItemRules item) (distinct : item.keys.Nodup) (textual : Textual item)
    (readable : ∀ row, findTask db workspaceId taskId = some row → Readable row)
    (ran : planItem operations workspaceId taskId item db = .ok plan)
    (placed : findTask db' workspaceId taskId = some plan.row) :
    ∃ mirror, planItem operations workspaceId taskId item db' = .ok ⟨mirror, .unchanged, plan.row⟩ := by
  obtain ⟨id, named⟩ := named_of_rules rules
  have settles : ∀ mirror, Written operations workspaceId taskId item plan.row mirror →
      ∃ mirror, planItem operations workspaceId taskId item db' = .ok ⟨mirror, .unchanged, plan.row⟩ := by
    intro mirror written
    obtain ⟨mirror', merges, same⟩ := written.again rules.isObj distinct
    exact ⟨mirror', (planItem_some placed).mpr ⟨mirror', merges, .inl ⟨same, rfl⟩⟩⟩
  cases found : findTask db workspaceId taskId with
  | none =>
    obtain ⟨mirror, new, merges, binds, rfl⟩ := (planItem_none found).mp ran
    obtain ⟨projected, payload, projects, adopts, whole, rfl⟩ := mergeMirror_none merges
    obtain ⟨phase, owner, branch, pr, -, -, -, stored⟩ := bindRow_ok.mp binds
    have absorbs := absorbs_created rules.isObj distinct whole projects
    have placed' := absorbs.fields "id" (by decide) (fun own => absurd own (by decide)) id named
    exact settles _ {
      phase := ofOption_of_bindText (bindable_phase rules) phase
      owner := ofOption_of_bindText (textual.owner.imp_right .inl) owner
      branch := .inr (ofOption_of_bindText (bindable_branch taskId rules textual) branch).symm
      pr := .inr (ofOption_of_bindText (bindable_pr taskId rules) pr).symm
      payloadJson := stored
      named := ⟨id, placed'⟩
      payload := ⟨projected, projects, adopts, absorbs⟩ }
  | some row =>
    obtain ⟨mirror, merges, ⟨same, rfl⟩ | ⟨-, new, binds, rfl⟩⟩ := (planItem_some found).mp ran
    · exact ⟨mirror, (planItem_some placed).mpr ⟨mirror, merges, .inl ⟨same, rfl⟩⟩⟩
    · obtain ⟨phase, owner, branch, pr, -, -, -, payload⟩ := bindRow_ok.mp binds
      obtain ⟨projected, projects, adopts, merged⟩ := merges.payload
      obtain ⟨isObj, keys⟩ := readable row found
      have inner := (mergePayload_ok isObj).mp merged
      have absorbs := absorbs_overlay rules.isObj distinct isObj keys projects inner
      have placed' := absorbs.fields "id" (by decide) (fun own => absurd own (by decide)) id named
      rw [merges.phase] at phase
      rw [merges.owner] at owner
      have branchText := ofOption_of_bindText (bindable_mergeBinding (bindable_branch taskId rules textual) merges.branch) branch
      have prText := ofOption_of_bindText (bindable_mergeBinding (bindable_pr taskId rules) merges.pr) pr
      exact settles mirror {
        phase := ofOption_of_bindText (bindable_phase rules) phase
        owner := ofOption_of_bindText (textual.owner.imp_right .inl) owner
        branch := supplied_of_mergeBinding merges.branch branchText
        pr := supplied_of_mergeBinding merges.pr prText
        payloadJson := payload
        named := ⟨id, placed'⟩
        payload := ⟨projected, projects, adopts, absorbs⟩ }

end Plan

end Coordinate.MirrorReconcile

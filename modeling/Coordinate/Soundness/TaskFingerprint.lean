import Coordinate.Library.JsonErasure
import Coordinate.Model.Installation
import Coordinate.Model.TaskFingerprint

/-! # What the fingerprint of a task tells apart

The projection of an item is the item without the excluded keys at every depth, and no item that has an id
looks like an absent task. The fingerprint therefore tells two states of a task apart exactly when they
differ in something else than what is excluded.
-/

namespace Coordinate.TaskFingerprint

open Json TaskDependencies

section Projection

mutual

theorem projectValue_eq : ∀ value : Json, projectValue value = value.without fingerprintExcludedKeys
  | .arr items => congrArg Json.arr (projectItems_eq items)
  | .obj fields => congrArg Json.obj (projectFields_eq fields)
  | .null | .bool _ | .int _ | .str _ => by simp only [projectValue, without]

theorem projectItems_eq : ∀ items : List Json,
    projectItems items = withoutItems fingerprintExcludedKeys items
  | [] => rfl
  | item :: rest => by rw [projectItems, projectValue_eq item, projectItems_eq rest, withoutItems]

theorem projectFields_eq : ∀ fields : List (String × Json),
    projectFields fields = withoutFields fingerprintExcludedKeys fields
  | [] => rfl
  | (key, value) :: rest => by
    unfold projectFields withoutFields
    rw [projectValue_eq value, projectFields_eq rest]
    simp only [List.contains_iff_mem]

end

variable {item : Json}

theorem without_foldl_erase {dropped : List String} : ∀ {keys : List String}, (∀ key ∈ keys, key ∈ dropped) →
    ∀ item : Json, (keys.foldl erase item).without dropped = item.without dropped
  | [], _, _ => rfl
  | key :: rest, drop, item => by
    rw [List.foldl_cons, without_foldl_erase fun other member => drop other (List.mem_cons_of_mem _ member),
      without_erase (drop key List.mem_cons_self)]

/-- The two removals at the top come down to the one at every depth. -/
theorem project_present (item : Json) (taskId : String) :
    projectChecklistItemForFingerprint (some item) taskId = item.without fingerprintExcludedKeys := by
  have drop : ∀ key ∈ fingerprintExcludedKeys, key ∈ fingerprintExcludedKeys := fun _ member => member
  have popped := without_foldl_erase drop item
  simp only [projectChecklistItemForFingerprint, projectChecklistItem]
  rw [projectValue_eq]
  split
  · rename_i workflow
    rw [eraseIn, without_set (without_erase (by decide) _) ?_, popped]
    unfold Json.get at workflow ⊢
    cases found : (fingerprintExcludedKeys.foldl erase item).field? "workflow" with
    | none =>
      rw [found] at workflow
      cases workflow
    | some value => rfl
  · exact popped

theorem field?_sortKeys (value : Json) (key : String) :
    value.sortKeys.field? key = (value.field? key).map sortKeys := by
  cases value with
  | obj fields => exact lookup_sortFields key fields
  | _ => rfl

theorem field?_without {dropped : List String} {key : String} (kept : key ∉ dropped) (value : Json) :
    (value.without dropped).field? key = (value.field? key).map (without dropped) := by
  cases value with
  | obj fields => exact (lookup_withoutFields key fields).trans (if_neg kept)
  | _ => rfl

/-- An absent task has no id. -/
theorem absent_ne_present {taskId taskId' : String} (carries : (item.field? "id").isSome = true) :
    (projectChecklistItemForFingerprint none taskId).sortKeys ≠
      (projectChecklistItemForFingerprint (some item) taskId').sortKeys := by
  intro same
  have absent := congrArg (·.field? "id") same
  obtain ⟨id, found⟩ := Option.isSome_iff_exists.mp carries
  have included : "id" ∉ fingerprintExcludedKeys := by decide
  have kept := field?_without included item
  rw [project_present] at absent
  rw [field?_sortKeys, field?_sortKeys, kept, found] at absent
  cases absent

end Projection

section Fingerprints

/-- Both states are the absent task, or both are items that are equal without the excluded keys. -/
def SameTask : Option Json → Option Json → Prop
  | none, none => True
  | some left, some right =>
    Same (left.without fingerprintExcludedKeys) (right.without fingerprintExcludedKeys)
  | _, _ => False

variable [Platform]

theorem fingerprint_eq (injective : Function.Injective sha256) {left right : Option Json} {taskId : String} :
    computeTaskItemFingerprint left taskId = computeTaskItemFingerprint right taskId ↔
      Same (projectChecklistItemForFingerprint left taskId)
        (projectChecklistItemForFingerprint right taskId) := by
  unfold computeTaskItemFingerprint
  rw [injective.eq_iff, same_iff_dumps, dumps, dumps, String.ofList_inj]

/-- **Fingerprints are sound**, with a hash that merges nothing: they agree exactly on the states of a task that
are both absent, or both present and equal without the excluded keys at any depth. -/
theorem fingerprint_eq_iff (injective : Function.Injective sha256) {left right : Option Json}
    (taskId : String) (carries : ∀ item ∈ left, (item.field? "id").isSome = true)
    (carries' : ∀ item ∈ right, (item.field? "id").isSome = true) :
    computeTaskItemFingerprint left taskId = computeTaskItemFingerprint right taskId ↔
      SameTask left right := by
  rw [fingerprint_eq injective]
  cases left with
  | none =>
    cases right with
    | none => exact ⟨fun _ => trivial, fun _ => rfl⟩
    | some item => exact ⟨fun same => absurd same (absent_ne_present (carries' item rfl)), False.elim⟩
  | some item =>
    cases right with
    | none => exact ⟨fun same => absurd same.symm (absent_ne_present (carries item rfl)), False.elim⟩
    | some other =>
      rw [project_present, project_present]
      exact Iff.rfl

end Fingerprints

namespace Sample

/-- An item, and what its projection leaves of it. -/
def item : Json := .obj [("updated_at", .int 1),
  ("notes", .arr [.obj [("verification", .null), ("a", .str "1")]]), ("id", .str "t")]

def projected : Json := .obj [("id", .str "t"), ("notes", .arr [.obj [("a", .str "1")]])]

/-- An item with a number in the place of a string. -/
def other : Json := .obj [("id", .str "t"), ("notes", .arr [.obj [("a", .int 1)]])]

/-- The digests of the two projections; other texts get what is no digest. -/
def digest (text : List Char) : String :=
  if text = projected.text then "0a090c424b5d282a911cb0eadee6d425e2ce02027a0924a5a78b4ec46fbcf92a"
  else if text = other.text then "acb7fd56f7916f4723ca51748395cb26ac6200a6cd57ebbb9c625326f20b1d42"
  else String.ofList ('!' :: text)

@[reducible] def hashing : Platform := { Coordinate.Sample.platform fun _ => "" with sha256 := digest }

attribute [local instance] hashing

theorem digest_injective : Function.Injective digest := by
  have apart : ∀ (known : String) (text : List Char), known.toList.head? ≠ some '!' →
      known ≠ String.ofList ('!' :: text) := by
    rintro known text head rfl
    simp at head
  intro left right same
  unfold digest at same
  split_ifs at same with first second third fourth fifth sixth
  · exact first.trans second.symm
  · exact absurd same (by decide)
  · exact absurd same (apart _ _ (by decide))
  · exact absurd same (by decide)
  · exact fourth.trans sixth.symm
  · exact absurd same (apart _ _ (by decide))
  · exact absurd same.symm (apart _ _ (by decide))
  · exact absurd same.symm (apart _ _ (by decide))
  · exact (List.cons.inj (String.ofList_inj.mp same)).2

/-- Excluded keys make no difference, the type of a nested value does. -/
theorem fingerprints_compared :
    computeTaskItemFingerprint (some item) "t" = computeTaskItemFingerprint (some projected) "t" ∧
      computeTaskItemFingerprint (some item) "t" ≠ computeTaskItemFingerprint (some other) "t" := by
  have ids : ∀ document : Json, (document.field? "id").isSome = true →
      ∀ found ∈ some document, (found.field? "id").isSome = true := by
    intro document carries found own
    cases own
    exact carries
  refine ⟨(fingerprint_eq_iff digest_injective "t" (ids item (by decide))
      (ids projected (by decide))).mpr ?_, fun same => ?_⟩
  · change Same _ _
    decide
  · have equal : Same _ _ := (fingerprint_eq_iff digest_injective "t" (ids item (by decide))
      (ids other (by decide))).mp same
    revert equal
    decide

end Sample

end Coordinate.TaskFingerprint

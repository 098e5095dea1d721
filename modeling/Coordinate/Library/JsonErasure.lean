import Mathlib.Data.List.Sort
import Mathlib.Data.String.Basic
import Coordinate.Library.Json

/-! # Equality and erasure of JSON documents

`Json.Same` is the equality of documents whose objects are dictionaries: it ignores the order of keys, at any
depth, and nothing else. `Json.without` removes the dropped keys from the objects of a document at every depth.
-/

namespace Json

section Ordering

variable {field : String × Json} {fields : List (String × Json)}

theorem insertField_perm (field : String × Json) : ∀ fields : List (String × Json),
    (insertField field fields).Perm (field :: fields)
  | [] => .refl _
  | head :: rest => by
    unfold insertField
    split
    · exact .refl _
    · exact ((insertField_perm field rest).cons head).trans (.swap field head rest)

theorem sortFields_perm : ∀ fields : List (String × Json),
    (sortFields fields).Perm (fields.map fun field => (field.1, field.2.sortKeys))
  | [] => .nil
  | (_, _) :: rest => (insertField_perm _ _).trans ((sortFields_perm rest).cons _)

theorem pairwise_insertField (sorted : fields.Pairwise (·.1 ≤ ·.1)) :
    (insertField field fields).Pairwise (·.1 ≤ ·.1) := by
  induction fields with
  | nil => exact List.pairwise_singleton _ _
  | cons head rest ih =>
    obtain ⟨first, sorted'⟩ := List.pairwise_cons.mp sorted
    unfold insertField
    split
    · rename_i before
      refine List.pairwise_cons.mpr ⟨fun other member => ?_, sorted⟩
      rcases List.mem_cons.mp member with rfl | member
      · exact before
      · exact before.trans (first other member)
    · rename_i after
      refine List.pairwise_cons.mpr ⟨fun other member => ?_, ih sorted'⟩
      rcases List.mem_cons.mp ((insertField_perm field rest).mem_iff.mp member) with rfl | member
      · exact le_of_not_ge after
      · exact first other member

theorem pairwise_sortFields : ∀ fields : List (String × Json), (sortFields fields).Pairwise (·.1 ≤ ·.1)
  | [] => .nil
  | (_, _) :: rest => pairwise_insertField (pairwise_sortFields rest)

end Ordering

section Equality

/-- Equality of documents, whatever the order of their keys. -/
def Same (a b : Json) : Prop := a.sortKeys = b.sortKeys

instance (a b : Json) : Decidable (Same a b) := inferInstanceAs (Decidable (a.sortKeys = b.sortKeys))

theorem same_iff_dumps {a b : Json} : Same a b ↔ a.dumps = b.dumps := by
  refine ⟨fun same => ?_, dumps_injective⟩
  rw [dumps, dumps, text, text, same]

theorem same_arr {items others : List Json} :
    Same (arr items) (arr others) ↔ List.Forall₂ Same items others := by
  simp only [Same, sortKeys, arr.injEq, sortItems_eq_map]
  rw [← List.forall₂_eq_eq_eq, List.forall₂_map_left_iff, List.forall₂_map_right_iff]
  rfl

theorem mem_iff_lookup {fields : List (String × Json)} (distinct : (fields.map Prod.fst).Nodup)
    {key : String} {value : Json} : (key, value) ∈ fields ↔ fields.lookup key = some value := by
  induction fields with
  | nil => simp
  | cons head rest ih =>
    obtain ⟨name, first⟩ := head
    rw [List.map_cons, List.nodup_cons] at distinct
    obtain ⟨fresh, distinct⟩ := distinct
    rw [List.mem_cons, ih distinct, List.lookup_cons]
    by_cases own : key = name
    · subst own
      have absent : rest.lookup key ≠ some value := fun found =>
        fresh (List.mem_map.mpr ⟨(key, value), (ih distinct).mpr found, rfl⟩)
      simp [absent, eq_comm]
    · simp [own, beq_false_of_ne own]

/-- Two dictionaries are equal when they have equal values under every key. -/
theorem same_obj {fields others : List (String × Json)} (distinct : (fields.map Prod.fst).Nodup)
    (distinct' : (others.map Prod.fst).Nodup) : Same (obj fields) (obj others) ↔
      ∀ key, Option.Rel Same (fields.lookup key) (others.lookup key) := by
  have sorted : ∀ fields : List (String × Json), (fields.map Prod.fst).Nodup →
      ((sortFields fields).map Prod.fst).Nodup := by
    intro fields distinct
    refine ((sortFields_perm fields).map Prod.fst).nodup_iff.mpr ?_
    rwa [List.map_map]
  have lookups : (∀ key, Option.Rel Same (fields.lookup key) (others.lookup key)) ↔
      ∀ key, (sortFields fields).lookup key = (sortFields others).lookup key := by
    refine forall_congr' fun key => ?_
    rw [lookup_sortFields, lookup_sortFields]
    cases fields.lookup key <;> cases others.lookup key <;> simp [Same]
  rw [lookups, Same, sortKeys, sortKeys, obj.injEq]
  refine ⟨fun same key => by rw [same], fun same => ?_⟩
  have members : ∀ field, field ∈ sortFields fields ↔ field ∈ sortFields others := by
    rintro ⟨key, value⟩
    rw [mem_iff_lookup (sorted fields distinct), mem_iff_lookup (sorted others distinct'), same]
  refine List.Perm.eq_of_pairwise (fun a b left right before after => ?_) (pairwise_sortFields fields)
    (pairwise_sortFields others) ?_
  · have found := (mem_iff_lookup (sorted others distinct')).mp right
    have found' := (mem_iff_lookup (sorted others distinct')).mp ((members a).mp left)
    rw [before.antisymm after] at found'
    exact Prod.ext (before.antisymm after) (Option.some.inj (found'.symm.trans found))
  · exact (List.perm_ext_iff_of_nodup (sorted fields distinct).of_map (sorted others distinct').of_map).mpr
      members

theorem sortFields_of_sorted : ∀ {fields : List (String × Json)}, fields.Pairwise (·.1 ≤ ·.1) →
    (∀ field ∈ fields, field.2.sortKeys = field.2) → sortFields fields = fields
  | [], _, _ => rfl
  | (key, value) :: rest, sorted, fixed => by
    obtain ⟨first, sorted⟩ := List.pairwise_cons.mp sorted
    obtain ⟨own, fixed⟩ := List.forall_mem_cons.mp fixed
    rw [sortFields, sortFields_of_sorted sorted fixed, own]
    cases rest with
    | nil => rfl
    | cons head rest => exact if_pos (first head List.mem_cons_self)

mutual

theorem sortKeys_sortKeys : ∀ value : Json, value.sortKeys.sortKeys = value.sortKeys
  | arr items => by rw [sortKeys, sortKeys, sortItems_sortItems items]
  | obj fields => by
    rw [sortKeys, sortKeys, sortFields_of_sorted (pairwise_sortFields fields)]
    intro field member
    obtain ⟨old, inside, rfl⟩ := List.mem_map.mp ((sortFields_perm fields).mem_iff.mp member)
    exact sortKeys_values fields old inside
  | null => rfl
  | bool _ => rfl
  | int _ => rfl
  | str _ => rfl

theorem sortItems_sortItems : ∀ items : List Json, sortItems (sortItems items) = sortItems items
  | [] => rfl
  | item :: rest => by rw [sortItems, sortItems, sortKeys_sortKeys item, sortItems_sortItems rest]

theorem sortKeys_values : ∀ fields : List (String × Json), ∀ field ∈ fields,
    field.2.sortKeys.sortKeys = field.2.sortKeys
  | [] => List.forall_mem_nil _
  | (_, value) :: rest => List.forall_mem_cons.mpr ⟨sortKeys_sortKeys value, sortKeys_values rest⟩

end

/-- A value that has been written and read is the same. -/
theorem same_reload (value : Json) : Same value.reload value := sortKeys_sortKeys value

theorem intBools_insertField (field : String × Json) : ∀ fields : List (String × Json),
    intBoolsFields (insertField field fields) = insertField (field.1, field.2.intBools) (intBoolsFields fields)
  | [] => rfl
  | (key, value) :: rest => by
    unfold insertField
    by_cases before : field.1 ≤ key
    · rw [if_pos before, intBoolsFields, intBoolsFields]
      exact (if_pos before).symm
    · rw [if_neg before, intBoolsFields, intBools_insertField field rest]
      exact (if_neg before).symm

mutual

/-- The order of keys and the identification of booleans do not depend on each other. -/
theorem intBools_sortKeys : ∀ value : Json, value.sortKeys.intBools = value.intBools.sortKeys
  | arr items => by rw [sortKeys, intBools, intBools, sortKeys, intBools_sortItems items]
  | obj fields => by rw [sortKeys, intBools, intBools, sortKeys, intBools_sortFields fields]
  | null => rfl
  | bool _ => rfl
  | int _ => rfl
  | str _ => rfl

theorem intBools_sortItems : ∀ items : List Json,
    intBoolsItems (sortItems items) = sortItems (intBoolsItems items)
  | [] => rfl
  | item :: rest => by
    rw [sortItems, intBoolsItems, intBoolsItems, sortItems, intBools_sortKeys item, intBools_sortItems rest]

theorem intBools_sortFields : ∀ fields : List (String × Json),
    intBoolsFields (sortFields fields) = sortFields (intBoolsFields fields)
  | [] => rfl
  | (key, value) :: rest => by
    rw [sortFields, intBools_insertField, intBools_sortKeys value, intBools_sortFields rest, intBoolsFields,
      sortFields]

end

namespace Same

variable {a b : Json} {key : String}

/-- The same values are equal in Python, which also identifies booleans with integers. -/
theorem pyEq (same : Same a b) : a.pyEq b = true := by
  refine decide_eq_true ?_
  rw [norm, norm, ← intBools_sortKeys, ← intBools_sortKeys, same]

theorem isObj (same : Same a b) : a.isObj = b.isObj := by
  have sorted : ∀ value : Json, value.sortKeys.isObj = value.isObj := by
    intro value
    cases value <;> rfl
  rw [← sorted a, ← sorted b]
  exact congrArg Json.isObj same

theorem field? (same : Same a b) (key : String) : Option.Rel Same (a.field? key) (b.field? key) := by
  have sorted : ∀ value : Json, value.sortKeys.field? key = (value.field? key).map sortKeys := by
    intro value
    cases value with
    | obj fields => exact lookup_sortFields key fields
    | _ => rfl
  have found : a.sortKeys.field? key = b.sortKeys.field? key := congrArg (·.field? key) same
  rw [sorted, sorted] at found
  cases left : a.field? key <;> cases right : b.field? key <;> rw [left, right] at found
  · exact .none
  · cases found
  · cases found
  · exact .some (Option.some.inj found)

theorem get (same : Same a b) (key : String) : Same (a.get key) (b.get key) := by
  have related := same.field? key
  unfold Json.get
  cases left : a.field? key <;> cases right : b.field? key <;> rw [left, right] at related
  · exact rfl
  · cases related
  · cases related
  · exact Option.rel_some_some.mp related

theorem truthy (same : Same a b) : a.truthy = b.truthy := by
  have sorted : ∀ value : Json, value.sortKeys.truthy = value.truthy := by
    intro value
    cases value with
    | arr items => cases items <;> rfl
    | obj fields =>
      have length := (sortFields_perm fields).length_eq
      rw [List.length_map] at length
      change (!(sortFields fields).isEmpty) = !fields.isEmpty
      cases fields with
      | nil => rfl
      | cons field rest =>
        cases found : sortFields (field :: rest) with
        | nil =>
          rw [found] at length
          cases length
        | cons _ _ => rfl
    | _ => rfl
  rw [← sorted a, ← sorted b]
  exact congrArg Json.truthy same

theorem mem_keys (same : Same a b) : key ∈ a.keys ↔ key ∈ b.keys := by
  have sorted : ∀ value : Json, key ∈ value.sortKeys.keys ↔ key ∈ value.keys := by
    intro value
    cases value with
    | obj fields =>
      change key ∈ (sortFields fields).map Prod.fst ↔ key ∈ fields.map Prod.fst
      rw [((sortFields_perm fields).map Prod.fst).mem_iff, List.map_map]
      rfl
    | _ => rfl
  rw [← sorted, ← sorted b]
  exact Iff.of_eq (congrArg (key ∈ keys ·) same)

theorem hasExactlyKeys (same : Same a b) (expected : List String) :
    a.hasExactlyKeys expected = b.hasExactlyKeys expected := by
  rw [Bool.eq_iff_iff]
  simp only [Json.hasExactlyKeys, Bool.and_eq_true, List.all_eq_true, List.contains_iff_mem, same.mem_keys]

end Same

/-- A value that no other value is the same as. -/
def Flat (value : Json) : Prop := ∀ other, Same other value ↔ other = value

theorem flat_null : Flat null := fun other => by cases other <;> simp [Same, sortKeys]

theorem flat_int (value : Int) : Flat (int value) := fun other => by cases other <;> simp [Same, sortKeys]

theorem flat_str (text : String) : Flat (str text) := fun other => by cases other <;> simp [Same, sortKeys]

theorem flat_ofOption (text : Option String) : Flat (ofOption text) := by
  cases text with
  | none => exact flat_null
  | some text => exact flat_str text

theorem flat_arr {items : List Json} (flat : ∀ item ∈ items, Flat item) : Flat (arr items) := by
  intro other
  cases other with
  | arr others =>
    rw [same_arr, arr.injEq]
    constructor
    · intro same
      induction same with
      | nil => rfl
      | cons first _ ih =>
        obtain ⟨own, rest⟩ := List.forall_mem_cons.mp flat
        rw [(own _).mp first, ih rest]
    · rintro rfl
      exact List.forall₂_same.mpr fun item _ => rfl
  | _ => simp [Same, sortKeys]

theorem flat_texts (texts : List String) : Flat (arr (texts.map str)) :=
  flat_arr fun item member => by
    obtain ⟨text, -, rfl⟩ := List.mem_map.mp member
    exact flat_str text

theorem mem_keys_iff_lookup {fields : List (String × Json)} {key : String} :
    key ∈ fields.map Prod.fst ↔ ∃ value, fields.lookup key = some value := by
  rw [← Option.isSome_iff_exists, List.lookup_isSome_iff, List.mem_map]
  exact exists_congr fun field => and_congr_right fun _ => by rw [beq_iff_eq, eq_comm]

/-- A dictionary is a dictionary of flat values if it has its keys and, under each of them, its value. -/
theorem same_flat {fields others : List (String × Json)} (distinct : (fields.map Prod.fst).Nodup)
    (distinct' : (others.map Prod.fst).Nodup) (flat : ∀ field ∈ others, Flat field.2) :
    Same (obj fields) (obj others) ↔ (obj fields).hasExactlyKeys (others.map Prod.fst) = true ∧
      ∀ field ∈ others, (obj fields).get field.1 = field.2 := by
  have keys : (obj fields).hasExactlyKeys (others.map Prod.fst) = true ↔
      ∀ key, key ∈ fields.map Prod.fst ↔ key ∈ others.map Prod.fst := by
    simp only [hasExactlyKeys, Json.keys, Bool.and_eq_true, List.all_eq_true, List.contains_iff_mem]
    exact ⟨fun both key => ⟨both.1 key, both.2 key⟩, fun same => ⟨fun key => (same key).mp, fun key =>
      (same key).mpr⟩⟩
  rw [same_obj distinct distinct', keys]
  constructor
  · intro same
    refine ⟨fun key => ?_, fun field member => ?_⟩
    · rw [mem_keys_iff_lookup, mem_keys_iff_lookup]
      have related := same key
      cases left : fields.lookup key <;> cases right : others.lookup key <;> simp_all
    · have related := same field.1
      rw [(mem_iff_lookup distinct').mp member] at related
      cases found : fields.lookup field.1 with
      | none => rw [found] at related; cases related
      | some value =>
        rw [found, Option.rel_some_some] at related
        rw [get, field?, found, Option.getD_some]
        exact (flat field member value).mp related
  · rintro ⟨same, values⟩ key
    cases right : others.lookup key with
    | none =>
      cases left : fields.lookup key with
      | none => exact .none
      | some value =>
        have inside := (same key).mp (mem_keys_iff_lookup.mpr ⟨value, left⟩)
        obtain ⟨other, found⟩ := mem_keys_iff_lookup.mp inside
        rw [right] at found
        cases found
    | some other =>
      have member := (mem_iff_lookup distinct').mpr right
      obtain ⟨value, left⟩ := mem_keys_iff_lookup.mp
        ((same key).mpr (mem_keys_iff_lookup.mpr ⟨other, right⟩))
      have equal := values _ member
      rw [get, field?, left, Option.getD_some] at equal
      rw [left, Option.rel_some_some, equal]
      rfl

end Equality

section Updates

variable {fields source : List (String × Json)} {key : String} {value : Json}

theorem nodup_setField (distinct : (fields.map Prod.fst).Nodup) : ((setField key value fields).map Prod.fst).Nodup := by
  induction fields with
  | nil => exact List.nodup_singleton _
  | cons head rest ih =>
    obtain ⟨name, first⟩ := head
    obtain ⟨fresh, distinct⟩ := List.nodup_cons.mp distinct
    unfold setField
    by_cases own : name = key
    · rw [if_pos own]
      exact List.nodup_cons.mpr ⟨fresh, distinct⟩
    · rw [if_neg own]
      refine List.nodup_cons.mpr ⟨fun member => ?_, ih distinct⟩
      rcases mem_keys_setField.mp member with old | new
      · exact fresh old
      · exact own new

/-- Storing a value under a key keeps a dictionary one. -/
theorem nodup_keys_set {target : Json} (distinct : target.keys.Nodup) : (target.set key value).keys.Nodup := by
  cases target with
  | obj fields => exact nodup_setField distinct
  | _ => exact distinct

theorem nodup_keys_update {target : Json} (distinct : target.keys.Nodup) : (target.update (obj source)).keys.Nodup := by
  change (source.foldl (fun current field => current.set field.1 field.2) target).keys.Nodup
  induction source generalizing target with
  | nil => exact distinct
  | cons field source ih => exact ih (nodup_keys_set distinct)

theorem isObj_update (target : Json) : (target.update (obj source)).isObj = target.isObj := by
  change (source.foldl (fun current field => current.set field.1 field.2) target).isObj = target.isObj
  induction source generalizing target with
  | nil => rfl
  | cons field source ih =>
    rw [List.foldl_cons, ih, isObj_set]

/-- An update takes the values of the source, and leaves the others. -/
theorem field?_update {target : Json} (isObj : target.isObj = true) (distinct : (source.map Prod.fst).Nodup) :
    (target.update (obj source)).field? key = ((obj source).field? key).or (target.field? key) := by
  change (source.foldl (fun current field => current.set field.1 field.2) target).field? key =
    (source.lookup key).or (target.field? key)
  induction source generalizing target with
  | nil => rfl
  | cons field source ih =>
    obtain ⟨name, value⟩ := field
    obtain ⟨fresh, distinct⟩ := List.nodup_cons.mp distinct
    rw [List.foldl_cons, ih (by rw [isObj_set, isObj]) distinct, List.lookup_cons]
    by_cases own : key = name
    · subst own
      have absent : source.lookup key = none := by
        cases found : source.lookup key with
        | none => rfl
        | some other => exact absurd (mem_keys_iff_lookup.mpr ⟨other, found⟩) fresh
      rw [absent, field?_set_self isObj, beq_self_eq_true]
      rfl
    · rw [field?_set_ne own, beq_false_of_ne own]

/-- Dictionaries with the same values under every key are the same. -/
theorem same_of_field? {a b : Json} (isObj : a.isObj = true) (isObj' : b.isObj = true) (distinct : a.keys.Nodup)
    (distinct' : b.keys.Nodup) (values : ∀ key, Option.Rel Same (a.field? key) (b.field? key)) : Same a b := by
  cases a with
  | obj fields =>
    cases b with
    | obj others => exact (same_obj distinct distinct').mpr values
    | _ => cases isObj'
  | _ => cases isObj

end Updates

section Erasure

mutual

/-- The document without the dropped keys, at every depth. -/
def without (dropped : List String) : Json → Json
  | arr items => arr (withoutItems dropped items)
  | obj fields => obj (withoutFields dropped fields)
  | null => null
  | bool value => bool value
  | int value => int value
  | str value => str value

def withoutItems (dropped : List String) : List Json → List Json
  | [] => []
  | item :: rest => without dropped item :: withoutItems dropped rest

def withoutFields (dropped : List String) : List (String × Json) → List (String × Json)
  | [] => []
  | (key, value) :: rest =>
    if key ∈ dropped then withoutFields dropped rest
    else (key, without dropped value) :: withoutFields dropped rest

end

variable {dropped : List String} {key : String}

theorem lookup_withoutFields (key : String) : ∀ fields : List (String × Json),
    (withoutFields dropped fields).lookup key =
      if key ∈ dropped then none else (fields.lookup key).map (without dropped)
  | [] => by simp [withoutFields]
  | (name, value) :: rest => by
    have ih := lookup_withoutFields key rest
    unfold withoutFields
    by_cases own : key = name
    · subst own
      split_ifs with gone
      · rw [ih, if_pos gone]
      · simp
    · split_ifs with removed gone gone
      · rw [ih, if_pos gone]
      · rw [ih, if_neg gone, List.lookup_cons, beq_false_of_ne own]
      · rw [List.lookup_cons, beq_false_of_ne own, ih, if_pos gone]
      · rw [List.lookup_cons, beq_false_of_ne own, ih, if_neg gone, List.lookup_cons, beq_false_of_ne own]

/-- Removing a dropped key first makes no difference. -/
theorem withoutFields_filter (drop : key ∈ dropped) : ∀ fields : List (String × Json),
    withoutFields dropped (fields.filter fun field => field.1 ≠ key) = withoutFields dropped fields
  | [] => rfl
  | (name, value) :: rest => by
    have ih := withoutFields_filter drop rest
    by_cases own : name = key
    · subst own
      rw [List.filter_cons_of_neg (by simp), ih, withoutFields, if_pos drop]
    · rw [List.filter_cons_of_pos (by simpa using own), withoutFields, withoutFields, ih]

theorem without_erase (drop : key ∈ dropped) (value : Json) :
    (value.erase key).without dropped = value.without dropped := by
  cases value with
  | obj fields => exact congrArg obj (withoutFields_filter drop fields)
  | _ => rfl

theorem withoutFields_setField {value other : Json} (same : value.without dropped = other.without dropped) :
    ∀ {fields : List (String × Json)}, fields.lookup key = some other →
      withoutFields dropped (setField key value fields) = withoutFields dropped fields
  | [], found => by cases found
  | (name, first) :: rest, found => by
    by_cases own : name = key
    · subst own
      cases (List.lookup_cons_self.symm.trans found)
      rw [setField, if_pos rfl, withoutFields, withoutFields, same]
    · rw [List.lookup_cons, beq_false_of_ne (Ne.symm own)] at found
      rw [setField, if_neg own, withoutFields, withoutFields, withoutFields_setField same found]

/-- A value in its place that differs in dropped keys only makes no difference. -/
theorem without_set {value other target : Json} (same : value.without dropped = other.without dropped)
    (found : target.field? key = some other) :
    (target.set key value).without dropped = target.without dropped := by
  cases target with
  | obj fields => exact congrArg obj (withoutFields_setField same found)
  | _ => cases found

end Erasure

end Json

import Coordinate.Model.TaskDependencies
import Coordinate.Proofs.Dependencies

/-! # What a dependency edit does to the graph

A successful edit leads from a valid checklist to a valid one, and replaces the edges that leave its target
by edges to what the edit adds and to some of what was there before.
-/

namespace Coordinate.Checklist

section Scripts

variable {item changed checklist : Json} {items current : List Json} {itemId : String}
  {plan : Option String} {n m : Nat}

/-- A change of an item that keeps its identifier and its dependencies. -/
structure Keeps (item changed : Json) : Prop where
  isObj : changed.isObj = item.isObj
  named : changed.get "id" = item.get "id"
  listed : changed.get "dependencies" = item.get "dependencies"

theorem Keeps.set (keeps : Keeps item changed) {field : String} (notId : "id" ≠ field)
    (notList : "dependencies" ≠ field) (value : Json) : Keeps item (changed.set field value) := by
  refine ⟨?_, ?_, ?_⟩
  · rw [Json.isObj_set, keeps.isObj]
  · rw [Json.get_set_ne notId, keeps.named]
  · rw [Json.get_set_ne notList, keeps.listed]

theorem simpleFields_keep {fields : List (String × String)} : ∀ {item changed : Json},
    (∀ field ∈ fields, "id" ≠ field.1 ∧ "dependencies" ≠ field.1) →
    fields.foldlM setSimpleField item = .ok changed → Keeps item changed := by
  induction fields with
  | nil =>
    intro item changed _ done
    cases done
    exact ⟨rfl, rfl, rfl⟩
  | cons field rest ih =>
    intro item changed others ran
    obtain ⟨between, first, ran⟩ := Except.bind_ok.mp ran
    obtain ⟨_, -, first⟩ := Except.bind_ok.mp first
    cases first
    obtain ⟨notId, notList⟩ := others field (List.mem_cons_self ..)
    have own : Keeps item (item.set field.1 (.str field.2)) :=
      Keeps.set ⟨rfl, rfl, rfl⟩ notId notList _
    have later := ih (fun other member => others other (List.mem_cons_of_mem _ member)) ran
    exact ⟨later.isObj.trans own.isObj, later.named.trans own.named, later.listed.trans own.listed⟩

theorem simpleFields_names (arguments : UpdateArguments) :
    ∀ field ∈ arguments.simpleFields, "id" ≠ field.1 ∧ "dependencies" ≠ field.1 := by
  intro field member
  obtain ⟨given, listed, made⟩ := List.mem_filterMap.mp member
  obtain ⟨value, -, rfl⟩ := Option.map_eq_some_iff.mp made
  simp only [List.mem_cons, List.not_mem_nil, or_false] at listed
  rcases listed with rfl | rfl | rfl | rfl | rfl <;> simp

theorem setPlanLocator_keeps (item : Json) (stored : String) : Keeps item (setPlanLocator item stored) := by
  have refl : Keeps item item := ⟨rfl, rfl, rfl⟩
  have located := refl.set (show "id" ≠ "plan_path" by decide) (by decide) (.str stored)
  unfold setPlanLocator
  dsimp only
  split <;> split
  · exact located.set (by decide) (by decide) _
  · exact refl.set (by decide) (by decide) _
  · exact located
  · exact refl

theorem addDependencies_ok {dependencies : List String} : ∀ {current extended : List Json},
    dependencies.foldlM (addDependency items itemId) current = .ok extended →
    extended = current ++ dependencies.map .str := by
  induction dependencies with
  | nil =>
    intro current extended done
    cases done
    exact (List.append_nil _).symm
  | cons dependency rest ih =>
    intro current extended ran
    obtain ⟨between, first, ran⟩ := Except.bind_ok.mp ran
    obtain ⟨_, -, first⟩ := Except.bind_ok.mp first
    obtain ⟨_, -, first⟩ := Except.bind_ok.mp first
    obtain ⟨_, -, first⟩ := Except.bind_ok.mp first
    cases first
    rw [ih ran, List.map_cons, List.append_assoc]
    rfl

theorem dependenciesOf_congr {other : Json} (same : other.get "dependencies" = item.get "dependencies") :
    dependenciesOf other = dependenciesOf item := by
  unfold dependenciesOf
  rw [same]

/-- What `update-item` leaves of the dependencies of an item. -/
theorem changeItem_ok {arguments : UpdateArguments} (object : item.isObj = true)
    (ran : changeItem arguments itemId plan checklist item = .ok changed) :
    changed.get "id" = item.get "id" ∧
      (∀ d ∈ arguments.addDependency, .str d ∈ dependenciesOf changed) ∧
      ∀ d, .str d ∈ dependenciesOf changed → d ∈ arguments.addDependency ∨ .str d ∈ dependenciesOf item := by
  obtain ⟨items, -, ran⟩ := Except.bind_ok.mp ran
  obtain ⟨edited, fields, ran⟩ := Except.bind_ok.mp ran
  obtain ⟨kept, removed, ran⟩ := Except.bind_ok.mp ran
  obtain ⟨dependencies, added, final⟩ := Except.bind_ok.mp ran
  have simple := simpleFields_keep (simpleFields_names arguments) fields
  obtain ⟨_, -, removed⟩ := Except.bind_ok.mp removed
  obtain rfl := Except.ok.inj removed
  have extended := addDependencies_ok added
  replace final := Except.ok.inj final
  -- the plan is written beside the dependencies
  suffices linked : ∀ linked : Json,
      linked = (if arguments.addDependency ≠ [] ∨ arguments.removeDependency ≠ [] then
        edited.set "dependencies" (.arr dependencies) else edited) →
      linked.get "id" = item.get "id" ∧ (∀ d ∈ arguments.addDependency, .str d ∈ dependenciesOf linked) ∧
        ∀ d, .str d ∈ dependenciesOf linked →
          d ∈ arguments.addDependency ∨ .str d ∈ dependenciesOf item by
    obtain ⟨named, contains, bounded⟩ := linked _ rfl
    cases plan with
    | none => exact final ▸ ⟨named, contains, bounded⟩
    | some stored =>
      dsimp only at final
      have keeps := setPlanLocator_keeps (if arguments.addDependency ≠ [] ∨ arguments.removeDependency ≠ []
        then edited.set "dependencies" (.arr dependencies) else edited) stored
      rw [final] at keeps
      rw [dependenciesOf_congr keeps.listed]
      exact ⟨keeps.named.trans named, contains, bounded⟩
  rintro linked rfl
  split
  · have lists : dependenciesOf (edited.set "dependencies" (.arr dependencies)) = dependencies := by
      unfold dependenciesOf
      rw [Json.get_set_self (simple.isObj.trans object)]
    rw [lists, extended, Json.get_set_ne (by decide), simple.named]
    refine ⟨rfl, fun d member => List.mem_append_right _ (List.mem_map_of_mem member), fun d member => ?_⟩
    rcases List.mem_append.mp member with old | new
    · exact .inr (dependenciesOf_congr simple.listed ▸ (List.mem_filter.mp old).1)
    · obtain ⟨other, given, same⟩ := List.mem_map.mp new
      exact .inl (Json.str.inj same ▸ given)
  · rename_i nothing
    obtain ⟨noAdds, -⟩ := not_or.mp nothing
    rw [not_not.mp noAdds, dependenciesOf_congr simple.listed]
    exact ⟨simple.named, List.forall_mem_nil _, fun d member => .inr member⟩

/-- What `add-item` appends. -/
theorem appendItem_ok [Platform] {arguments : AddArguments} (object : checklist.isObj = true)
    (ran : appendItem arguments itemId plan checklist n = .ok (changed, m)) :
    (entries checklist).find? (isNamed itemId) = none ∧ (∀ d ∈ arguments.dependency, d ≠ itemId) ∧
      ∃ new, entries changed = entries checklist ++ [new] ∧ new.get "id" = .str itemId ∧
        dependenciesOf new = arguments.dependency.map .str := by
  simp only [appendItem, script_bind_ok, script_orRaise_ok, script_raiseIf_ok, script_pure_ok, today_ok] at ran
  obtain ⟨items, _, ⟨listed, rfl⟩, existing, _, ⟨searched, rfl⟩, _, _, ⟨free, rfl⟩, _, _, ⟨checked, rfl⟩,
    date, _, ⟨-, rfl⟩, rfl, -⟩ := ran
  rw [findItem_ok searched, Bool.not_eq_true, Option.isSome_eq_false_iff, Option.isNone_iff_eq_none,
    itemsOf_ok listed] at free
  refine ⟨free, ?_, ?_⟩
  · intro d member
    rintro rfl
    obtain ⟨_, refused, -⟩ := Except.bind_ok.mp (forM_iff.mp checked d member)
    exact absurd rfl (raiseIf_except_ok.mp refused)
  · rw [← itemsOf_ok listed]
    refine ⟨_, by rw [entries, Json.get_set_self object], ?_, ?_⟩
    · cases plan with
      | none => rfl
      | some stored => exact Json.get_set_ne (by decide) ..
    · cases plan with
      | none => rfl
      | some stored => exact dependenciesOf_congr (Json.get_set_ne (by decide) ..)

end Scripts

end Coordinate.Checklist

namespace Coordinate.TaskDependencies

open Coordinate.Checklist Coordinate.ChecklistWriters

section Callback

variable {progress later : Progress} {taskId : String} {itemIds : List Json} {names : List String}

/-- Nothing of what has been asked for has been applied. -/
def Idle (progress : Progress) : Prop := ∀ outcome ∈ progress.2, outcome.outcome ≠ .applied

theorem removeDependency_ok (progress : Progress) (dependency : String) :
    (∀ entry ∈ (removeDependency progress dependency).1, entry ∈ progress.1) ∧
      (Idle (removeDependency progress dependency) →
        Idle progress ∧ (removeDependency progress dependency).1 = progress.1) := by
  unfold removeDependency
  split
  · refine ⟨fun entry member => (List.mem_filter.mp member).1, fun idle => ?_⟩
    exact absurd rfl (idle _ (List.mem_append_right _ (List.mem_singleton_self _)))
  · refine ⟨fun entry member => member, fun idle => ⟨fun outcome member => ?_, rfl⟩⟩
    exact idle outcome (List.mem_append_left _ member)

theorem removals_ok : ∀ (names : List String) (progress : Progress),
    (∀ entry ∈ (names.foldl removeDependency progress).1, entry ∈ progress.1) ∧
      (Idle (names.foldl removeDependency progress) →
        Idle progress ∧ (names.foldl removeDependency progress).1 = progress.1)
  | [], _ => ⟨fun _ member => member, fun idle => ⟨idle, rfl⟩⟩
  | name :: rest, progress => by
    obtain ⟨fewer, still⟩ := removals_ok rest (removeDependency progress name)
    obtain ⟨own, same⟩ := removeDependency_ok progress name
    refine ⟨fun entry member => own entry (fewer entry member), fun idle => ?_⟩
    obtain ⟨idle, unchanged⟩ := still idle
    obtain ⟨first, kept⟩ := same idle
    exact ⟨first, unchanged.trans kept⟩

theorem addDependency_ok {dependency : String}
    (ran : addDependency taskId itemIds progress dependency = .ok later) :
    (∀ entry, entry ∈ later.1 ↔ entry ∈ progress.1 ∨ entry = .str dependency) ∧
      (Idle later → Idle progress ∧ later.1 = progress.1) := by
  obtain ⟨_, -, ran⟩ := Except.bind_ok.mp ran
  obtain ⟨_, -, ran⟩ := Except.bind_ok.mp ran
  split at ran
  · rename_i present
    cases ran
    refine ⟨fun entry => ⟨.inl, fun member => ?_⟩, fun idle => ⟨fun outcome member => ?_, rfl⟩⟩
    · rcases member with member | rfl
      · exact member
      · exact List.contains_iff_mem.mp present
    · exact idle outcome (List.mem_append_left _ member)
  · cases ran
    refine ⟨fun entry => by rw [List.mem_append, List.mem_singleton], fun idle => ?_⟩
    exact absurd rfl (idle _ (List.mem_append_right _ (List.mem_singleton_self _)))

theorem additions_ok : ∀ {names : List String} {progress later : Progress},
    names.foldlM (addDependency taskId itemIds) progress = .ok later →
    (∀ entry, entry ∈ later.1 ↔ entry ∈ progress.1 ∨ entry ∈ names.map Json.str) ∧
      (Idle later → Idle progress ∧ later.1 = progress.1)
  | [], _, _, done => by
    cases done
    exact ⟨fun entry => by simp, fun idle => ⟨idle, rfl⟩⟩
  | name :: rest, progress, later, ran => by
    obtain ⟨between, first, ran⟩ := Except.bind_ok.mp ran
    obtain ⟨own, same⟩ := addDependency_ok first
    obtain ⟨more, still⟩ := additions_ok ran
    refine ⟨fun entry => ?_, fun idle => ?_⟩
    · rw [more, own, List.map_cons, List.mem_cons, or_assoc]
    · obtain ⟨idle, unchanged⟩ := still idle
      obtain ⟨earlier, kept⟩ := same idle
      exact ⟨earlier, unchanged.trans kept⟩

theorem find?_objects {items : List Json} (objects : ∀ item ∈ items, item.isObj = true) :
    (items.find? fun item => item.isObj && item.get "id" = .str taskId) = items.find? (isNamed taskId) := by
  induction items with
  | nil => rfl
  | cons item rest ih =>
    obtain ⟨own, others⟩ := List.forall_mem_cons.mp objects
    rw [List.find?_cons, List.find?_cons, own, Bool.true_and, ih others]
    rfl

/-- What the callback leaves of the dependencies of its target. -/
theorem updateDependencies_ok [Platform] {adds removes : List String} {checklist candidate : Json}
    {snapshot : Snapshot} (linked : Linked checklist) (object : checklist.isObj = true)
    (listed : ∃ items, checklist.get "items" = .arr items)
    (objects : ∀ item ∈ entries checklist, item.isObj = true)
    (ran : updateDependencies taskId adds removes checklist = .ok (candidate, snapshot)) :
    ∀ after, (snapshot.changed = false → after = checklist) →
      (snapshot.changed = true → entries after = entries candidate) →
      Extends checklist after taskId adds := by
  obtain ⟨items, there⟩ := listed
  have all : entries checklist = items := by rw [entries, there]
  unfold updateDependencies at ran
  rw [there] at ran
  dsimp only at ran
  split at ran
  · cases ran
  · rename_i target found
    rw [← all, find?_objects objects] at found
    obtain ⟨⟨updated, outcomes⟩, added, ran⟩ := Except.bind_ok.mp ran
    obtain ⟨rfl, rfl⟩ := Prod.mk.inj (Except.ok.inj ran)
    obtain ⟨more, still⟩ := additions_ok added
    obtain ⟨fewer, same⟩ := removals_ok removes (dependenciesOf target, [])
    have targetObject : target.isObj = true := objects target (List.mem_of_find?_eq_some found)
    intro after unchanged changed
    have bounded : ∀ d, .str d ∈ updated → d ∈ adds ∨ DependsOn checklist taskId d := by
      intro d member
      rcases (more _).mp member with old | new
      · exact .inr ((dependsOn_iff linked found).mpr (fewer _ old))
      · obtain ⟨other, given, equal⟩ := List.mem_map.mp new
        exact .inl (Json.str.inj equal ▸ given)
    have contains : ∀ d ∈ adds, .str d ∈ updated := fun d member =>
      (more _).mpr (.inr (List.mem_map_of_mem member))
    cases applied : outcomes.any fun outcome => outcome.outcome = .applied with
    | false =>
      rw [unchanged applied]
      have idle : Idle (updated, outcomes) := fun outcome member => by
        have tested := List.any_eq_false.mp applied outcome member
        simpa using tested
      obtain ⟨idle, kept⟩ := still idle
      have kept : updated = dependenciesOf target := kept.trans (same idle).2
      refine ⟨fun d => .str d ∈ updated, ?_, contains, bounded⟩
      rw [kept]
      exact dependsOn_replace linked found rfl (replaceFirst_self found).symm
    | true =>
      have replaced : entries after = replaceFirst taskId (target.set "dependencies" (.arr updated))
          (entries checklist) := by
        rw [changed applied, putItem, there]
        simp [entries, object, there, applied]
      refine ⟨fun d => .str d ∈ updated, ?_, contains, bounded⟩
      have edges := dependsOn_replace linked found (Json.get_set_ne (by decide) ..) replaced
      have lists : dependenciesOf (target.set "dependencies" (.arr updated)) = updated := by
        unfold dependenciesOf
        rw [Json.get_set_self targetObject]
      rwa [lists] at edges

end Callback

section Edits

variable [Platform] [Scripting] {files files' : Files} {root : String} {callback : Callback} {text : JsonText}
  {kind : Kind} {n m : Nat} {current : Json}

omit [Platform] [Scripting] in
theorem loadText_ok {path : String} (loaded : loadText path text = .ok current) :
    text = .value current ∧ validateChecklist current = .ok [] := by
  unfold loadText at loaded
  simp only [Except.bind_ok, orRaise_except_ok, raiseIf_except_ok, not_not] at loaded
  obtain ⟨data, read, _, -, errors, checked, _, rfl, same⟩ := loaded
  cases same
  exact ⟨loads_ok read, checked⟩

omit [Platform] [Scripting] in
/-- What the validator says of an object decides what becomes of it. -/
theorem loadText_object {data : Json} (path : String) (object : data.isObj = true) :
    loadText path (.value data) = match validateChecklist data with
      | .error error => .error (.raised error)
      | .ok errors => if errors = [] then .ok data else .error (.checklist
        (s!"current checklist is invalid; refusing to use it: {path}\n" ++ listProblems (errors.take 8))
        "validation_error") := by
  simp only [loadText, JsonText.loads, orRaise, raiseIf, pure_bind, object, not_true, if_false]
  cases validateChecklist data with
  | error error => rfl
  | ok errors =>
    dsimp only
    rw [pure_bind]
    by_cases clean : errors = []
    · rw [if_neg (not_not.mpr clean), if_pos clean]
      rfl
    · rw [if_pos clean, if_neg clean]
      rfl

/-- The pipeline has run its callback on a valid checklist, which is changed if the callback says so. -/
theorem managedCandidate_ok {candidate : Option Json}
    (ran : managedCandidate root callback kind text n = .ok (candidate, m)) :
    ∃ current made changed, text = .value current ∧ validateChecklist current = .ok [] ∧
      callback current = .ok (made, changed) ∧ (changed = false → candidate = none) ∧
      (changed = true → ∃ date, candidate = some (made.set "updated_at" (.str date)) ∧
        validateChecklist (made.set "updated_at" (.str date)) = .ok []) := by
  unfold managedCandidate at ran
  simp only [script_bind_ok, script_orRaise_ok] at ran
  obtain ⟨current, _, ⟨loaded, rfl⟩, ⟨made, changed⟩, _, ⟨called, rfl⟩, ran⟩ := ran
  obtain ⟨rfl, valid⟩ := loadText_ok loaded
  refine ⟨current, made, changed, rfl, valid, called, ?_, ?_⟩
  · rintro rfl
    exact (script_pure_ok.mp ran).1.symm
  · rintro rfl
    simp only [Bool.not_true, Bool.false_eq_true, if_false, script_bind_ok, script_orRaise_ok,
      script_raiseIf_ok, script_pure_ok, not_not] at ran
    obtain ⟨tick, _, -, _, _, -, errors, _, ⟨checked, rfl⟩, _, _, ⟨rfl, rfl⟩, _, _, ⟨-, rfl⟩, _, _, ⟨-, rfl⟩,
      rfl, -⟩ := ran
    exact ⟨_, rfl, checked⟩

omit [Platform] [Scripting] in
theorem resolveManaged_ok (resolved : resolveManaged root files = .ok kind) :
    readResolved .mutation files = .ok (kind, (files.file kind).getD .blank) := by
  obtain ⟨new, legacy⟩ := files
  cases new <;> cases legacy <;> cases resolved <;> rfl

theorem mutateManaged_ok (ran : mutateManaged root callback files n = .ok ((files', current), m)) :
    files.checklist = some current ∧ validateChecklist current = .ok [] ∧
      ∃ made changed, callback current = .ok (made, changed) ∧ (changed = false → files' = files) ∧
        (changed = true → ∃ date, files'.checklist = some (made.set "updated_at" (.str date)) ∧
          validateChecklist (made.set "updated_at" (.str date)) = .ok []) := by
  unfold mutateManaged at ran
  simp only [script_bind_ok, script_orRaise_ok, script_pure_ok, Prod.mk.injEq] at ran
  obtain ⟨kind, _, ⟨resolved, rfl⟩, candidate, _, pipeline, _, _, ⟨again, rfl⟩, ⟨rfl, rfl⟩, rfl⟩ := ran
  have read := resolveManaged_ok resolved
  obtain ⟨current, made, changed, held, valid, called, unchanged, commits⟩ := managedCandidate_ok pipeline
  obtain ⟨same, -⟩ := loadText_ok again
  cases held.symm.trans same
  refine ⟨checklist_eq_some.mpr ⟨kind, held ▸ read⟩, valid, made, changed, called, ?_, ?_⟩
  · intro idle
    rw [unchanged idle]
  · intro works
    obtain ⟨date, rfl, checked⟩ := commits works
    exact ⟨date, checklist_replace read, checked⟩

/-- An edit of a valid checklist to a valid one. -/
structure Edited (files files' : Files) (target : String) (adds : List String) : Prop where
  checklists : ∃ before after, files.checklist = some before ∧ validateChecklist before = .ok [] ∧
    files'.checklist = some after ∧ validateChecklist after = .ok [] ∧ Extends before after target adds

omit [Platform] [Scripting] in
theorem entries_dated (checklist : Json) (date : String) :
    entries (checklist.set "updated_at" (.str date)) = entries checklist := by
  unfold entries
  rw [Json.get_set_ne (by decide)]

omit [Platform] [Scripting] in
theorem validateDependencyInputs_ok {taskId : String} {add remove adds removes : List String}
    (checked : validateDependencyInputs taskId add remove = .ok (adds, removes)) :
    adds = add.eraseDups := by
  unfold validateDependencyInputs at checked
  simp only [Except.bind_ok, raiseIf_except_ok] at checked
  obtain ⟨_, -, _, -, _, -, checked⟩ := checked
  split at checked
  · cases checked
    rfl
  · cases checked

theorem applyDependencyMutation_edited {request : DependencyRequest} {result : DependencyMutationResult}
    (ran : applyDependencyMutation request files n = .ok ((files', result), m)) :
    Edited files files' request.taskId request.add := by
  unfold applyDependencyMutation at ran
  simp only [script_bind_ok, script_orRaise_ok, script_pure_ok, Prod.mk.injEq] at ran
  obtain ⟨⟨adds, removes⟩, _, ⟨inputs, rfl⟩, _, _, ⟨-, rfl⟩, _, _, ⟨-, rfl⟩, _, _, ⟨-, rfl⟩,
    ⟨files', current⟩, _, mutated, ⟨candidate, snapshot⟩, _, ⟨called, rfl⟩, ⟨rfl, rfl⟩, rfl⟩ := ran
  obtain ⟨inForce, valid, made, changed, again, unchanged, commits⟩ := mutateManaged_ok mutated
  rw [called] at again
  obtain ⟨rfl, rfl⟩ := Prod.mk.inj (Except.ok.inj again)
  rw [orRaise_except_ok] at called
  obtain ⟨object, listed, objects⟩ := validateChecklist_ok valid
  have extends' := updateDependencies_ok (linked_of_valid valid) object listed objects called
  have same : ∀ after, Extends current after request.taskId adds →
      Extends current after request.taskId request.add := by
    rintro after ⟨D, edges, contains, bounded⟩
    rw [validateDependencyInputs_ok inputs] at contains bounded
    exact ⟨D, edges, fun d member => contains d (List.mem_eraseDups.mpr member),
      fun d new => (bounded d new).imp List.mem_eraseDups.mp id⟩
  cases works : snapshot.changed with
  | false =>
    have still : files' = files := unchanged works
    refine ⟨current, current, inForce, valid, still ▸ inForce, valid, same _ (extends' current ?_ ?_)⟩
    · exact fun _ => rfl
    · exact fun other => absurd (works.symm.trans other) (by decide)
  | true =>
    obtain ⟨date, there, checked⟩ := commits works
    refine ⟨current, _, inForce, valid, there, checked, same _ (extends' _ ?_ ?_)⟩
    · exact fun other => absurd (works.symm.trans other) (by decide)
    · exact fun _ => entries_dated ..

omit [Platform] in
theorem requireSafeId_ok {command itemId stripped : String}
    (safe : requireSafeId command itemId = .ok stripped) : stripped = Text.strip itemId := by
  obtain ⟨_, -, safe⟩ := Except.bind_ok.mp safe
  exact (Except.ok.inj safe).symm

theorem addItem_edited {site : Site} {arguments : AddArguments}
    (ran : Checklist.addItem site arguments files n = .ok (files', m)) :
    Edited files files' (Text.strip arguments.itemId) arguments.dependency := by
  unfold Checklist.addItem at ran
  simp only [script_bind_ok, script_orRaise_ok] at ran
  obtain ⟨_, _, ⟨-, rfl⟩, itemId, _, ⟨safe, rfl⟩, plan, _, ⟨-, rfl⟩, ran⟩ := ran
  obtain rfl := requireSafeId_ok safe
  obtain ⟨before, changed, _, date, inForce, valid, made, there, checked⟩ := mutateChecklist_made ran
  obtain ⟨absent, -, new, appended, named, lists⟩ := appendItem_ok (validateChecklist_ok valid).1 made
  refine ⟨before, _, inForce, valid, there, checked, _, dependsOn_append absent named
    ((entries_dated ..).trans appended), ?_, ?_⟩
  · intro d member
    rw [lists]
    exact List.mem_map_of_mem member
  · intro d new
    rw [lists] at new
    obtain ⟨other, given, same⟩ := List.mem_map.mp new
    exact .inl (Json.str.inj same ▸ given)

theorem updateItem_edited {site : Site} {arguments : UpdateArguments}
    (ran : Checklist.updateItem site arguments files n = .ok (files', m)) :
    Edited files files' (Text.strip arguments.itemId) arguments.addDependency := by
  unfold Checklist.updateItem at ran
  simp only [script_bind_ok, script_orRaise_ok, script_raiseIf_ok] at ran
  obtain ⟨_, _, ⟨-, rfl⟩, itemId, _, ⟨safe, rfl⟩, plan, _, ⟨-, rfl⟩, _, _, ⟨-, rfl⟩, ran⟩ := ran
  obtain rfl := requireSafeId_ok safe
  obtain ⟨before, made, _, date, inForce, valid, called, there, checked⟩ := mutateChecklist_made ran
  simp only [onItem, script_bind_ok, script_orRaise_ok, script_pure_ok] at called
  obtain ⟨item, _, ⟨required, rfl⟩, changed, _, ⟨performed, rfl⟩, rfl, -⟩ := called
  have found := requireItem_ok required
  obtain ⟨object, ⟨items, listed⟩, objects⟩ := validateChecklist_ok valid
  have linked := linked_of_valid valid
  obtain ⟨named, contains, bounded⟩ := changeItem_ok (objects item (mem_of_find found).1) performed
  have replaced : entries ((putItem before (Text.strip arguments.itemId) changed).set "updated_at"
      (.str date)) = replaceFirst (Text.strip arguments.itemId) changed (entries before) := by
    rw [entries_dated]
    simp [entries, putItem, listed, object]
  refine ⟨before, _, inForce, valid, there, checked, _, dependsOn_replace linked found named replaced,
    contains, fun d new => (bounded d new).imp id (dependsOn_iff linked found).mpr⟩

omit [Platform] [Scripting] in
theorem ok_of_toOption {ε α : Type} {ran : Except ε α} {value : α} (made : ran.toOption = some value) :
    ran = .ok value := by
  cases ran with
  | ok given => exact congrArg Except.ok (Option.some.inj made)
  | error => cases made

/-- **What a successful edit does**, whichever program makes it. -/
theorem perform_edited {edit : Edit} (performed : edit.perform files n = some (files', m)) :
    Edited files files' edit.target edit.adds := by
  cases edit with
  | mutation request =>
    dsimp only [Edit.perform] at performed
    split at performed
    · rename_i ran
      cases performed
      exact applyDependencyMutation_edited ran
    · cases performed
  | addItem site arguments => exact addItem_edited (ok_of_toOption performed)
  | updateItem site arguments => exact updateItem_edited (ok_of_toOption performed)

end Edits

end Coordinate.TaskDependencies

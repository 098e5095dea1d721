import Coordinate.Model.SampleChecklist
import Coordinate.Proofs.DependencyLists

/-! # The law of dependency edits

Of a valid checklist, an edit that is accepted leaves its target with what it had, less what is removed,
followed by what is added and was not there. Nothing else changes, but for the date of the checklist, and
the same edit once more changes nothing.
-/

namespace Coordinate.TaskDependencies

open Coordinate.Checklist Coordinate.ChecklistWriters

section Lists

variable {request : DependencyRequest} {item checklist : Json} {n : Nat}

/-- The dependencies that a request leaves to its target. -/
def DependencyRequest.edited (request : DependencyRequest) (target : Json) : List Json :=
  (dependenciesOf target).filter (· ∉ request.remove.map Json.str) ++
    (request.add.eraseDups.map Json.str).filter (· ∉ dependenciesOf target)

/-- An item after the request. -/
def DependencyRequest.edit (request : DependencyRequest) (item : Json) : Json :=
  if item.get "id" = .str request.taskId then item.set "dependencies" (.arr (request.edited item)) else item

/-- Something of the request is not there yet. -/
def DependencyRequest.Applies (request : DependencyRequest) (target : Json) : Prop :=
  (∃ name ∈ request.remove, .str name ∈ dependenciesOf target) ∨
    ∃ name ∈ request.add, .str name ∉ dependenciesOf target

theorem editedList_eq (request : DependencyRequest) (target : Json) :
    editedList request.add.eraseDups request.remove.eraseDups (dependenciesOf target) =
      request.edited target := by
  unfold editedList DependencyRequest.edited
  simp only [List.mem_map, List.mem_eraseDups]

theorem applies_eq (request : DependencyRequest) (target : Json) :
    Applies request.add.eraseDups request.remove.eraseDups (dependenciesOf target) ↔
      request.Applies target := by
  unfold Applies DependencyRequest.Applies
  simp only [List.mem_eraseDups]

theorem get_edit {field : String} (other : field ≠ "dependencies") :
    (request.edit item).get field = item.get field := by
  unfold DependencyRequest.edit
  split
  · exact Json.get_set_ne other ..
  · rfl

theorem isObj_edit : (request.edit item).isObj = item.isObj := by
  unfold DependencyRequest.edit
  split
  · exact Json.isObj_set ..
  · rfl

theorem isSome_edit (object : item.isObj = true) {field : String}
    (present : (item.field? field).isSome = true) : ((request.edit item).field? field).isSome = true := by
  unfold DependencyRequest.edit
  split
  · by_cases own : field = "dependencies"
    · rw [own, Json.field?_set_self object]
      rfl
    · rwa [Json.field?_set_ne own]
  · exact present

theorem dependencies_edit (object : item.isObj = true) (named : item.get "id" = .str request.taskId) :
    dependenciesOf (request.edit item) = request.edited item := by
  rw [DependencyRequest.edit, if_pos named, dependenciesOf, Json.get_set_self object]

/-- Putting the changed target in its place changes the items one by one. -/
theorem replaceFirst_eq_map {items : List Json} {target : Json}
    (distinct : (items.map fun item => item.get "id").Nodup)
    (found : items.find? (isNamed request.taskId) = some target) :
    replaceFirst request.taskId (target.set "dependencies" (.arr (request.edited target))) items =
      items.map request.edit := by
  induction items with
  | nil => cases found
  | cons first rest ih =>
    obtain ⟨fresh, others⟩ := List.nodup_cons.mp distinct
    unfold replaceFirst
    rw [List.map_cons]
    by_cases named : first.get "id" = .str request.taskId
    · have own : isNamed request.taskId first = true := decide_eq_true named
      rw [List.find?_cons, own] at found
      cases found
      rw [if_pos named]
      have kept : rest.map request.edit = rest := by
        have same : ∀ item ∈ rest, request.edit item = item := by
          intro item member
          rw [DependencyRequest.edit, if_neg]
          intro clash
          exact fresh (List.mem_map.mpr ⟨item, member, clash.trans named.symm⟩)
        exact (List.map_congr_left same).trans (List.map_id' rest)
      rw [kept, DependencyRequest.edit, if_pos named]
    · have skipped : isNamed request.taskId first = false := decide_eq_false named
      rw [List.find?_cons, skipped] at found
      rw [if_neg named, ih others found, DependencyRequest.edit, if_neg named]

end Lists

section Checklists

variable {request : DependencyRequest} {checklist target after : Json} {n : Nat}

theorem itemRules_edit {item : Json} (rules : ItemRules item) : ItemRules (request.edit item) := by
  have other : ∀ {field : String}, field ≠ "dependencies" → (request.edit item).get field = item.get field :=
    fun apart => get_edit apart
  have status := other (show "status" ≠ "dependencies" by decide)
  refine ⟨isObj_edit.trans rules.isObj, fun field member => isSome_edit rules.isObj (rules.required field member),
    ?_, ?_, ?_, ?_, ?_, ?_, ?_, ?_, ?_, ?_, ?_⟩
  · intro field member
    have apart : field ≠ "dependencies" := by
      rintro rfl
      exact absurd member (by decide)
    rw [other apart]
    exact rules.texts field member
  · rw [status]
    exact rules.status
  · rw [other (by decide)]
    exact rules.priority
  · intro field member
    by_cases own : field = "dependencies"
    · subst own
      unfold DependencyRequest.edit
      split
      · exact ⟨_, Json.get_set_self rules.isObj ..⟩
      · exact rules.lists _ member
    · rw [other own]
      exact rules.lists field member
  · rw [other (by decide)]
    exact rules.reason
  · rw [status, other (by decide), other (by decide)]
    exact rules.owned
  · rw [status, other (by decide)]
    exact rules.verified
  · rw [other (by decide)]
    intro given
    obtain ⟨isObj, mode, phase, opening⟩ := rules.workflow given
    exact ⟨isObj, mode, phase, by rwa [status]⟩
  · rw [other (by decide)]
    exact rules.lease
  · rw [other (by decide)]
    exact rules.artifacts
  · rw [other (by decide)]
    exact rules.review

/-- What an edit makes of a checklist, item by item, but for its date. -/
structure EditedFrom (request : DependencyRequest) (checklist after : Json) : Prop where
  entries : entries after = (entries checklist).map request.edit
  others : ∀ field, field ≠ "items" → field ≠ "updated_at" → after.field? field = checklist.field? field

theorem known_edit {name : String} (edited : EditedFrom request checklist after) :
    Known after name ↔ Known checklist name := by
  simp only [Known, edited.entries, List.mem_map, exists_exists_and_eq_and,
    get_edit (show "id" ≠ "dependencies" by decide)]

/-- **An edit whose additions are known keeps the rules.** -/
theorem rules_edited (rules : Rules checklist) (edited : EditedFrom request checklist after)
    (object : after.isObj = true) (dated : isNonEmptyString (after.get "updated_at") = true)
    (listed : ∃ items, after.get "items" = .arr items)
    (known : ∀ name ∈ request.add, Known checklist name) : Rules after := by
  refine ⟨object, ?_, listed, ?_, ?_, ?_⟩
  · intro field member
    by_cases date : field = "updated_at"
    · rw [date]
      exact dated
    · have items : field ≠ "items" := by
        rintro rfl
        exact absurd member (by decide)
      rw [Json.get, edited.others field items date]
      exact rules.texts field member
  · rw [edited.entries]
    exact List.forall_mem_map.mpr fun item member => itemRules_edit (rules.items item member)
  · rw [edited.entries, List.map_map]
    have same : (fun item => item.get "id") ∘ request.edit = fun item => item.get "id" :=
      funext fun item => get_edit (by decide)
    rw [same]
    exact rules.distinct
  · rw [edited.entries]
    intro changed member field among links found link inside
    obtain ⟨item, there, rfl⟩ := List.mem_map.mp member
    suffices old : ∃ other ∈ entries checklist, other.get "id" = link by
      obtain ⟨other, present, named⟩ := old
      exact ⟨request.edit other, List.mem_map_of_mem present, by rw [get_edit (by decide), named]⟩
    by_cases own : field = "dependencies" ∧ item.get "id" = .str request.taskId
    · obtain ⟨rfl, named⟩ := own
      rw [DependencyRequest.edit, if_pos named, Json.get_set_self (rules.items item there).isObj] at found
      cases found
      rcases List.mem_append.mp inside with kept | new
      · obtain ⟨current, listed⟩ := (rules.items item there).lists _ among
        rw [dependenciesOf, listed] at kept
        exact rules.links item there _ among current listed link (List.mem_filter.mp kept).1
      · obtain ⟨name, added, rfl⟩ := List.mem_map.mp (List.mem_filter.mp new).1
        exact known name (List.mem_eraseDups.mp added)
    · have same : (request.edit item).get field = item.get field := by
        by_cases dependencies : field = "dependencies"
        · rw [DependencyRequest.edit, if_neg (fun named => own ⟨dependencies, named⟩)]
        · exact get_edit dependencies
      rw [same] at found
      exact rules.links item there field among links found link inside

end Checklists

section Law

variable [Platform] [Scripting] {request : DependencyRequest} {checklist target after : Json} {files : Files}
  {n : Nat}

omit [Platform] in
theorem itemProblems_edit (item : Json) : itemProblems (request.edit item) = itemProblems item := by
  unfold itemProblems locatorFields
  simp only [get_edit (show "id" ≠ "dependencies" by decide),
    get_edit (show "plan_path" ≠ "dependencies" by decide),
    get_edit (show "artifact_path" ≠ "dependencies" by decide),
    get_edit (show "artifacts" ≠ "dependencies" by decide)]

omit [Platform] in
/-- An edit changes nothing that the write tests of the locators. -/
theorem problems_edited (rules : Rules checklist) (edited : EditedFrom request checklist after)
    (listed : ∃ items, after.get "items" = .arr items) :
    ChecklistWriters.runtimeProblems after = ChecklistWriters.runtimeProblems checklist := by
  obtain ⟨before, there⟩ := rules.listed
  obtain ⟨items, found⟩ := listed
  have mapped := edited.entries
  rw [entries, entries, there, found] at mapped
  dsimp only at mapped
  unfold ChecklistWriters.runtimeProblems
  rw [there, found, mapped]
  dsimp only
  have objects : (fun item : Json => item.isObj) ∘ request.edit = fun item => item.isObj :=
    funext fun item => isObj_edit
  have tests : itemProblems ∘ request.edit = itemProblems := funext itemProblems_edit
  rw [List.filter_map, objects, List.mapM_map, tests]

/-- What a request that is accepted keeps to. -/
structure Accepted (request : DependencyRequest) (checklist : Json) : Prop where
  wellFormed : WellFormed request
  target : Known checklist request.taskId
  known : ∀ name ∈ request.add, name ≠ request.taskId ∧ Known checklist name
  located : (∃ item ∈ entries checklist, item.get "id" = .str request.taskId ∧ request.Applies item) →
    ChecklistWriters.runtimeProblems checklist = .ok []

omit [Platform] [Scripting] in
theorem find_of_mem (rules : Rules checklist) (member : target ∈ entries checklist) {name : String}
    (named : target.get "id" = .str name) : (entries checklist).find? (isNamed name) = some target := by
  cases found : (entries checklist).find? (isNamed name) with
  | none => exact absurd (decide_eq_true named) (List.find?_eq_none.mp found target member)
  | some other =>
    obtain ⟨inside, same⟩ := mem_of_find found
    rw [List.inj_on_of_nodup_map rules.distinct inside member (same.trans named.symm)]

/-- The checklist that is written. -/
def written (request : DependencyRequest) (checklist target : Json) (n : Nat) : Json :=
  dated (putItem checklist request.taskId
    (target.set "dependencies" (.arr (request.edited target)))) n

omit [Scripting] in
theorem written_edited (rules : Rules checklist)
    (found : (entries checklist).find? (isNamed request.taskId) = some target) :
    EditedFrom request checklist (written request checklist target n) ∧
      (written request checklist target n).isObj = true ∧
      isNonEmptyString ((written request checklist target n).get "updated_at") = true ∧
      ∃ items, (written request checklist target n).get "items" = .arr items := by
  obtain ⟨items, listed⟩ := rules.listed
  have all : entries checklist = items := by rw [entries, listed]
  unfold written dated putItem
  rw [listed]
  dsimp only
  refine ⟨⟨?_, ?_⟩, ?_, ?_, ?_⟩
  · rw [entries, Json.get_set_ne (by decide), Json.get_set_self rules.isObj, all]
    exact replaceFirst_eq_map (all ▸ rules.distinct) (all ▸ found)
  · intro field items date
    rw [Json.field?_set_ne date, Json.field?_set_ne items]
  · rw [Json.isObj_set, Json.isObj_set, rules.isObj]
  · rw [Json.get_set_self ((Json.isObj_set ..).trans rules.isObj)]
    exact date_nonblank _
  · exact ⟨_, (Json.get_set_ne (by decide) ..).trans (Json.get_set_self rules.isObj ..)⟩

/-- How a request ends that finds its target. -/
inductive Ends (request : DependencyRequest) (files : Files) (checklist target : Json) (n : Nat) :
    Files → Nat → Prop
  | unchanged (satisfied : ¬ request.Applies target) : Ends request files checklist target n files n
  | changed {kind : Kind} (applies : request.Applies target)
      (valid : validateChecklist (written request checklist target n) = .ok [])
      (located : ChecklistWriters.runtimeProblems (written request checklist target n) = .ok [])
      (read : readResolved .mutation files = .ok (kind, .value checklist)) :
      Ends request files checklist target n (files.replace kind (written request checklist target n)) (n + 1)

/-- What is returned of a request. -/
def resultOf (request : DependencyRequest) (checklist target : Json) : DependencyMutationResult :=
  let snapshot := (madeOf request.taskId request.add.eraseDups request.remove.eraseDups checklist target).2
  { workspaceId := request.workspaceId
    taskId := request.taskId
    beforeFingerprint := snapshot.before
    afterFingerprint := snapshot.after
    changed := snapshot.changed
    outcomes := snapshot.outcomes
    dependencies := snapshot.dependencies }

omit [Platform] [Scripting] in
/-- The tests before the checklist is read are those of a request that is well formed. -/
theorem wellFormed_iff : WellFormed request ↔
    ((Text.isBlank request.taskId = false ∧
        (∀ name ∈ request.add ++ request.remove, Text.isBlank name = false) ∧
        (request.add ≠ [] ∨ request.remove ≠ []) ∧ ∀ name ∈ request.add, name ∉ request.remove) ∧
      ((Path.Pure.parse request.workspacePath).root ≠ "" ∧ (Path.Pure.parse request.harnessRoot).root ≠ "") ∧
      (request.allowRuntimeCopy = true ∨
        ∀ path ∈ [Path.Pure.parse request.workspacePath, Path.Pure.parse request.harnessRoot],
          Text.startsWith path.text "/opt/" = false ∧ path.text ≠ "/opt")) := by
  constructor
  · rintro ⟨taskId, names, nonempty, apart, absolute, placed⟩
    refine ⟨⟨taskId, names, nonempty, apart⟩, ?_, ?_⟩
    · exact ⟨absolute _ (by simp), absolute _ (by simp)⟩
    · simpa using placed
  · rintro ⟨⟨taskId, names, nonempty, apart⟩, ⟨workspace, harness⟩, placed⟩
    refine ⟨taskId, names, nonempty, apart, ?_, ?_⟩
    · simpa using ⟨workspace, harness⟩
    · simpa using placed

omit [Scripting] in
theorem callback_eq {adds removes : List String} {made : Json} {changed : Bool} :
    ((fun made : Json × Snapshot => (made.1, made.2.changed)) <$>
      (orRaise Refusal.raised (updateDependencies request.taskId adds removes checklist) :
        Except Refusal (Json × Snapshot))) = .ok (made, changed) ↔
      ∃ snapshot, updateDependencies request.taskId adds removes checklist = .ok (made, snapshot) ∧
        changed = snapshot.changed := by
  cases updateDependencies request.taskId adds removes checklist with
  | error error =>
    constructor
    · intro ran
      cases ran
    · rintro ⟨_, ran, -⟩
      cases ran
  | ok pair =>
    constructor
    · intro ran
      cases ran
      exact ⟨pair.2, rfl, rfl⟩
    · rintro ⟨snapshot, ran, rfl⟩
      cases ran
      rfl

omit [Scripting] in
theorem madeOf_changed (checklist : Json) : (madeOf request.taskId request.add.eraseDups request.remove.eraseDups checklist
    target).2.changed = true ↔ request.Applies target :=
  applies_iff.trans (applies_eq request target)

omit [Scripting] in
theorem madeOf_candidate (applies : request.Applies target) :
    dated (madeOf request.taskId request.add.eraseDups request.remove.eraseDups checklist target).1 n =
      written request checklist target n := by
  unfold written madeOf
  dsimp only
  rw [if_pos (applies_iff.mpr ((applies_eq request target).mpr applies)), editedList_eq]

/-- **How a request on a valid checklist ends.** -/
theorem applyDependencyMutation_eq (inForce : files.checklist = some checklist) (rules : Rules checklist)
    {files' : Files} {result : DependencyMutationResult} {m : Nat} :
    applyDependencyMutation request files n = .ok ((files', result), m) ↔
      WellFormed request ∧ ∃ target, (entries checklist).find? (isNamed request.taskId) = some target ∧
        (∀ name ∈ request.add, name ≠ request.taskId ∧ Known checklist name) ∧
        result = resultOf request checklist target ∧ Ends request files checklist target n files' m := by
  have valid := rules_iff.mpr rules
  have edits (apart : ∀ name ∈ request.add, name ∉ request.remove) {made : Json × Snapshot} :=
    @updateDependencies_eq _ request.taskId _ _ _ rules (nodup_eraseDups request.add)
      (nodup_eraseDups request.remove) (by simpa [List.mem_eraseDups] using apart) made
  unfold applyDependencyMutation
  simp only [script_bind_ok, script_orRaise_ok, script_pure_ok, Prod.mk.injEq, wellFormed_iff]
  constructor
  · rintro ⟨⟨adds, removes⟩, _, ⟨inputs, rfl⟩, _, _, ⟨workspace, rfl⟩, _, _, ⟨harness, rfl⟩, _, _,
      ⟨guard, rfl⟩, ⟨files', current⟩, _, mutated, ⟨candidate, snapshot⟩, _, ⟨called, rfl⟩, ⟨rfl, rfl⟩, rfl⟩
    obtain ⟨checked, rfl, rfl⟩ := validateDependencyInputs_eq.mp inputs
    obtain ⟨rooted, rfl⟩ := requireAbsolutePath_eq.mp workspace
    obtain ⟨placed, rfl⟩ := requireAbsolutePath_eq.mp harness
    obtain ⟨rfl, made, changed, ran, ends⟩ := (mutateManaged_eq inForce valid).mp mutated
    obtain ⟨other, updated, rfl⟩ := callback_eq.mp ran
    rw [orRaise_except_ok, updated] at called
    obtain ⟨rfl, rfl⟩ := Prod.mk.inj (Except.ok.inj called)
    obtain ⟨target, found, known, same⟩ := (edits checked.2.2.2).mp updated
    obtain rfl := congrArg Prod.fst same
    obtain rfl := congrArg Prod.snd same
    refine ⟨⟨checked, ⟨rooted, placed⟩, refuseRuntimeCopyGuard_eq.mp guard⟩, target, found,
      fun name member => known name (List.mem_eraseDups.mpr member), rfl, ?_⟩
    rcases ends with ⟨idle, rfl, rfl⟩ | ⟨works, valid, located, rfl, kind, read, rfl⟩
    · exact .unchanged fun applies => absurd (idle.symm.trans ((madeOf_changed current).mpr applies)) (by decide)
    · have applies := (madeOf_changed current).mp works
      rw [madeOf_candidate applies] at valid located ⊢
      exact .changed applies valid located read
  · rintro ⟨⟨checked, ⟨rooted, placed⟩, guard⟩, target, found, known, rfl, ends⟩
    obtain ⟨⟨made, snapshot⟩, same⟩ : ∃ made, made =
        madeOf request.taskId request.add.eraseDups request.remove.eraseDups checklist target := ⟨_, rfl⟩
    have updated := (edits checked.2.2.2).mpr ⟨target, found,
      fun name member => known name (List.mem_eraseDups.mp member), same⟩
    have ran := callback_eq.mpr ⟨_, updated, rfl⟩
    have works : snapshot.changed = true ↔ request.Applies target := by
      rw [← madeOf_changed checklist, ← same]
    have wrote : request.Applies target → dated made n = written request checklist target n := by
      intro applies
      rw [← madeOf_candidate applies, ← same]
    refine ⟨(_, _), _, ⟨validateDependencyInputs_eq.mpr ⟨checked, rfl, rfl⟩, rfl⟩, _, _,
      ⟨requireAbsolutePath_eq.mpr ⟨rooted, rfl⟩, rfl⟩, _, _, ⟨requireAbsolutePath_eq.mpr ⟨placed, rfl⟩, rfl⟩,
      (), _, ⟨refuseRuntimeCopyGuard_eq.mpr guard, rfl⟩, (files', checklist), m,
      (mutateManaged_eq inForce valid).mpr ⟨rfl, _, _, ran, ?_⟩, _, _,
      ⟨orRaise_except_ok.mpr updated, rfl⟩, ⟨rfl, by rw [resultOf, ← same]⟩, rfl⟩
    cases ends with
    | unchanged satisfied =>
      refine .inl ⟨?_, rfl, rfl⟩
      rw [← Bool.not_eq_true]
      exact fun changed => satisfied (works.mp changed)
    | changed applies valid located read =>
      rw [wrote applies]
      exact .inr ⟨works.mpr applies, valid, located, rfl, _, read, rfl⟩

omit [Platform] [Scripting] in
/-- Where nothing applies, the list stays. -/
theorem edited_satisfied (satisfied : ¬ request.Applies target) :
    request.edited target = dependenciesOf target := by
  obtain ⟨removed, added⟩ := not_or.mp satisfied
  have kept : (dependenciesOf target).filter (· ∉ request.remove.map Json.str) = dependenciesOf target := by
    refine List.filter_eq_self.mpr fun entry member => decide_eq_true fun listed => ?_
    obtain ⟨name, given, rfl⟩ := List.mem_map.mp listed
    exact removed ⟨name, given, member⟩
  have nothing : (request.add.eraseDups.map Json.str).filter (· ∉ dependenciesOf target) = [] := by
    refine List.filter_eq_nil_iff.mpr fun entry member => ?_
    obtain ⟨name, given, rfl⟩ := List.mem_map.mp member
    simp only [decide_eq_true_eq, not_not]
    by_contra absent
    exact added ⟨name, List.mem_eraseDups.mp given, absent⟩
  rw [DependencyRequest.edited, kept, nothing, List.append_nil]

omit [Platform] [Scripting] in
/-- After an edit nothing of the request applies any more. -/
theorem edit_satisfied (wellFormed : WellFormed request) (object : target.isObj = true)
    (named : target.get "id" = .str request.taskId) : ¬ request.Applies (request.edit target) := by
  unfold DependencyRequest.Applies
  rw [dependencies_edit object named, DependencyRequest.edited]
  rintro (⟨name, removed, member⟩ | ⟨name, added, absent⟩)
  · rcases List.mem_append.mp member with kept | new
    · have apart := of_decide_eq_true (List.mem_filter.mp kept).2
      exact apart (List.mem_map_of_mem removed)
    · obtain ⟨other, added, same⟩ := List.mem_map.mp (List.mem_filter.mp new).1
      cases Json.str.inj same
      exact wellFormed.apart name (List.mem_eraseDups.mp added) removed
  · refine absent (List.mem_append.mpr ?_)
    by_cases present : Json.str name ∈ dependenciesOf target
    · refine .inl (List.mem_filter.mpr ⟨present, decide_eq_true fun listed => ?_⟩)
      obtain ⟨other, removed, same⟩ := List.mem_map.mp listed
      cases Json.str.inj same
      exact wellFormed.apart name added removed
    · exact .inr (List.mem_filter.mpr
        ⟨List.mem_map_of_mem (List.mem_eraseDups.mpr added), decide_eq_true present⟩)

omit [Scripting] in
theorem resultOf_satisfied (checklist : Json) (satisfied : ¬ request.Applies target) :
    (resultOf request checklist target).changed = false ∧
      (resultOf request checklist target).dependencies = dependenciesOf target ∧
      ∀ outcome ∈ (resultOf request checklist target).outcomes, outcome.outcome = .alreadySatisfied := by
  have idle : (resultOf request checklist target).changed = false := by
    rw [← Bool.not_eq_true]
    exact fun works => satisfied ((madeOf_changed checklist).mp works)
  refine ⟨idle, (editedList_eq request target).trans (edited_satisfied satisfied), fun outcome member => ?_⟩
  have tested := List.any_eq_false.mp idle outcome member
  cases told : outcome.outcome with
  | applied => exact absurd (decide_eq_true told) tested
  | alreadySatisfied => rfl

/-- A request whose target has what it asks for is reported as satisfied, and leaves the files. -/
theorem request_satisfied (inForce : files.checklist = some checklist) (rules : Rules checklist)
    (wellFormed : WellFormed request) (known : ∀ name ∈ request.add, name ≠ request.taskId ∧ Known checklist name)
    (found : (entries checklist).find? (isNamed request.taskId) = some target)
    (satisfied : ¬ request.Applies target) (k : Nat) :
    applyDependencyMutation request files k = .ok ((files, resultOf request checklist target), k) :=
  (applyDependencyMutation_eq inForce rules).mpr
    ⟨wellFormed, target, found, known, rfl, .unchanged satisfied⟩

/-- What an accepted request leaves behind: a checklist that keeps the rules, in which its target has what
it asks for. -/
theorem Ends.leaves {files' : Files} {m : Nat} (inForce : files.checklist = some checklist)
    (rules : Rules checklist) (wellFormed : WellFormed request)
    (known : ∀ name ∈ request.add, name ≠ request.taskId ∧ Known checklist name)
    (found : (entries checklist).find? (isNamed request.taskId) = some target)
    (ends : Ends request files checklist target n files' m) :
    ∃ after left, files'.checklist = some after ∧ Rules after ∧
      (∀ name ∈ request.add, name ≠ request.taskId ∧ Known after name) ∧
      (entries after).find? (isNamed request.taskId) = some left ∧ ¬ request.Applies left ∧
      dependenciesOf left = request.edited target ∧
      (¬ request.Applies target → files' = files) ∧
      (request.Applies target → EditedFrom request checklist after) := by
  obtain ⟨member, named⟩ := mem_of_find found
  have object := (rules.items target member).isObj
  cases ends with
  | unchanged satisfied =>
    exact ⟨checklist, target, inForce, rules, known, found, satisfied, (edited_satisfied satisfied).symm,
      fun _ => rfl, fun applies => absurd applies satisfied⟩
  | changed applies valid located read =>
    obtain ⟨edited, -, -, -⟩ := written_edited (n := n) rules found
    have after := rules_iff.mp valid
    refine ⟨_, request.edit target, checklist_replace read, after, fun name added => ?_, ?_,
      edit_satisfied wellFormed object named, dependencies_edit object named,
      fun satisfied => absurd applies satisfied, fun _ => edited⟩
    · exact ⟨(known name added).1, (known_edit edited).mpr (known name added).2⟩
    · refine find_of_mem after ?_ ?_
      · rw [edited.entries]
        exact List.mem_map_of_mem member
      · rw [get_edit (by decide), named]

/-- **The law of dependency edits**, of a valid checklist. A request is accepted exactly if it is well
formed, its target and what it adds are items of the checklist, nothing is to depend on itself, and the
locators of the checklist have no problems if something changes. It leaves its target with the list it had
without what is removed, followed by what is added and was not there, in the order of the request. Nothing
is written if all of it is satisfied already, and otherwise no other item, no other field of the target and
no other field of the checklist than its date changes. The same request once more is reported as satisfied
already, and leaves the files. -/
theorem dependency_edit_law (inForce : files.checklist = some checklist)
    (valid : validateChecklist checklist = .ok []) :
    ((∃ outcome, applyDependencyMutation request files n = .ok outcome) ↔ Accepted request checklist) ∧
    ∀ files' result m, applyDependencyMutation request files n = .ok ((files', result), m) →
      ∃ target ∈ entries checklist, target.get "id" = .str request.taskId ∧
        result.dependencies = request.edited target ∧ (result.changed = true ↔ request.Applies target) ∧
        (result.changed = false → files' = files ∧ result.dependencies = dependenciesOf target) ∧
        (result.changed = true → ∃ after, files'.checklist = some after ∧
          validateChecklist after = .ok [] ∧ EditedFrom request checklist after) ∧
        ∀ k, ∃ again, applyDependencyMutation request files' k = .ok ((files', again), k) ∧
          again.changed = false ∧ again.dependencies = result.dependencies ∧
          ∀ outcome ∈ again.outcomes, outcome.outcome = .alreadySatisfied := by
  have rules := rules_iff.mp valid
  refine ⟨⟨?_, ?_⟩, ?_⟩
  · rintro ⟨⟨⟨files', result⟩, m⟩, ran⟩
    obtain ⟨wellFormed, target, found, known, rfl, ends⟩ := (applyDependencyMutation_eq inForce rules).mp ran
    obtain ⟨member, named⟩ := mem_of_find found
    refine ⟨wellFormed, ⟨target, member, named⟩, known, ?_⟩
    rintro ⟨item, inside, same, applies⟩
    have equal : item = target := List.inj_on_of_nodup_map rules.distinct inside member (same.trans named.symm)
    cases ends with
    | unchanged satisfied => exact absurd (equal ▸ applies) satisfied
    | changed _ _ located _ =>
      obtain ⟨edited, -, -, listed⟩ := written_edited (n := n) rules found
      rwa [problems_edited rules edited listed] at located
  · rintro ⟨wellFormed, ⟨target, member, named⟩, known, located⟩
    have found := find_of_mem rules member named
    by_cases applies : request.Applies target
    · obtain ⟨edited, object, stamped, listed⟩ := written_edited (n := n) rules found
      obtain ⟨kind, read⟩ := checklist_eq_some.mp inForce
      refine ⟨_, (applyDependencyMutation_eq inForce rules).mpr ⟨wellFormed, target, found, known, rfl,
        .changed applies ?_ ?_ read⟩⟩
      · exact rules_iff.mpr (rules_edited rules edited object stamped listed fun name added => (known name added).2)
      · rw [problems_edited rules edited listed]
        exact located ⟨target, member, named, applies⟩
    · exact ⟨_, request_satisfied inForce rules wellFormed known found applies n⟩
  · intro files' result m ran
    obtain ⟨wellFormed, target, found, known, rfl, ends⟩ := (applyDependencyMutation_eq inForce rules).mp ran
    obtain ⟨member, named⟩ := mem_of_find found
    obtain ⟨after, left, there, kept, still, again, satisfied, lists, unchanged, edited⟩ :=
      ends.leaves inForce rules wellFormed known found
    have listed : (resultOf request checklist target).dependencies = request.edited target :=
      editedList_eq request target
    have works : (resultOf request checklist target).changed = true ↔ request.Applies target :=
      madeOf_changed checklist
    refine ⟨target, member, named, listed, works, fun idle => ?_, fun changed => ?_, fun k => ?_⟩
    · have nothing : ¬ request.Applies target := by
        rw [← works, idle]
        decide
      exact ⟨unchanged nothing, listed.trans (edited_satisfied nothing)⟩
    · exact ⟨after, there, rules_iff.mpr kept, edited (works.mp changed)⟩
    · obtain ⟨idle, same, outcomes⟩ := resultOf_satisfied after satisfied
      exact ⟨_, request_satisfied there kept wellFormed still again satisfied k, idle,
        same.trans (lists.trans listed.symm), outcomes⟩

end Law

namespace Sample

open Coordinate.Sample

/-- A harness with two items that depend on nothing. -/
def pair : Files where
  new := some (.value (.obj [("project", .str "p"), ("harness_root", .str "docs"),
    ("updated_at", .str "2025-01-01"), ("items", .arr [itemOf "todo" [], (itemOf "todo" []).set "id" (.str "b")])]))
  legacy := none

def requestOf (add remove : List String) : DependencyRequest where
  workspacePath := "/p"
  harnessRoot := "/p/docs"
  workspaceId := "w"
  taskId := "a"
  add := add
  remove := remove

/-- What a request on the two items reports. -/
def told (request : DependencyRequest) : Option (Bool × List Json) :=
  match applyDependencyMutation request pair 0 with
  | .ok ((_, result), _) => some (result.changed, result.dependencies)
  | .error _ => none

/-- A request that names an item that is not there, and one that names its own target, are accepted, if they
remove it. -/
theorem unknown_removal_accepted : ¬ ∀ request files checklist n, files.checklist = some checklist →
    validateChecklist checklist = .ok [] →
    (∃ name ∈ request.add ++ request.remove, name = request.taskId ∨ ¬ Known checklist name) →
    ∃ refusal, applyDependencyMutation request files n = .error refusal := by
  intro rejected
  obtain ⟨checklist, inForce⟩ : ∃ checklist, pair.checklist = some checklist := ⟨_, rfl⟩
  have valid : validateChecklist checklist = .ok [] := by
    cases inForce
    decide +kernel
  obtain ⟨refusal, failed⟩ := rejected (requestOf [] ["a"]) pair checklist 0 inForce valid
    ⟨"a", by decide, .inl rfl⟩
  have accepted : told (requestOf [] ["a"]) = some (false, []) := by decide +kernel
  rw [told, failed] at accepted
  cases accepted

/-- One item comes to depend on the other, and asking for it again changes nothing. -/
theorem addition_settles : ∃ files' result m k again,
    applyDependencyMutation (requestOf ["b", "b"] ["zzz"]) pair 0 = .ok ((files', result), m) ∧
      result.changed = true ∧ result.dependencies = [.str "b"] ∧
      applyDependencyMutation (requestOf ["b", "b"] ["zzz"]) files' k = .ok ((files', again), k) ∧
      again.changed = false := by
  obtain ⟨checklist, inForce⟩ : ∃ checklist, pair.checklist = some checklist := ⟨_, rfl⟩
  have valid : validateChecklist checklist = .ok [] := by
    cases inForce
    decide +kernel
  have reported : told (requestOf ["b", "b"] ["zzz"]) = some (true, [.str "b"]) := by decide +kernel
  unfold told at reported
  split at reported
  · rename_i files' result m ran
    obtain ⟨changed, dependencies⟩ := Prod.mk.inj (Option.some.inj reported)
    obtain ⟨_, _, _, _, _, _, _, settles⟩ := (dependency_edit_law inForce valid).2 files' result m ran
    obtain ⟨again, ran', idle, -⟩ := settles 5
    exact ⟨files', result, m, 5, again, ran, changed, dependencies, ran', idle⟩
  · cases reported

end Sample

end Coordinate.TaskDependencies

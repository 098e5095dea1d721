import Coordinate.Proofs.ChecklistRules
import Coordinate.Proofs.DependencyEdits

/-! # The list that a dependency edit leaves

The callback of an edit step by step: what the removals and the additions make of the current list, and
what each of them reports.
-/

namespace Coordinate.TaskDependencies

open Coordinate.Checklist Coordinate.ChecklistWriters

section Lists

variable {taskId : String} {itemIds : List Json} {names : List String} {progress later : Progress}

theorem nodup_eraseDups : ∀ names : List String, names.eraseDups.Nodup
  | [] => List.nodup_nil
  | name :: rest => by
    rw [List.eraseDups_cons, List.nodup_cons, List.mem_eraseDups]
    exact ⟨by simp, nodup_eraseDups (rest.filter fun other => !other == name)⟩
termination_by names => names.length
decreasing_by
  rw [List.length_cons]
  exact Nat.lt_succ_of_le (List.length_filter_le ..)

/-- What is reported of a removal from a list. -/
def removal (current : List Json) (name : String) : DependencyRequestOutcome :=
  ⟨name, .remove, if .str name ∈ current then .applied else .alreadySatisfied⟩

/-- What is reported of an addition to a list. -/
def addition (current : List Json) (name : String) : DependencyRequestOutcome :=
  ⟨name, .add, if .str name ∈ current then .alreadySatisfied else .applied⟩

theorem removeDependency_eq (current : List Json) (outcomes : List DependencyRequestOutcome) (name : String) :
    removeDependency (current, outcomes) name =
      (current.filter (· ≠ .str name), outcomes ++ [removal current name]) := by
  unfold removeDependency removal
  dsimp only
  by_cases present : Json.str name ∈ current
  · rw [if_pos (List.contains_iff_mem.mpr present), if_pos present]
  · rw [if_neg (fun found => present (List.contains_iff_mem.mp found)), if_neg present]
    have kept : current.filter (· ≠ .str name) = current := by
      refine List.filter_eq_self.mpr fun entry member => decide_eq_true ?_
      rintro rfl
      exact present member
    rw [kept]

/-- The removals keep the rest of the list in its order. -/
theorem removals_eq (distinct : names.Nodup) (current : List Json)
    (outcomes : List DependencyRequestOutcome) : names.foldl removeDependency (current, outcomes) =
      (current.filter (· ∉ names.map Json.str), outcomes ++ names.map (removal current)) := by
  induction names generalizing current outcomes with
  | nil => simp
  | cons name rest ih =>
    obtain ⟨fresh, distinct⟩ := List.nodup_cons.mp distinct
    rw [List.foldl_cons, removeDependency_eq, ih distinct, List.filter_filter]
    have reported : rest.map (removal (current.filter (· ≠ .str name))) = rest.map (removal current) := by
      refine List.map_congr_left fun other member => ?_
      have apart : other ≠ name := fun same => fresh (same ▸ member)
      simp [removal, apart]
    rw [reported]
    refine Prod.ext (List.filter_congr fun entry _ => ?_) ?_
    · simp only [List.map_cons, List.mem_cons, not_or, Bool.decide_and, Bool.and_comm]
    · simp

theorem addDependency_eq (current : List Json) (outcomes : List DependencyRequestOutcome) (name : String) :
    addDependency taskId itemIds (current, outcomes) name = .ok later ↔
      (name ≠ taskId ∧ .str name ∈ itemIds) ∧
        later = (current ++ if .str name ∈ current then [] else [.str name],
          outcomes ++ [addition current name]) := by
  unfold addDependency addition
  simp only [Except.bind_ok, raiseIf_except_ok, not_not, List.contains_iff_mem]
  constructor
  · rintro ⟨_, apart, _, known, made⟩
    refine ⟨⟨apart, known⟩, ?_⟩
    split at made <;> rename_i present <;> cases made <;> simp [present]
  · rintro ⟨⟨apart, known⟩, rfl⟩
    refine ⟨(), apart, (), known, ?_⟩
    split <;> simp [pure, Except.pure]

/-- The additions go through exactly if all of them name other items of the checklist. -/
theorem additions_eq (distinct : names.Nodup) (current : List Json)
    (outcomes : List DependencyRequestOutcome) :
    names.foldlM (addDependency taskId itemIds) (current, outcomes) = .ok later ↔
      (∀ name ∈ names, name ≠ taskId ∧ .str name ∈ itemIds) ∧
        later = (current ++ (names.map Json.str).filter (· ∉ current),
          outcomes ++ names.map (addition current)) := by
  induction names generalizing current outcomes with
  | nil => simp [pure, Except.pure, eq_comm]
  | cons name rest ih =>
    obtain ⟨fresh, distinct⟩ := List.nodup_cons.mp distinct
    have others : ∀ other ∈ rest, (.str other ∈ current ++ if .str name ∈ current then [] else [.str name]) ↔
        Json.str other ∈ current := by
      intro other member
      have apart : other ≠ name := fun same => fresh (same ▸ member)
      split <;> simp [apart]
    have reported : rest.map (addition (current ++ if .str name ∈ current then [] else [.str name])) =
        rest.map (addition current) := by
      refine List.map_congr_left fun other member => ?_
      simp only [addition, others other member]
    have filtered : (rest.map Json.str).filter
          (· ∉ current ++ if .str name ∈ current then [] else [.str name]) =
        (rest.map Json.str).filter (· ∉ current) := by
      refine List.filter_congr fun entry member => ?_
      obtain ⟨other, inside, rfl⟩ := List.mem_map.mp member
      simp only [others other inside]
    simp only [List.foldlM_cons, Except.bind_ok, addDependency_eq, List.forall_mem_cons]
    constructor
    · rintro ⟨_, ⟨own, rfl⟩, more⟩
      obtain ⟨known, rfl⟩ := (ih distinct _ _).mp more
      refine ⟨⟨own, known⟩, ?_⟩
      rw [filtered, reported]
      by_cases present : Json.str name ∈ current <;> simp [present]
    · rintro ⟨⟨own, known⟩, rfl⟩
      refine ⟨_, ⟨own, rfl⟩, (ih distinct _ _).mpr ⟨known, ?_⟩⟩
      rw [filtered, reported]
      by_cases present : Json.str name ∈ current <;> simp [present]

end Lists

section Requests

variable {request : DependencyRequest} {taskId value label : String} {add remove adds removes : List String}

/-- What a request says by itself: identifiers that are not blank, none of them on both sides, and two
absolute paths outside of the runtime deployment. -/
structure WellFormed (request : DependencyRequest) : Prop where
  taskId : Text.isBlank request.taskId = false
  names : ∀ name ∈ request.add ++ request.remove, Text.isBlank name = false
  nonempty : request.add ≠ [] ∨ request.remove ≠ []
  apart : ∀ name ∈ request.add, name ∉ request.remove
  absolute : ∀ path ∈ [request.workspacePath, request.harnessRoot], (Path.Pure.parse path).root ≠ ""
  placed : request.allowRuntimeCopy = true ∨ ∀ path ∈ [request.workspacePath, request.harnessRoot],
    Text.startsWith (Path.Pure.parse path).text "/opt/" = false ∧ (Path.Pure.parse path).text ≠ "/opt"

theorem validateDependencyInputs_eq : validateDependencyInputs taskId add remove = .ok (adds, removes) ↔
    (Text.isBlank taskId = false ∧ (∀ name ∈ add ++ remove, Text.isBlank name = false) ∧
      (add ≠ [] ∨ remove ≠ []) ∧ ∀ name ∈ add, name ∉ remove) ∧
      adds = add.eraseDups ∧ removes = remove.eraseDups := by
  have overlap : (add.eraseDups.filter remove.eraseDups.contains).insertionSort (· ≤ ·) = [] ↔
      ∀ name ∈ add, name ∉ remove := by
    rw [← List.length_eq_zero_iff, List.length_insertionSort, List.length_eq_zero_iff,
      List.filter_eq_nil_iff]
    simp [List.mem_eraseDups]
  unfold validateDependencyInputs
  simp only [Except.bind_ok, raiseIf_except_ok, Bool.not_eq_true, List.any_eq_false, not_and_or]
  constructor
  · rintro ⟨_, named, _, names, _, nonempty, made⟩
    split at made
    · rename_i none
      cases made
      exact ⟨⟨named, fun name member => by simpa using names name member, nonempty, overlap.mp none⟩,
        rfl, rfl⟩
    · cases made
  · rintro ⟨⟨named, names, nonempty, apart⟩, rfl, rfl⟩
    refine ⟨(), named, (), fun name member => by simpa using names name member, (), nonempty, ?_⟩
    rw [overlap.mpr apart]
    rfl

theorem requireAbsolutePath_eq {path : Path.Pure} : requireAbsolutePath value label = .ok path ↔
    (Path.Pure.parse value).root ≠ "" ∧ path = Path.Pure.parse value := by
  unfold requireAbsolutePath
  rw [Except.bind_ok]
  constructor
  · rintro ⟨_, absolute, same⟩
    exact ⟨raiseIf_except_ok.mp absolute, (Except.ok.inj same).symm⟩
  · rintro ⟨absolute, rfl⟩
    exact ⟨(), raiseIf_except_ok.mpr absolute, rfl⟩

theorem refuseRuntimeCopyGuard_eq {paths : List Path.Pure} {allowRuntimeCopy : Bool} {u : Unit} :
    refuseRuntimeCopyGuard paths allowRuntimeCopy = .ok u ↔ allowRuntimeCopy = true ∨
      ∀ path ∈ paths, Text.startsWith path.text "/opt/" = false ∧ path.text ≠ "/opt" := by
  unfold refuseRuntimeCopyGuard
  simp [or_iff_not_imp_left]

end Requests

section Callback

variable [Platform] {taskId : String} {adds removes : List String} {checklist candidate target : Json}
  {snapshot : Snapshot}

/-- One of the items has the identifier. -/
def Known (checklist : Json) (name : String) : Prop :=
  ∃ item ∈ entries checklist, item.get "id" = .str name

/-- The dependencies that an edit leaves. -/
def editedList (adds removes : List String) (current : List Json) : List Json :=
  current.filter (· ∉ removes.map Json.str) ++ (adds.map Json.str).filter (· ∉ current)

/-- What an edit reports. -/
def reported (adds removes : List String) (current : List Json) : List DependencyRequestOutcome :=
  removes.map (removal current) ++ adds.map (addition current)

/-- Something of what is asked for is not there yet. -/
def Applies (adds removes : List String) (current : List Json) : Prop :=
  (∃ name ∈ removes, .str name ∈ current) ∨ ∃ name ∈ adds, .str name ∉ current

omit [Platform] in
theorem applies_iff {current : List Json} : ((reported adds removes current).any fun outcome =>
    outcome.outcome = .applied) = true ↔ Applies adds removes current := by
  simp [reported, Applies, removal, addition]

omit [Platform] in
/-- The identifiers that the callback collects are those of the items. -/
theorem mem_itemIds (rules : Rules checklist) {items : List Json} (listed : checklist.get "items" = .arr items)
    {name : String} : Json.str name ∈
      (items.filter fun item => item.isObj && (item.get "id").truthy).map (·.get "id") ↔
        Known checklist name := by
  have all : entries checklist = items := by rw [entries, listed]
  unfold Known
  rw [List.mem_map, all]
  constructor
  · rintro ⟨item, member, named⟩
    exact ⟨item, (List.mem_filter.mp member).1, named⟩
  · rintro ⟨item, member, named⟩
    have own := rules.items item (all ▸ member)
    have text := isBlank_of_text named (own.texts "id" (by decide))
    have truthy : (Json.str name).truthy = true := by
      refine decide_eq_true ?_
      rintro rfl
      exact absurd text (by decide)
    refine ⟨item, List.mem_filter.mpr ⟨member, ?_⟩, named⟩
    rw [own.isObj, named, truthy]
    rfl

/-- The checklist and the rest of what the callback leaves behind. -/
def madeOf (taskId : String) (adds removes : List String) (checklist target : Json) : Json × Snapshot :=
  let current := dependenciesOf target
  let outcomes := reported adds removes current
  let edited := if outcomes.any fun outcome => outcome.outcome = .applied then
    target.set "dependencies" (.arr (editedList adds removes current)) else target
  (putItem checklist taskId edited, ⟨computeTaskItemFingerprint target, computeTaskItemFingerprint edited,
    outcomes, editedList adds removes current⟩)

omit [Platform] in
/-- What is added is not among what is removed, so that the additions see the list before the removals. -/
theorem additions_after {current : List Json} (apart : ∀ name ∈ adds, name ∉ removes) :
    (∀ entry ∈ adds.map Json.str, entry ∈ current.filter (· ∉ removes.map Json.str) ↔ entry ∈ current) := by
  intro entry member
  obtain ⟨name, added, rfl⟩ := List.mem_map.mp member
  have kept : Json.str name ∉ removes.map Json.str := by simpa using apart name added
  rw [List.mem_filter, decide_eq_true kept, and_iff_left rfl]

/-- **What the callback makes of a valid checklist.** -/
theorem updateDependencies_eq (rules : Rules checklist) (distinctAdds : adds.Nodup)
    (distinctRemoves : removes.Nodup) (apart : ∀ name ∈ adds, name ∉ removes) {made : Json × Snapshot} :
    updateDependencies taskId adds removes checklist = .ok made ↔
      ∃ target, (entries checklist).find? (isNamed taskId) = some target ∧
        (∀ name ∈ adds, name ≠ taskId ∧ Known checklist name) ∧
        made = madeOf taskId adds removes checklist target := by
  obtain ⟨items, listed⟩ := rules.listed
  have all : entries checklist = items := by rw [entries, listed]
  have objects : ∀ item ∈ items, item.isObj = true := fun item member =>
    (rules.items item (all ▸ member)).isObj
  unfold updateDependencies
  rw [listed]
  dsimp only
  rw [find?_objects objects, all]
  cases found : items.find? (isNamed taskId) with
  | none =>
    constructor
    · intro ran
      cases ran
    · rintro ⟨target, other, -⟩
      cases other
  | some target =>
    have later : ((adds.map Json.str).filter (· ∉ (dependenciesOf target).filter (· ∉ removes.map Json.str))) =
        (adds.map Json.str).filter (· ∉ dependenciesOf target) := by
      refine List.filter_congr fun entry member => ?_
      simp only [additions_after apart entry member]
    have told : adds.map (addition ((dependenciesOf target).filter (· ∉ removes.map Json.str))) =
        adds.map (addition (dependenciesOf target)) := by
      refine List.map_congr_left fun name member => ?_
      simp only [addition, additions_after apart _ (List.mem_map_of_mem member)]
    dsimp only
    rw [removals_eq distinctRemoves]
    simp only [Except.bind_ok, additions_eq distinctAdds, mem_itemIds rules listed, List.nil_append, later,
      told, Option.some.injEq, exists_eq_left']
    constructor
    · rintro ⟨_, ⟨known, rfl⟩, made⟩
      exact ⟨known, (Except.ok.inj made).symm⟩
    · rintro ⟨known, rfl⟩
      exact ⟨_, ⟨known, rfl⟩, rfl⟩

end Callback

section Pipeline

variable [Platform] [Scripting] {files files' : Files} {root : String} {callback : Callback} {n m : Nat}
  {current checklist : Json}

/-- A checklist with the date of a reading of the clock. -/
def dated (checklist : Json) (n : Nat) : Json :=
  checklist.set "updated_at" (.str (Text.takePrefix (Calendar.isoformat (now n)) 10))

omit [Platform] [Scripting] in
/-- A date has a dash, which is not white space. -/
theorem date_nonblank (time : Nat) :
    isNonEmptyString (.str (Text.takePrefix (Calendar.isoformat time) 10)) = true := by
  have dash : '-' ∈ (Text.takePrefix (Calendar.isoformat time) 10).toList := by
    simp [Text.takePrefix, Calendar.isoformat, Calendar.fourDigits]
  rw [isNonEmptyString, Bool.not_eq_true', Text.isBlank, List.all_eq_false]
  exact ⟨'-', dash, by decide⟩

omit [Platform] [Scripting] in
theorem resolveManaged_iff {kind : Kind} : resolveManaged root files = .ok kind ↔
    readResolved .mutation files = .ok (kind, (files.file kind).getD .blank) := by
  refine ⟨resolveManaged_ok, fun read => ?_⟩
  obtain ⟨new, legacy⟩ := files
  cases new <;> cases legacy <;> cases kind <;> first | rfl | cases read

omit [Platform] [Scripting] in
theorem loadText_valid (valid : validateChecklist checklist = .ok []) (path : String) :
    loadText path (.value checklist) = .ok checklist := by
  rw [loadText_object path (validateChecklist_ok valid).1, valid]
  rfl

theorem managedCandidate_eq (valid : validateChecklist checklist = .ok []) {kind : Kind}
    {candidate : Option Json} :
    managedCandidate root callback kind (.value checklist) n = .ok (candidate, m) ↔
      ∃ made changed, callback checklist = .ok (made, changed) ∧
        ((changed = false ∧ candidate = none ∧ m = n) ∨
          (changed = true ∧ validateChecklist (dated made n) = .ok [] ∧
            ChecklistWriters.runtimeProblems (dated made n) = .ok [] ∧ m = n + 1 ∧
            candidate = some (dated made n))) := by
  unfold managedCandidate
  simp only [script_bind_ok, script_orRaise_ok, loadText_valid valid, Except.ok.injEq]
  constructor
  · rintro ⟨_, _, ⟨rfl, rfl⟩, ⟨made, changed⟩, _, ⟨called, rfl⟩, ran⟩
    refine ⟨made, changed, called, ?_⟩
    cases changed with
    | false =>
      obtain ⟨rfl, rfl⟩ := script_pure_ok.mp ran
      exact .inl ⟨rfl, rfl, rfl⟩
    | true =>
      simp only [Bool.not_true, Bool.false_eq_true, if_false, script_bind_ok, script_orRaise_ok,
        script_raiseIf_ok, script_pure_ok, not_not] at ran
      obtain ⟨tick, _, read, _, _, wrote, errors, _, ⟨checked, rfl⟩, _, _, ⟨rfl, rfl⟩, problems, _,
        ⟨free, rfl⟩, _, _, ⟨rfl, rfl⟩, rfl, rfl⟩ := ran
      cases read
      cases wrote
      exact .inr ⟨rfl, checked, free, rfl, rfl⟩
  · rintro ⟨made, changed, called, ran⟩
    refine ⟨checklist, n, ⟨rfl, rfl⟩, (made, changed), n, ⟨called, rfl⟩, ?_⟩
    rcases ran with ⟨rfl, rfl, rfl⟩ | ⟨rfl, checked, free, rfl, rfl⟩
    · exact script_pure_ok.mpr ⟨rfl, rfl⟩
    · simp only [Bool.not_true, Bool.false_eq_true, if_false, script_bind_ok, script_orRaise_ok,
        script_raiseIf_ok, script_pure_ok, not_not]
      exact ⟨n, n, rfl, (), n + 1, rfl, [], _, ⟨checked, rfl⟩, (), _, ⟨rfl, rfl⟩, [], _, ⟨free, rfl⟩, (), _,
        ⟨rfl, rfl⟩, rfl, rfl⟩

/-- Where the pipeline leads from files with a valid checklist, by what the callback makes of it: an
unchanged checklist is not written, and a changed one is dated and tested once more. -/
theorem mutateManaged_eq (inForce : files.checklist = some checklist)
    (valid : validateChecklist checklist = .ok []) :
    mutateManaged root callback files n = .ok ((files', current), m) ↔
      current = checklist ∧ ∃ made changed, callback checklist = .ok (made, changed) ∧
        ((changed = false ∧ files' = files ∧ m = n) ∨
          (changed = true ∧ validateChecklist (dated made n) = .ok [] ∧
            ChecklistWriters.runtimeProblems (dated made n) = .ok [] ∧ m = n + 1 ∧
            ∃ kind, readResolved .mutation files = .ok (kind, .value checklist) ∧
              files' = files.replace kind (dated made n))) := by
  obtain ⟨kind, read⟩ := checklist_eq_some.mp inForce
  obtain ⟨found, text⟩ : resolveManaged root files = .ok kind ∧
      (files.file kind).getD .blank = .value checklist := by
    have resolved : readResolved .mutation files = .ok (kind, (files.file kind).getD .blank) := by
      obtain ⟨given, resolved, same⟩ := Except.bind_ok.mp read
      obtain ⟨rfl, -⟩ := Prod.mk.inj (Except.ok.inj same)
      exact Except.bind_ok.mpr ⟨given, resolved, rfl⟩
    rw [read] at resolved
    exact ⟨resolveManaged_iff.mpr (read.trans resolved), (Prod.mk.inj (Except.ok.inj resolved)).2.symm⟩
  unfold mutateManaged
  simp only [script_bind_ok, script_orRaise_ok, script_pure_ok, Prod.mk.injEq, found, Except.ok.injEq]
  constructor
  · rintro ⟨_, _, ⟨rfl, rfl⟩, candidate, _, ran, _, _, ⟨loaded, rfl⟩, ⟨rfl, rfl⟩, rfl⟩
    rw [text] at ran loaded
    rw [loadText_valid valid] at loaded
    obtain ⟨made, changed, called, ends⟩ := (managedCandidate_eq valid).mp ran
    refine ⟨(Except.ok.inj loaded).symm, made, changed, called, ?_⟩
    rcases ends with ⟨rfl, rfl, rfl⟩ | ⟨rfl, checked, free, rfl, rfl⟩
    · exact .inl ⟨rfl, rfl, rfl⟩
    · exact .inr ⟨rfl, checked, free, rfl, kind, read, rfl⟩
  · rintro ⟨rfl, made, changed, called, ends⟩
    rcases ends with ⟨rfl, rfl, rfl⟩ | ⟨rfl, checked, free, rfl, other, again, rfl⟩
    · refine ⟨kind, _, ⟨rfl, rfl⟩, none, m, ?_, current, m, ⟨?_, rfl⟩, ⟨rfl, rfl⟩, rfl⟩
      · rw [text]
        exact (managedCandidate_eq valid).mpr ⟨made, false, called, .inl ⟨rfl, rfl, rfl⟩⟩
      · rw [text, loadText_valid valid]
    · obtain ⟨rfl, -⟩ := Prod.mk.inj (Except.ok.inj (again.symm.trans read))
      refine ⟨other, _, ⟨rfl, rfl⟩, some (dated made n), n + 1, ?_, current, _, ⟨?_, rfl⟩, ⟨rfl, rfl⟩, rfl⟩
      · rw [text]
        exact (managedCandidate_eq valid).mpr
          ⟨made, true, called, .inr ⟨rfl, checked, free, rfl, rfl⟩⟩
      · rw [text, loadText_valid valid]


end Pipeline

end Coordinate.TaskDependencies

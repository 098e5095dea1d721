import Coordinate.Model.SampleChecklist
import Coordinate.Proofs.ChecklistLocators
import Coordinate.Proofs.DependencyLists

/-! # What one program commits, the other accepts

The harness scripts and Coordinate each test the whole checklist at every mutation. A checklist that Coordinate
has committed is accepted by the scripts. One that the scripts have committed is accepted by Coordinate exactly
if its locators agree as they are written, the alias that only Coordinate reads among them.
-/

namespace Coordinate.ChecklistBoundaries

open Coordinate.Checklist Coordinate.ChecklistWriters Coordinate.TaskDependencies

section Structure

/-- The fields of an item whose values make up its structure. -/
def structuralFields : List String :=
  ["id", "status", "priority", "dependencies", "blocked_by", "workflow", "lease", "artifacts", "review",
    "plan_path", "artifact_path"]

/-- The structure of an item is the same, no required field is lost, and a text stays a text. -/
structure ItemKept (before after : Json) : Prop where
  isObj : after.isObj = true
  required : ∀ field ∈ itemRequired, (after.field? field).isSome = true
  same : ∀ field ∈ structuralFields, after.get field = before.get field
  texts : ∀ field ∈ ["title", "updated_at", "acceptance", "owner", "selected_in_session", "verification"],
    isNonEmptyString (before.get field) = true → isNonEmptyString (after.get field) = true
  reason : IsTextOrNull (after.get "blocked_reason")

/-- The structure of a checklist is the same. -/
structure Kept (before after : Json) : Prop where
  isObj : after.isObj = true
  texts : ∀ field ∈ ["project", "harness_root"],
    isNonEmptyString (before.get field) = true → isNonEmptyString (after.get field) = true
  items : ∃ items, after.get "items" = .arr items ∧ List.Forall₂ ItemKept (entries before) items

/-- A callback for Coordinate that makes a change, and none to the structure. -/
def Keeps (callback : Callback) : Prop :=
  ∀ before, Rules before → ∃ after, callback before = .ok (after, true) ∧ Kept before after

/-- Such a callback for a script. -/
def ScriptKeeps (callback : Json → Script Json) : Prop :=
  ∀ before n, Rules before → ∃ after m, callback before n = .ok (after, m) ∧ Kept before after

theorem exists_of_forall₂ {α β : Type} {R : α → β → Prop} {first : List α} {second : List β}
    (related : List.Forall₂ R first second) : ∀ {b : β}, b ∈ second → ∃ a ∈ first, R a b := by
  induction related with
  | nil =>
    intro b member
    cases member
  | cons own _ ih =>
    intro b member
    rcases List.mem_cons.mp member with rfl | member
    · exact ⟨_, List.mem_cons_self, own⟩
    · obtain ⟨a, inside, related⟩ := ih member
      exact ⟨a, List.mem_cons_of_mem _ inside, related⟩

theorem map_eq_of_forall₂ {α β γ : Type} {R : α → β → Prop} {f : α → γ} {g : β → γ}
    (same : ∀ a b, R a b → g b = f a) {first : List α} {second : List β} (related : List.Forall₂ R first second) :
    second.map g = first.map f := by
  induction related with
  | nil => rfl
  | cons own _ ih => rw [List.map_cons, List.map_cons, ih, same _ _ own]

variable {before after item : Json}

theorem ItemKept.rules (kept : ItemKept before after) (rules : ItemRules before) : ItemRules after := by
  have same : ∀ field ∈ structuralFields, after.get field = before.get field := kept.same
  refine ⟨kept.isObj, kept.required, ?_, ?_, ?_, ?_, kept.reason, ?_, ?_, ?_, ?_, ?_, ?_⟩
  · intro field member
    rcases List.mem_cons.mp member with rfl | member
    · rw [same "id" (by decide)]
      exact rules.texts "id" (by decide)
    · have textual : ∀ field ∈ ["title", "updated_at", "acceptance"],
          field ∈ ["title", "updated_at", "acceptance", "owner", "selected_in_session", "verification"] := by
        decide
      exact kept.texts field (textual field member) (rules.texts field (List.mem_cons_of_mem _ member))
  · rw [same "status" (by decide)]
    exact rules.status
  · rw [same "priority" (by decide)]
    exact rules.priority
  · intro field member
    have structural : ∀ field ∈ ["dependencies", "blocked_by"], field ∈ structuralFields := by decide
    rw [same field (structural field member)]
    exact rules.lists field member
  · rw [same "status" (by decide)]
    intro doing
    obtain ⟨owner, session⟩ := rules.owned doing
    exact ⟨kept.texts _ (by decide) owner, kept.texts _ (by decide) session⟩
  · rw [same "status" (by decide)]
    intro done
    exact kept.texts _ (by decide) (rules.verified done)
  · rw [same "workflow" (by decide)]
    intro some
    obtain ⟨object, mode, status, start⟩ := rules.workflow some
    refine ⟨object, mode, status, ?_⟩
    rw [same "status" (by decide)]
    exact start
  · rw [same "lease" (by decide)]
    exact rules.lease
  · rw [same "artifacts" (by decide)]
    exact rules.artifacts
  · rw [same "review" (by decide)]
    exact rules.review

variable [Platform] {n : Nat}

theorem Kept.entries (kept : Kept before after) (n : Nat) :
    List.Forall₂ ItemKept (entries before) (Checklist.entries (dated after n)) := by
  obtain ⟨items, listed, related⟩ := kept.items
  rw [dated, entries_dated]
  unfold Checklist.entries at related ⊢
  rw [listed]
  exact related

/-- A checklist with the same structure keeps the rules. -/
theorem Kept.rules (kept : Kept before after) (rules : Rules before) : Rules (dated after n) := by
  have related := kept.entries n
  refine ⟨(Json.isObj_set ..).trans kept.isObj, ?_, ?_, ?_, ?_, ?_⟩
  · intro field member
    simp only [List.mem_cons, List.not_mem_nil, or_false] at member
    rcases member with rfl | rfl | rfl
    · rw [dated, Json.get_set_ne (by decide)]
      exact kept.texts _ (by decide) (rules.texts _ (by decide))
    · rw [dated, Json.get_set_ne (by decide)]
      exact kept.texts _ (by decide) (rules.texts _ (by decide))
    · rw [dated, Json.get_set_self kept.isObj]
      exact date_nonblank _
  · obtain ⟨items, listed, -⟩ := kept.items
    exact ⟨items, by rw [dated, Json.get_set_ne (by decide), listed]⟩
  · intro item member
    obtain ⟨earlier, inside, kept⟩ := exists_of_forall₂ related member
    exact kept.rules (rules.items earlier inside)
  · rw [map_eq_of_forall₂ (fun a b (kept : ItemKept a b) => kept.same "id" (by decide)) related]
    exact rules.distinct
  · intro item member field list links found link inside
    obtain ⟨earlier, among, kept⟩ := exists_of_forall₂ related member
    have structural : ∀ field ∈ ["dependencies", "blocked_by"], field ∈ structuralFields := by decide
    rw [kept.same field (structural field list)] at found
    obtain ⟨other, there, named⟩ := rules.links earlier among field list links found link inside
    have names : link ∈ (Checklist.entries before).map fun item => item.get "id" :=
      List.mem_map.mpr ⟨other, there, named⟩
    rw [← map_eq_of_forall₂ (fun a b (kept : ItemKept a b) => kept.same "id" (by decide)) related] at names
    exact List.mem_map.mp names

end Structure

section Programs

variable [Platform] [Scripting] {site : Site} {root : String} {files files' : Files} {checklist before after : Json}
  {n m : Nat}

omit [Platform] in
/-- What Coordinate tests of an item is part of its structure. -/
theorem ItemKept.itemProblems (kept : ItemKept before after) : itemProblems after = itemProblems before := by
  simp only [ChecklistWriters.itemProblems, locatorFields, kept.same "id" (by decide),
    kept.same "plan_path" (by decide), kept.same "artifact_path" (by decide), kept.same "artifacts" (by decide)]

omit [Platform] in
/-- So is what a script tests. -/
theorem ItemKept.runtimeProblems (kept : ItemKept before after) :
    Checklist.runtimeProblems site after = Checklist.runtimeProblems site before := by
  simp only [Checklist.runtimeProblems, itemPlanLocatorFields, itemLocatorTypeProblems,
    kept.same "id" (by decide), kept.same "plan_path" (by decide), kept.same "artifacts" (by decide)]

omit [Scripting] in
/-- A test that only looks at the structure of items. -/
theorem Kept.forall_iff {α : Type} {problems : Json → α} {clean : α} (kept : Kept before after)
    (same : ∀ before after, ItemKept before after → problems after = problems before) :
    (∀ item ∈ Checklist.entries (dated after n), problems item = clean) ↔
      ∀ item ∈ Checklist.entries before, problems item = clean := by
  have mapped := map_eq_of_forall₂ same (kept.entries n)
  rw [← List.forall_mem_map (P := (· = clean)), mapped, List.forall_mem_map]

/-- Coordinate accepts a change that leaves the structure alone exactly if it finds no problem in the items. -/
theorem managed_accepts {callback : Callback} (inForce : files.checklist = some checklist)
    (rules : Rules checklist) (keeps : Keeps callback) :
    (∃ result, mutateManaged root callback files n = .ok result) ↔
      ∀ item ∈ Checklist.entries checklist, itemProblems item = .ok [] := by
  have valid := rules_iff.mpr rules
  obtain ⟨after, called, kept⟩ := keeps checklist rules
  have still := @Kept.forall_iff _ _ _ n _ itemProblems (.ok []) kept (fun _ _ kept => kept.itemProblems)
  rw [← managedProblems_clean (kept.rules rules)] at still
  rw [← still]
  constructor
  · rintro ⟨⟨⟨files', current⟩, m⟩, ran⟩
    obtain ⟨rfl, made, changed, again, ends⟩ := (mutateManaged_eq inForce valid).mp ran
    obtain ⟨rfl, rfl⟩ := Prod.mk.inj (Except.ok.inj (again.symm.trans called))
    rcases ends with ⟨other, -⟩ | ⟨-, -, free, -⟩
    · cases other
    · exact free
  · intro free
    obtain ⟨kind, read⟩ := checklist_eq_some.mp inForce
    exact ⟨_, (mutateManaged_eq inForce valid).mpr ⟨rfl, after, true, called,
      .inr ⟨rfl, rules_iff.mpr (kept.rules rules), free, rfl, kind, read, rfl⟩⟩⟩

/-- Where a mutation by a script leads from files with a valid checklist. -/
theorem mutateChecklist_eq {callback : Json → Script Json} (inForce : files.checklist = some checklist)
    (valid : validateChecklist checklist = .ok []) :
    mutateChecklist site callback files n = .ok (files', m) ↔
      ∃ made k, callback checklist n = .ok (made, k) ∧ validateChecklist (dated made k) = .ok [] ∧
        checklistRuntimeProblems site (dated made k) = .ok [] ∧ m = k + 1 ∧
        ∃ kind, readResolved .mutation files = .ok (kind, .value checklist) ∧
          files' = files.replace kind (dated made k) := by
  obtain ⟨kind, read⟩ := checklist_eq_some.mp inForce
  have object := (validateChecklist_ok valid).1
  unfold mutateChecklist
  simp only [script_bind_ok, script_orRaise_ok, read, Except.ok.injEq]
  constructor
  · rintro ⟨_, _, ⟨rfl, rfl⟩, candidate, _, made, ran⟩
    obtain ⟨rfl, rfl⟩ := script_pure_ok.mp ran
    simp only [Checklist.candidateOf, script_bind_ok, script_orRaise_ok, script_raiseIf_ok, script_pure_ok, today_ok,
      not_not] at made
    obtain ⟨current, _, ⟨loaded, rfl⟩, _, _, ⟨-, rfl⟩, errors, _, ⟨-, rfl⟩, _, _, ⟨-, rfl⟩,
      changed, k, performed, date, _, ⟨rfl, rfl⟩, later, _, ⟨rechecked, rfl⟩, _, _, ⟨rfl, rfl⟩, problems, _,
      ⟨free, rfl⟩, _, _, ⟨rfl, rfl⟩, rfl, rfl⟩ := made
    cases loaded
    exact ⟨changed, k, performed, rechecked, free, rfl, kind, rfl, rfl⟩
  · rintro ⟨made, k, performed, rechecked, free, rfl, kind', same, rfl⟩
    obtain ⟨rfl, -⟩ := Prod.mk.inj same
    refine ⟨_, _, ⟨rfl, rfl⟩, dated made k, k + 1, ?_, script_pure_ok.mpr ⟨rfl, rfl⟩⟩
    simp only [Checklist.candidateOf, script_bind_ok, script_orRaise_ok, script_raiseIf_ok, script_pure_ok, today_ok,
      not_not]
    exact ⟨checklist, _, ⟨rfl, rfl⟩, (), _, ⟨object, rfl⟩, [], _, ⟨valid, rfl⟩, (), _, ⟨rfl, rfl⟩, made, k,
      performed, _, _, ⟨rfl, rfl⟩, [], _, ⟨rechecked, rfl⟩, (), _, ⟨rfl, rfl⟩, [], _, ⟨free, rfl⟩, (), _,
      ⟨rfl, rfl⟩, rfl, rfl⟩

/-- A script accepts a change that leaves the structure alone exactly if it finds no problem in the items. -/
theorem script_accepts {callback : Json → Script Json} (inForce : files.checklist = some checklist)
    (rules : Rules checklist) (keeps : ScriptKeeps callback) :
    (∃ result, mutateChecklist site callback files n = .ok result) ↔
      ∀ item ∈ Checklist.entries checklist, Checklist.runtimeProblems site item = .ok [] := by
  have valid := rules_iff.mpr rules
  obtain ⟨after, k, called, kept⟩ := keeps checklist n rules
  have still := @Kept.forall_iff _ _ _ k _ (Checklist.runtimeProblems site) (.ok []) kept
    (fun _ _ kept => kept.runtimeProblems)
  rw [← checklistRuntimeProblems_clean (kept.rules rules)] at still
  rw [← still]
  constructor
  · rintro ⟨⟨files', m⟩, ran⟩
    obtain ⟨made, k', again, -, free, -⟩ := (mutateChecklist_eq inForce valid).mp ran
    obtain ⟨rfl, rfl⟩ := Prod.mk.inj (Except.ok.inj (again.symm.trans called))
    exact free
  · intro free
    obtain ⟨kind, read⟩ := checklist_eq_some.mp inForce
    exact ⟨_, (mutateChecklist_eq inForce valid).mpr ⟨after, k, called, rules_iff.mpr (kept.rules rules), free,
      rfl, kind, read, rfl⟩⟩

end Programs

section Boundaries

variable [Platform] [Scripting] {site : Site} {root : String} {files files' : Files} {checklist item : Json}
  {n m : Nat}

/-- The alias is missing or a text, and the locators are one path as they are written, which has no `..`. -/
structure AsWritten (item : Json) : Prop where
  legacy : item.get "artifact_path" = .null ∨ isNonEmptyString (item.get "artifact_path") = true
  below : ∀ raw, ManagedLocator item raw → Below raw
  single : ∀ raw other, ManagedLocator item raw → ManagedLocator item other →
    Path.Pure.parse raw = Path.Pure.parse other

omit [Platform] in
theorem itemProblems_iff (rules : ItemRules item) : itemProblems item = .ok [] ↔
    Checklist.Typed item ∧ AsWritten item := by
  rw [itemProblems_clean rules.artifacts_object]
  exact and_congr_right fun _ => ⟨fun ⟨legacy, below, single⟩ => ⟨legacy, below, single⟩,
    fun ⟨legacy, below, single⟩ => ⟨legacy, below, single⟩⟩

omit [Platform] in
/-- Where a script finds no problem, Coordinate finds none if the locators agree as they are written. -/
theorem itemProblems_of_script (rules : ItemRules item) (free : Checklist.runtimeProblems site item = .ok []) :
    itemProblems item = .ok [] ↔ AsWritten item := by
  rw [itemProblems_iff rules]
  exact and_iff_right ((runtimeProblems_clean rules.artifacts_object).mp free).1

omit [Platform] in
/-- Where Coordinate finds no problem, a script finds none: paths that are written alike are at one place. -/
theorem runtimeProblems_of_managed (rules : ItemRules item) (free : itemProblems item = .ok []) :
    Checklist.runtimeProblems site item = .ok [] := by
  obtain ⟨typed, written⟩ := (itemProblems_iff rules).mp free
  rw [runtimeProblems_clean rules.artifacts_object]
  refine ⟨typed, fun raw plan => written.below raw (.inl plan), fun raw other plan plan' => ?_⟩
  rw [locate, locate, written.single raw other (.inl plan) (.inl plan')]

/-- What a script has committed. -/
theorem script_committed {callback : Json → Script Json}
    (ran : mutateChecklist site callback files n = .ok (files', m)) :
    ∃ checklist, files'.checklist = some checklist ∧ Rules checklist ∧
      ∀ item ∈ Checklist.entries checklist, Checklist.runtimeProblems site item = .ok [] := by
  obtain ⟨before, _, _, _, inForce, valid, -⟩ := mutateChecklist_made ran
  obtain ⟨made, k, -, rechecked, free, -, kind, read, rfl⟩ := (mutateChecklist_eq inForce valid).mp ran
  have rules := rules_iff.mp rechecked
  exact ⟨_, checklist_replace read, rules, (checklistRuntimeProblems_clean rules).mp free⟩

/-- What Coordinate has committed. -/
theorem managed_committed {callback : Callback} {current made : Json}
    (ran : mutateManaged root callback files n = .ok ((files', current), m))
    (changes : callback current = .ok (made, true)) :
    ∃ checklist, files'.checklist = some checklist ∧ Rules checklist ∧
      ∀ item ∈ Checklist.entries checklist, itemProblems item = .ok [] := by
  obtain ⟨inForce, valid, -⟩ := mutateManaged_ok ran
  obtain ⟨-, after, changed, again, ends⟩ := (mutateManaged_eq inForce valid).mp ran
  obtain ⟨rfl, rfl⟩ := Prod.mk.inj (Except.ok.inj (again.symm.trans changes))
  rcases ends with ⟨other, -⟩ | ⟨-, rechecked, free, -, kind, read, rfl⟩
  · cases other
  · have rules := rules_iff.mp rechecked
    exact ⟨_, checklist_replace read, rules, (managedProblems_clean rules).mp free⟩

/-- **When the two programs do not stand in each other's way.** What a script has committed is open to every
change by Coordinate that leaves the structure alone if the locators of its items agree as they are written, and
to no such change otherwise; what Coordinate has committed is open to every such change by a script. -/
theorem boundaries_open_iff (site : Site) (root : String) :
    (∀ callback files files' n m, mutateChecklist site callback files n = .ok (files', m) →
      ∃ checklist, files'.checklist = some checklist ∧ ∀ change k, Keeps change →
        ((∃ result, mutateManaged root change files' k = .ok result) ↔
          ∀ item ∈ Checklist.entries checklist, AsWritten item)) ∧
    ∀ callback files files' n m current made,
      mutateManaged root callback files n = .ok ((files', current), m) → callback current = .ok (made, true) →
        ∀ change k, ScriptKeeps change → ∃ result, mutateChecklist site change files' k = .ok result := by
  constructor
  · intro callback files files' n m ran
    obtain ⟨checklist, inForce, rules, free⟩ := script_committed ran
    refine ⟨checklist, inForce, fun change k keeps => ?_⟩
    rw [managed_accepts inForce rules keeps]
    exact forall₂_congr fun item member => itemProblems_of_script (rules.items item member) (free item member)
  · intro callback files files' n m current made ran changes change k keeps
    obtain ⟨checklist, inForce, rules, free⟩ := managed_committed ran changes
    exact (script_accepts inForce rules keeps).mpr fun item member =>
      runtimeProblems_of_managed (rules.items item member) (free item member)

end Boundaries

namespace Sample

open Coordinate.Sample

/-- The harness with one item. -/
def filesOf (fields : List (String × Json)) : Files := (harnessOf (itemOf "todo" fields)).files

/-- A callback that leaves everything as it is. -/
def touch : Callback := fun checklist => .ok (checklist, true)

def scriptTouch : Json → Script Json := fun checklist => pure checklist

/-- The run of a script that commits the item as it is. -/
def scriptRun (fields : List (String × Json)) : Except Exit (Files × Nat) :=
  mutateChecklist site scriptTouch (filesOf fields) 0

def managedRun (files : Files) : Except Refusal ((Files × Json) × Nat) := mutateManaged "/p/docs" touch files 1

/-- How Coordinate answers a touch after a script has committed the item. -/
def accepted (fields : List (String × Json)) : Option Bool :=
  match scriptRun fields with
  | .ok (files, _) => some (managedRun files).isOk
  | .error _ => none

theorem kept_refl {before : Json} (rules : Rules before) : Kept before before := by
  obtain ⟨items, listed⟩ := rules.listed
  have all : Checklist.entries before = items := by rw [Checklist.entries, listed]
  refine ⟨rules.isObj, fun _ _ own => own, items, listed, ?_⟩
  rw [all, List.forall₂_same]
  intro item member
  have own := rules.items item (all ▸ member)
  exact ⟨own.isObj, own.required, fun _ _ => rfl, fun _ _ solid => solid, own.reason⟩

theorem keeps_touch : Keeps touch := fun before rules => ⟨before, rfl, kept_refl rules⟩

theorem keeps_scriptTouch : ScriptKeeps scriptTouch := fun before n rules => ⟨before, n, rfl, kept_refl rules⟩

/-- An item with a plan and an old alias that differs is committed by a script, and so is one with its plan once as
an absolute and once as a relative path. Coordinate refuses every change of them that leaves the structure alone. -/
theorem committed_refused : ¬ ∀ callback files files' n m,
    mutateChecklist site callback files n = .ok (files', m) → ∀ change k, Keeps change →
      ∃ result, mutateManaged "/p/docs" change files' k = .ok result := by
  intro opened
  have aliased : accepted [("plan_path", .str "docs/tasks/a/plan.md"), ("artifact_path", .str "docs/old.md")] =
      some false := by decide +kernel
  unfold accepted at aliased
  split at aliased
  · rename_i files m ran
    obtain ⟨result, answered⟩ := opened scriptTouch _ files 0 m ran touch 1 keeps_touch
    rw [managedRun, answered] at aliased
    cases aliased
  · cases aliased

/-- The other kind of locators that only the scripts take as one. -/
example : accepted [("plan_path", .str "/p/docs/a.md"), ("artifacts", .obj [("plan", .str "docs/a.md")])] =
    some false := by decide +kernel

/-- An alias that is the plan, as far as `normpath` goes, is in nobody's way. -/
theorem same_alias_open : ∃ files n checklist back current m,
    scriptRun [("plan_path", .str "docs/a.md"), ("artifact_path", .str "docs/./a.md")] = .ok (files, n) ∧
      files.checklist = some checklist ∧ (∀ item ∈ Checklist.entries checklist, AsWritten item) ∧
      managedRun files = .ok ((back, current), m) ∧
      ∃ result, mutateChecklist site scriptTouch back 5 = .ok result := by
  have taken : accepted [("plan_path", .str "docs/a.md"), ("artifact_path", .str "docs/./a.md")] = some true := by
    decide +kernel
  unfold accepted at taken
  split at taken
  · rename_i files n ran
    cases answered : managedRun files with
    | error refusal =>
      rw [answered] at taken
      cases taken
    | ok result =>
      obtain ⟨⟨back, current⟩, m⟩ := result
      obtain ⟨scripts, managed⟩ := boundaries_open_iff site "/p/docs"
      obtain ⟨checklist, inForce, isOpen⟩ := scripts scriptTouch _ files 0 n ran
      have written := (isOpen touch 1 keeps_touch).mp ⟨_, answered⟩
      exact ⟨files, n, checklist, back, current, m, ran, inForce, written, answered,
        managed touch files back 1 m current current answered rfl scriptTouch 5 keeps_scriptTouch⟩
  · cases taken

end Sample

end Coordinate.ChecklistBoundaries

import Coordinate.Library.PathNormal
import Coordinate.Model.ChecklistWriters
import Coordinate.Proofs.ChecklistRules

/-! # What the two writers test of the locators

The problems that the harness finds in the locators of an item, and those that Coordinate finds, as rules. Both
write a path down in one way only, so that two texts are equal exactly if the paths are.
-/

namespace Coordinate.Checklist

section Lists

variable {α β : Type}

theorem dedup_le_one [DecidableEq β] {values : List β} :
    ¬ 1 < values.dedup.length ↔ ∀ value ∈ values, ∀ other ∈ values, value = other := by
  rw [not_lt]
  constructor
  · intro short value member other member'
    have inside := List.mem_dedup.mpr member
    have inside' := List.mem_dedup.mpr member'
    rcases found : values.dedup with _ | ⟨first, _ | ⟨next, rest⟩⟩
    · rw [found] at inside
      cases inside
    · rw [found, List.mem_singleton] at inside inside'
      rw [inside, inside']
    · rw [found, List.length_cons, List.length_cons] at short
      omega
  · intro same
    rcases found : values.dedup with _ | ⟨first, _ | ⟨next, rest⟩⟩
    · exact Nat.zero_le 1
    · exact le_rfl
    · have distinct := List.nodup_dedup values
      have equal : first = next := by
        refine same first ?_ next ?_
        · exact List.mem_dedup.mp (found ▸ List.mem_cons_self)
        · exact List.mem_dedup.mp (found ▸ List.mem_cons_of_mem _ List.mem_cons_self)
      rw [found, equal] at distinct
      exact absurd List.mem_cons_self (List.nodup_cons.mp distinct).1

theorem flatten_mapM_clean {problems : α → Except Exn (List β)} : ∀ {items : List α},
    List.flatten <$> items.mapM problems = .ok [] ↔ ∀ item ∈ items, problems item = .ok []
  | [] => iff_of_true rfl (List.forall_mem_nil _)
  | item :: rest => by
    have ih := @flatten_mapM_clean problems rest
    rw [List.forall_mem_cons, ← ih, List.mapM_cons]
    cases problems item with
    | error error => simp [bind, Except.bind, Functor.map, Except.map]
    | ok found =>
      cases rest.mapM problems with
      | error error => simp [bind, Except.bind, Functor.map, Except.map]
      | ok others => simp [bind, Except.bind, Functor.map, Except.map, pure, Except.pure]

end Lists

section Locators

variable [Scripting] {site : Site} {item value : Json} {raw : String}

/-- A value that is a locator: a text that is not blank, without the white space around it. -/
def Locates (value : Json) (raw : String) : Prop :=
  ∃ text, value = .str text ∧ Text.isBlank text = false ∧ raw = Text.strip text

/-- A locator that both programs read. -/
def PlanLocator (item : Json) (raw : String) : Prop :=
  Locates (item.get "plan_path") raw ∨ Locates ((item.get "artifacts").get "plan") raw

/-- A locator that Coordinate reads. -/
def ManagedLocator (item : Json) (raw : String) : Prop :=
  PlanLocator item raw ∨ Locates (item.get "artifact_path") raw

/-- A path without a step to its parent. -/
def Below (raw : String) : Prop := ".." ∉ (Path.Pure.parse raw).parts

def IsTextOrNull (value : Json) : Prop := value = .null ∨ ∃ text, value = .str text

/-- What both programs ask of an item apart from where its locators lead. -/
structure Typed (item : Json) : Prop where
  safe : safeItemIdProblem (item.get "id") = none
  planPath : IsTextOrNull (item.get "plan_path")
  artifactsPlan : IsTextOrNull ((item.get "artifacts").get "plan")

/-- The locators of an item that are texts. -/
def texts (fields : List (String × Json)) : List (String × String) :=
  fields.filterMap fun field => match field.2 with
    | .str text => if Text.isBlank text then none else some (field.1, Text.strip text)
    | _ => none

omit [Scripting] in
theorem exists_mem_texts {fields : List (String × Json)} :
    (∃ name, (name, raw) ∈ texts fields) ↔ ∃ field ∈ fields, Locates field.2 raw := by
  unfold texts Locates
  simp only [List.mem_filterMap]
  constructor
  · rintro ⟨name, field, member, found⟩
    refine ⟨field, member, ?_⟩
    split at found
    · rename_i text same
      split at found
      · cases found
      · rename_i solid
        cases found
        exact ⟨text, same, by simpa using solid, rfl⟩
    · cases found
  · rintro ⟨⟨name, value⟩, member, text, same, solid, rfl⟩
    dsimp only at same
    subst same
    refine ⟨name, _, member, ?_⟩
    simp [solid]

omit [Scripting] in
/-- No locator climbs, and all of them have one key. -/
theorem single_iff {fields : List (String × String)} {key : String → String} {climbing : String × String → String}
    {message : String} :
    (fields.filter fun field => (Path.Pure.parse field.2).parts.contains "..").map climbing = [] ∧
      (if (((fields.filter fun field => !(Path.Pure.parse field.2).parts.contains "..").map fun field =>
        key field.2).dedup).length > 1 then [message] else []) = [] ↔
    (∀ raw, (∃ name, (name, raw) ∈ fields) → Below raw) ∧
      ∀ raw other, (∃ name, (name, raw) ∈ fields) → (∃ name, (name, other) ∈ fields) → key raw = key other := by
  rw [List.map_eq_nil_iff, List.filter_eq_nil_iff]
  have below : (∀ field ∈ fields, ¬ (Path.Pure.parse field.2).parts.contains ".." = true) ↔
      ∀ raw, (∃ name, (name, raw) ∈ fields) → Below raw := by
    constructor
    · rintro plain raw ⟨name, member⟩ climbs
      exact plain (name, raw) member (List.contains_iff_mem.mpr climbs)
    · rintro plain ⟨name, raw⟩ member climbs
      exact plain raw ⟨name, member⟩ (List.contains_iff_mem.mp climbs)
  rw [and_congr below.symm Iff.rfl]
  refine and_congr_right fun plain => ?_
  have all : (fields.filter fun field => !(Path.Pure.parse field.2).parts.contains "..") = fields :=
    List.filter_eq_self.mpr fun field member => by simpa using plain field member
  rw [all, ite_eq_right_iff]
  simp only [reduceCtorEq, imp_false, gt_iff_lt, dedup_le_one, List.forall_mem_map]
  constructor
  · rintro same raw other ⟨name, member⟩ ⟨name', member'⟩
    exact same (name, raw) member (name', other) member'
  · rintro same ⟨name, raw⟩ member ⟨name', other⟩ member'
    exact same raw other ⟨name, member⟩ ⟨name', member'⟩

omit [Scripting] in
/-- `item.get("artifacts") or {}` is read like the field itself. -/
theorem artifacts_orElse (artifacts : item.get "artifacts" = .null ∨ (item.get "artifacts").isObj = true) :
    ((item.get "artifacts").orElse (.obj [])).isObj = true ∧
      ((item.get "artifacts").orElse (.obj [])).get "plan" = (item.get "artifacts").get "plan" := by
  rcases artifacts with none | object
  · rw [none]
    exact ⟨rfl, rfl⟩
  · cases there : item.get "artifacts" with
    | obj fields =>
      cases fields with
      | nil => exact ⟨rfl, rfl⟩
      | cons field rest => exact ⟨rfl, rfl⟩
    | _ =>
      rw [there] at object
      cases object

omit [Scripting] in
theorem typeProblems_iff : itemLocatorTypeProblems item = [] ↔
    IsTextOrNull (item.get "plan_path") ∧ IsTextOrNull ((item.get "artifacts").get "plan") := by
  unfold itemLocatorTypeProblems IsTextOrNull
  rw [List.append_eq_nil_iff]
  refine and_congr ?_ ?_
  · cases item.get "plan_path" <;> simp
  · cases (item.get "artifacts").get "plan" <;> simp

/-- What the harness asks of an item. -/
theorem runtimeProblems_clean
    (artifacts : item.get "artifacts" = .null ∨ (item.get "artifacts").isObj = true) :
    runtimeProblems site item = .ok [] ↔ Typed item ∧ (∀ raw, PlanLocator item raw → Below raw) ∧
      ∀ raw other, PlanLocator item raw → PlanLocator item other →
        (locate site raw).text = (locate site other).text := by
  obtain ⟨object, plan⟩ := artifacts_orElse artifacts
  have fields : itemPlanLocatorFields item = .ok (texts [("plan_path", item.get "plan_path"),
      ("artifacts.plan", (item.get "artifacts").get "plan")]) := by
    rw [← plan]
    exact Except.bind_ok.mpr ⟨(), raiseIf_except_ok.mpr (not_not.mpr object), rfl⟩
  have located : ∀ raw, (∃ name, (name, raw) ∈ texts [("plan_path", item.get "plan_path"),
      ("artifacts.plan", (item.get "artifacts").get "plan")]) ↔ PlanLocator item raw := by
    intro raw
    rw [exists_mem_texts]
    simp [PlanLocator]
  have single := fun climbing message => @single_iff (texts [("plan_path", item.get "plan_path"),
    ("artifacts.plan", (item.get "artifacts").get "plan")]) (fun raw => (locate site raw).text) climbing message
  simp only [located] at single
  unfold runtimeProblems
  simp only [fields, bind, Except.bind, pure, Except.pure, Except.ok.injEq, List.append_eq_nil_iff, and_assoc,
    typeProblems_iff, Option.toList_eq_nil_iff]
  rw [single]
  constructor
  · rintro ⟨safe, planPath, artifactsPlan, below, same⟩
    exact ⟨⟨safe, planPath, artifactsPlan⟩, below, same⟩
  · rintro ⟨⟨safe, planPath, artifactsPlan⟩, below, same⟩
    exact ⟨safe, planPath, artifactsPlan, below, same⟩

/-- What Coordinate asks of an item. -/
theorem itemProblems_clean
    (artifacts : item.get "artifacts" = .null ∨ (item.get "artifacts").isObj = true) :
    ChecklistWriters.itemProblems item = .ok [] ↔ Typed item ∧
      (item.get "artifact_path" = .null ∨ isNonEmptyString (item.get "artifact_path") = true) ∧
      (∀ raw, ManagedLocator item raw → Below raw) ∧
      ∀ raw other, ManagedLocator item raw → ManagedLocator item other →
        Path.Pure.parse raw = Path.Pure.parse other := by
  obtain ⟨object, plan⟩ := artifacts_orElse artifacts
  have fields : ChecklistWriters.locatorFields item = .ok (texts [("plan_path", item.get "plan_path"),
      ("artifacts.plan", (item.get "artifacts").get "plan"), ("artifact_path", item.get "artifact_path")]) := by
    rw [← plan]
    exact Except.bind_ok.mpr ⟨(), raiseIf_except_ok.mpr (not_not.mpr object), rfl⟩
  have located : ∀ raw, (∃ name, (name, raw) ∈ texts [("plan_path", item.get "plan_path"),
      ("artifacts.plan", (item.get "artifacts").get "plan"), ("artifact_path", item.get "artifact_path")]) ↔
        ManagedLocator item raw := by
    intro raw
    rw [exists_mem_texts]
    simp [ManagedLocator, PlanLocator, or_assoc]
  have single := fun climbing message => @single_iff (texts [("plan_path", item.get "plan_path"),
    ("artifacts.plan", (item.get "artifacts").get "plan"), ("artifact_path", item.get "artifact_path")])
    (fun raw => (Path.Pure.parse raw).text) climbing message
  simp only [located, Path.Pure.text_parse_inj] at single
  unfold ChecklistWriters.itemProblems
  simp only [fields, bind, Except.bind, pure, Except.pure, Except.ok.injEq, List.append_eq_nil_iff, and_assoc,
    Option.toList_eq_nil_iff]
  rw [single]
  refine Iff.trans (and_congr Iff.rfl (and_congr (c := IsTextOrNull (item.get "plan_path")) ?_ (and_congr
    (c := item.get "artifact_path" = .null ∨ isNonEmptyString (item.get "artifact_path") = true) ?_
    (and_congr (c := IsTextOrNull ((item.get "artifacts").get "plan")) ?_ Iff.rfl)))) ?_
  · cases item.get "plan_path" <;> simp [IsTextOrNull]
  · simp [or_iff_not_imp_left]
  · cases (item.get "artifacts").get "plan" <;> simp [IsTextOrNull]
  · constructor
    · rintro ⟨safe, planPath, artifactPath, artifactsPlan, below, same⟩
      exact ⟨⟨safe, planPath, artifactsPlan⟩, artifactPath, below, same⟩
    · rintro ⟨⟨safe, planPath, artifactsPlan⟩, artifactPath, below, same⟩
      exact ⟨safe, planPath, artifactPath, artifactsPlan, below, same⟩

end Locators

section Checklists

variable [Scripting] {site : Site} {checklist : Json}

omit [Scripting] in
theorem ItemRules.artifacts_object {item : Json} (rules : ItemRules item) :
    item.get "artifacts" = .null ∨ (item.get "artifacts").isObj = true := by
  by_cases none : item.get "artifacts" = .null
  · exact .inl none
  · obtain ⟨fields, there, -⟩ := rules.artifacts none
    exact .inr (by rw [there, Json.isObj_obj])

omit [Scripting] in
/-- A test of every item that is an object tests every item of a checklist that keeps the rules. -/
theorem problems_clean {β : Type} {problems : Json → Except Exn (List β)} (rules : Rules checklist) :
    (match checklist.get "items" with
      | .arr items => List.flatten <$> (items.filter fun item : Json => item.isObj).mapM problems
      | _ => .ok []) = .ok [] ↔ ∀ item ∈ entries checklist, problems item = .ok [] := by
  obtain ⟨items, listed⟩ := rules.listed
  have all : entries checklist = items := by rw [entries, listed]
  have objects : items.filter (fun item => item.isObj) = items :=
    List.filter_eq_self.mpr fun item member => (rules.items item (all ▸ member)).isObj
  rw [listed, all]
  dsimp only
  rw [objects]
  exact flatten_mapM_clean

theorem checklistRuntimeProblems_clean (rules : Rules checklist) :
    checklistRuntimeProblems site checklist = .ok [] ↔
      ∀ item ∈ entries checklist, runtimeProblems site item = .ok [] :=
  problems_clean rules

theorem managedProblems_clean (rules : Rules checklist) :
    ChecklistWriters.runtimeProblems checklist = .ok [] ↔
      ∀ item ∈ entries checklist, ChecklistWriters.itemProblems item = .ok [] :=
  problems_clean rules

end Checklists

end Coordinate.Checklist

import Coordinate.Model.SampleChecklist
import Coordinate.Proofs.DependencyEdits

/-! # The dependency graph stays acyclic while no edit leads back to its target

The three programs that change dependencies refuse an item that depends on itself, and look no further.
An edit closes a cycle exactly if its target can be reached from an item that it adds, which `add-item`
cannot do. As long as no edit does, some unfinished item has no unfinished dependencies.
-/

namespace Coordinate.TaskDependencies

open Coordinate.Checklist Graph Relation

section Runs

variable [Platform] [Scripting] {s t : Checklist.State} {checklist : Json}

/-- The target of an edit cannot be reached from the items that it adds. -/
def Forward (s : Checklist.State) (edit : Edit) : Prop :=
  ∀ checklist, s.files.checklist = some checklist →
    ∀ d ∈ edit.adds, ¬ ReflTransGen (DependsOn checklist) d edit.target

/-- There is a valid checklist whose graph has no cycle. -/
def Untangled (s : Checklist.State) : Prop :=
  ∃ checklist, s.files.checklist = some checklist ∧ validateChecklist checklist = .ok [] ∧
    Acyclic (DependsOn checklist)

omit [Platform] [Scripting] in
/-- A successful edit keeps the graph acyclic exactly if it leads forward. -/
theorem Edited.acyclic_iff {files' : Files} {edit : Edit} {later : Json}
    (edited : Edited s.files files' edit.target edit.adds) (there : s.files.checklist = some checklist)
    (after : files'.checklist = some later) (acyclic : Acyclic (DependsOn checklist)) :
    Acyclic (DependsOn later) ↔ Forward s edit := by
  obtain ⟨before, changed, inForce, -, found, -, extended⟩ := edited.checklists
  cases there.symm.trans inForce
  cases after.symm.trans found
  rw [extended.acyclic_iff acyclic]
  constructor
  · intro apart other same
    cases there.symm.trans same
    exact apart
  · intro forward
    exact forward _ there

theorem step_edited {edit : Edit} (stepped : edits.step s edit = some t) :
    Edited s.files t.files edit.target edit.adds := by
  obtain ⟨⟨files, tick⟩, performed, rfl⟩ := Option.map_eq_some_iff.mp stepped
  exact perform_edited performed

theorem untangled_step {edit : Edit} (untangled : Untangled s) (forward : Forward s edit)
    (stepped : edits.step s edit = some t) : Untangled t := by
  obtain ⟨checklist, there, -, acyclic⟩ := untangled
  have edited := step_edited stepped
  obtain ⟨_, later, -, -, found, valid, -⟩ := edited.checklists
  exact ⟨later, found, valid, (edited.acyclic_iff there found acyclic).mpr forward⟩

/-- A new item is one that no other depends on. -/
theorem addItem_forward {site : Site} {arguments : AddArguments}
    (stepped : edits.step s (.addItem site arguments) = some t) : Forward s (.addItem site arguments) := by
  obtain ⟨⟨files, tick⟩, performed, rfl⟩ := Option.map_eq_some_iff.mp stepped
  have ran := ok_of_toOption performed
  unfold Checklist.addItem at ran
  simp only [script_bind_ok, script_orRaise_ok] at ran
  obtain ⟨_, _, ⟨-, rfl⟩, itemId, _, ⟨safe, rfl⟩, plan, _, ⟨-, rfl⟩, ran⟩ := ran
  obtain rfl := requireSafeId_ok safe
  obtain ⟨before, _, _, _, inForce, valid, made, -, -⟩ := mutateChecklist_made ran
  obtain ⟨absent, apart, -⟩ := appendItem_ok (validateChecklist_ok valid).1 made
  have linked := linked_of_valid valid
  intro other same d member path
  cases inForce.symm.trans same
  rcases ReflTransGen.cases_tail path with equal | ⟨last, -, item, inside, -, depends⟩
  · exact apart d member equal.symm
  · obtain ⟨dependencies, listed, known⟩ := linked.listed item inside
    rw [dependenciesOf, listed] at depends
    obtain ⟨target, present, named⟩ := known _ depends
    have tested := List.find?_eq_none.mp absent target present
    exact tested (decide_eq_true named)

/-- The test of a dependency: the last item of the name is not done, or there is none. -/
def isUnfinished (checklist : Json) (dependency : String) : Bool :=
  match ((entries checklist).filter fun entry => entry.get "id" = .str dependency).getLast? with
  | some entry => entry.get "status" ≠ .str "done"
  | none => true

omit [Platform] [Scripting] in
/-- Of the unfinished items of an acyclic checklist one has no unfinished dependencies. -/
theorem exists_claimable (linked : Linked checklist) (acyclic : Acyclic (DependsOn checklist))
    (waiting : ∃ item ∈ entries checklist, item.get "status" ≠ .str "done") :
    ∃ item ∈ entries checklist, item.get "status" ≠ .str "done" ∧
      unfinishedDependencies checklist item = [] := by
  let unfinished : Set String :=
    fun name => ∃ item ∈ entries checklist, item.get "id" = .str name ∧ item.get "status" ≠ .str "done"
  have finite : unfinished.Finite := by
    refine Set.Finite.subset (List.finite_toSet ((entries checklist).filterMap fun item =>
      (item.get "id").asStr?)) ?_
    rintro name ⟨item, member, named, -⟩
    exact List.mem_filterMap.mpr ⟨item, member, by rw [named]; rfl⟩
  have nonempty : unfinished.Nonempty := by
    obtain ⟨item, member, isOpen⟩ := waiting
    obtain ⟨name, named⟩ := linked.named item member
    exact ⟨name, item, member, named, isOpen⟩
  obtain ⟨name, ⟨item, member, named, isOpen⟩, last⟩ := acyclic.exists_sink finite nonempty
  refine ⟨item, member, isOpen, List.filter_eq_nil_iff.mpr fun dependency listed => ?_⟩
  obtain ⟨dependencies, there, known⟩ := linked.listed item member
  rw [there] at listed
  obtain ⟨entry, inside, text⟩ := List.mem_filterMap.mp listed
  have isText : entry = .str dependency := by
    cases entry <;> simp_all [Json.asStr?]
  subst isText
  have edge : DependsOn checklist name dependency := ⟨item, member, named, by rwa [dependenciesOf, there]⟩
  obtain ⟨other, present, own⟩ := known _ inside
  have among : other ∈ (entries checklist).filter fun entry => entry.get "id" = .str dependency :=
    List.mem_filter.mpr ⟨present, decide_eq_true own⟩
  change ¬ isUnfinished checklist dependency = true
  unfold isUnfinished
  split
  · rename_i found same
    have held := List.mem_filter.mp (List.mem_of_getLast? same)
    intro waits
    exact last dependency ⟨found, held.1, of_decide_eq_true held.2, of_decide_eq_true waits⟩ edge
  · rename_i none
    rw [List.getLast?_eq_none_iff] at none
    rw [none] at among
    cases among

/-- **The dependency graph stays acyclic** in every run of edits whose targets cannot be reached from what
they add, and then some unfinished item passes the dependency test of `assert_claimable`, if there is one
that is neither blocked nor leased. A successful edit keeps the graph acyclic only so, and an `add-item`
always does. -/
theorem graph_stays_acyclic (there : s.files.checklist = some checklist)
    (valid : validateChecklist checklist = .ok []) (acyclic : Acyclic (DependsOn checklist)) :
    (∀ t, edits.Reaches Forward s t → ∃ later, t.files.checklist = some later ∧
      validateChecklist later = .ok [] ∧ Acyclic (DependsOn later) ∧
      ∀ time, (∃ item ∈ entries later, item.get "status" ≠ .str "done" ∧
          item.get "status" ≠ .str "blocked" ∧ ∀ lease, activeLease item time ≠ .ok (some lease)) →
        ∃ item ∈ entries later, item.get "status" ≠ .str "done" ∧ unfinishedDependencies later item = []) ∧
    (∀ edit t later, edits.step s edit = some t → t.files.checklist = some later →
      (Acyclic (DependsOn later) ↔ Forward s edit)) ∧
    (∀ site arguments t, edits.step s (.addItem site arguments) = some t →
      Forward s (.addItem site arguments)) := by
  refine ⟨fun t run => ?_, fun edit t later stepped found => ?_, fun site arguments t => addItem_forward⟩
  · obtain ⟨later, found, checked, still⟩ : Untangled t :=
      run.invariant (fun _ _ _ untangled forward stepped => untangled_step untangled forward stepped)
        ⟨checklist, there, valid, acyclic⟩
    refine ⟨later, found, checked, still, fun _ waiting => ?_⟩
    obtain ⟨item, member, isOpen, -⟩ := waiting
    exact exists_claimable (linked_of_valid checked) still ⟨item, member, isOpen⟩
  · exact (step_edited stepped).acyclic_iff there found acyclic

end Runs

namespace Sample

open Coordinate.Sample Coordinate.Checklist.Sample

/-- A checklist with two items that depend on nothing. -/
def two : Json := .obj [("project", .str "p"), ("harness_root", .str "docs"), ("updated_at", .str "2025-01-01"),
  ("items", .arr [itemOf "todo" [], (itemOf "todo" []).set "id" (.str "b")])]

def start : Checklist.State := ⟨⟨some (.value two), none⟩, 0⟩

/-- Through Coordinate, an item depends on another. -/
def first : Edit := .mutation
  { workspacePath := "/p", harnessRoot := "/p/docs", workspaceId := "w", taskId := "a", add := ["b"] }

/-- Through the harness, the other depends on the one. -/
def second : Edit := .updateItem site { itemId := "b", addDependency := ["a"] }

/-- An item is there that depends on another. -/
def isEdge (checklist : Json) (itemId dependency : String) : Bool :=
  (entries checklist).any fun item =>
    item.get "id" = .str itemId && (dependenciesOf item).contains (.str dependency)

theorem dependsOn_of_isEdge {checklist : Json} {itemId dependency : String}
    (edge : isEdge checklist itemId dependency = true) : DependsOn checklist itemId dependency := by
  obtain ⟨item, member, tested⟩ := List.any_eq_true.mp edge
  simp only [Bool.and_eq_true, decide_eq_true_eq, List.contains_iff_mem] at tested
  exact ⟨item, member, tested⟩

/-- Nobody has an item that is not done, and all of them wait for others. -/
def isStuck (checklist : Json) : Bool :=
  (entries checklist).all fun item =>
    item.get "status" = .str "todo" && item.get "lease" = .null && unfinishedDependencies checklist item ≠ []

theorem two_unlinked (a b : String) : ¬ DependsOn two a b := by
  rintro ⟨item, member, -, depends⟩
  have none : ∀ item ∈ entries two, dependenciesOf item = [] := by decide
  rw [none item member] at depends
  cases depends

theorem two_acyclic : Acyclic (DependsOn two) := by
  intro a cycle
  obtain ⟨b, edge, -⟩ := TransGen.head'_iff.mp cycle
  exact two_unlinked a b edge

/-- Two edits, each of which names an item that exists and is not its target, close a cycle: no item is
done, none is blocked or leased, and each of them waits for the other. -/
theorem cycle_closed : ∃ s checklist t later, s.files.checklist = some checklist ∧
    validateChecklist checklist = .ok [] ∧ Acyclic (DependsOn checklist) ∧
    edits.Reaches Machine.anyStep s t ∧ t.files.checklist = some later ∧ ¬ Acyclic (DependsOn later) ∧
    entries later ≠ [] ∧ ∀ item ∈ entries later, item.get "status" = .str "todo" ∧
      item.get "lease" = .null ∧ unfinishedDependencies later item ≠ [] := by
  obtain ⟨t, run, checked⟩ :=
    @Machine.exists_reaches _ _ edits Machine.anyStep start (fun _ _ => true)
      (fun s => s.files.checklist.any fun later => isEdge later "a" "b" && isEdge later "b" "a" &&
        !(entries later).isEmpty && isStuck later) (fun _ _ _ => trivial) [first, second] (by decide +kernel)
  simp only [Option.any_eq_true, Bool.and_eq_true, Bool.not_eq_true', List.isEmpty_eq_false_iff] at checked
  obtain ⟨later, found, ⟨⟨one, other⟩, some⟩, stuck⟩ := checked
  refine ⟨start, two, t, later, rfl, by decide +kernel, two_acyclic, run, found, ?_, some, ?_⟩
  · intro acyclic
    exact acyclic "a" (.tail (.single (dependsOn_of_isEdge one)) (dependsOn_of_isEdge other))
  · intro item member
    have tested := List.all_eq_true.mp stuck item member
    simp only [Bool.and_eq_true, decide_eq_true_eq, and_assoc] at tested
    exact tested

/-- One of the two edits, after which the other item can be taken. -/
theorem edge_kept : ∃ t later, edits.Reaches Forward start t ∧ t.files.checklist = some later ∧
    DependsOn later "a" "b" ∧ Acyclic (DependsOn later) ∧
    ∃ item ∈ entries later, item.get "status" ≠ .str "done" ∧ unfinishedDependencies later item = [] := by
  have forward : Forward start first := by
    intro checklist there d member path
    cases there
    rcases ReflTransGen.cases_head path with rfl | ⟨_, edge, -⟩
    · exact absurd member (by decide)
    · exact two_unlinked _ _ edge
  have stepped : (edits.step start first).any (fun t => t.files.checklist.any fun later =>
      isEdge later "a" "b" && (entries later).any fun item => item.get "status" = .str "todo" &&
        item.get "lease" = .null) = true := by decide +kernel
  simp only [Option.any_eq_true, Bool.and_eq_true, List.any_eq_true, decide_eq_true_eq] at stepped
  obtain ⟨t, stepped, later, found, edge, item, member, todo, free⟩ := stepped
  have run : edits.Reaches Forward start t := .tail .refl first forward stepped
  obtain ⟨again, same, -, acyclic, passes⟩ :=
    (graph_stays_acyclic (show start.files.checklist = some two from rfl) (by decide +kernel)
      two_acyclic).1 t run
  cases found.symm.trans same
  refine ⟨t, later, run, found, dependsOn_of_isEdge edge, acyclic, passes 0 ⟨item, member, ?_, ?_, ?_⟩⟩
  · rw [todo]
    decide
  · rw [todo]
    decide
  · intro lease active
    rw [activeLease, free] at active
    cases active

end Sample

end Coordinate.TaskDependencies

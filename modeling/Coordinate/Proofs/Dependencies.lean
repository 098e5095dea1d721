import Coordinate.Library.Graph
import Coordinate.Model.ChecklistItems
import Coordinate.Proofs.Checklists

/-! # The graph of a checklist

A valid checklist is a graph on the identifiers of its items. Putting one item in place of another, or at
the end, replaces the edges that leave one vertex.
-/

namespace Coordinate.Checklist

/-- An item that has one identifier has another among its dependencies. -/
def DependsOn (checklist : Json) (itemId dependency : String) : Prop :=
  ∃ item ∈ entries checklist, item.get "id" = .str itemId ∧ .str dependency ∈ dependenciesOf item

/-- What validity says about identifiers and dependencies. -/
structure Linked (checklist : Json) : Prop where
  named : ∀ item ∈ entries checklist, ∃ itemId, item.get "id" = .str itemId
  distinct : ((entries checklist).map fun item => item.get "id").Nodup
  listed : ∀ item ∈ entries checklist, ∃ dependencies, item.get "dependencies" = .arr dependencies ∧
    ∀ entry ∈ dependencies, ∃ other ∈ entries checklist, other.get "id" = entry

section Validation

variable {item : Json} {label : String} {identifier seen all : List String} {index : Nat} {items : List Json}

theorem fieldErrors_ok (clean : fieldErrors item label identifier = .ok []) :
    identifier = [] ∧ ∃ dependencies, item.get "dependencies" = .arr dependencies := by
  obtain ⟨_, -, clean⟩ := Except.bind_ok.mp clean
  obtain ⟨_, -, clean⟩ := Except.bind_ok.mp clean
  simp only [pure, Except.pure, Except.ok.injEq, List.append_eq_nil_iff, List.map_eq_nil_iff] at clean
  obtain ⟨⟨⟨⟨⟨⟨missing, rfl⟩, -⟩, -⟩, -⟩, arrays⟩, -⟩ := clean
  have present := List.filter_eq_nil_iff.mp missing "dependencies" (by decide)
  have array := List.filter_eq_nil_iff.mp arrays "dependencies" (by decide)
  refine ⟨rfl, ?_⟩
  cases found : item.field? "dependencies" with
  | none => simp [found] at present
  | some value =>
    rw [found] at array
    cases value with
    | arr dependencies => exact ⟨dependencies, by simp [Json.get, found]⟩
    | _ => simp at array

theorem identifierErrors_ok (clean : identifierErrors seen item label = ([], all)) :
    ∃ itemId, item.get "id" = .str itemId ∧ itemId ∉ seen ∧ all = seen ++ [itemId] := by
  unfold identifierErrors at clean
  split at clean
  · rename_i itemId named
    split at clean
    · simp at clean
    · split at clean
      · simp at clean
      · rename_i fresh
        simp only [Prod.mk.injEq, true_and] at clean
        exact ⟨itemId, named, by simpa using fresh, clean.symm⟩
  · simp at clean

/-- Items without errors have identifiers of their own, and a list of dependencies each. -/
theorem itemsErrors_ok : ∀ {seen : List String} {index : Nat} {items : List Json} {all : List String},
    itemsErrors seen index items = .ok ([], all) → seen.Nodup →
    ∃ names : List String, (items.map fun item => item.get "id") = names.map .str ∧
      all = seen ++ names ∧ all.Nodup ∧
      ∀ item ∈ items, ∃ dependencies, item.get "dependencies" = .arr dependencies
  | seen, _, [], all, clean, distinct => by
    cases clean
    exact ⟨[], rfl, (List.append_nil _).symm, distinct, List.forall_mem_nil _⟩
  | seen, index, item :: rest, all, clean, distinct => by
    unfold itemsErrors at clean
    split at clean
    · obtain ⟨_, -, other⟩ := Except.bind_ok.mp clean
      simp [pure, Except.pure] at other
    · rcases pair : identifierErrors seen item (itemLabel item index) with ⟨identifier, known⟩
      simp only [pair] at clean
      obtain ⟨fields, own, clean⟩ := Except.bind_ok.mp clean
      obtain ⟨_, -, clean⟩ := Except.bind_ok.mp clean
      obtain ⟨_, -, clean⟩ := Except.bind_ok.mp clean
      obtain ⟨⟨errors, later⟩, after, clean⟩ := Except.bind_ok.mp clean
      simp only [pure, Except.pure, Except.ok.injEq, Prod.mk.injEq, List.append_eq_nil_iff] at clean
      obtain ⟨⟨⟨⟨⟨⟨⟨rfl, -⟩, -⟩, -⟩, -⟩, -⟩, rfl⟩, rfl⟩ := clean
      obtain ⟨rfl, dependencies, listed⟩ := fieldErrors_ok own
      obtain ⟨itemId, named, fresh, rfl⟩ := identifierErrors_ok pair
      obtain ⟨names, same, total, apart, lists⟩ := itemsErrors_ok after
        (List.nodup_append.mpr ⟨distinct, List.nodup_singleton _, by
          intro a member b own
          rw [List.mem_singleton.mp own]
          exact fun same => fresh (same ▸ member)⟩)
      refine ⟨itemId :: names, by simp [named, same], by simp [total], apart, ?_⟩
      exact List.forall_mem_cons.mpr ⟨⟨dependencies, listed⟩, lists⟩

theorem referenceErrors_nil {field missing : String} : ∀ {index : Nat} {entries : List Json},
    referenceErrors seen label field missing index entries = [] →
    ∀ entry ∈ entries, ∃ name ∈ seen, entry = .str name
  | _, [], _ => List.forall_mem_nil _
  | index, entry :: rest, clean => by
    unfold referenceErrors at clean
    obtain ⟨own, later⟩ := List.append_eq_nil_iff.mp clean
    refine List.forall_mem_cons.mpr ⟨?_, referenceErrors_nil later⟩
    split at own
    · split at own
      · cases own
      · split at own
        · rename_i name _ known
          exact ⟨name, by simpa using known, rfl⟩
        · cases own
    · cases own

theorem linkErrors_nil {dependencies : List Json} (clean : linkErrors seen index item = [])
    (listed : item.get "dependencies" = .arr dependencies) :
    ∀ entry ∈ dependencies, ∃ name ∈ seen, entry = .str name := by
  unfold linkErrors at clean
  dsimp only at clean
  rw [listed] at clean
  exact referenceErrors_nil (List.append_eq_nil_iff.mp clean).1

/-- **A valid checklist is a graph**: the identifiers are distinct, and every dependency is one of them. -/
theorem linked_of_valid {data : Json} (valid : validateChecklist data = .ok []) : Linked data := by
  obtain ⟨-, -, objects⟩ := validateChecklist_ok valid
  unfold validateChecklist at valid
  split at valid
  · cases valid
  · dsimp only at valid
    split at valid
    · rename_i absent
      have none : entries data = [] := by simp [entries, Json.get, absent]
      refine ⟨?_, ?_, ?_⟩ <;> simp [none]
    · rename_i items present
      obtain ⟨⟨errors, seen⟩, clean, valid⟩ := Except.bind_ok.mp valid
      simp only [pure, Except.pure, Except.ok.injEq, List.append_eq_nil_iff] at valid
      obtain ⟨⟨-, rfl⟩, links⟩ := valid
      have found : entries data = items := by simp [entries, Json.get, present]
      obtain ⟨names, same, total, distinct, lists⟩ := itemsErrors_ok clean List.nodup_nil
      rw [List.nil_append] at total
      subst total
      have namedBy : ∀ item ∈ items, ∃ name ∈ seen, item.get "id" = .str name := by
        intro item member
        have mapped : item.get "id" ∈ items.map fun item => item.get "id" := List.mem_map_of_mem member
        rw [same] at mapped
        obtain ⟨name, known, named⟩ := List.mem_map.mp mapped
        exact ⟨name, known, named.symm⟩
      refine ⟨?_, ?_, ?_⟩
      · intro item member
        obtain ⟨name, -, named⟩ := namedBy item (found ▸ member)
        exact ⟨name, named⟩
      · rw [found, same]
        exact distinct.map fun _ _ equal => Json.str.inj equal
      · intro item member
        have object := objects item member
        rw [found] at member ⊢
        obtain ⟨dependencies, listed⟩ := lists item member
        refine ⟨dependencies, listed, fun entry inside => ?_⟩
        obtain ⟨index, bound, rfl⟩ := List.mem_iff_getElem.mp member
        have clean : linkErrors seen index items[index] = [] := by
          refine List.flatMap_eq_nil_iff.mp links (items[index], index) (List.mem_filter.mpr ⟨?_, object⟩)
          exact List.mem_zipIdx_iff_getElem?.mpr (by simp [bound])
        obtain ⟨name, known, rfl⟩ := linkErrors_nil clean listed entry inside
        have mapped : Json.str name ∈ items.map fun item => item.get "id" := by
          rw [same]
          exact List.mem_map_of_mem known
        exact List.mem_map.mp mapped
    · simp [pure, Except.pure] at valid

end Validation

section Edges

open Graph Relation

variable {before after item changed : Json} {items : List Json} {target : String} {adds : List String}

theorem mem_replaceFirst_iff (distinct : (items.map fun item => item.get "id").Nodup)
    (found : items.find? (isNamed target) = some item) {entry : Json} :
    entry ∈ replaceFirst target changed items ↔
      entry = changed ∨ entry ∈ items ∧ entry.get "id" ≠ .str target := by
  induction items with
  | nil => cases found
  | cons first rest ih =>
    obtain ⟨fresh, others⟩ := List.nodup_cons.mp distinct
    unfold replaceFirst
    split
    · rename_i named
      have apart : ∀ other ∈ rest, other.get "id" ≠ .str target := fun other member same =>
        fresh (List.mem_map.mpr ⟨other, member, same.trans named.symm⟩)
      rw [List.mem_cons, List.mem_cons]
      constructor
      · rintro (rfl | inRest)
        · exact .inl rfl
        · exact .inr ⟨.inr inRest, apart entry inRest⟩
      · rintro (rfl | ⟨rfl | inRest, differs⟩)
        · exact .inl rfl
        · exact absurd named differs
        · exact .inr inRest
    · rename_i differs
      have skipped : isNamed target first = false := decide_eq_false differs
      rw [List.find?_cons, skipped] at found
      rw [List.mem_cons, List.mem_cons, ih others found]
      constructor
      · rintro (rfl | rfl | ⟨inRest, other⟩)
        · exact .inr ⟨.inl rfl, differs⟩
        · exact .inl rfl
        · exact .inr ⟨.inr inRest, other⟩
      · rintro (rfl | ⟨rfl | inRest, other⟩)
        · exact .inr (.inl rfl)
        · exact .inl rfl
        · exact .inr (.inr ⟨inRest, other⟩)

theorem replaceFirst_self (found : items.find? (isNamed target) = some item) :
    replaceFirst target item items = items := by
  induction items with
  | nil => cases found
  | cons first rest ih =>
    unfold replaceFirst
    split
    · rename_i named
      have own : isNamed target first = true := decide_eq_true named
      rw [List.find?_cons, own] at found
      rw [Option.some.inj found]
    · rename_i differs
      have skipped : isNamed target first = false := decide_eq_false differs
      rw [List.find?_cons, skipped] at found
      rw [ih found]

theorem mem_of_find (found : items.find? (isNamed target) = some item) :
    item ∈ items ∧ item.get "id" = .str target := by
  have named : isNamed target item = true := List.find?_some found
  exact ⟨List.mem_of_find?_eq_some found, of_decide_eq_true named⟩

/-- Of an item that is there alone, the edges are its dependencies. -/
theorem dependsOn_iff (linked : Linked before)
    (found : (entries before).find? (isNamed target) = some item) {dependency : String} :
    DependsOn before target dependency ↔ .str dependency ∈ dependenciesOf item := by
  obtain ⟨member, named⟩ := mem_of_find found
  constructor
  · rintro ⟨other, inside, same, depends⟩
    have equal : other = item :=
      List.inj_on_of_nodup_map linked.distinct inside member (same.trans named.symm)
    exact equal ▸ depends
  · intro depends
    exact ⟨item, member, named, depends⟩

theorem dependsOn_replace (linked : Linked before)
    (found : (entries before).find? (isNamed target) = some item)
    (same : changed.get "id" = item.get "id")
    (replaced : entries after = replaceFirst target changed (entries before)) :
    DependsOn after = redirect (DependsOn before) target fun d => .str d ∈ dependenciesOf changed := by
  obtain ⟨-, named⟩ := mem_of_find found
  funext a b
  apply propext
  simp only [DependsOn, replaced, mem_replaceFirst_iff linked.distinct found, redirect]
  constructor
  · rintro ⟨entry, rfl | ⟨inside, apart⟩, own, depends⟩
    · exact .inl ⟨Json.str.inj (own.symm.trans (same.trans named)), depends⟩
    · refine .inr ⟨?_, entry, inside, own, depends⟩
      rintro rfl
      exact apart own
  · rintro (⟨rfl, depends⟩ | ⟨apart, entry, inside, own, depends⟩)
    · exact ⟨changed, .inl rfl, same.trans named, depends⟩
    · refine ⟨entry, .inr ⟨inside, fun clash => apart ?_⟩, own, depends⟩
      exact Json.str.inj (own.symm.trans clash)

theorem dependsOn_append (absent : (entries before).find? (isNamed target) = none)
    (named : changed.get "id" = .str target) (appended : entries after = entries before ++ [changed]) :
    DependsOn after = redirect (DependsOn before) target fun d => .str d ∈ dependenciesOf changed := by
  have apart : ∀ entry ∈ entries before, entry.get "id" ≠ .str target := by
    intro entry member
    have tested := List.find?_eq_none.mp absent entry member
    simpa [isNamed] using tested
  funext a b
  apply propext
  simp only [DependsOn, appended, List.mem_append, List.mem_singleton, redirect]
  constructor
  · rintro ⟨entry, inside | rfl, own, depends⟩
    · refine .inr ⟨?_, entry, inside, own, depends⟩
      rintro rfl
      exact apart entry inside own
    · exact .inl ⟨Json.str.inj (own.symm.trans named), depends⟩
  · rintro (⟨rfl, depends⟩ | ⟨-, entry, inside, own, depends⟩)
    · exact ⟨changed, .inr rfl, named, depends⟩
    · exact ⟨entry, .inl inside, own, depends⟩

/-- The edges that leave the target are those that an edit adds, with some of those before; the others are
as they were. -/
def Extends (before after : Json) (target : String) (adds : List String) : Prop :=
  ∃ D : String → Prop, DependsOn after = redirect (DependsOn before) target D ∧
    (∀ d ∈ adds, D d) ∧ ∀ d, D d → d ∈ adds ∨ DependsOn before target d

/-- **When an edit closes no cycle**: its target is not reached from what it adds. -/
theorem Extends.acyclic_iff (extended : Extends before after target adds)
    (acyclic : Acyclic (DependsOn before)) :
    Acyclic (DependsOn after) ↔ ∀ d ∈ adds, ¬ ReflTransGen (DependsOn before) d target := by
  obtain ⟨D, edges, contains, bounded⟩ := extended
  rw [edges, acyclic_redirect acyclic]
  constructor
  · intro apart d added
    exact apart d (contains d added)
  · intro apart d new back
    rcases bounded d new with added | old
    · exact apart d added back
    · exact acyclic target (.head' old back)

end Edges

end Coordinate.Checklist

import Mathlib.Data.List.Basic
import Mathlib.Order.Lattice
import Mathlib.Tactic.Common

/-! # Feeds

A feed is a list of increasing keys to whose end further keys are appended. A reader asks for the keys
above a cursor, is shown the first few of them, and takes the last of these as its next cursor.
`Covers` says that what a reader has seen are the keys between two cursors; it survives the growth of
the feed and it composes, so a chain of pages leaves no gap and repeats nothing.
-/

/-- Increasing keys. -/
@[ext]
structure Feed (α : Type) [LT α] where
  keys : List α
  increasing : keys.Pairwise (· < ·)

namespace Feed

variable {α : Type} [LinearOrder α] {f g h : Feed α} {a b c : α} {seen later : List α}

instance : Membership α (Feed α) := ⟨fun f key => key ∈ f.keys⟩

/-- Keys are added at the end only. -/
def Grows (f g : Feed α) : Prop := f.keys <+: g.keys

theorem Grows.refl (f : Feed α) : f.Grows f := List.prefix_refl f.keys

theorem Grows.trans (first : f.Grows g) (second : g.Grows h) : f.Grows h :=
  List.IsPrefix.trans first second

/-- The keys above a cursor. -/
def above (f : Feed α) (a : α) : List α := f.keys.filter (a < ·)

/-- The keys above a cursor and up to another. -/
def between (f : Feed α) (a b : α) : List α := f.keys.filter fun key => a < key ∧ key ≤ b

/-- The last keys, at most `count` of them. -/
def newest (f : Feed α) (count : Nat) : List α := f.keys.drop (f.keys.length - count)

theorem mem_above : b ∈ f.above a ↔ b ∈ f ∧ a < b := by
  simp only [above, List.mem_filter, decide_eq_true_eq]
  rfl

theorem mem_between : c ∈ f.between a b ↔ c ∈ f ∧ a < c ∧ c ≤ b := by
  simp only [between, List.mem_filter, decide_eq_true_eq]
  rfl

theorem above_increasing (f : Feed α) (a : α) : (f.above a).Pairwise (· < ·) :=
  f.increasing.filter _

theorem between_self (f : Feed α) (a : α) : f.between a a = [] := by
  refine List.filter_eq_nil_iff.mpr fun key _ => ?_
  simp only [decide_eq_true_eq, not_and, not_le]
  exact id

/-- The keys that are added are larger than all earlier ones. -/
theorem Grows.split (grows : f.Grows g) :
    ∃ added, g.keys = f.keys ++ added ∧ ∀ key ∈ f, ∀ new ∈ added, key < new := by
  obtain ⟨added, same⟩ := grows
  have increasing := g.increasing
  rw [← same, List.pairwise_append] at increasing
  exact ⟨added, same.symm, increasing.2.2⟩

/-- Growth adds nothing below a key that is there. -/
theorem Grows.between_eq (grows : f.Grows g) (present : b = a ∨ b ∈ f) :
    g.between a b = f.between a b := by
  rcases present with rfl | member
  · rw [between_self, between_self]
  · obtain ⟨added, same, larger⟩ := grows.split
    unfold between
    have beyond : (added.filter fun key => a < key ∧ key ≤ b) = [] := by
      refine List.filter_eq_nil_iff.mpr fun key new => ?_
      simp only [decide_eq_true_eq, not_and, not_le]
      exact fun _ => larger b member key new
    rw [same, List.filter_append, beyond, List.append_nil]

/-- In an increasing list, what comes first are the keys up to the last of it. -/
theorem take_eq_filter {keys : List α} (increasing : keys.Pairwise (· < ·)) {count : Nat}
    (last : (keys.take count).getLast? = some b) : keys.take count = keys.filter (· ≤ b) := by
  have parts := increasing
  rw [← List.take_append_drop count keys, List.pairwise_append] at parts
  obtain ⟨first, -, apart⟩ := parts
  have member : b ∈ keys.take count := List.mem_of_getLast? last
  obtain ⟨front, same⟩ := List.getLast?_eq_some_iff.mp last
  have upTo : ∀ key ∈ keys.take count, decide (key ≤ b) = true := by
    intro key inside
    rw [same, List.mem_append, List.mem_singleton] at inside
    rw [same, List.pairwise_append] at first
    rcases inside with before | rfl
    · exact decide_eq_true (first.2.2 key before b (List.mem_singleton_self b)).le
    · exact decide_eq_true (le_refl key)
  have beyond : ∀ key ∈ keys.drop count, ¬ decide (key ≤ b) = true := by
    intro key inside
    rw [decide_eq_true_eq, not_le]
    exact apart b member key inside
  conv_rhs => rw [← List.take_append_drop count keys, List.filter_append,
    List.filter_eq_self.mpr upTo, List.filter_eq_nil_iff.mpr beyond, List.append_nil]

/-- A page of the keys above a cursor ends at its last key. -/
theorem take_above (f : Feed α) (a : α) {count : Nat}
    (last : ((f.above a).take count).getLast? = some b) :
    (f.above a).take count = f.between a b := by
  rw [take_eq_filter (f.above_increasing a) last, above, List.filter_filter]
  refine List.filter_congr fun key _ => ?_
  rw [Bool.decide_and, Bool.and_comm]

/-- The keys above the last key of a page are the rest. -/
theorem above_last (f : Feed α) (a : α) {count : Nat}
    (last : ((f.above a).take count).getLast? = some b) :
    f.above b = (f.above a).drop count := by
  have below : a < b := (mem_above.mp (List.mem_of_mem_take (List.mem_of_getLast? last))).2
  have whole : f.above b = (f.above a).filter (b < ·) := by
    rw [above, above, List.filter_filter]
    refine List.filter_congr fun key _ => ?_
    rw [← Bool.decide_and]
    exact decide_eq_decide.mpr ⟨fun beyond => ⟨beyond, below.trans beyond⟩, And.left⟩
  have parts := f.above_increasing a
  rw [← List.take_append_drop count (f.above a), List.pairwise_append] at parts
  have first : ∀ key ∈ (f.above a).take count, ¬ decide (b < key) = true := by
    intro key inside
    rw [f.take_above a last] at inside
    rw [decide_eq_true_eq, not_lt]
    exact (mem_between.mp inside).2.2
  have second : ∀ key ∈ (f.above a).drop count, decide (b < key) = true := fun key inside =>
    decide_eq_true (parts.2.2 b (List.mem_of_getLast? last) key inside)
  rw [whole]
  conv_lhs => rw [← List.take_append_drop count (f.above a), List.filter_append,
    List.filter_eq_nil_iff.mpr first, List.filter_eq_self.mpr second, List.nil_append]

/-- Two adjoining stretches of an increasing list. -/
theorem between_append (f : Feed α) (first : a ≤ b) (second : b ≤ c) :
    f.between a b ++ f.between b c = f.between a c := by
  have stretch : ∀ keys : List α, keys.Pairwise (· < ·) →
      (keys.filter fun key => a < key ∧ key ≤ b) ++ (keys.filter fun key => b < key ∧ key ≤ c) =
        keys.filter fun key => a < key ∧ key ≤ c := by
    intro keys
    induction keys with
    | nil => exact fun _ => rfl
    | cons key rest ih =>
      intro increasing
      obtain ⟨larger, increasing⟩ := List.pairwise_cons.mp increasing
      have tail := ih increasing
      by_cases low : key ≤ b
      · have outside : ¬ (b < key ∧ key ≤ c) := fun inside => absurd inside.1 (not_lt.mpr low)
        by_cases high : a < key
        · rw [List.filter_cons_of_pos (by simp [high, low]), List.filter_cons_of_neg (by simpa using outside),
            List.filter_cons_of_pos (by simp [high, low.trans second]), List.cons_append, tail]
        · rw [List.filter_cons_of_neg (by simp [high]), List.filter_cons_of_neg (by simpa using outside),
            List.filter_cons_of_neg (by simp [high]), tail]
      · have beyond : ∀ other ∈ rest, ¬ (a < other ∧ other ≤ b) := fun other inside within =>
          absurd ((larger other inside).trans_le within.2) fun below => low below.le
        have none : (rest.filter fun key => a < key ∧ key ≤ b) = [] :=
          List.filter_eq_nil_iff.mpr fun other inside => by simpa using beyond other inside
        have high : a < key := first.trans_lt (not_le.mp low)
        rw [none, List.nil_append] at tail
        have same : (b < key ∧ key ≤ c) ↔ (a < key ∧ key ≤ c) := by
          simp only [high, not_le.mp low, true_and]
        rw [List.filter_cons_of_neg (by simp [low]), none, List.nil_append, List.filter_cons,
          List.filter_cons, tail, decide_eq_decide.mpr same]
  exact stretch f.keys f.increasing

/-- A reader has seen the keys between two cursors, and the second is the last of them or, if there
are none, the first cursor. -/
structure Covers (f : Feed α) (a : α) (seen : List α) (b : α) : Prop where
  exactly : seen = f.between a b
  reached : b = a ∨ b ∈ seen

namespace Covers

theorem refl (f : Feed α) (a : α) : f.Covers a [] a := ⟨(f.between_self a).symm, .inl rfl⟩

theorem le (covers : f.Covers a seen b) : a ≤ b := by
  rcases covers.reached with rfl | member
  · exact le_refl b
  · rw [covers.exactly, mem_between] at member
    exact member.2.1.le

theorem present (covers : f.Covers a seen b) : b = a ∨ b ∈ f := by
  refine covers.reached.imp_right fun member => ?_
  rw [covers.exactly, mem_between] at member
  exact member.1

theorem grows (covers : f.Covers a seen b) (grows : f.Grows g) : g.Covers a seen b :=
  ⟨covers.exactly.trans (grows.between_eq covers.present).symm, covers.reached⟩

/-- The next reader starts where the last one has stopped. -/
theorem append (first : f.Covers a seen b) (second : f.Covers b later c) :
    f.Covers a (seen ++ later) c := by
  refine ⟨?_, ?_⟩
  · rw [first.exactly, second.exactly, f.between_append first.le second.le]
  · rcases second.reached with rfl | member
    · exact first.reached.imp_right (List.mem_append_left later)
    · exact .inr (List.mem_append_right _ member)

/-- One page of the keys above a cursor. -/
theorem page (f : Feed α) (a : α) (count : Nat) :
    f.Covers a ((f.above a).take count) (((f.above a).take count).getLast?.getD a) := by
  cases last : ((f.above a).take count).getLast? with
  | none =>
    rw [List.getLast?_eq_none_iff.mp last]
    exact refl f a
  | some b => exact ⟨f.take_above a last, .inr (List.mem_of_getLast? last)⟩

end Covers

/-- A page is followed by further keys exactly if the list of the keys above the cursor is longer. -/
theorem exists_above_page (f : Feed α) (a : α) (count : Nat) (positive : 0 < count) :
    (∃ key ∈ f, ((f.above a).take count).getLast?.getD a < key) ↔ count < (f.above a).length := by
  cases last : ((f.above a).take count).getLast? with
  | none =>
    have empty : f.above a = [] := by
      rw [List.getLast?_eq_none_iff, List.take_eq_nil_iff] at last
      exact last.resolve_left (by omega)
    simp only [Option.getD_none, empty, List.length_nil, Nat.not_lt_zero, iff_false, not_exists,
      not_and]
    intro key member beyond
    have inside := mem_above.mpr ⟨member, beyond⟩
    rw [empty] at inside
    cases inside
  | some b =>
    have rest := f.above_last a last
    calc (∃ key ∈ f, b < key) ↔ f.above b ≠ [] := by
          constructor
          · rintro ⟨key, inside⟩
            exact List.ne_nil_of_mem (mem_above.mpr inside)
          · intro some
            obtain ⟨key, inside⟩ := List.exists_mem_of_ne_nil _ some
            exact ⟨key, mem_above.mp inside⟩
      _ ↔ count < (f.above a).length := by
          rw [rest, ne_eq, List.drop_eq_nil_iff, Nat.not_le]

/-- The newest keys are those above some cursor. -/
theorem newest_covers (f : Feed α) {bottom : α} (below : ∀ key ∈ f, bottom < key) (count : Nat)
    (positive : 0 < count) :
    ∃ a, f.Covers a (f.newest count) ((f.newest count).getLast?.getD bottom) := by
  have whole : f.above bottom = f.keys :=
    List.filter_eq_self.mpr fun key member => decide_eq_true (below key member)
  have above : ∃ a, f.above a = f.newest count ∧ (f.newest count = [] → a = bottom) := by
    cases last : ((f.above bottom).take (f.keys.length - count)).getLast? with
    | none =>
      refine ⟨bottom, ?_, fun _ => rfl⟩
      rw [whole, List.getLast?_eq_none_iff, List.take_eq_nil_iff] at last
      rw [whole, newest]
      rcases last with all | none
      · rw [all, List.drop_zero]
      · rw [none, List.drop_nil]
    | some a =>
      refine ⟨a, ?_, fun empty => ?_⟩
      · rw [f.above_last bottom last, whole]
        rfl
      · have short : f.keys.length ≤ f.keys.length - count := List.drop_eq_nil_iff.mp empty
        have none : f.keys = [] := List.eq_nil_of_length_eq_zero (by omega)
        rw [whole, none, List.take_nil] at last
        cases last
  obtain ⟨a, newest, empty⟩ := above
  have covers := Covers.page f a (f.above a).length
  rw [List.take_length, newest] at covers
  refine ⟨a, ?_⟩
  cases last : (f.newest count).getLast? with
  | none =>
    rw [← empty (List.getLast?_eq_none_iff.mp last)]
    rwa [last] at covers
  | some key => rwa [last] at covers

end Feed

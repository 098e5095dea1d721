import Mathlib.Tactic.Common

/-! # Chains of revisions

A value that is revised again and again, with a record of what every revision was made of and what it has
made. As long as every revision starts from the value in force, what a revision has put into any view of
the value stays there until a later one changes that view.
-/

/-- What a writer has read, and what it has written. -/
structure Revision (β : Type) where
  before : β
  after : β
deriving DecidableEq, Repr

namespace Revision

variable {α β : Type} {initial value : β} {revision : Revision β} {earlier later : List (Revision β)}

/-- Each revision starts from what the one before it has left. -/
inductive Chain (initial : β) : List (Revision β) → β → Prop
  | nil : Chain initial [] initial
  | snoc {revisions : List (Revision β)} (revision : Revision β)
    (before : Chain initial revisions revision.before) :
    Chain initial (revisions ++ [revision]) revision.after

/-- What every revision respects, the chain respects. -/
theorem Chain.related {R : β → β → Prop} (refl : ∀ value, R value value)
    (trans : ∀ a b c, R a b → R b c → R a c) {revisions : List (Revision β)}
    (chain : Chain initial revisions value)
    (steps : ∀ revision ∈ revisions, R revision.before revision.after) : R initial value := by
  induction chain with
  | nil => exact refl initial
  | snoc last before ih =>
    exact trans _ _ _ (ih fun revision member => steps revision (List.mem_append_left _ member))
      (steps last (List.mem_append_right _ (List.mem_singleton_self _)))

/-- A chain ends at a revision with the chain before it, and goes on from there. -/
theorem Chain.split (chain : Chain initial (earlier ++ revision :: later) value) :
    Chain initial earlier revision.before ∧ Chain revision.after later value := by
  generalize recorded : earlier ++ revision :: later = revisions at chain
  induction chain generalizing later with
  | nil => simp at recorded
  | snoc last before ih =>
    rcases List.eq_nil_or_concat later with rfl | ⟨rest, change, rfl⟩
    · obtain ⟨same, own⟩ := List.append_inj' recorded rfl
      cases List.singleton_inj.mp own
      subst same
      exact ⟨before, .nil⟩
    · rw [List.concat_eq_append, ← List.cons_append, ← List.append_assoc] at recorded
      obtain ⟨shorter, own⟩ := List.append_inj' recorded rfl
      cases List.singleton_inj.mp own
      obtain ⟨first, rest⟩ := ih shorter
      rw [List.concat_eq_append]
      exact ⟨first, .snoc _ rest⟩

/-- What every revision respects relates each revision to those after it and to the value in force. -/
theorem Chain.ordered {R : β → β → Prop} (refl : ∀ value, R value value)
    (trans : ∀ a b c, R a b → R b c → R a c) {revisions : List (Revision β)}
    (chain : Chain initial revisions value)
    (steps : ∀ revision ∈ revisions, R revision.before revision.after) {k : Nat} {first : Revision β}
    (found : revisions[k]? = some first) : R first.after value ∧
      ∀ l next, k < l → revisions[l]? = some next → R first.after next.before := by
  induction chain with
  | nil => cases found
  | @snoc revisions last before ih =>
    have stepsBefore : ∀ revision ∈ revisions, R revision.before revision.after :=
      fun revision member => steps revision (List.mem_append_left _ member)
    have own := steps last (List.mem_append_right _ (List.mem_singleton_self _))
    rw [List.getElem?_append] at found
    split at found
    · rename_i inside
      obtain ⟨reached, between⟩ := ih stepsBefore found
      refine ⟨trans _ _ _ reached own, fun l next later at_l => ?_⟩
      rw [List.getElem?_append] at at_l
      split at at_l
      · exact between l next later at_l
      · rw [List.getElem?_singleton] at at_l
        split at at_l
        · cases at_l
          exact reached
        · cases at_l
    · rename_i beyond
      rw [List.getElem?_singleton] at found
      split at found
      · rename_i position
        cases found
        refine ⟨refl _, fun l next later at_l => ?_⟩
        rw [List.getElem?_eq_none (by simp only [List.length_append, List.length_singleton]; omega)] at at_l
        cases at_l
      · cases found

/-- **Nothing is lost in a chain**: a view of what a revision has written stays until a later revision
changes it. -/
theorem Chain.contains (chain : Chain initial (earlier ++ revision :: later) value) (view : β → α) :
    view value = view revision.after ∨
      ∃ change ∈ later, view change.before ≠ view change.after := by
  generalize recorded : earlier ++ revision :: later = revisions at chain
  induction chain generalizing later with
  | nil => simp at recorded
  | snoc last before ih =>
    rcases List.eq_nil_or_concat later with rfl | ⟨rest, change, rfl⟩
    · obtain ⟨-, same⟩ := List.append_inj' recorded rfl
      cases List.singleton_inj.mp same
      exact .inl rfl
    · rw [List.concat_eq_append, ← List.cons_append, ← List.append_assoc] at recorded
      obtain ⟨shorter, same⟩ := List.append_inj' recorded rfl
      obtain rfl : change = last := List.singleton_inj.mp same
      rw [List.concat_eq_append]
      rcases ih shorter with kept | ⟨earlier, member, changes⟩
      · by_cases unchanged : view change.before = view change.after
        · exact .inl (unchanged.symm.trans kept)
        · exact .inr ⟨change, List.mem_append_right _ (List.mem_singleton_self _), unchanged⟩
      · exact .inr ⟨earlier, List.mem_append_left _ member, changes⟩

end Revision

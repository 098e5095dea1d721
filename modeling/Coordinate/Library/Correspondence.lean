import Mathlib.Data.List.Forall2
import Mathlib.Data.List.Sort

/-! # Lists whose elements correspond

A query over two lists that correspond element by element gives results that correspond, when its test and
its order cannot tell corresponding elements apart.
-/

namespace List.Forall₂

variable {α β γ : Type} {R : α → β → Prop} {xs : List α} {ys : List β}

theorem filter_of {p : α → Bool} {q : β → Bool} (same : ∀ a b, R a b → p a = q b)
    (all : Forall₂ R xs ys) : Forall₂ R (xs.filter p) (ys.filter q) :=
  rel_filter (fun a b related => Bool.coe_iff_coe.mpr (same a b related)) all

theorem map_eq {f : α → γ} {g : β → γ} (same : ∀ a b, R a b → f a = g b) (all : Forall₂ R xs ys) :
    xs.map f = ys.map g := by
  induction all with
  | nil => rfl
  | cons related _ ih => rw [List.map_cons, List.map_cons, same _ _ related, ih]

theorem find?_of {p : α → Bool} {q : β → Bool} (same : ∀ a b, R a b → p a = q b)
    (all : Forall₂ R xs ys) : Option.Rel R (xs.find? p) (ys.find? q) := by
  induction all with
  | nil => exact .none
  | cons related _ ih =>
    rw [List.find?_cons, List.find?_cons, same _ _ related]
    split
    · exact .some related
    · exact ih

theorem head?_of (all : Forall₂ R xs ys) : Option.Rel R xs.head? ys.head? := by
  cases all with
  | nil => exact .none
  | cons related _ => exact .some related

theorem eq_nil_iff (all : Forall₂ R xs ys) : xs = [] ↔ ys = [] := by
  cases all <;> simp

theorem both {S : α → β → Prop} (all : Forall₂ R xs ys) (more : Forall₂ S xs ys) :
    Forall₂ (fun a b => R a b ∧ S a b) xs ys := by
  induction all with
  | nil => exact .nil
  | cons related _ ih =>
    cases more with
    | cons also rest => exact .cons ⟨related, also⟩ (ih rest)

theorem exists_left {b : β} (all : Forall₂ R xs ys) (member : b ∈ ys) : ∃ a ∈ xs, R a b := by
  induction all with
  | nil => cases member
  | @cons a _ _ _ related _ ih =>
    rcases List.mem_cons.mp member with rfl | member
    · exact ⟨a, List.mem_cons_self, related⟩
    · obtain ⟨found, inside, own⟩ := ih member
      exact ⟨found, List.mem_cons_of_mem _ inside, own⟩

theorem append_of {xs' : List α} {ys' : List β} (all : Forall₂ R xs ys) (more : Forall₂ R xs' ys') :
    Forall₂ R (xs ++ xs') (ys ++ ys') := rel_append all more

section Order

variable {r : α → α → Prop} {s : β → β → Prop} [DecidableRel r] [DecidableRel s]

theorem orderedInsert_of (same : ∀ a a' b b', R a b → R a' b' → (r a a' ↔ s b b')) {a : α} {b : β}
    (related : R a b) (all : Forall₂ R xs ys) :
    Forall₂ R (xs.orderedInsert r a) (ys.orderedInsert s b) := by
  induction all with
  | nil => exact .cons related .nil
  | cons head rest ih =>
    simp only [List.orderedInsert_cons, same _ _ _ _ related head]
    split
    · exact .cons related (.cons head rest)
    · exact .cons head ih

theorem insertionSort_of (same : ∀ a a' b b', R a b → R a' b' → (r a a' ↔ s b b'))
    (all : Forall₂ R xs ys) : Forall₂ R (xs.insertionSort r) (ys.insertionSort s) := by
  induction all with
  | nil => exact .nil
  | cons related _ ih => exact orderedInsert_of same related ih

end Order

/-- A fold whose accumulator is an element, if there is one. -/
theorem foldl_of {f : Option α → α → Option α} {g : Option β → β → Option β}
    (step : ∀ best best' a b, Option.Rel R best best' → R a b → Option.Rel R (f best a) (g best' b))
    {best : Option α} {best' : Option β} (start : Option.Rel R best best') (all : Forall₂ R xs ys) :
    Option.Rel R (xs.foldl f best) (ys.foldl g best') := by
  induction all generalizing best best' with
  | nil => exact start
  | cons related _ ih => exact ih (step _ _ _ _ start related)

end List.Forall₂

theorem Option.Rel.toList {α β : Type} {R : α → β → Prop} {a : Option α} {b : Option β}
    (related : Option.Rel R a b) : List.Forall₂ R a.toList b.toList := by
  cases related with
  | none => exact .nil
  | some own => exact .cons own .nil

/-- A function that cannot tell corresponding values apart, on options that correspond. -/
theorem Option.Rel.map_eq {α β γ : Type} {R : α → β → Prop} {f : α → γ} {g : β → γ} {a : Option α}
    {b : Option β} (related : Option.Rel R a b) (same : ∀ a b, R a b → f a = g b) :
    a.map f = b.map g := by
  cases related with
  | none => rfl
  | some own => exact congrArg Option.some (same _ _ own)

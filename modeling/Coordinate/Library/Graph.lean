import Mathlib.Order.WellFoundedSet

/-! # Acyclic graphs under a change at one vertex

A graph is a relation on its vertices. The edges that leave one vertex do not matter for the paths that end
at it, so that whether new edges there close a cycle can be read off the graph before the change.
-/

namespace Graph

open Relation

variable {α : Type} {E F : α → α → Prop} {target : α} {D : α → Prop} {a b : α}

/-- No path with an edge ends where it begins. -/
def Acyclic (E : α → α → Prop) : Prop := ∀ a, ¬ TransGen E a a

/-- The graph in which the edges that leave a vertex have been replaced. -/
def redirect (E : α → α → Prop) (target : α) (D : α → Prop) : α → α → Prop :=
  fun a b => (a = target ∧ D b) ∨ (a ≠ target ∧ E a b)

/-- The paths to a vertex do not depend on the edges that leave it. -/
theorem reaches_redirect : ReflTransGen (redirect E target D) a target ↔ ReflTransGen E a target := by
  constructor
  · intro path
    induction path using ReflTransGen.head_induction_on with
    | refl => exact .refl
    | head edge _ ih =>
      rcases edge with ⟨rfl, -⟩ | ⟨-, edge⟩
      · exact .refl
      · exact .head edge ih
  · intro path
    induction path using ReflTransGen.head_induction_on with
    | refl => exact .refl
    | @head first _ edge _ ih =>
      by_cases same : first = target
      · rw [same]
      · exact .head (.inr ⟨same, edge⟩) ih

/-- A path of the changed graph is one of the graph before, or goes along a new edge. -/
theorem path_redirect (path : TransGen (redirect E target D) a b) : TransGen E a b ∨
    ReflTransGen (redirect E target D) a target ∧
      ∃ d, D d ∧ ReflTransGen (redirect E target D) d b := by
  induction path with
  | single edge =>
    rcases edge with ⟨rfl, new⟩ | ⟨-, edge⟩
    · exact .inr ⟨.refl, _, new, .refl⟩
    · exact .inl (.single edge)
  | tail before edge ih =>
    rcases edge with ⟨rfl, new⟩ | ⟨apart, edge⟩
    · exact .inr ⟨before.to_reflTransGen, _, new, .refl⟩
    · rcases ih with old | ⟨there, d, new, onward⟩
      · exact .inl (old.tail edge)
      · exact .inr ⟨there, d, new, onward.tail (.inr ⟨apart, edge⟩)⟩

/-- **When new edges close no cycle**: the target is not reached from where they lead to. -/
theorem acyclic_redirect (acyclic : Acyclic E) :
    Acyclic (redirect E target D) ↔ ∀ d, D d → ¬ ReflTransGen E d target := by
  constructor
  · intro still d new back
    exact still target (.head' (.inl ⟨rfl, new⟩) (reaches_redirect.mpr back))
  · intro apart a cycle
    rcases path_redirect cycle with old | ⟨there, d, new, onward⟩
    · exact acyclic a old
    · exact apart d new (reaches_redirect.mp (onward.trans there))

/-- Of finitely many vertices one has no edge to any of them. -/
theorem Acyclic.exists_sink (acyclic : Acyclic E) {s : Set α} (finite : s.Finite) (nonempty : s.Nonempty) :
    ∃ a ∈ s, ∀ b ∈ s, ¬ E a b := by
  have order : IsStrictOrder α (Function.swap (TransGen E)) :=
    { irrefl := acyclic, trans := fun _ _ _ first second => TransGen.trans second first }
  have founded : s.WellFoundedOn (Function.swap (TransGen E)) := finite.wellFoundedOn
  obtain ⟨first, member⟩ := nonempty
  obtain ⟨⟨a, inSet⟩, -, least⟩ := WellFounded.has_min founded Set.univ ⟨⟨first, member⟩, trivial⟩
  exact ⟨a, inSet, fun b other edge => least ⟨b, other⟩ trivial (.single edge)⟩

end Graph

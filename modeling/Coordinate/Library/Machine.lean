import Mathlib.Logic.Function.Basic
import Mathlib.Tactic.Common

/-! # Machines with labelled steps

A machine says which state a label leads to, if it can be taken at all. A program of several parties
is one machine whose labels name the party and what it does, so an interleaving is a run. `Reaches ok`
are the runs whose steps all meet `ok`; its induction rule is the one that invariants use.
-/

/-- Labelled steps on a type of states. -/
structure Machine (σ α : Type) where
  step : σ → α → Option σ

namespace Machine

variable {σ α : Type} {machine : Machine σ α} {ok weaker : σ → α → Prop} {s t u : σ}

/-- The state after a list of labels, each of which can be taken. -/
def run (machine : Machine σ α) : σ → List α → Option σ
  | s, [] => some s
  | s, a :: rest => (machine.step s a).bind fun t => machine.run t rest

/-- The states that a run leads to whose steps all meet `ok`. -/
inductive Reaches (machine : Machine σ α) (ok : σ → α → Prop) (s : σ) : σ → Prop
  | refl : machine.Reaches ok s s
  | tail {t u : σ} (before : machine.Reaches ok s t) (a : α) (meets : ok t a)
    (step : machine.step t a = some u) : machine.Reaches ok s u

/-- Any step at all. -/
def anyStep : σ → α → Prop := fun _ _ => True

/-- What one step preserves, a run preserves. -/
theorem Reaches.invariant {P : σ → Prop} (reaches : machine.Reaches ok s t)
    (keeps : ∀ t a u, P t → ok t a → machine.step t a = some u → P u) (initial : P s) : P t := by
  induction reaches with
  | refl => exact initial
  | tail _ a meets step ih => exact keeps _ a _ ih meets step

theorem Reaches.mono (reaches : machine.Reaches ok s t) (implies : ∀ t a, ok t a → weaker t a) :
    machine.Reaches weaker s t := by
  induction reaches with
  | refl => exact .refl
  | tail _ a meets step ih => exact .tail ih a (implies _ _ meets) step

theorem Reaches.any (reaches : machine.Reaches ok s t) : machine.Reaches anyStep s t :=
  reaches.mono fun _ _ _ => trivial

theorem Reaches.trans (first : machine.Reaches ok s t) (second : machine.Reaches ok t u) :
    machine.Reaches ok s u := by
  induction second with
  | refl => exact first
  | tail _ a meets step ih => exact .tail ih a meets step

/-- A list of labels is a run. -/
theorem reaches_of_run {labels : List α} (ran : machine.run s labels = some t) :
    machine.Reaches anyStep s t := by
  induction labels generalizing s with
  | nil =>
    cases ran
    exact .refl
  | cons a rest ih =>
    obtain ⟨middle, step, ran⟩ := Option.bind_eq_some_iff.mp ran
    exact Reaches.trans (.tail .refl a trivial step) (ih ran)

/-- The run along a list of labels that all pass a test. -/
def runIf (machine : Machine σ α) (test : σ → α → Bool) : σ → List α → Option σ
  | s, [] => some s
  | s, a :: rest =>
    if test s a then (machine.step s a).bind fun t => machine.runIf test t rest else none

theorem reaches_of_runIf {test : σ → α → Bool} (implies : ∀ s a, test s a = true → ok s a)
    {labels : List α} (ran : machine.runIf test s labels = some t) : machine.Reaches ok s t := by
  induction labels generalizing s with
  | nil =>
    cases ran
    exact .refl
  | cons a rest ih =>
    unfold runIf at ran
    split at ran
    · rename_i passed
      obtain ⟨middle, step, ran⟩ := Option.bind_eq_some_iff.mp ran
      exact Reaches.trans (.tail .refl a (implies _ _ passed) step) (ih ran)
    · cases ran

/-- A run along labels that pass, to a state that passes a check. -/
theorem exists_reaches {test : σ → α → Bool} {check : σ → Bool}
    (implies : ∀ s a, test s a = true → ok s a) {labels : List α}
    (ran : (machine.runIf test s labels).any check = true) :
    ∃ t, machine.Reaches ok s t ∧ check t = true := by
  cases reached : machine.runIf test s labels with
  | none =>
    rw [reached] at ran
    cases ran
  | some t =>
    rw [reached] at ran
    exact ⟨t, reaches_of_runIf implies reached, ran⟩

section Recording

variable {β : Type} {note : σ → α → Option β} {notes notes' : List β} {a : α}

/-- The machine with a record beside its state, to which a step appends what it notes. -/
def recording (machine : Machine σ α) (note : σ → α → Option β) : Machine (σ × List β) α where
  step := fun (s, notes) a => (machine.step s a).map fun t => (t, notes ++ (note s a).toList)

theorem recording_step : (machine.recording note).step (s, notes) a = some (t, notes') ↔
    machine.step s a = some t ∧ notes' = notes ++ (note s a).toList := by
  simp only [recording, Option.map_eq_some_iff, Prod.mk.injEq]
  constructor
  · rintro ⟨_, stepped, rfl, rfl⟩
    exact ⟨stepped, rfl⟩
  · rintro ⟨stepped, rfl⟩
    exact ⟨t, stepped, rfl, rfl⟩

end Recording

end Machine

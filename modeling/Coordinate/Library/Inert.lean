import Mathlib.Data.List.Basic

/-! # Transformations that leave the syntax of a text alone

`Inert f fixed blank`: `f` works between the marks of a text, which are its fixed and its blank characters. It
keeps the fixed ones, turns blank ones into blank ones, and makes no new marks. What a text is split at, and
whether it ends in a blank, is then the same before and after.
-/

variable {α : Type}

namespace List

theorem not_mem_of_mem_splitOn [DecidableEq α] {c : α} : ∀ {cs part : List α}, part ∈ cs.splitOn c → c ∉ part
  | [], part, member => by
    rw [List.splitOn_nil, List.mem_singleton] at member
    rw [member]
    exact List.not_mem_nil
  | x :: rest, part, member => by
    rw [List.splitOn_cons_eq_if_modifyHead] at member
    split at member
    · rcases List.mem_cons.mp member with rfl | member
      · exact List.not_mem_nil
      · exact not_mem_of_mem_splitOn member
    · rename_i apart
      obtain ⟨head, tail, same⟩ := List.exists_cons_of_ne_nil (List.splitOn_ne_nil c rest)
      have parts : ∀ part ∈ head :: tail, c ∉ part := fun part member =>
        not_mem_of_mem_splitOn (same ▸ member)
      obtain ⟨first, others⟩ := List.forall_mem_cons.mp parts
      rw [same, List.modifyHead_cons] at member
      rcases List.mem_cons.mp member with rfl | member
      · intro inside
        rcases List.mem_cons.mp inside with rfl | inside
        · exact apart (beq_self_eq_true _)
        · exact first inside
      · exact others part member

theorem intercalate_pieces [DecidableEq α] (sep : α) (cs : List α) : [sep].intercalate (cs.splitOn sep) = cs :=
  List.intercalate_splitOn sep

theorem length_splitOn [DecidableEq α] (sep : α) : ∀ cs : List α, (cs.splitOn sep).length = cs.count sep + 1
  | [] => rfl
  | c :: rest => by
    rw [List.splitOn_cons_eq_if_modifyHead]
    split
    · rename_i own
      rw [List.length_cons, length_splitOn sep rest, eq_of_beq own, List.count_cons_self]
    · rename_i other
      rw [List.length_modifyHead, length_splitOn sep rest, List.count_cons_of_ne]
      exact fun same => other (beq_iff_eq.mpr same)

/-- Induction over the marks of a text. -/
theorem byMarks (mark : α → Bool) {motive : List α → Prop}
    (plain : ∀ cs, (∀ c ∈ cs, mark c = false) → motive cs)
    (marked : ∀ front c back, (∀ x ∈ front, mark x = false) → mark c = true → motive back →
      motive (front ++ c :: back)) (cs : List α) : motive cs := by
  cases found : cs.find? mark with
  | none => exact plain cs fun c member => by simpa using List.find?_eq_none.mp found c member
  | some c =>
    obtain ⟨isMark, front, back, same, before⟩ := List.find?_eq_some_iff_append.mp found
    have shorter : back.length < cs.length := by
      rw [same, List.length_append, List.length_cons]
      omega
    rw [same]
    exact marked front c back (fun x member => by simpa using before x member) isMark
      (byMarks mark plain marked back)
termination_by cs.length

end List

/-- `f` works between the marks of a text. -/
structure Inert (f : List α → List α) (fixed blank : α → Bool) : Prop where
  apart : ∀ c, fixed c = true → blank c = false
  boundary : ∀ front c back, (fixed c || blank c) = true →
    f (front ++ c :: back) = f front ++ f [c] ++ f back
  fixed_char : ∀ c, fixed c = true → f [c] = [c]
  blank_char : ∀ c, blank c = true → ∃ c', f [c] = [c'] ∧ blank c' = true
  fresh : ∀ cs, (∀ c ∈ cs, (fixed c || blank c) = false) → ∀ c ∈ f cs, (fixed c || blank c) = false
  empty : ∀ cs, f cs = [] ↔ cs = []

namespace Inert

variable {f g : List α → List α} {fixed blank : α → Bool}

section Laws

variable (inert : Inert f fixed blank)
include inert

theorem nil : f [] = [] := (inert.empty []).mpr rfl

/-- A mark stays one of its kind. -/
theorem mark_char {c : α} (marked : (fixed c || blank c) = true) :
    ∃ c', f [c] = [c'] ∧ fixed c' = fixed c ∧ blank c' = blank c ∧ (fixed c = true → c' = c) := by
  by_cases isFixed : fixed c = true
  · exact ⟨c, inert.fixed_char c isFixed, rfl, rfl, fun _ => rfl⟩
  · have isBlank : blank c = true := by simpa [isFixed] using marked
    obtain ⟨c', same, isBlank'⟩ := inert.blank_char c isBlank
    refine ⟨c', same, ?_, isBlank'.trans isBlank.symm, fun own => absurd own isFixed⟩
    cases own : fixed c' with
    | false => exact (Bool.eq_false_iff.mpr isFixed).symm
    | true =>
      rw [inert.apart c' own] at isBlank'
      cases isBlank'

theorem append_cons {c : α} (isFixed : fixed c = true) (front back : List α) :
    f (front ++ c :: back) = f front ++ c :: f back := by
  rw [inert.boundary front c back (by simp [isFixed]), inert.fixed_char c isFixed, List.append_assoc,
    List.singleton_append]

theorem cons {c : α} (isFixed : fixed c = true) (back : List α) : f (c :: back) = c :: f back := by
  have whole := inert.append_cons isFixed [] back
  rwa [inert.nil, List.nil_append, List.nil_append] at whole

/-- The fixed characters are those of the text. -/
theorem mem_fixed {c : α} (isFixed : fixed c = true) (cs : List α) : c ∈ f cs ↔ c ∈ cs := by
  have absent : ∀ cs : List α, (∀ x ∈ cs, (fixed x || blank x) = false) → c ∉ cs := by
    intro cs plain member
    simpa [isFixed] using plain c member
  induction cs using List.byMarks (fun c => fixed c || blank c) with
  | plain cs plain => exact iff_of_false (absent _ (inert.fresh cs plain)) (absent cs plain)
  | marked front m back before marked ih =>
    obtain ⟨m', same, fixed', -, kept⟩ := inert.mark_char marked
    have here : c = m' ↔ c = m := by
      constructor
      · rintro rfl
        exact kept (fixed' ▸ isFixed)
      · rintro rfl
        exact (kept isFixed).symm
    rw [inert.boundary front m back marked, same]
    simp only [List.mem_append, List.mem_cons, List.not_mem_nil, or_false, ih, here, absent front before,
      absent _ (inert.fresh front before), false_or]

/-- The parts between the occurrences of a fixed character are transformed one by one. -/
theorem intercalate {c : α} (isFixed : fixed c = true) : ∀ parts : List (List α),
    f ([c].intercalate parts) = [c].intercalate (parts.map f)
  | [] => inert.nil
  | [part] => by simp
  | part :: next :: rest => by
    rw [List.map_cons, List.map_cons, List.intercalate_cons_cons, List.intercalate_cons_cons,
      List.append_assoc, List.singleton_append, inert.append_cons isFixed, intercalate isFixed (next :: rest),
      List.map_cons, List.append_assoc, List.singleton_append]

theorem splitOn [DecidableEq α] {c : α} (isFixed : fixed c = true) (cs : List α) :
    (f cs).splitOn c = (cs.splitOn c).map f := by
  conv_lhs => rw [← List.intercalate_pieces c cs, inert.intercalate isFixed]
  refine List.splitOn_intercalate c (fun part member => ?_) (by simp)
  obtain ⟨part, within, rfl⟩ := List.mem_map.mp member
  exact fun inside => List.not_mem_of_mem_splitOn within ((inert.mem_fixed isFixed part).mp inside)

theorem splitOnP {p : α → Bool} (isFixed : ∀ c, p c = true → fixed c = true) (cs : List α) :
    (f cs).splitOnP p = (cs.splitOnP p).map f := by
  have keeps : ∀ cs : List α, (∀ c ∈ cs, p c = false) → ∀ c ∈ f cs, p c = false := by
    intro cs plain c member
    rw [Bool.eq_false_iff]
    intro holds
    have inside := (inert.mem_fixed (isFixed c holds) cs).mp member
    rw [plain c inside] at holds
    cases holds
  induction cs using List.byMarks p with
  | plain cs plain => rw [List.splitOnP_eq_singleton plain, List.splitOnP_eq_singleton (keeps cs plain)]; rfl
  | marked front c back before marked ih =>
    rw [inert.append_cons (isFixed c marked), List.splitOnP_append_cons_of_forall_mem before c marked,
      List.splitOnP_append_cons_of_forall_mem (keeps front before) c marked, ih, List.map_cons]

theorem count_fixed [DecidableEq α] {c : α} (isFixed : fixed c = true) (cs : List α) :
    (f cs).count c = cs.count c := by
  have length := List.length_splitOn c (f cs)
  rw [inert.splitOn isFixed, List.length_map, List.length_splitOn] at length
  exact (Nat.add_right_cancel length).symm

theorem of_fixed : ∀ {cs : List α}, (∀ c ∈ cs, fixed c = true) → f cs = cs
  | [], _ => inert.nil
  | c :: rest, all => by
    obtain ⟨isFixed, others⟩ := List.forall_mem_cons.mp all
    rw [inert.cons isFixed, of_fixed others]

/-- Only a text of fixed characters becomes one. -/
theorem eq_fixed_iff {text : List α} (all : ∀ c ∈ text, fixed c = true) (cs : List α) :
    f cs = text ↔ cs = text := by
  constructor
  · intro same
    induction cs using List.byMarks (fun c => fixed c || blank c) generalizing text with
    | plain cs plain =>
      have fresh := inert.fresh cs plain
      rw [same] at fresh
      have none : text = [] := List.eq_nil_iff_forall_not_mem.mpr fun c member => by
        simpa [all c member] using fresh c member
      rw [none] at same ⊢
      exact (inert.empty cs).mp same
    | marked front m back before marked ih =>
      rw [inert.boundary front m back marked] at same
      subst same
      simp only [List.forall_mem_append] at all
      obtain ⟨⟨inFront, here⟩, behind⟩ := all
      have fresh := inert.fresh front before
      have none : f front = [] := List.eq_nil_iff_forall_not_mem.mpr fun c member => by
        simpa [inFront c member] using fresh c member
      obtain ⟨m', same, fixed', -, kept⟩ := inert.mark_char marked
      rw [same, List.forall_mem_singleton, fixed'] at here
      rw [none, same, kept here, (inert.empty front).mp none, List.nil_append, List.nil_append,
        List.singleton_append, ← ih behind rfl]
  · rintro rfl
    exact inert.of_fixed all

/-- A text ends in a blank before and after, or neither. -/
theorem getLast?_blank (cs : List α) :
    (∃ c, (f cs).getLast? = some c ∧ blank c = true) ↔ ∃ c, cs.getLast? = some c ∧ blank c = true := by
  induction cs using List.byMarks (fun c => fixed c || blank c) with
  | plain cs plain =>
    have absent : ∀ cs : List α, (∀ x ∈ cs, (fixed x || blank x) = false) →
        ¬ ∃ c, cs.getLast? = some c ∧ blank c = true := by
      rintro cs plain ⟨c, last, isBlank⟩
      simpa [isBlank] using plain c (List.mem_of_getLast? last)
    exact iff_of_false (absent _ (inert.fresh cs plain)) (absent cs plain)
  | marked front m back before marked ih =>
    obtain ⟨m', same, -, blank', -⟩ := inert.mark_char marked
    rw [inert.boundary front m back marked, same, List.append_assoc, List.singleton_append]
    by_cases ends : back = []
    · subst ends
      rw [inert.nil]
      simp [blank']
    · have ends' : f back ≠ [] := fun none => ends ((inert.empty back).mp none)
      rw [List.getLast?_append_of_ne_nil _ (List.cons_ne_nil _ _), List.getLast?_append_of_ne_nil _
        (List.cons_ne_nil _ _), List.getLast?_cons_of_ne_nil ends', List.getLast?_cons_of_ne_nil ends]
      exact ih

end Laws

/-- One after another. -/
theorem comp (second : Inert g fixed blank) (first : Inert f fixed blank) :
    Inert (fun cs => g (f cs)) fixed blank where
  apart := first.apart
  boundary front c back marked := by
    obtain ⟨c', same, fixed', blank', -⟩ := first.mark_char marked
    have marked' : (fixed c' || blank c') = true := by rw [fixed', blank', marked]
    rw [first.boundary front c back marked, same, List.append_assoc, List.singleton_append,
      second.boundary _ _ _ marked']
  fixed_char c isFixed := by rw [first.fixed_char c isFixed, second.fixed_char c isFixed]
  blank_char c isBlank := by
    obtain ⟨c', same, isBlank'⟩ := first.blank_char c isBlank
    rw [same]
    exact second.blank_char c' isBlank'
  fresh cs plain := second.fresh _ (first.fresh cs plain)
  empty cs := by rw [second.empty, first.empty]

/-- A transformation of single characters. -/
theorem of_map {g : α → α} (apart : ∀ c, fixed c = true → blank c = false)
    (kept : ∀ c, fixed c = true → g c = c) (blanks : ∀ c, blank c = true → blank (g c) = true)
    (fresh : ∀ c, (fixed c || blank c) = false → (fixed (g c) || blank (g c)) = false) :
    Inert (List.map g) fixed blank where
  apart := apart
  boundary front c back _ := by simp
  fixed_char c isFixed := by rw [List.map_singleton, kept c isFixed]
  blank_char c isBlank := ⟨g c, List.map_singleton, blanks c isBlank⟩
  fresh cs plain c member := by
    obtain ⟨before, inside, rfl⟩ := List.mem_map.mp member
    exact fresh before (plain before inside)
  empty _ := List.map_eq_nil_iff

end Inert

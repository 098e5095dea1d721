import Mathlib.Data.List.Pairwise
import Mathlib.Tactic.Common

/-! # Tables with declared constraints

A table carries its `CHECK` constraint and the pairs of rows that a primary key or a unique index
excludes, together with the proof that its rows satisfy both. A statement that would break one of
them has no result, which is the integrity error of the database.
-/

/-- The constraints of one table; `clash` says that two rows collide on some unique index. -/
structure Schema (Row : Type) where
  check : Row → Bool
  clash : Row → Row → Bool
  clash_symm : ∀ a b, clash a b = clash b a

structure Table {Row : Type} (schema : Schema Row) where
  rows : List Row
  checked : ∀ row ∈ rows, schema.check row = true
  distinct : rows.Pairwise fun a b => schema.clash a b = false

namespace Table

variable {Row : Type} {schema : Schema Row}

@[ext]
theorem ext {s t : Table schema} (same : s.rows = t.rows) : s = t := by
  cases s
  cases t
  simp_all

instance [DecidableEq Row] : DecidableEq (Table schema) := fun s t =>
  decidable_of_iff (s.rows = t.rows) ⟨Table.ext, congrArg Table.rows⟩

instance : Membership Row (Table schema) := ⟨fun table row => row ∈ table.rows⟩

theorem mem_def {table : Table schema} {row : Row} : row ∈ table ↔ row ∈ table.rows := Iff.rfl

def empty : Table schema := ⟨[], nofun, .nil⟩

instance : Inhabited (Table schema) := ⟨empty⟩

@[simp] theorem rows_empty : (empty : Table schema).rows = [] := rfl

@[simp] theorem not_mem_empty (row : Row) : row ∉ (empty : Table schema) := nofun

def find? (table : Table schema) (p : Row → Bool) : Option Row :=
  table.rows.find? p

def filter (table : Table schema) (p : Row → Bool) : List Row :=
  table.rows.filter p

def any (table : Table schema) (p : Row → Bool) : Bool :=
  table.rows.any p

/-- `INSERT`. -/
def insert? (table : Table schema) (row : Row) : Option (Table schema) :=
  if fits : schema.check row = true ∧ ∀ other ∈ table.rows, schema.clash other row = false then
    some {
      rows := table.rows ++ [row]
      checked := by
        intro other member
        rcases List.mem_append.mp member with old | new
        · exact table.checked other old
        · rw [List.mem_singleton.mp new]
          exact fits.1
      distinct := List.pairwise_append.mpr ⟨table.distinct, List.pairwise_singleton _ _,
        fun other member fresh same => by
          rw [List.mem_singleton.mp same]
          exact fits.2 other member⟩ }
  else none

/-- `UPDATE ... WHERE p`. -/
def update? (table : Table schema) (p : Row → Bool) (f : Row → Row) : Option (Table schema) :=
  if fits : (∀ row ∈ table.rows.map (fun row => if p row then f row else row),
        schema.check row = true) ∧
      (table.rows.map fun row => if p row then f row else row).Pairwise
        fun a b => schema.clash a b = false then
    some ⟨table.rows.map fun row => if p row then f row else row, fits.1, fits.2⟩
  else none

/-- `UPDATE ... WHERE p` of columns that no constraint reads. -/
def modify (table : Table schema) (p : Row → Bool) (f : Row → Row)
    (checks : ∀ row, schema.check (f row) = schema.check row)
    (clashes : ∀ a b, schema.clash (f a) b = schema.clash a b) : Table schema where
  rows := table.rows.map fun row => if p row then f row else row
  checked := by
    intro row member
    obtain ⟨old, oldMember, rfl⟩ := List.mem_map.mp member
    split
    · rw [checks]
      exact table.checked old oldMember
    · exact table.checked old oldMember
  distinct := by
    refine List.pairwise_map.mpr (table.distinct.imp fun {a b} apart => ?_)
    split
    · split
      · rw [clashes, schema.clash_symm, clashes, schema.clash_symm, apart]
      · rw [clashes, apart]
    · split
      · rw [schema.clash_symm, clashes, schema.clash_symm, apart]
      · exact apart

/-- `DELETE ... WHERE p`. -/
def delete (table : Table schema) (p : Row → Bool) : Table schema where
  rows := table.rows.filter fun row => !p row
  checked row member := table.checked row (List.mem_filter.mp member).1
  distinct := table.distinct.filter _

theorem find?_some {table : Table schema} {p : Row → Bool} {row : Row}
    (found : table.find? p = some row) : row ∈ table ∧ p row = true :=
  ⟨List.mem_of_find?_eq_some found, List.find?_some found⟩

theorem find?_none {table : Table schema} {p : Row → Bool} (absent : table.find? p = none) :
    ∀ row ∈ table, p row = false := by
  intro row member
  simpa using List.find?_eq_none.mp absent row member

theorem mem_filter {table : Table schema} {p : Row → Bool} {row : Row} :
    row ∈ table.filter p ↔ row ∈ table ∧ p row = true :=
  List.mem_filter

theorem insert?_rows {table next : Table schema} {row : Row}
    (inserted : table.insert? row = some next) : next.rows = table.rows ++ [row] := by
  unfold insert? at inserted
  split_ifs at inserted
  rw [← Option.some.inj inserted]

theorem insert?_ne {table next : Table schema} {row : Row}
    (inserted : table.insert? row = some next) : next ≠ table := by
  rintro rfl
  simpa using congrArg List.length (insert?_rows inserted)

theorem insert?_fits {table next : Table schema} {row : Row}
    (inserted : table.insert? row = some next) :
    schema.check row = true ∧ ∀ other ∈ table, schema.clash other row = false := by
  unfold insert? at inserted
  split_ifs at inserted with fits
  exact fits

theorem mem_insert? {table next : Table schema} {row other : Row}
    (inserted : table.insert? row = some next) : other ∈ next ↔ other ∈ table ∨ other = row := by
  rw [mem_def, insert?_rows inserted, List.mem_append, List.mem_singleton, mem_def]

/-- An insertion fails only on a constraint. -/
theorem insert?_eq_none_iff {table : Table schema} {row : Row} :
    table.insert? row = none ↔
      schema.check row = false ∨ ∃ other ∈ table, schema.clash other row = true := by
  unfold insert?
  split_ifs with fits
  · simp only [false_iff, not_or, not_exists, not_and, Bool.not_eq_false,
      Bool.not_eq_true]
    exact ⟨fits.1, fits.2⟩
  · simp only [true_iff]
    by_contra free
    simp only [not_or, not_exists, not_and, Bool.not_eq_false, Bool.not_eq_true] at free
    exact fits free

theorem exists_insert? {table : Table schema} {row : Row} (checked : schema.check row = true)
    (free : ∀ other ∈ table, schema.clash other row = false) :
    ∃ next, table.insert? row = some next := by
  unfold insert?
  rw [dif_pos ⟨checked, free⟩]
  exact ⟨_, rfl⟩

theorem update?_rows {table next : Table schema} {p : Row → Bool} {f : Row → Row}
    (updated : table.update? p f = some next) :
    next.rows = table.rows.map fun row => if p row then f row else row := by
  unfold update? at updated
  split_ifs at updated
  rw [← Option.some.inj updated]

theorem mem_update? {table next : Table schema} {p : Row → Bool} {f : Row → Row} {row : Row}
    (updated : table.update? p f = some next) :
    row ∈ next ↔ ∃ old ∈ table, row = if p old then f old else old := by
  rw [mem_def, update?_rows updated, List.mem_map]
  exact ⟨fun ⟨old, member, same⟩ => ⟨old, member, same.symm⟩,
    fun ⟨old, member, same⟩ => ⟨old, member, same.symm⟩⟩

/-- An update succeeds when every new row is checked and no row changes its unique keys. -/
theorem update?_isSome {table : Table schema} {p : Row → Bool} {f : Row → Row}
    (checked : ∀ row ∈ table, p row = true → schema.check (f row) = true)
    (keeps : ∀ a b, schema.clash a b = false →
      schema.clash (if p a then f a else a) (if p b then f b else b) = false) :
    (table.update? p f).isSome = true := by
  unfold update?
  have rowsChecked : ∀ row ∈ table.rows.map fun row => if p row then f row else row,
      schema.check row = true := by
    intro row member
    obtain ⟨old, oldMember, rfl⟩ := List.mem_map.mp member
    split_ifs with chosen
    · exact checked old oldMember chosen
    · exact table.checked old oldMember
  have rowsDistinct : (table.rows.map fun row => if p row then f row else row).Pairwise
      fun a b => schema.clash a b = false :=
    List.pairwise_map.mpr (table.distinct.imp fun apart => keeps _ _ apart)
  rw [dif_pos ⟨rowsChecked, rowsDistinct⟩]
  rfl

/-- An update succeeds when every new row is checked and is apart from all others. -/
theorem exists_update? {table : Table schema} {p : Row → Bool} {f : Row → Row}
    (checked : ∀ row ∈ table, p row = true → schema.check (f row) = true)
    (apart : ∀ a ∈ table, ∀ b ∈ table, schema.clash a b = false →
      schema.clash (if p a then f a else a) (if p b then f b else b) = false) :
    ∃ next, table.update? p f = some next := by
  have rowsChecked : ∀ row ∈ table.rows.map fun row => if p row then f row else row,
      schema.check row = true := by
    intro row member
    obtain ⟨old, oldMember, rfl⟩ := List.mem_map.mp member
    split_ifs with chosen
    · exact checked old oldMember chosen
    · exact table.checked old oldMember
  have rowsDistinct : (table.rows.map fun row => if p row then f row else row).Pairwise
      fun a b => schema.clash a b = false :=
    List.pairwise_map.mpr (table.distinct.imp_of_mem fun left right free => apart _ left _ right free)
  unfold update?
  rw [dif_pos ⟨rowsChecked, rowsDistinct⟩]
  exact ⟨_, rfl⟩

/-- A lookup by columns that the update leaves alone finds the updated row. -/
theorem find?_modify {table : Table schema} {p q : Row → Bool} {f : Row → Row} {checks} {clashes}
    (same : ∀ row, q (f row) = q row) :
    (table.modify p f checks clashes).find? q =
      (table.find? q).map fun row => if p row then f row else row := by
  have kept : (q ∘ fun row => if p row then f row else row) = q := by
    funext row
    simp only [Function.comp_apply]
    split
    · exact same row
    · rfl
  rw [find?, modify, List.find?_map, kept]
  rfl

/-- A lookup that the update leaves alone finds the updated row. -/
theorem find?_update? {table next : Table schema} {p q : Row → Bool} {f : Row → Row}
    (updated : table.update? p f = some next) (same : ∀ row, q (f row) = q row) :
    next.find? q = (table.find? q).map fun row => if p row then f row else row := by
  have kept : (q ∘ fun row => if p row then f row else row) = q := by
    funext row
    simp only [Function.comp_apply]
    split
    · exact same row
    · rfl
  rw [find?, update?_rows updated, List.find?_map, kept]
  rfl

theorem rows_delete {table : Table schema} {p : Row → Bool} :
    (table.delete p).rows = table.rows.filter fun row => !p row := rfl

theorem mem_delete {table : Table schema} {p : Row → Bool} {row : Row} :
    row ∈ table.delete p ↔ row ∈ table ∧ p row = false := by
  rw [mem_def, delete, List.mem_filter, mem_def]
  simp

/-- No row is stored twice. -/
theorem nodup {table : Table schema} (refl : ∀ row, schema.clash row row = true) : table.rows.Nodup :=
  table.distinct.imp fun apart same => by
    subst same
    rw [refl] at apart
    cases apart

/-- Two rows of a table that collide on a unique index are one row. -/
theorem eq_of_clash {table : Table schema} {a b : Row} (left : a ∈ table) (right : b ∈ table)
    (clash : schema.clash a b = true) : a = b := by
  by_contra differ
  obtain ⟨i, hi, rfl⟩ := List.getElem_of_mem left
  obtain ⟨j, hj, rfl⟩ := List.getElem_of_mem right
  have apart := List.pairwise_iff_getElem.mp table.distinct
  rcases Nat.lt_trichotomy i j with before | same | after
  · rw [apart i j hi hj before] at clash
    exact absurd clash (by decide)
  · subst same
    exact differ rfl
  · rw [schema.clash_symm, apart j i hj hi after] at clash
    exact absurd clash (by decide)

/-- Looking up a row by a unique key finds that row. -/
theorem find?_eq_some_of_mem {table : Table schema} {p : Row → Bool} {row : Row}
    (member : row ∈ table) (holds : p row = true)
    (unique : ∀ other ∈ table, p other = true → schema.clash other row = true) :
    table.find? p = some row := by
  cases found : table.find? p with
  | none =>
    have missing := find?_none found row member
    rw [holds] at missing
    exact absurd missing (by decide)
  | some other =>
    obtain ⟨otherMember, otherHolds⟩ := find?_some found
    rw [eq_of_clash otherMember member (unique other otherMember otherHolds)]

/-- A predicate that singles out one key holds of one row. -/
theorem filter_eq_singleton {table : Table schema} {p : Row → Bool} {row : Row}
    (member : row ∈ table) (holds : p row = true)
    (unique : ∀ other ∈ table, p other = true → schema.clash other row = true) :
    table.filter p = [row] := by
  have same : ∀ other ∈ table.filter p, other = row := fun other found =>
    eq_of_clash (mem_filter.mp found).1 member
      (unique other (mem_filter.mp found).1 (mem_filter.mp found).2)
  have distinct : (table.filter p).Pairwise fun a b => schema.clash a b = false :=
    table.distinct.filter _
  have found : row ∈ table.filter p := mem_filter.mpr ⟨member, holds⟩
  cases list : table.filter p with
  | nil =>
    rw [list] at found
    cases found
  | cons first rest =>
    rw [list] at same distinct
    obtain rfl := same first (List.mem_cons_self ..)
    cases rest with
    | nil => rfl
    | cons second more =>
      have apart := List.rel_of_pairwise_cons distinct (List.mem_cons_self ..)
      rw [same second (List.mem_cons_of_mem _ (List.mem_cons_self ..)),
        unique first member holds] at apart
      exact absurd apart (by decide)

end Table

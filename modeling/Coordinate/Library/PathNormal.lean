import Coordinate.Library.Inert
import Coordinate.Library.Path

/-! # Normal paths

What `posixpath.normpath` and `ntpath.normpath` leave of a path is normal, and they leave a normal path alone.
A transformation that leaves the syntax of paths alone keeps normal paths normal. A path of `pathlib` that is
written is read as the same path.
-/

namespace Path

section Parts

theorem mem_intercalate {sep c : Char} : ∀ {parts : List (List Char)}, c ∈ [sep].intercalate parts →
    c = sep ∨ ∃ part ∈ parts, c ∈ part
  | [part], inside => .inr ⟨part, List.mem_singleton_self _, by rwa [List.intercalate_singleton] at inside⟩
  | first :: next :: rest, inside => by
    rw [List.intercalate_cons_cons, List.mem_append, List.mem_append, List.mem_singleton] at inside
    obtain (own | isSep) | later := inside
    · exact .inr ⟨first, List.mem_cons_self, own⟩
    · exact .inl isSep
    · refine (mem_intercalate later).imp_right ?_
      rintro ⟨part, member, own⟩
      exact ⟨part, List.mem_cons_of_mem first member, own⟩

theorem mem_intercalate_of_mem {sep c : Char} {part : List Char} : ∀ {parts : List (List Char)}, part ∈ parts →
    c ∈ part → c ∈ [sep].intercalate parts
  | [only], member, inside => by
    cases List.mem_singleton.mp member
    rwa [List.intercalate_singleton]
  | first :: next :: rest, member, inside => by
    rw [List.intercalate_cons_cons, List.mem_append, List.mem_append]
    rcases List.mem_cons.mp member with rfl | later
    · exact .inl (.inl inside)
    · exact .inr (mem_intercalate_of_mem later inside)

/-- A component that normalization keeps. -/
structure Clean (sep : Char) (part : List Char) : Prop where
  some : part ≠ []
  dot : part ≠ ['.']
  dots : part ≠ ['.', '.']
  whole : sep ∉ part

theorem Clean.map {f : List Char → List Char} {fixed blank : Char → Bool} (inert : Inert f fixed blank)
    (dot : fixed '.' = true) {sep : Char} (isFixed : fixed sep = true) {part : List Char}
    (clean : Clean sep part) : Clean sep (f part) where
  some := fun none => clean.some ((inert.empty part).mp none)
  dot := fun same => clean.dot ((inert.eq_fixed_iff (by simpa using dot) part).mp same)
  dots := fun same => clean.dots ((inert.eq_fixed_iff (by simpa using dot) part).mp same)
  whole := fun inside => clean.whole ((inert.mem_fixed isFixed part).mp inside)

theorem collapseOnto_clean {sep : Char} : ∀ (kept parts : List String),
    (∀ part ∈ kept, Clean sep part.toList) → (∀ part ∈ parts, sep ∉ part.toList) →
      ∀ part ∈ collapseOnto true kept parts, Clean sep part.toList
  | kept, [], clean, _ => by
    intro part member
    exact clean part (List.mem_reverse.mp member)
  | kept, part :: rest, clean, whole => by
    obtain ⟨own, others⟩ := List.forall_mem_cons.mp whole
    unfold collapseOnto
    split
    · exact collapseOnto_clean kept rest clean others
    · rename_i solid
      split
      · cases kept with
        | nil => exact collapseOnto_clean [] rest clean others
        | cons last earlier =>
          obtain ⟨first, clean'⟩ := List.forall_mem_cons.mp clean
          dsimp only
          split
          · rename_i up
            subst up
            exact absurd rfl first.dots
          · exact collapseOnto_clean earlier rest clean' others
      · rename_i below
        refine collapseOnto_clean (part :: kept) rest (List.forall_mem_cons.mpr ⟨?_, clean⟩) others
        refine ⟨fun none => solid (.inl ?_), fun one => solid (.inr ?_), fun two => below ?_, own⟩
        · exact String.toList_injective none
        · exact String.toList_injective one
        · exact String.toList_injective two

theorem collapseOnto_of_clean {sep : Char} : ∀ (kept parts : List String),
    (∀ part ∈ parts, Clean sep part.toList) → collapseOnto true kept parts = kept.reverse ++ parts
  | kept, [], _ => (List.append_nil _).symm
  | kept, part :: rest, clean => by
    obtain ⟨own, others⟩ := List.forall_mem_cons.mp clean
    have solid : ¬ (part = "" ∨ part = ".") := by
      rintro (rfl | rfl)
      · exact own.some rfl
      · exact own.dot rfl
    have below : part ≠ ".." := by
      rintro rfl
      exact own.dots rfl
    unfold collapseOnto
    rw [if_neg solid, if_neg below, collapseOnto_of_clean (part :: kept) rest others, List.reverse_cons,
      List.append_assoc, List.singleton_append]

theorem mem_collapseOnto {part : String} : ∀ {kept parts : List String},
    part ∈ collapseOnto true kept parts → part ∈ kept ∨ part ∈ parts
  | kept, [], member => .inl (List.mem_reverse.mp member)
  | kept, first :: rest, member => by
    unfold collapseOnto at member
    split at member
    · exact (mem_collapseOnto member).imp_right (List.mem_cons_of_mem first)
    · split at member
      · cases kept with
        | nil => exact (mem_collapseOnto member).imp_right (List.mem_cons_of_mem first)
        | cons last earlier =>
          dsimp only at member
          split at member
          · rename_i up up'
            rcases mem_collapseOnto member with inside | inside
            · rcases List.mem_cons.mp inside with rfl | inside
              · exact .inr (up ▸ List.mem_cons_self)
              · exact .inl inside
            · exact .inr (List.mem_cons_of_mem first inside)
          · exact (mem_collapseOnto member).imp (List.mem_cons_of_mem last) (List.mem_cons_of_mem first)
      · rcases mem_collapseOnto member with inside | inside
        · rcases List.mem_cons.mp inside with rfl | inside
          · exact .inr List.mem_cons_self
          · exact .inl inside
        · exact .inr (List.mem_cons_of_mem first inside)

/-- The components of a text, reduced. -/
def reduced (sep : Char) (cs : List Char) : List (List Char) :=
  (collapse true ((cs.splitOn sep).map String.ofList)).map String.toList

theorem reduced_clean {sep : Char} (cs : List Char) : ∀ part ∈ reduced sep cs, Clean sep part := by
  intro part member
  obtain ⟨text, kept, rfl⟩ := List.mem_map.mp member
  refine collapseOnto_clean [] _ (List.forall_mem_nil _) (fun piece inside => ?_) text kept
  obtain ⟨chars, member, rfl⟩ := List.mem_map.mp inside
  rw [String.toList_ofList]
  exact List.not_mem_of_mem_splitOn member

/-- The characters of the components are those of the text. -/
theorem mem_reduced {sep c : Char} {cs part : List Char} (member : part ∈ reduced sep cs) (inside : c ∈ part) :
    c ∈ cs := by
  obtain ⟨text, kept, rfl⟩ := List.mem_map.mp member
  rcases mem_collapseOnto kept with none | own
  · cases none
  · obtain ⟨chars, piece, rfl⟩ := List.mem_map.mp own
    rw [String.toList_ofList] at inside
    rw [← List.intercalate_pieces sep cs]
    exact mem_intercalate_of_mem piece inside

theorem reduced_of_clean {sep : Char} {parts : List (List Char)} (clean : ∀ part ∈ parts, Clean sep part) :
    reduced sep ([sep].intercalate parts) = parts := by
  cases parts with
  | nil => rfl
  | cons first rest =>
    have parts : ([sep].intercalate (first :: rest)).splitOn sep = first :: rest :=
      List.splitOn_intercalate sep (fun part member => (clean part member).whole) (List.cons_ne_nil _ _)
    rw [reduced, parts, collapse, @collapseOnto_of_clean sep]
    · simp
    · intro part member
      obtain ⟨chars, inside, rfl⟩ := List.mem_map.mp member
      rw [String.toList_ofList]
      exact clean chars inside

section Counts

theorem collapseOnto_length : ∀ kept parts : List String,
    (collapseOnto true kept parts).length ≤ kept.length + parts.length ∧
      ((collapseOnto true kept parts).length = kept.length + parts.length →
        collapseOnto true kept parts = kept.reverse ++ parts)
  | kept, [] => by simp [collapseOnto]
  | kept, part :: rest => by
    have shorter : ∀ kept' : List String, kept'.length ≤ kept.length →
        (collapseOnto true kept' rest).length < kept.length + (part :: rest).length := by
      intro kept' fewer
      have bound := (collapseOnto_length kept' rest).1
      rw [List.length_cons]
      omega
    unfold collapseOnto
    split
    · exact ⟨(shorter kept le_rfl).le, fun same => absurd same (shorter kept le_rfl).ne⟩
    · split
      · cases kept with
        | nil => exact ⟨(shorter [] le_rfl).le, fun same => absurd same (shorter [] le_rfl).ne⟩
        | cons last earlier =>
          dsimp only
          split
          · rename_i up
            obtain ⟨bound, whole⟩ := collapseOnto_length (".." :: last :: earlier) rest
            subst up
            refine ⟨by simp only [List.length_cons] at bound ⊢; omega, fun same => ?_⟩
            rw [whole (by simp only [List.length_cons] at same ⊢; omega)]
            simp_all
          · have fewer := shorter earlier (by simp)
            exact ⟨fewer.le, fun same => absurd same fewer.ne⟩
      · obtain ⟨bound, whole⟩ := collapseOnto_length (part :: kept) rest
        refine ⟨by simp only [List.length_cons] at bound ⊢; omega, fun same => ?_⟩
        rw [whole (by simp only [List.length_cons] at same ⊢; omega), List.reverse_cons, List.append_assoc,
          List.singleton_append]

/-- Reduction that loses no separator loses nothing, or everything. -/
theorem reduced_same_count {sep : Char} {cs : List Char}
    (same : ([sep].intercalate (reduced sep cs)).count sep = cs.count sep) :
    reduced sep cs = [] ∨ [sep].intercalate (reduced sep cs) = cs := by
  by_cases none : reduced sep cs = []
  · exact .inl none
  · have pieces := List.splitOn_intercalate sep (fun part member => (reduced_clean cs part member).whole) none
    have length := List.length_splitOn sep ([sep].intercalate (reduced sep cs))
    rw [pieces, same, ← List.length_splitOn sep cs] at length
    have whole : collapse true ((cs.splitOn sep).map String.ofList) = (cs.splitOn sep).map String.ofList := by
      refine (collapseOnto_length [] _).2 ?_
      simpa [reduced, collapse] using length
    refine .inr ?_
    rw [reduced, whole, List.map_map]
    refine Eq.trans (congrArg _ ?_) (List.intercalate_splitOn sep)
    exact (List.map_congr_left fun part _ => String.toList_ofList).trans (List.map_id _)

/-- Leading separators do not matter. -/
theorem reduced_dropWhile {sep : Char} : ∀ cs : List Char,
    reduced sep (cs.dropWhile (· == sep)) = reduced sep cs
  | [] => rfl
  | c :: rest => by
    by_cases own : c = sep
    · subst own
      rw [List.dropWhile_cons_of_pos (by simp), reduced_dropWhile rest, reduced, reduced,
        List.splitOn_cons_eq_if_modifyHead, if_pos (beq_self_eq_true _)]
      rfl
    · rw [List.dropWhile_cons_of_neg (by simpa using own)]

end Counts

theorem toList_join (sep : String) : ∀ parts : List String,
    (Text.join sep parts).toList = sep.toList.intercalate (parts.map String.toList)
  | [] => rfl
  | [part] => by simp [Text.join]
  | part :: next :: rest => by
    rw [Text.join, String.toList_append, String.toList_append, toList_join sep (next :: rest)]
    simp [List.map_cons]

end Parts

section Posix

/-- A slash before clean components. -/
def PosixNormal (cs : List Char) : Prop :=
  ∃ parts : List (List Char), (∀ part ∈ parts, Clean '/' part) ∧ cs = '/' :: ['/'].intercalate parts

theorem toList_posixNormpath (path : String) :
    (posixNormpath path).toList = '/' :: ['/'].intercalate (reduced '/' path.toList) := by
  rw [posixNormpath, String.toList_append, toList_join]
  rfl

theorem posixNormal_posixNormpath (path : String) : PosixNormal (posixNormpath path).toList :=
  ⟨_, reduced_clean _, toList_posixNormpath path⟩

theorem posixNormpath_of_normal {path : String} (normal : PosixNormal path.toList) :
    posixNormpath path = path := by
  obtain ⟨parts, clean, same⟩ := normal
  refine String.toList_injective ?_
  have empty : reduced '/' ('/' :: ['/'].intercalate parts) = reduced '/' (['/'].intercalate parts) := by
    rw [reduced, List.splitOn_cons_eq_if_modifyHead, if_pos (beq_self_eq_true _)]
    rfl
  rw [toList_posixNormpath, same, empty, reduced_of_clean clean]

theorem PosixNormal.map {f : List Char → List Char} {fixed blank : Char → Bool} (inert : Inert f fixed blank)
    (dot : fixed '.' = true) (slash : fixed '/' = true) {cs : List Char} (normal : PosixNormal cs) :
    PosixNormal (f cs) := by
  obtain ⟨parts, clean, rfl⟩ := normal
  refine ⟨parts.map f, fun part member => ?_, ?_⟩
  · obtain ⟨before, inside, rfl⟩ := List.mem_map.mp member
    exact (clean before inside).map inert dot slash
  · rw [inert.cons slash, inert.intercalate slash]

theorem mem_posixNormpath {path : String} {c : Char} (inside : c ∈ (posixNormpath path).toList) :
    c = '/' ∨ c ∈ path.toList := by
  rw [toList_posixNormpath] at inside
  rcases List.mem_cons.mp inside with isSep | inside
  · exact .inl isSep
  · obtain isSep | ⟨part, member, inside⟩ := mem_intercalate inside
    · exact .inl isSep
    · exact .inr (mem_reduced member inside)

/-- `normpath` that loses no separator changes nothing, or leaves the root. -/
theorem posixNormpath_same_count {path : String} {rest : List Char} (rooted : path.toList = '/' :: rest)
    (same : (posixNormpath path).toList.count '/' = path.toList.count '/') :
    posixNormpath path = path ∨ (posixNormpath path).toList.getLast? = some '/' := by
  have reduces : reduced '/' path.toList = reduced '/' rest := by
    rw [rooted, reduced, List.splitOn_cons_eq_if_modifyHead, if_pos (beq_self_eq_true _)]
    rfl
  rw [toList_posixNormpath, reduces, rooted, List.count_cons_self, List.count_cons_self,
    Nat.add_right_cancel_iff] at same
  obtain none | whole := reduced_same_count same
  · refine .inr ?_
    rw [toList_posixNormpath, reduces, none]
    rfl
  · refine .inl (String.toList_injective ?_)
    rw [toList_posixNormpath, reduces, whole, rooted]

end Posix

section Windows

theorem toNat_toUpper (c : Char) :
    c.toUpper.toNat = if 97 ≤ c.toNat ∧ c.toNat ≤ 122 then c.toNat - 32 else c.toNat := by
  by_cases lower : 'a'.val ≤ c.val ∧ c.val ≤ 'z'.val
  · have low : 97 ≤ c.toNat := UInt32.le_iff_toNat_le.mp lower.1
    have high : c.toNat ≤ 122 := UInt32.le_iff_toNat_le.mp lower.2
    have value : c.toUpper.toNat = (c.toNat + 4294967264) % 4294967296 := by
      unfold Char.toUpper
      rw [dif_pos lower]
      change (c.val + ('A'.val - 'a'.val)).toNat = _
      rw [UInt32.toNat_add]
      rfl
    rw [value, if_pos ⟨low, high⟩]
    omega
  · have same : c.toUpper = c := by
      unfold Char.toUpper
      rw [dif_neg lower]
    rw [same, if_neg fun range => lower ⟨UInt32.le_iff_toNat_le.mpr range.1, UInt32.le_iff_toNat_le.mpr range.2⟩]

theorem toUpper_eq_iff {c d : Char} (small : d.toNat < 97) (other : ¬ (65 ≤ d.toNat ∧ d.toNat ≤ 90)) :
    c.toUpper = d ↔ c = d := by
  rw [← Char.toNat_inj, ← Char.toNat_inj, toNat_toUpper]
  split <;> omega

/-- How many of the pieces of a UNC path stand before its server. -/
def skip : List (List Char) → Nat
  | _ :: _ :: query :: name :: _ :: _ =>
    if query = ['?'] ∧ name.map Char.toUpper = ['U', 'N', 'C'] then 4 else 2
  | _ => 2

theorem findFrom_none {sep : Char} {front body : List Char} (whole : sep ∉ body) :
    findFrom sep (front ++ body) front.length = none := by
  rw [findFrom, List.drop_left, Option.map_eq_none_iff, List.findIdx?_eq_none_iff]
  intro c member
  exact beq_false_of_ne fun same => whole (same ▸ member)

theorem findFrom_some {sep : Char} {front first rest : List Char} (whole : sep ∉ first) :
    findFrom sep (front ++ (first ++ sep :: rest)) front.length = some (front.length + first.length) := by
  have before : first.findIdx? (· == sep) = none := by
    rw [List.findIdx?_eq_none_iff]
    intro c member
    exact beq_false_of_ne fun same => whole (same ▸ member)
  rw [findFrom, List.drop_left, List.findIdx?_append, before]
  simp [List.findIdx?_cons, Nat.add_comm]

/-- A text is one piece, or a piece before a separator. -/
theorem splitOn_cases (sep : Char) (cs : List Char) : (sep ∉ cs ∧ cs.splitOn sep = [cs]) ∨
    ∃ first rest, cs = first ++ sep :: rest ∧ sep ∉ first ∧ cs.splitOn sep = first :: rest.splitOn sep := by
  by_cases inside : sep ∈ cs
  · obtain ⟨first, rest, same, whole⟩ := List.eq_append_cons_of_mem inside
    refine .inr ⟨first, rest, same, whole, ?_⟩
    rw [same, List.splitOn_append_cons_self_of_not_mem whole]
  · exact .inl ⟨inside, List.splitOn_eq_singleton inside⟩

/-- The drive of a UNC path ends after the server and the share that follow its start. -/
theorem splitDrive_share {cs front body : List Char} (unc : cs.take 2 = ['\\', '\\']) (whole : cs = front ++ body)
    (start : front.length = if (cs.take 8).map Char.toUpper = "\\\\?\\UNC\\".toList then 8 else 2) :
    splitDrive cs = match body.splitOn '\\' with
      | server :: share :: next :: rest =>
        (front ++ server ++ '\\' :: share, '\\' :: ['\\'].intercalate (next :: rest))
      | _ => (cs, []) := by
  rw [splitDrive, if_pos unc]
  dsimp only
  rw [← start]
  obtain ⟨plain, one⟩ | ⟨server, after, rfl, plain, parts⟩ := splitOn_cases '\\' body
  · rw [whole, findFrom_none plain, one]
  · rw [whole, findFrom_some plain, parts]
    have again : front ++ (server ++ '\\' :: after) = (front ++ server ++ ['\\']) ++ after := by simp
    have place : front.length + server.length + 1 = (front ++ server ++ ['\\']).length := by
      simp only [List.length_append, List.length_cons, List.length_nil]
    dsimp only
    obtain ⟨plain', one⟩ | ⟨share, rest, rfl, plain', parts'⟩ := splitOn_cases '\\' after
    · rw [again, place, findFrom_none plain', one]
    · rw [again, place, findFrom_some plain', parts']
      obtain ⟨next, later, same⟩ := List.exists_cons_of_ne_nil (List.splitOn_ne_nil '\\' rest)
      have tail : ['\\'].intercalate (next :: later) = rest := by
        rw [← same, List.intercalate_splitOn]
      rw [same]
      dsimp only
      rw [tail]
      have cut : front ++ server ++ ['\\'] ++ (share ++ '\\' :: rest) =
          (front ++ server ++ '\\' :: share) ++ '\\' :: rest := by simp
      have length : (front ++ server ++ ['\\']).length + share.length =
          (front ++ server ++ '\\' :: share).length := by
        simp only [List.length_append, List.length_cons, List.length_nil]
        omega
      rw [cut, length, List.take_left, List.drop_left]

/-- The device prefix of a UNC path, in its pieces. -/
theorem device_iff {body : List Char} :
    (('\\' :: '\\' :: body).take 8).map Char.toUpper = "\\\\?\\UNC\\".toList ↔
      ∃ name rest, name.map Char.toUpper = ['U', 'N', 'C'] ∧ body = '?' :: '\\' :: (name ++ '\\' :: rest) := by
  have sep : ∀ c : Char, c.toUpper = '\\' ↔ c = '\\' := fun c => toUpper_eq_iff (by decide) (by decide)
  have query : ∀ c : Char, c.toUpper = '?' ↔ c = '?' := fun c => toUpper_eq_iff (by decide) (by decide)
  have pattern : "\\\\?\\UNC\\".toList = ['\\', '\\', '?', '\\', 'U', 'N', 'C', '\\'] := rfl
  rw [pattern]
  constructor
  · intro same
    obtain ⟨-, same⟩ := List.cons.inj same
    obtain ⟨-, same⟩ := List.cons.inj same
    obtain ⟨a, more, first, isQuery, same⟩ := List.map_eq_cons_iff.mp same
    obtain ⟨b, more, rfl, isSep, same⟩ := List.map_eq_cons_iff.mp same
    obtain ⟨u, more, rfl, isU, same⟩ := List.map_eq_cons_iff.mp same
    obtain ⟨n, more, rfl, isN, same⟩ := List.map_eq_cons_iff.mp same
    obtain ⟨c, more, rfl, isC, same⟩ := List.map_eq_cons_iff.mp same
    obtain ⟨d, more, rfl, isSep', same⟩ := List.map_eq_cons_iff.mp same
    rw [List.map_eq_nil_iff.mp same, (query a).mp isQuery, (sep b).mp isSep, (sep d).mp isSep'] at first
    refine ⟨[u, n, c], body.drop 6, ?_, ?_⟩
    · rw [List.map_cons, List.map_cons, List.map_cons, isU, isN, isC, List.map_nil]
    · have whole := List.take_append_drop 6 body
      rw [first] at whole
      exact whole.symm
  · rintro ⟨name, rest, upper, rfl⟩
    obtain ⟨u, more, rfl, isU, upper⟩ := List.map_eq_cons_iff.mp upper
    obtain ⟨n, more, rfl, isN, upper⟩ := List.map_eq_cons_iff.mp upper
    obtain ⟨c, more, rfl, isC, upper⟩ := List.map_eq_cons_iff.mp upper
    rw [List.map_eq_nil_iff.mp upper]
    simp only [List.cons_append, List.nil_append, List.take_succ_cons, List.take_zero, List.map_cons,
      List.map_nil, isU, isN, isC]
    rfl

theorem skip_device {rest : List (List Char)} {name : List Char} (some : rest ≠ [])
    (upper : name.map Char.toUpper = ['U', 'N', 'C']) : skip ([] :: [] :: ['?'] :: name :: rest) = 4 := by
  obtain ⟨next, later, rfl⟩ := List.exists_cons_of_ne_nil some
  exact if_pos ⟨rfl, upper⟩

/-- The pieces of a UNC path up to its share are its drive. -/
theorem splitDrive_unc {cs : List Char} (unc : cs.take 2 = ['\\', '\\']) :
    splitDrive cs = if (cs.splitOn '\\').length ≤ skip (cs.splitOn '\\') + 2 then (cs, []) else
      (['\\'].intercalate ((cs.splitOn '\\').take (skip (cs.splitOn '\\') + 2)),
        '\\' :: ['\\'].intercalate ((cs.splitOn '\\').drop (skip (cs.splitOn '\\') + 2))) := by
  obtain ⟨body, rfl⟩ : ∃ body, cs = '\\' :: '\\' :: body :=
    ⟨cs.drop 2, by rw [← List.take_append_drop 2 cs, unc]; rfl⟩
  have pieces : ('\\' :: '\\' :: body).splitOn '\\' = [] :: [] :: body.splitOn '\\' := by
    rw [List.splitOn_cons_eq_if_modifyHead, if_pos (beq_self_eq_true _),
      List.splitOn_cons_eq_if_modifyHead, if_pos (beq_self_eq_true _)]
  by_cases device : (('\\' :: '\\' :: body).take 8).map Char.toUpper = "\\\\?\\UNC\\".toList
  · obtain ⟨name, rest, upper, rfl⟩ := device_iff.mp device
    have length : name.length = 3 := by
      have same := congrArg List.length upper
      rwa [List.length_map] at same
    have plain : '\\' ∉ name := by
      intro inside
      have moved : Char.toUpper '\\' ∈ name.map Char.toUpper := List.mem_map_of_mem inside
      rw [upper] at moved
      revert moved
      decide
    have parts : ('?' :: '\\' :: (name ++ '\\' :: rest)).splitOn '\\' =
        ['?'] :: name :: rest.splitOn '\\' := by
      have query : '?' :: '\\' :: (name ++ '\\' :: rest) = ['?'] ++ '\\' :: (name ++ '\\' :: rest) := rfl
      rw [query, List.splitOn_append_cons_self_of_not_mem (by decide),
        List.splitOn_append_cons_self_of_not_mem plain]
    have whole : '\\' :: '\\' :: '?' :: '\\' :: (name ++ '\\' :: rest) =
        ('\\' :: '\\' :: '?' :: '\\' :: (name ++ ['\\'])) ++ rest := by simp
    rw [splitDrive_share unc whole (by rw [if_pos device]; simp [length]), pieces, parts,
      skip_device (List.splitOn_ne_nil _ _) upper]
    match found : rest.splitOn '\\' with
    | [] => exact absurd found (List.splitOn_ne_nil _ _)
    | [server] => rfl
    | [server, share] => rfl
    | server :: share :: next :: more =>
      rw [if_neg (by simp)]
      simp
  · have start : skip ([] :: [] :: body.splitOn '\\') = 2 := by
      match found : body.splitOn '\\' with
      | [] => rfl
      | [_] => rfl
      | [_, _] => rfl
      | query :: name :: next :: more =>
        refine if_neg ?_
        rintro ⟨rfl, upper⟩
        refine device (device_iff.mpr ⟨name, ['\\'].intercalate (next :: more), upper, ?_⟩)
        rw [← List.intercalate_pieces '\\' body, found]
        simp
    rw [@splitDrive_share _ ['\\', '\\'] _ unc rfl (by rw [if_neg device]; rfl), pieces, start]
    match found : body.splitOn '\\' with
    | [] => exact absurd found (List.splitOn_ne_nil _ _)
    | [server] => rfl
    | [server, share] => rfl
    | server :: share :: next :: more =>
      rw [if_neg (by simp)]
      simp

theorem skip_le (pieces : List (List Char)) : 2 ≤ skip pieces := by
  unfold skip
  split
  · split <;> omega
  · exact le_rfl

/-- The pieces after the share do not matter for the start of the server. -/
theorem skip_append {pieces tail : List (List Char)} (long : skip pieces + 2 < pieces.length) (some : tail ≠ []) :
    skip (pieces.take (skip pieces + 2) ++ tail) = skip pieces := by
  obtain ⟨next, more, rfl⟩ := List.exists_cons_of_ne_nil some
  match pieces, long with
  | a :: b :: query :: name :: x :: rest, long =>
    by_cases device : query = ['?'] ∧ name.map Char.toUpper = ['U', 'N', 'C']
    · have four : skip (a :: b :: query :: name :: x :: rest) = 4 := if_pos device
      rw [four]
      exact if_pos device
    · have two : skip (a :: b :: query :: name :: x :: rest) = 2 := if_neg device
      rw [two]
      exact if_neg device
  | [_, _, _, _], long => exact absurd long (by simp [skip])
  | [_, _, _], long => exact absurd long (by simp [skip])
  | [_, _], long => exact absurd long (by simp [skip])
  | [_], long => exact absurd long (by simp [skip])
  | [], long => exact absurd long (by simp [skip])

section Normpath

variable {path : String} {drive rest : List Char}

/-- `normpath` of a path that is all drive. -/
theorem toList_ntNormpath_drive (some : (Text.replaceChar '/' '\\' path).toList ≠ [])
    (split : splitDrive (Text.replaceChar '/' '\\' path).toList = ((Text.replaceChar '/' '\\' path).toList, [])) :
    (ntNormpath path).toList = (Text.replaceChar '/' '\\' path).toList := by
  have parts : ∀ rooted, collapse rooted (([] : List Char).splitOn '\\' |>.map String.ofList) = [] := by
    intro rooted
    rfl
  simp only [ntNormpath, split, List.head?_nil, reduceCtorEq, ↓reduceIte, List.dropWhile_nil, parts]
  rw [if_neg fun none => some none.1]
  rw [String.toList_append, String.toList_ofList, toList_join]
  exact List.append_nil _

/-- `normpath` of a path with a root. -/
theorem toList_ntNormpath_rooted
    (split : splitDrive (Text.replaceChar '/' '\\' path).toList = (drive, '\\' :: rest)) :
    (ntNormpath path).toList =
      drive ++ '\\' :: ['\\'].intercalate (reduced '\\' (rest.dropWhile (· == '\\'))) := by
  have ends : (drive ++ ['\\']).getLast? = some '\\' := List.getLast?_concat
  have lead : drive ++ ['\\'] ≠ [] := by simp
  simp only [ntNormpath, split, List.head?_cons, ↓reduceIte, ends, decide_true]
  rw [if_neg fun none => lead none.1, List.dropWhile_cons_of_pos (by simp), String.toList_append,
    String.toList_ofList, toList_join, List.append_assoc, List.singleton_append]
  rfl

theorem toList_replaceChar : (Text.replaceChar '/' '\\' path).toList =
    path.toList.map fun c => if c = '/' then '\\' else c := String.toList_ofList

theorem mem_replaceChar {c : Char} (inside : c ∈ (Text.replaceChar '/' '\\' path).toList) :
    c = '\\' ∨ c ∈ path.toList := by
  rw [toList_replaceChar, List.mem_map] at inside
  obtain ⟨before, member, rfl⟩ := inside
  split
  · exact .inl rfl
  · exact .inr member

theorem splitDrive_append (cs : List Char) : (splitDrive cs).1 ++ (splitDrive cs).2 = cs := by
  unfold splitDrive
  split
  · dsimp only
    split
    · exact List.append_nil cs
    · split
      · exact List.append_nil cs
      · exact List.take_append_drop _ cs
  · split
    · exact List.take_append_drop 2 cs
    · rfl

theorem mem_ntNormpath_rooted {c : Char}
    (split : splitDrive (Text.replaceChar '/' '\\' path).toList = (drive, '\\' :: rest))
    (inside : c ∈ (ntNormpath path).toList) : c = '\\' ∨ c ∈ path.toList := by
  have whole := splitDrive_append (Text.replaceChar '/' '\\' path).toList
  rw [split] at whole
  have chars : ∀ c, c ∈ drive ++ '\\' :: rest → c = '\\' ∨ c ∈ path.toList := fun c member =>
    mem_replaceChar (whole ▸ member)
  rw [toList_ntNormpath_rooted split, List.mem_append] at inside
  rcases inside with inDrive | inside
  · exact chars c (List.mem_append_left _ inDrive)
  · rcases List.mem_cons.mp inside with isSep | inside
    · exact .inl isSep
    · obtain isSep | ⟨part, member, inside⟩ := mem_intercalate inside
      · exact .inl isSep
      · have inRest := (List.dropWhile_sublist _).mem (mem_reduced member inside)
        exact chars c (List.mem_append_right _ (List.mem_cons_of_mem _ inRest))

theorem replaceChar_eq_self (plain : '/' ∉ path.toList) : Text.replaceChar '/' '\\' path = path := by
  refine String.toList_injective ?_
  rw [toList_replaceChar]
  refine (List.map_congr_left fun c member => ?_).trans (List.map_id _)
  refine if_neg ?_
  rintro rfl
  exact plain member

theorem slash_not_mem_replaceChar : '/' ∉ (Text.replaceChar '/' '\\' path).toList := by
  rw [toList_replaceChar, List.mem_map]
  rintro ⟨c, -, same⟩
  split at same
  · cases same
  · contradiction

/-- Leading separators aside, a text of clean components starts with one. -/
theorem dropWhile_intercalate {parts : List (List Char)} (clean : ∀ part ∈ parts, Clean '\\' part) :
    (['\\'].intercalate parts).dropWhile (· == '\\') = ['\\'].intercalate parts := by
  match parts with
  | [] => rfl
  | part :: rest =>
    have own := clean part List.mem_cons_self
    obtain ⟨first, more, rfl⟩ := List.exists_cons_of_ne_nil own.some
    have other : first ≠ '\\' := fun same => own.whole (same ▸ List.mem_cons_self)
    rw [List.intercalate_cons_cons_left, List.dropWhile_cons_of_neg (by simpa using other)]

end Normpath

theorem intercalate_append {sep : Char} {back : List (List Char)} (some : back ≠ []) :
    ∀ {front : List (List Char)}, front ≠ [] →
      [sep].intercalate (front ++ back) = [sep].intercalate front ++ sep :: [sep].intercalate back
  | [part], _ => by
    rw [List.singleton_append, List.intercalate_cons_of_ne_nil some, List.intercalate_singleton,
      List.append_assoc, List.singleton_append]
  | part :: next :: rest, _ => by
    have later := @intercalate_append sep _ some _ (List.cons_ne_nil next rest)
    rw [List.cons_append] at later
    rw [List.cons_append, List.cons_append, List.intercalate_cons_cons, later, List.intercalate_cons_cons]
    simp only [List.append_assoc, List.cons_append, List.nil_append]

section Unc

/-- The pieces of a UNC path that is all drive, or ends at its root, or goes on with clean components. -/
structure UncPieces (pieces : List (List Char)) : Prop where
  start : ∃ server rest, pieces = [] :: [] :: server :: rest
  whole : ∀ piece ∈ pieces, '\\' ∉ piece ∧ '/' ∉ piece
  parts : pieces.length ≤ skip pieces + 2 ∨ pieces.drop (skip pieces + 2) = [[]] ∨
    ∀ part ∈ pieces.drop (skip pieces + 2), Clean '\\' part

def UncNormal (cs : List Char) : Prop :=
  ∃ pieces, UncPieces pieces ∧ cs = ['\\'].intercalate pieces

variable {path : String} {pieces : List (List Char)} {cs : List Char}

theorem UncPieces.splitOn (normal : UncPieces pieces) : (['\\'].intercalate pieces).splitOn '\\' = pieces := by
  obtain ⟨server, rest, same⟩ := normal.start
  exact List.splitOn_intercalate _ (fun piece member => (normal.whole piece member).1) (by simp [same])

theorem UncPieces.unc (normal : UncPieces pieces) :
    (['\\'].intercalate pieces).take 2 = ['\\', '\\'] := by
  obtain ⟨server, rest, rfl⟩ := normal.start
  rw [List.intercalate_cons_cons, List.intercalate_cons_cons]
  rfl

theorem UncPieces.plain (normal : UncPieces pieces) : '/' ∉ ['\\'].intercalate pieces := by
  intro inside
  obtain isSep | ⟨piece, member, inside⟩ := mem_intercalate inside
  · cases isSep
  · exact (normal.whole piece member).2 inside

/-- A UNC path starts with two empty pieces. -/
theorem pieces_of_unc (unc : cs.take 2 = ['\\', '\\']) :
    ∃ server rest, cs.splitOn '\\' = [] :: [] :: server :: rest := by
  obtain ⟨body, rfl⟩ : ∃ body, cs = '\\' :: '\\' :: body :=
    ⟨cs.drop 2, by rw [← List.take_append_drop 2 cs, unc]; rfl⟩
  obtain ⟨server, rest, same⟩ := List.exists_cons_of_ne_nil (List.splitOn_ne_nil '\\' body)
  refine ⟨server, rest, ?_⟩
  rw [List.splitOn_cons_eq_if_modifyHead, if_pos (beq_self_eq_true _),
    List.splitOn_cons_eq_if_modifyHead, if_pos (beq_self_eq_true _), same]

/-- **What `normpath` leaves of a UNC path is normal.** -/
theorem uncNormal_ntNormpath (unc : (Text.replaceChar '/' '\\' path).toList.take 2 = ['\\', '\\']) :
    UncNormal (ntNormpath path).toList := by
  have split := splitDrive_unc unc
  have backslashes := @slash_not_mem_replaceChar path
  generalize whole : (Text.replaceChar '/' '\\' path).toList = cs at unc split backslashes
  obtain ⟨server, rest, start⟩ := pieces_of_unc unc
  have pieces : ∀ piece ∈ cs.splitOn '\\', '\\' ∉ piece ∧ '/' ∉ piece := by
    intro piece member
    refine ⟨List.not_mem_of_mem_splitOn member, fun inside => backslashes ?_⟩
    rw [← List.intercalate_pieces '\\' cs]
    exact mem_intercalate_of_mem member inside
  split_ifs at split with short
  · rw [toList_ntNormpath_drive (whole ▸ fun none => by rw [none] at unc; cases unc) (whole ▸ split), whole]
    exact ⟨_, ⟨⟨server, rest, start⟩, pieces, .inl short⟩, (List.intercalate_splitOn _).symm⟩
  · have long := not_le.mp short
    rw [toList_ntNormpath_rooted ((congrArg splitDrive whole).trans split)]
    generalize tail : (cs.splitOn '\\').drop (skip (cs.splitOn '\\') + 2) = after
    have clean := @reduced_clean '\\' ((['\\'].intercalate after).dropWhile (· == '\\'))
    have chars : ∀ part ∈ reduced '\\' ((['\\'].intercalate after).dropWhile (· == '\\')), '/' ∉ part := by
      intro part member inside
      have inside := (List.dropWhile_sublist _).mem (mem_reduced member inside)
      obtain isSep | ⟨piece, member, inside⟩ := mem_intercalate inside
      · cases isSep
      · rw [← tail] at member
        exact (pieces piece (List.mem_of_mem_drop member)).2 inside
    generalize reduced '\\' ((['\\'].intercalate after).dropWhile (· == '\\')) = parts at clean chars
    obtain ⟨kept, keeps, same, some, ends⟩ : ∃ kept : List (List Char),
        (∀ part ∈ kept, '\\' ∉ part ∧ '/' ∉ part) ∧ ['\\'].intercalate kept = ['\\'].intercalate parts ∧
          kept ≠ [] ∧ (kept = [[]] ∨ ∀ part ∈ kept, Clean '\\' part) := by
      by_cases none : parts = []
      · refine ⟨[[]], fun part member => ?_, by rw [none]; rfl, List.cons_ne_nil _ _, .inl rfl⟩
        rw [List.mem_singleton.mp member]
        exact ⟨List.not_mem_nil, List.not_mem_nil⟩
      · exact ⟨parts, fun part member => ⟨(clean part member).whole, chars part member⟩, rfl, none, .inr clean⟩
    have front : (cs.splitOn '\\').take (skip (cs.splitOn '\\') + 2) ≠ [] := by
      rw [start]
      simp
    have length : ((cs.splitOn '\\').take (skip (cs.splitOn '\\') + 2)).length =
        skip (cs.splitOn '\\') + 2 := by
      rw [List.length_take]
      omega
    have again := skip_append long some
    refine ⟨(cs.splitOn '\\').take (skip (cs.splitOn '\\') + 2) ++ kept, ⟨?_, ?_, ?_⟩, ?_⟩
    · have more := skip_le (cs.splitOn '\\')
      rw [start] at more ⊢
      obtain ⟨n, place⟩ := Nat.exists_eq_add_of_le more
      rw [place]
      exact ⟨server, rest.take (n + 1) ++ kept, by
        rw [show 2 + n + 2 = (n + 1) + 1 + 1 + 1 by omega]
        simp⟩
    · intro piece member
      rcases List.mem_append.mp member with inside | inside
      · exact pieces piece (List.mem_of_mem_take inside)
      · exact keeps piece inside
    · refine .inr ?_
      rw [again, List.drop_left' length]
      exact ends
    · rw [intercalate_append some front, same]

theorem mem_ntNormpath_unc {c : Char} (unc : (Text.replaceChar '/' '\\' path).toList.take 2 = ['\\', '\\'])
    (inside : c ∈ (ntNormpath path).toList) : c = '\\' ∨ c ∈ path.toList := by
  have split := splitDrive_unc unc
  split_ifs at split with short
  · rw [toList_ntNormpath_drive (fun none => by rw [none] at unc; cases unc) split] at inside
    exact mem_replaceChar inside
  · exact mem_ntNormpath_rooted split inside

/-- `normpath` that loses no separator of a UNC path changes nothing, or leaves the root. -/
theorem ntNormpath_unc_same_count (unc : (Text.replaceChar '/' '\\' path).toList.take 2 = ['\\', '\\'])
    (same : (ntNormpath path).toList.count '\\' = (Text.replaceChar '/' '\\' path).toList.count '\\') :
    (ntNormpath path).toList = (Text.replaceChar '/' '\\' path).toList ∨
      (ntNormpath path).toList.getLast? = some '\\' := by
  have split := splitDrive_unc unc
  generalize whole : (Text.replaceChar '/' '\\' path).toList = cs at unc split same ⊢
  obtain ⟨server, rest, start⟩ := pieces_of_unc unc
  split_ifs at split with short
  · refine .inl ?_
    rw [toList_ntNormpath_drive (whole ▸ fun none => by rw [none] at unc; cases unc) (whole ▸ split), whole]
  · have front : (cs.splitOn '\\').take (skip (cs.splitOn '\\') + 2) ≠ [] := by
      rw [start]
      simp
    have back : (cs.splitOn '\\').drop (skip (cs.splitOn '\\') + 2) ≠ [] := by
      intro none
      exact short (List.drop_eq_nil_iff.mp none)
    have parts := @intercalate_append '\\' _ back _ front
    rw [List.take_append_drop, List.intercalate_splitOn] at parts
    have result := toList_ntNormpath_rooted ((congrArg splitDrive whole).trans split)
    rw [reduced_dropWhile] at result
    generalize ['\\'].intercalate ((cs.splitOn '\\').drop (skip (cs.splitOn '\\') + 2)) = tail at parts result
    generalize ['\\'].intercalate ((cs.splitOn '\\').take (skip (cs.splitOn '\\') + 2)) = drive at parts result
    rw [result, parts, List.count_append, List.count_append, List.count_cons_self, List.count_cons_self] at same
    obtain none | kept := @reduced_same_count '\\' tail (by omega)
    · refine .inr ?_
      rw [result, none]
      exact List.getLast?_concat
    · refine .inl ?_
      rw [result, kept, parts]

/-- **`normpath` leaves a normal UNC path alone.** -/
theorem ntNormpath_of_unc (normal : UncNormal path.toList) : ntNormpath path = path := by
  obtain ⟨pieces, normal, whole⟩ := normal
  have plain : Text.replaceChar '/' '\\' path = path := replaceChar_eq_self (whole ▸ normal.plain)
  have unc := normal.unc
  have split := splitDrive_unc unc
  rw [normal.splitOn, ← whole] at split
  refine String.toList_injective ?_
  split_ifs at split with short
  · rw [toList_ntNormpath_drive (plain.symm ▸ whole ▸ fun none => by rw [none] at unc; cases unc)
      (plain.symm ▸ split), plain]
  · rw [toList_ntNormpath_rooted (plain.symm ▸ split)]
    have front : pieces.take (skip pieces + 2) ≠ [] := by
      obtain ⟨server, rest, same⟩ := normal.start
      rw [same]
      simp
    have back : pieces.drop (skip pieces + 2) ≠ [] := by
      intro none
      exact short (List.drop_eq_nil_iff.mp none)
    have kept : ['\\'].intercalate (reduced '\\'
        ((['\\'].intercalate (pieces.drop (skip pieces + 2))).dropWhile (· == '\\'))) =
          ['\\'].intercalate (pieces.drop (skip pieces + 2)) := by
      obtain long | root | clean := normal.parts
      · exact absurd long short
      · rw [root]
        rfl
      · rw [dropWhile_intercalate clean, reduced_of_clean clean]
    rw [kept, ← intercalate_append back front, List.take_append_drop, whole]

/-- A transformation that leaves the syntax of paths alone keeps it normal. -/
theorem UncNormal.map {f : List Char → List Char} {fixed blank : Char → Bool} (inert : Inert f fixed blank)
    (dot : fixed '.' = true) (slash : fixed '/' = true) (sep : fixed '\\' = true) (query : fixed '?' = true)
    (device : ∀ name : List Char, (f name).map Char.toUpper = ['U', 'N', 'C'] ↔
      name.map Char.toUpper = ['U', 'N', 'C']) (normal : UncNormal cs) : UncNormal (f cs) := by
  obtain ⟨pieces, normal, rfl⟩ := normal
  have same : skip (pieces.map f) = skip pieces := by
    match pieces with
    | a :: b :: q :: name :: x :: rest =>
      have isQuery : f q = ['?'] ↔ q = ['?'] := inert.eq_fixed_iff (by simpa using query) q
      simp only [List.map_cons, skip, isQuery, device]
    | [_, _, _, _] => rfl
    | [_, _, _] => rfl
    | [_, _] => rfl
    | [_] => rfl
    | [] => rfl
  refine ⟨pieces.map f, ⟨?_, fun piece member => ?_, ?_⟩, inert.intercalate sep pieces⟩
  · obtain ⟨server, rest, start⟩ := normal.start
    rw [start]
    exact ⟨f server, rest.map f, by rw [List.map_cons, List.map_cons, List.map_cons, inert.nil]⟩
  · obtain ⟨before, inside, rfl⟩ := List.mem_map.mp member
    rw [inert.mem_fixed sep, inert.mem_fixed slash]
    exact normal.whole before inside
  · rw [same, List.length_map, ← List.map_drop]
    refine normal.parts.imp_right fun ends => ends.imp (fun root => ?_) fun clean part member => ?_
    · rw [root, List.map_singleton, inert.nil]
    · obtain ⟨before, inside, rfl⟩ := List.mem_map.mp member
      exact (clean before inside).map inert dot sep

end Unc

section Drive

/-- A drive, its root and clean components. -/
def DriveNormal (letter : Char) (cs : List Char) : Prop :=
  ∃ parts : List (List Char), (∀ part ∈ parts, Clean '\\' part ∧ '/' ∉ part) ∧
    cs = letter :: ':' :: '\\' :: ['\\'].intercalate parts

variable {path : String} {letter sep : Char} {rest : List Char}

theorem splitDrive_letter (other : letter ≠ '\\') (rest : List Char) :
    splitDrive (letter :: ':' :: rest) = ([letter, ':'], rest) := by
  have mark : ((letter :: ':' :: rest).drop 1).take 1 = [':'] := rfl
  rw [splitDrive, if_neg (by simp [other]), if_pos mark]
  rfl

/-- What `normpath` leaves of an absolute path on a drive is normal. -/
theorem driveNormal_ntNormpath (other : letter ≠ '\\') (other' : letter ≠ '/') (isSep : sep = '\\' ∨ sep = '/')
    (chars : path.toList = letter :: ':' :: sep :: rest) : DriveNormal letter (ntNormpath path).toList := by
  have whole : (Text.replaceChar '/' '\\' path).toList =
      letter :: ':' :: '\\' :: rest.map fun c => if c = '/' then '\\' else c := by
    rw [toList_replaceChar, chars, List.map_cons, List.map_cons, List.map_cons, if_neg other',
      if_neg (by decide)]
    obtain rfl | rfl := isSep
    · rw [if_neg (by decide)]
    · rw [if_pos rfl]
  have split := (congrArg splitDrive whole).trans (splitDrive_letter other _)
  have backslashes := @slash_not_mem_replaceChar path
  rw [whole] at backslashes
  refine ⟨_, fun part member => ⟨reduced_clean _ part member, fun inside => backslashes ?_⟩,
    toList_ntNormpath_rooted split⟩
  have inside := (List.dropWhile_sublist _).mem (mem_reduced member inside)
  exact List.mem_cons_of_mem _ (List.mem_cons_of_mem _ (List.mem_cons_of_mem _ inside))

/-- `normpath` leaves it alone. -/
theorem ntNormpath_of_drive (other : letter ≠ '\\') (other' : letter ≠ '/')
    (normal : DriveNormal letter path.toList) : ntNormpath path = path := by
  obtain ⟨parts, clean, chars⟩ := normal
  have plain : Text.replaceChar '/' '\\' path = path := by
    refine replaceChar_eq_self ?_
    rw [chars]
    simp only [List.mem_cons, Ne.symm other', Char.reduceEq, false_or]
    intro inside
    obtain isSep | ⟨part, member, inside⟩ := mem_intercalate inside
    · cases isSep
    · exact (clean part member).2 inside
  have split : splitDrive (Text.replaceChar '/' '\\' path).toList = _ :=
    (congrArg splitDrive (plain.symm ▸ chars)).trans (splitDrive_letter other _)
  refine String.toList_injective ?_
  have cleans : ∀ part ∈ parts, Clean '\\' part := fun part member => (clean part member).1
  rw [toList_ntNormpath_rooted split, dropWhile_intercalate cleans, reduced_of_clean cleans, chars]
  rfl

/-- `normpath` that loses no separator changes nothing after the drive, or leaves its root. -/
theorem ntNormpath_drive_same_count (other : letter ≠ '\\') (plain : '/' ∉ path.toList)
    (chars : path.toList = letter :: ':' :: '\\' :: rest)
    (same : (ntNormpath path).toList.count '\\' = path.toList.count '\\') :
    ntNormpath path = path ∨ (ntNormpath path).toList.getLast? = some '\\' := by
  have whole : Text.replaceChar '/' '\\' path = path := replaceChar_eq_self plain
  have split : splitDrive (Text.replaceChar '/' '\\' path).toList = ([letter, ':'], '\\' :: rest) := by
    rw [whole, chars]
    exact splitDrive_letter other _
  have result := toList_ntNormpath_rooted split
  rw [reduced_dropWhile] at result
  have shape : path.toList = [letter, ':'] ++ '\\' :: rest := chars
  rw [result, shape, List.count_append, List.count_append, List.count_cons_self, List.count_cons_self] at same
  obtain none | kept := @reduced_same_count '\\' rest (by omega)
  · refine .inr ?_
    rw [result, none]
    exact List.getLast?_concat
  · refine .inl (String.toList_injective ?_)
    rw [result, kept, chars]
    rfl

end Drive

end Windows

section Pure

namespace Pure

/-- A part that `pathlib` keeps. -/
def Solid (part : String) : Prop := part ≠ "" ∧ part ≠ "." ∧ '/' ∉ part.toList

theorem solid_parse (raw : String) : ∀ part ∈ (parse raw).parts, Solid part := by
  intro part member
  obtain ⟨inside, kept⟩ := List.mem_filter.mp member
  obtain ⟨chars, piece, rfl⟩ := List.mem_map.mp inside
  rw [Bool.and_eq_true, decide_eq_true_eq, decide_eq_true_eq] at kept
  refine ⟨kept.1, kept.2, ?_⟩
  rw [String.toList_ofList]
  exact List.not_mem_of_mem_splitOn piece

theorem root_parse (raw : String) :
    (parse raw).root = "" ∨ (parse raw).root = "/" ∨ (parse raw).root = "//" := by
  unfold parse
  dsimp only
  split
  · exact .inr (.inl rfl)
  · exact .inr (.inr rfl)
  · exact .inr (.inl rfl)
  · exact .inl rfl

/-- The parts of joined parts are those parts. -/
theorem kept_intercalate {parts : List String} (solid : ∀ part ∈ parts, Solid part) :
    (((['/'].intercalate (parts.map String.toList)).splitOn '/').map String.ofList).filter
      (fun part => part ≠ "" && part ≠ ".") = parts := by
  cases parts with
  | nil => rfl
  | cons first rest =>
    have whole : ∀ chars ∈ (first :: rest).map String.toList, '/' ∉ chars := by
      intro chars member
      obtain ⟨part, inside, rfl⟩ := List.mem_map.mp member
      exact (solid part inside).2.2
    have pieces := List.splitOn_intercalate '/' whole (List.cons_ne_nil _ _)
    have texts : ((first :: rest).map String.toList).map String.ofList = first :: rest := by
      rw [List.map_map]
      exact (List.map_congr_left fun _ _ => String.ofList_toList).trans (List.map_id _)
    rw [pieces, texts, List.filter_eq_self]
    intro part member
    obtain ⟨nonempty, dotless, -⟩ := solid part member
    simp [nonempty, dotless]

/-- Joined parts do not start with a slash. -/
theorem intercalate_head {parts : List String} (solid : ∀ part ∈ parts, Solid part) {rest : List Char} :
    ['/'].intercalate (parts.map String.toList) ≠ '/' :: rest := by
  intro same
  cases parts with
  | nil => cases same
  | cons first others =>
    obtain ⟨nonempty, -, whole⟩ := solid first List.mem_cons_self
    cases chars : first.toList with
    | nil => exact nonempty (String.toList_injective chars)
    | cons c more =>
      have start : (['/'].intercalate ((first :: others).map String.toList)).head? = some c := by
        cases others with
        | nil => simp [chars]
        | cons next others => simp [List.map_cons, List.intercalate_cons_cons, chars]
      rw [same] at start
      obtain rfl := Option.some.inj start
      exact whole (chars ▸ List.mem_cons_self)

theorem parse_root_join {root : String} {parts : List String}
    (rooted : root = "" ∧ parts ≠ [] ∨ root = "/" ∨ root = "//") (solid : ∀ part ∈ parts, Solid part) :
    parse (root ++ Text.join "/" parts) = ⟨root, parts⟩ := by
  have chars : (root ++ Text.join "/" parts).toList =
      root.toList ++ ['/'].intercalate (parts.map String.toList) := by
    rw [String.toList_append, toList_join]
    rfl
  have kept := kept_intercalate solid
  have head := @intercalate_head parts solid
  have slash : ∀ cs : List Char, ('/' :: cs).splitOn '/' = [] :: cs.splitOn '/' := fun cs => by
    rw [List.splitOn_cons_eq_if_modifyHead, if_pos (beq_self_eq_true _)]
  unfold parse Text.split
  rw [chars]
  revert kept head
  generalize ['/'].intercalate (parts.map String.toList) = cs
  intro kept head
  rcases rooted with ⟨rfl, -⟩ | rfl | rfl
  · rw [show "".toList ++ cs = cs from rfl, kept]
    cases cs with
    | nil => rfl
    | cons c rest =>
      by_cases isSlash : c = '/'
      · exact absurd (by rw [isSlash]) (@head rest)
      · simp [isSlash]
  · rw [show "/".toList ++ cs = '/' :: cs from rfl, slash, List.map_cons, List.filter_cons_of_neg (by decide), kept]
    cases cs with
    | nil => rfl
    | cons c rest =>
      by_cases isSlash : c = '/'
      · exact absurd (by rw [isSlash]) (@head rest)
      · simp [isSlash]
  · rw [show "//".toList ++ cs = '/' :: '/' :: cs from rfl, slash, slash, List.map_cons, List.map_cons,
      List.filter_cons_of_neg (by decide), List.filter_cons_of_neg (by decide), kept]
    cases cs with
    | nil => rfl
    | cons c rest =>
      by_cases isSlash : c = '/'
      · exact absurd (by rw [isSlash]) (@head rest)
      · simp

/-- Reading a path that has been written gives the same path. -/
theorem parse_text (raw : String) : parse (parse raw).text = parse raw := by
  have solid := solid_parse raw
  have root := root_parse raw
  revert solid root
  generalize parse raw = path
  intro solid root
  obtain ⟨root, parts⟩ := path
  dsimp only at solid root
  unfold text
  split
  · rename_i empty
    obtain ⟨rfl, rfl⟩ := empty
    decide
  · rename_i some
    refine parse_root_join ?_ solid
    rcases root with rfl | rooted
    · exact .inl ⟨rfl, fun none => some ⟨rfl, none⟩⟩
    · exact .inr rooted

/-- Two paths that are written alike are the same. -/
theorem text_parse_inj {raw other : String} : (parse raw).text = (parse other).text ↔ parse raw = parse other := by
  constructor
  · intro same
    rw [← parse_text raw, same, parse_text]
  · exact congrArg text

end Pure

end Pure

end Path

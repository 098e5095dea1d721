import Coordinate.Library.PathNormal
import Coordinate.Model.ExecutionResources

/-! # What worktree path normalization accepts and returns

The documented behaviour of the Unicode functions that it uses, what it returns for each flavour of path, and
the condition under which what it returns is left alone by a second application.
-/

namespace Coordinate

variable [Platform]

section Unicode

/-- The characters of a path that Unicode normalization and case folding leave alone wherever they stand. -/
def isPathMark (c : Char) : Bool :=
  Text.isControl c || c == '/' || c == '\\' || c == '.' || c == ':' || c == '?'

/-- A space that is not a control character; normalization may turn it into another one. -/
def isBlankMark (c : Char) : Bool :=
  Text.isSpace c && !Text.isControl c

def nfcChars (cs : List Char) : List Char :=
  (Platform.nfc (String.ofList cs)).toList

def casefoldChars (cs : List Char) : List Char :=
  (Platform.casefold (String.ofList cs)).toList

/-- `unicodedata.normalize("NFC", text).casefold()`. -/
def foldChars (cs : List Char) : List Char :=
  casefoldChars (nfcChars cs)

/-- The documented behaviour of normalization, case folding and letters on the marks of paths. -/
structure UnicodeLaws : Prop where
  nfc : Inert nfcChars isPathMark isBlankMark
  casefold : Inert casefoldChars isPathMark isBlankMark
  nfc_nfc : ∀ text, Platform.nfc (Platform.nfc text) = Platform.nfc text
  device : ∀ name : List Char, (foldChars name).map Char.toUpper = ['U', 'N', 'C'] ↔
    name.map Char.toUpper = ['U', 'N', 'C']
  isalpha : ∀ c, Platform.isalpha c = true → (isPathMark c || isBlankMark c) = false
  lower : ∀ c, Platform.isalpha c = true →
    ∀ d ∈ (Platform.lower c).toList, (isPathMark d || isBlankMark d) = false

theorem UnicodeLaws.fold (laws : UnicodeLaws) : Inert foldChars isPathMark isBlankMark :=
  laws.casefold.comp laws.nfc

theorem toList_nfc (text : String) : (Platform.nfc text).toList = nfcChars text.toList := by
  rw [nfcChars, String.ofList_toList]

theorem toList_fold (text : String) :
    (Platform.casefold (Platform.nfc text)).toList = foldChars text.toList := by
  rw [foldChars, casefoldChars, nfcChars, String.ofList_toList, String.ofList_toList]

omit [Platform] in
theorem isSpace_of_not_mark {c : Char} (plain : (isPathMark c || isBlankMark c) = false) :
    Text.isSpace c = false := by
  simp only [isPathMark, isBlankMark, Bool.or_eq_false_iff, Bool.and_eq_false_iff, Bool.not_eq_false'] at plain
  obtain ⟨⟨⟨⟨⟨⟨control, -⟩, -⟩, -⟩, -⟩, -⟩, space | control'⟩ := plain
  · exact space
  · rw [control] at control'
    cases control'

omit [Platform] in
theorem isBlankMark_iff {c : Char} (control : Text.isControl c = false) : isBlankMark c = Text.isSpace c := by
  rw [isBlankMark, control, Bool.not_false, Bool.and_true]

end Unicode

section Spec

variable {path r s : String}

/-- The checks before a path's flavour is looked at. -/
structure Admitted (s : String) : Prop where
  some : s ≠ ""
  bounded : s.toList.length ≤ maxPathLen
  plain : Text.hasControl s = false

/-- What a path becomes, for each flavour. -/
inductive Normalizes (s : String) : String → Prop where
  | unc (unc : isWindowsUnc s.toList = true) :
    Normalizes s (Platform.casefold (Platform.nfc (Path.ntNormpath s)))
  | drive {letter sep : Char} {rest : List Char} (chars : s.toList = letter :: ':' :: sep :: rest)
      (alpha : Platform.isalpha letter = true) (isSep : sep = '\\' ∨ sep = '/') :
    Normalizes s (Platform.casefold (Platform.nfc
      (Platform.lower letter ++ ":" ++ Text.dropPrefix (Path.ntNormpath s) 2)))
  | posix {rest : List Char} (chars : s.toList = '/' :: rest) (single : rest.head? ≠ some '/') :
    Normalizes s (Platform.nfc (Path.posixNormpath s))

omit [Platform] in
theorem take_of_unc (unc : isWindowsUnc s.toList = true) :
    (Text.replaceChar '/' '\\' s).toList.take 2 = ['\\', '\\'] := by
  simp only [isWindowsUnc, Bool.or_eq_true, decide_eq_true_eq] at unc
  rw [Path.toList_replaceChar, ← List.map_take]
  obtain first | first := unc <;> rw [first] <;> rfl

theorem letter_ne (laws : UnicodeLaws) {letter : Char} (alpha : Platform.isalpha letter = true) :
    letter ≠ '\\' ∧ letter ≠ '/' := by
  have plain := laws.isalpha letter alpha
  constructor <;> rintro rfl <;> exact absurd plain (by decide)

theorem isWindowsDrive_iff {cs : List Char} : isWindowsDrive cs = true ↔
    ∃ letter rest, cs = letter :: ':' :: rest ∧ Platform.isalpha letter = true := by
  constructor
  · intro drive
    unfold isWindowsDrive at drive
    split at drive
    · exact ⟨_, _, rfl, drive⟩
    · cases drive
  · rintro ⟨letter, rest, rfl, alpha⟩
    exact alpha

omit [Platform] in
/-- The lexical form of a UNC path. -/
theorem normpath_unc (unc : isWindowsUnc s.toList = true) :
    ¬ (Path.ntNormpath s = "." ∨ Path.ntNormpath s = "") ∧
      Text.replaceChar '/' '\\' (Path.ntNormpath s) = Path.ntNormpath s := by
  obtain ⟨pieces, normal, whole⟩ := Path.uncNormal_ntNormpath (take_of_unc unc)
  refine ⟨?_, Path.replaceChar_eq_self (whole ▸ normal.plain)⟩
  have start := normal.unc
  rw [← whole] at start
  rintro (same | same) <;> rw [same] at start <;> exact absurd start (by decide)

/-- The lexical form of an absolute path on a drive. -/
theorem normpath_drive (laws : UnicodeLaws) {letter sep : Char} {rest : List Char}
    (chars : s.toList = letter :: ':' :: sep :: rest) (alpha : Platform.isalpha letter = true)
    (isSep : sep = '\\' ∨ sep = '/') :
    Path.DriveNormal letter (Path.ntNormpath s).toList ∧
      ¬ (Path.ntNormpath s = "." ∨ Path.ntNormpath s = "") ∧
      Text.replaceChar '/' '\\' (Path.ntNormpath s) = Path.ntNormpath s := by
  obtain ⟨other, other'⟩ := letter_ne laws alpha
  have normal := Path.driveNormal_ntNormpath other other' isSep chars
  obtain ⟨parts, clean, whole⟩ := normal
  refine ⟨⟨parts, clean, whole⟩, ?_, Path.replaceChar_eq_self ?_⟩
  · rintro (same | same) <;> rw [same] at whole <;> cases whole
  · rw [whole]
    simp only [List.mem_cons, Ne.symm other', Char.reduceEq, false_or]
    intro inside
    obtain isSep | ⟨part, member, inside⟩ := Path.mem_intercalate inside
    · cases isSep
    · exact (clean part member).2 inside

omit [Platform] in
theorem not_unc_of_posix {rest : List Char} (chars : s.toList = '/' :: rest) (single : rest.head? ≠ some '/') :
    isWindowsUnc s.toList = false := by
  rw [chars]
  cases rest with
  | nil => rfl
  | cons next rest =>
    have other : next ≠ '/' := fun same => single (congrArg some same)
    simp [isWindowsUnc, other]

omit [Platform] in
theorem not_unc_of_drive {letter : Char} {rest : List Char} (chars : s.toList = letter :: ':' :: rest) :
    isWindowsUnc s.toList = false := by
  rw [chars]
  simp [isWindowsUnc]

theorem normalizeWorktreePath_ok (laws : UnicodeLaws) :
    normalizeWorktreePath path = .ok r ↔ Admitted (Text.strip path) ∧ Normalizes (Text.strip path) r := by
  unfold normalizeWorktreePath
  simp only [Except.bind_ok, raiseIf_except_ok]
  generalize Text.strip path = s
  constructor
  · rintro ⟨_, some, _, bounded, _, plain, ran⟩
    have admitted : Admitted s := ⟨some, not_lt.mp bounded, Bool.eq_false_iff.mpr plain⟩
    refine ⟨admitted, ?_⟩
    split at ran
    · rename_i unc
      obtain ⟨_, -, ran⟩ := Except.bind_ok.mp ran
      cases ran
      rw [(normpath_unc unc).2]
      exact .unc unc
    · rename_i notUnc
      split at ran
      · rename_i drive
        obtain ⟨letter, rest, chars, alpha⟩ := isWindowsDrive_iff.mp drive
        obtain ⟨_, absolute, ran⟩ := Except.bind_ok.mp ran
        obtain ⟨_, -, ran⟩ := Except.bind_ok.mp ran
        have absolute := not_not.mp (raiseIf_except_ok.mp absolute)
        obtain ⟨sep, more, isSep, rfl⟩ : ∃ sep more, (sep = '\\' ∨ sep = '/') ∧ rest = sep :: more := by
          rw [chars] at absolute
          cases rest with
          | nil => rcases absolute with none | none <;> cases none
          | cons sep more =>
            exact ⟨sep, more, absolute.imp (fun same => Option.some.inj same) fun same =>
              Option.some.inj same, rfl⟩
        obtain ⟨⟨parts, -, whole⟩, -, plain⟩ := normpath_drive laws chars alpha isSep
        cases ran
        rw [plain, whole]
        exact .drive chars alpha isSep
      · obtain ⟨_, absolute, ran⟩ := Except.bind_ok.mp ran
        cases ran
        have absolute := not_not.mp (raiseIf_except_ok.mp absolute)
        obtain ⟨rest, chars⟩ : ∃ rest, s.toList = '/' :: rest := by
          obtain ⟨rest, whole⟩ := List.isPrefixOf_iff_prefix.mp absolute
          exact ⟨rest, whole.symm⟩
        refine .posix chars fun double => notUnc ?_
        obtain ⟨more, rfl⟩ : ∃ more, rest = '/' :: more := by
          cases rest with
          | nil => cases double
          | cons next more => exact ⟨more, by rw [Option.some.inj double]⟩
        rw [chars]
        rfl
  · rintro ⟨admitted, normalizes⟩
    refine ⟨(), admitted.some, (), not_lt.mpr admitted.bounded, (), Bool.eq_false_iff.mp admitted.plain, ?_⟩
    cases normalizes with
    | unc unc =>
      rw [if_pos unc]
      refine Except.bind_ok.mpr ⟨(), raiseIf_except_ok.mpr (normpath_unc unc).1, ?_⟩
      rw [(normpath_unc unc).2]
      rfl
    | @drive letter sep rest chars alpha isSep =>
      obtain ⟨⟨parts, -, whole⟩, proper, plain⟩ := normpath_drive laws chars alpha isSep
      have drive : isWindowsDrive s.toList = true := isWindowsDrive_iff.mpr ⟨letter, _, chars, alpha⟩
      rw [if_neg (Bool.eq_false_iff.mp (not_unc_of_drive chars)), if_pos drive]
      refine Except.bind_ok.mpr ⟨(), raiseIf_except_ok.mpr (not_not.mpr ?_), ?_⟩
      · rw [chars]
        exact isSep.imp (congrArg some) (congrArg some)
      refine Except.bind_ok.mpr ⟨(), raiseIf_except_ok.mpr proper, ?_⟩
      rw [plain, whole]
      rfl
    | @posix rest chars single =>
      have notDrive : isWindowsDrive s.toList = false := by
        rw [Bool.eq_false_iff]
        intro drive
        obtain ⟨letter, more, chars', alpha⟩ := isWindowsDrive_iff.mp drive
        have same := (List.cons.inj (chars.symm.trans chars')).1
        exact (letter_ne laws alpha).2 same.symm
      rw [if_neg (Bool.eq_false_iff.mp (not_unc_of_posix chars single)), if_neg (Bool.eq_false_iff.mp notDrive)]
      refine Except.bind_ok.mpr ⟨(), raiseIf_except_ok.mpr (not_not.mpr ?_), rfl⟩
      rw [Text.startsWith, chars]
      rfl

theorem Normalizes.eq_unc (normalizes : Normalizes s r) (unc : isWindowsUnc s.toList = true) :
    r = Platform.casefold (Platform.nfc (Path.ntNormpath s)) := by
  cases normalizes with
  | unc _ => rfl
  | drive chars _ _ =>
    rw [not_unc_of_drive chars] at unc
    cases unc
  | posix chars single =>
    rw [not_unc_of_posix chars single] at unc
    cases unc

theorem Normalizes.eq_posix (laws : UnicodeLaws) {rest : List Char} (normalizes : Normalizes s r)
    (chars : s.toList = '/' :: rest) (single : rest.head? ≠ some '/') :
    r = Platform.nfc (Path.posixNormpath s) := by
  cases normalizes with
  | unc unc =>
    rw [not_unc_of_posix chars single] at unc
    cases unc
  | @drive letter _ _ chars' alpha _ =>
    have same := (List.cons.inj (chars.symm.trans chars')).1
    exact absurd same.symm (letter_ne laws alpha).2
  | posix _ _ => rfl

end Spec

section Ends

omit [Platform]

variable {f : List Char → List Char} {cs : List Char}

theorem mark_of_isControl {c : Char} (control : Text.isControl c = true) : isPathMark c = true := by
  simp [isPathMark, control]

/-- Control characters are not made. -/
theorem plain_image (inert : Inert f isPathMark isBlankMark) (plain : ∀ c ∈ cs, Text.isControl c = false) :
    ∀ c ∈ f cs, Text.isControl c = false := by
  intro c member
  rw [Bool.eq_false_iff]
  intro control
  have inside := (inert.mem_fixed (mark_of_isControl control) cs).mp member
  rw [plain c inside] at control
  cases control

theorem ends_solid_iff (plain : ∀ c ∈ cs, Text.isControl c = false) :
    (∀ c ∈ cs.getLast?, Text.isSpace c = false) ↔ ¬ ∃ c, cs.getLast? = some c ∧ isBlankMark c = true := by
  simp only [not_exists, not_and, Bool.not_eq_true, Option.mem_def]
  refine forall₂_congr fun c last => ?_
  rw [isBlankMark_iff (plain c (List.mem_of_getLast? last))]

/-- A text without control characters ends in a space before and after, or neither. -/
theorem solid_iff (inert : Inert f isPathMark isBlankMark) (plain : ∀ c ∈ cs, Text.isControl c = false) :
    (∀ c ∈ (f cs).getLast?, Text.isSpace c = false) ↔ ∀ c ∈ cs.getLast?, Text.isSpace c = false := by
  rw [ends_solid_iff (plain_image inert plain), ends_solid_iff plain, inert.getLast?_blank]

theorem spaces_nil {kept spaces : List Char} (all : ∀ c ∈ spaces, Text.isSpace c = true)
    (solid : ∀ c ∈ (kept ++ spaces).getLast?, Text.isSpace c = false) : spaces = [] := by
  by_contra some
  have last := List.getLast_mem some
  rw [List.getLast?_append_of_ne_nil _ some, List.getLast?_eq_getLast_of_ne_nil some] at solid
  have space := all _ last
  rw [solid _ rfl] at space
  cases space

/-- The last component ends in a space exactly if the text does. -/
theorem last_component {sep : Char} (isSep : Text.isSpace sep = false) (cs : List Char) :
    (∀ part ∈ (cs.splitOn sep).getLast?, ∀ c ∈ part.getLast?, Text.isSpace c = false) ↔
      ∀ c ∈ cs.getLast?, Text.isSpace c = false := by
  have whole := List.intercalate_pieces sep cs
  have some := List.splitOn_ne_nil sep cs
  generalize cs.splitOn sep = pieces at whole some
  subst whole
  induction pieces with
  | nil => exact absurd rfl some
  | cons part rest ih =>
    cases rest with
    | nil => simp
    | cons next later =>
      have ih := ih (List.cons_ne_nil _ _)
      rw [List.getLast?_cons_cons, List.intercalate_cons_cons, List.append_assoc, List.singleton_append]
      refine ih.trans ?_
      by_cases none : [sep].intercalate (next :: later) = []
      · rw [none]
        simp [isSep]
      · rw [List.getLast?_append_of_ne_nil _ (List.cons_ne_nil _ _), List.getLast?_cons_of_ne_nil none]

theorem length_intercalate {sep : Char} : ∀ {parts : List (List Char)}, parts ≠ [] →
    ([sep].intercalate parts).length + 1 = (parts.map fun part => part.length + 1).sum
  | [part], _ => by simp
  | part :: next :: rest, _ => by
    have later := @length_intercalate sep _ (List.cons_ne_nil next rest)
    rw [List.map_cons, List.sum_cons, ← later, List.intercalate_cons_cons]
    simp only [List.length_append, List.length_cons, List.length_nil]
    omega

theorem stable_iff (inert : Inert f isPathMark isBlankMark) {sep : Char} (isSep : isPathMark sep = true)
    (cs : List Char) : f (f cs) = f cs ↔ ∀ piece ∈ cs.splitOn sep, f (f piece) = f piece := by
  have twice : (f (f cs)).splitOn sep = (cs.splitOn sep).map fun piece => f (f piece) := by
    rw [inert.splitOn isSep, inert.splitOn isSep, List.map_map]
    rfl
  constructor
  · intro same
    rw [same, inert.splitOn isSep] at twice
    exact fun piece member => (List.map_inj_left.mp twice piece member).symm
  · intro stable
    rw [← List.intercalate_pieces sep (f (f cs)), twice, List.map_congr_left stable, ← inert.splitOn isSep,
      List.intercalate_pieces]

end Ends

section Again

variable {s r : String}

omit [Platform] in
theorem plain_of_hasControl (plain : Text.hasControl s = false) : ∀ c ∈ s.toList, Text.isControl c = false := by
  intro c member
  rw [Bool.eq_false_iff]
  intro control
  rw [Text.hasControl, List.any_eq_false] at plain
  exact plain c member control

omit [Platform] in
theorem hasControl_of_plain (plain : ∀ c ∈ s.toList, Text.isControl c = false) : Text.hasControl s = false := by
  rw [Text.hasControl, List.any_eq_false]
  intro c member control
  rw [plain c member] at control
  cases control

omit [Platform] in
/-- Two backslashes at its start. -/
theorem start_of_unc {cs : List Char} (normal : Path.UncNormal cs) : ∃ back, cs = ['\\'] ++ '\\' :: back := by
  obtain ⟨pieces, isUnc, rfl⟩ := normal
  refine ⟨(['\\'].intercalate pieces).drop 2, ?_⟩
  have whole := List.take_append_drop 2 (['\\'].intercalate pieces)
  rw [isUnc.unc] at whole
  exact whole.symm

omit [Platform] in
theorem backslashes_of_unc {cs : List Char} (normal : Path.UncNormal cs) : '/' ∉ cs := by
  obtain ⟨pieces, isUnc, rfl⟩ := normal
  exact isUnc.plain

omit [Platform] in
theorem no_separators {sep : Char} {spaces : List Char} (isSep : Text.isSpace sep = false)
    (all : ∀ c ∈ spaces, Text.isSpace c = true) : spaces.count sep = 0 := by
  refine List.count_eq_zero.mpr fun inside => ?_
  rw [all sep inside] at isSep
  cases isSep

/-- A normal UNC path is left alone if it does not end in a space, is not too long and folds to itself. -/
theorem normalize_unc (laws : UnicodeLaws) (normal : Path.UncNormal r.toList)
    (plain : ∀ c ∈ r.toList, Text.isControl c = false) :
    normalizeWorktreePath r = .ok r ↔ (∀ c ∈ r.toList.getLast?, Text.isSpace c = false) ∧
      r.toList.length ≤ maxPathLen ∧ foldChars r.toList = r.toList := by
  obtain ⟨back, chars⟩ := start_of_unc normal
  obtain ⟨kept, spaces, stripped, rest, all, ends⟩ :=
    Text.strip_spec chars (by decide) (by rw [chars]; rintro c ⟨⟩; decide)
  have split : r.toList = (Text.strip r).toList ++ spaces := by
    rw [chars, stripped, rest]
    simp
  have unc : isWindowsUnc (Text.strip r).toList = true := by
    rw [stripped]
    rfl
  have backslashes : '/' ∉ (Text.strip r).toList := fun inside =>
    backslashes_of_unc normal (by rw [split]; exact List.mem_append_left _ inside)
  have plain' : ∀ c ∈ (Text.strip r).toList, Text.isControl c = false := fun c member =>
    plain c (by rw [split]; exact List.mem_append_left _ member)
  have fixed : Path.ntNormpath r = r := Path.ntNormpath_of_unc normal
  have inert := laws.fold
  constructor
  · intro ran
    obtain ⟨admitted, normalizes⟩ := (normalizeWorktreePath_ok laws).mp ran
    have same : r.toList = foldChars (Path.ntNormpath (Text.strip r)).toList := by
      rw [← toList_fold]
      exact congrArg String.toList (normalizes.eq_unc unc)
    have count : (Path.ntNormpath (Text.strip r)).toList.count '\\' = (Text.strip r).toList.count '\\' := by
      rw [← inert.count_fixed (by decide), ← same, split, List.count_append, no_separators (by decide) all,
        Nat.add_zero]
    have replaced := Path.replaceChar_eq_self backslashes
    have last : ∀ c ∈ (Path.ntNormpath (Text.strip r)).toList.getLast?, Text.isSpace c = false := by
      obtain kept | root := Path.ntNormpath_unc_same_count (take_of_unc unc) (by rw [count, replaced])
      · rw [kept, replaced]
        exact ends
      · rw [root]
        rintro c ⟨⟩
        decide
    have last : ∀ c ∈ r.toList.getLast?, Text.isSpace c = false := by
      rw [same]
      refine (solid_iff inert fun c member => ?_).mpr last
      obtain rfl | inside := Path.mem_ntNormpath_unc (take_of_unc unc) member
      · decide
      · exact plain' c inside
    have none : spaces = [] := spaces_nil all (split ▸ last)
    have whole : Text.strip r = r := String.toList_injective (by rw [split, none, List.append_nil])
    rw [whole] at admitted same
    rw [fixed] at same
    exact ⟨last, admitted.bounded, same.symm⟩
  · rintro ⟨last, bounded, folds⟩
    have none : spaces = [] := spaces_nil all (split ▸ last)
    have whole : Text.strip r = r := String.toList_injective (by rw [split, none, List.append_nil])
    rw [normalizeWorktreePath_ok laws, whole]
    refine ⟨⟨?_, bounded, hasControl_of_plain plain⟩, ?_⟩
    · rintro rfl
      cases chars
    · have again : Platform.casefold (Platform.nfc (Path.ntNormpath r)) = r := by
        refine String.toList_injective ?_
        rw [fixed, toList_fold, folds]
      have result := Normalizes.unc (whole ▸ unc)
      rwa [again] at result

/-- A normal POSIX path is left alone if it does not end in a space, is not too long and is in normal form. -/
theorem normalize_posix (laws : UnicodeLaws) (normal : Path.PosixNormal r.toList)
    (plain : ∀ c ∈ r.toList, Text.isControl c = false) :
    normalizeWorktreePath r = .ok r ↔ (∀ c ∈ r.toList.getLast?, Text.isSpace c = false) ∧
      r.toList.length ≤ maxPathLen ∧ nfcChars r.toList = r.toList := by
  obtain ⟨parts, clean, chars⟩ := id normal
  have single : (['/'].intercalate parts).head? ≠ some '/' := by
    match parts with
    | [] => exact fun same => by cases same
    | part :: rest =>
      have own := clean part List.mem_cons_self
      obtain ⟨first, more, rfl⟩ := List.exists_cons_of_ne_nil own.some
      rw [List.intercalate_cons_cons_left, List.head?_cons]
      exact fun same => own.whole (Option.some.inj same ▸ List.mem_cons_self)
  obtain ⟨kept, spaces, stripped, rest, all, ends⟩ :=
    @Text.strip_spec r [] _ '/' chars (by decide) (by rw [chars]; rintro c ⟨⟩; decide)
  have split : r.toList = (Text.strip r).toList ++ spaces := by
    rw [chars, stripped, rest]
    simp
  have single' : kept.head? ≠ some '/' := by
    intro double
    refine single ?_
    rw [rest]
    cases kept with
    | nil => cases double
    | cons first more => exact double
  have plain' : ∀ c ∈ (Text.strip r).toList, Text.isControl c = false := fun c member =>
    plain c (by rw [split]; exact List.mem_append_left _ member)
  have fixed : Path.posixNormpath r = r := Path.posixNormpath_of_normal normal
  have inert := laws.nfc
  constructor
  · intro ran
    obtain ⟨admitted, normalizes⟩ := (normalizeWorktreePath_ok laws).mp ran
    have same : r.toList = nfcChars (Path.posixNormpath (Text.strip r)).toList := by
      rw [← toList_nfc]
      exact congrArg String.toList (normalizes.eq_posix laws stripped single')
    have count : (Path.posixNormpath (Text.strip r)).toList.count '/' = (Text.strip r).toList.count '/' := by
      rw [← inert.count_fixed (by decide), ← same, split, List.count_append, no_separators (by decide) all,
        Nat.add_zero]
    have last : ∀ c ∈ (Path.posixNormpath (Text.strip r)).toList.getLast?, Text.isSpace c = false := by
      obtain kept | root := Path.posixNormpath_same_count stripped count
      · rw [kept]
        exact ends
      · rw [root]
        rintro c ⟨⟩
        decide
    have last : ∀ c ∈ r.toList.getLast?, Text.isSpace c = false := by
      rw [same]
      refine (solid_iff inert fun c member => ?_).mpr last
      obtain rfl | inside := Path.mem_posixNormpath member
      · decide
      · exact plain' c inside
    have none : spaces = [] := spaces_nil all (split ▸ last)
    have whole : Text.strip r = r := String.toList_injective (by rw [split, none, List.append_nil])
    rw [whole] at admitted same
    rw [fixed] at same
    exact ⟨last, admitted.bounded, same.symm⟩
  · rintro ⟨last, bounded, composed⟩
    have none : spaces = [] := spaces_nil all (split ▸ last)
    have whole : Text.strip r = r := String.toList_injective (by rw [split, none, List.append_nil])
    rw [normalizeWorktreePath_ok laws, whole]
    refine ⟨⟨?_, bounded, hasControl_of_plain plain⟩, ?_⟩
    · rintro rfl
      cases chars
    · have again : Platform.nfc (Path.posixNormpath r) = r := by
        refine String.toList_injective ?_
        rw [fixed, toList_nfc, composed]
      have result := Normalizes.posix chars single
      rwa [again] at result

/-- The form of a drive letter. -/
def letterForm (letter : Char) : List Char :=
  foldChars (Platform.lower letter).toList

theorem letterForm_unmarked (laws : UnicodeLaws) {letter : Char} (alpha : Platform.isalpha letter = true) :
    ∀ c ∈ letterForm letter, (isPathMark c || isBlankMark c) = false :=
  laws.fold.fresh _ (laws.lower letter alpha)

/-- What a path on a drive becomes: the form of its letter, and that of the rest. -/
theorem toList_drive (laws : UnicodeLaws) (letter : Char) (text : String) :
    (Platform.casefold (Platform.nfc (Platform.lower letter ++ ":" ++ Text.dropPrefix text 2))).toList =
      letterForm letter ++ ':' :: foldChars (text.toList.drop 2) := by
  rw [toList_fold, String.toList_append, String.toList_append, Text.dropPrefix, String.toList_ofList,
    String.toList_ofList, List.append_assoc, List.singleton_append]
  have colon : isPathMark ':' = true := by decide
  exact laws.fold.append_cons colon _ _

omit [Platform] in
/-- Before a mark, an unmarked text is determined. -/
theorem unmarked_append_inj {mark : Char} {a b x y : List Char} (first : mark ∉ a) (second : mark ∉ b)
    (same : a ++ mark :: x = b ++ mark :: y) : a = b ∧ x = y := by
  have pieces := congrArg (List.splitOn mark) same
  rw [List.splitOn_append_cons_self_of_not_mem first, List.splitOn_append_cons_self_of_not_mem second] at pieces
  have front := (List.cons.inj pieces).1
  subst front
  exact ⟨rfl, (List.cons.inj (List.append_cancel_left same)).2⟩

/-- A normal path on a drive is left alone if it does not end in a space, is not too long, and its letter and
the rest are left alone. -/
theorem normalize_drive (laws : UnicodeLaws) {front : List Char} {parts : List (List Char)}
    (unmarked : ∀ c ∈ front, (isPathMark c || isBlankMark c) = false)
    (clean : ∀ part ∈ parts, Path.Clean '\\' part ∧ '/' ∉ part)
    (chars : r.toList = front ++ ':' :: '\\' :: ['\\'].intercalate parts)
    (plain : ∀ c ∈ r.toList, Text.isControl c = false) :
    normalizeWorktreePath r = .ok r ↔ (∀ c ∈ r.toList.getLast?, Text.isSpace c = false) ∧
      r.toList.length ≤ maxPathLen ∧
      (∃ c, front = [c] ∧ Platform.isalpha c = true ∧ letterForm c = [c]) ∧
      foldChars ('\\' :: ['\\'].intercalate parts) = '\\' :: ['\\'].intercalate parts := by
  have absent : ∀ mark, isPathMark mark = true → mark ∉ front := by
    intro mark marked inside
    have none := unmarked mark inside
    rw [marked] at none
    cases none
  have first : ∀ c ∈ r.toList.head?, Text.isSpace c = false := by
    rw [chars]
    cases front with
    | nil =>
      rintro c ⟨⟩
      decide
    | cons c rest =>
      rintro _ ⟨⟩
      exact isSpace_of_not_mark (unmarked c List.mem_cons_self)
  obtain ⟨kept, spaces, stripped, rest, all, ends⟩ :=
    @Text.strip_spec r (front ++ [':']) (['\\'].intercalate parts) '\\' (by rw [chars]; simp) (by decide) first
  have split : r.toList = (Text.strip r).toList ++ spaces := by
    rw [chars, stripped, rest]
    simp
  have stripped : (Text.strip r).toList = front ++ ':' :: '\\' :: kept := by
    rw [stripped]
    simp
  have backslashes : '/' ∉ (Text.strip r).toList := by
    intro inside
    have inside : '/' ∈ r.toList := by
      rw [split]
      exact List.mem_append_left _ inside
    rw [chars] at inside
    simp only [List.mem_append, List.mem_cons, absent '/' (by decide), Char.reduceEq, false_or] at inside
    obtain isSep | ⟨part, member, inside⟩ := Path.mem_intercalate inside
    · cases isSep
    · exact (clean part member).2 inside
  have plain' : ∀ c ∈ (Text.strip r).toList, Text.isControl c = false := fun c member =>
    plain c (by rw [split]; exact List.mem_append_left _ member)
  have inert := laws.fold
  -- The only flavour it can have is that of a drive whose letter is the whole front.
  have flavour : ∀ again, Normalizes (Text.strip r) again → ∃ letter, front = [letter] ∧
      Platform.isalpha letter = true ∧ again.toList = letterForm letter ++
        ':' :: foldChars ((Path.ntNormpath (Text.strip r)).toList.drop 2) := by
    intro again normalizes
    cases normalizes with
    | unc unc =>
      have start := take_of_unc unc
      rw [Path.replaceChar_eq_self backslashes, stripped] at start
      cases front with
      | nil => cases start
      | cons c more => exact absurd (List.cons.inj start).1 fun same => absent '\\' (by decide) (by simp [same])
    | @drive letter sep more chars' alpha isSep =>
      rw [stripped] at chars'
      have whole : front ++ ':' :: ('\\' :: kept) = [letter] ++ ':' :: (sep :: more) := chars'
      have other : ':' ∉ [letter] := by
        intro inside
        have none := laws.isalpha letter alpha
        rw [← List.mem_singleton.mp inside] at none
        exact absurd none (by decide)
      obtain ⟨same, -⟩ := unmarked_append_inj (absent ':' (by decide)) other whole
      exact ⟨letter, same, alpha, toList_drive laws letter _⟩
    | @posix more chars' single =>
      rw [stripped] at chars'
      cases front with
      | nil => cases chars'
      | cons c rest => exact absurd (List.cons.inj chars').1 fun same => absent '/' (by decide) (by simp [same])
  constructor
  · intro ran
    obtain ⟨admitted, normalizes⟩ := (normalizeWorktreePath_ok laws).mp ran
    obtain ⟨letter, rfl, alpha, same⟩ := flavour r normalizes
    obtain ⟨other, other'⟩ := letter_ne laws alpha
    obtain ⟨⟨parts', clean', whole'⟩, -, -⟩ := normpath_drive laws stripped alpha (.inl rfl)
    have drop : (Path.ntNormpath (Text.strip r)).toList.drop 2 = '\\' :: ['\\'].intercalate parts' := by
      rw [whole']
      rfl
    have inForm : (letterForm letter).count '\\' = 0 := by
      refine List.count_eq_zero.mpr fun inside => ?_
      exact absurd (letterForm_unmarked laws alpha _ inside) (by decide)
    have count : (Path.ntNormpath (Text.strip r)).toList.count '\\' = (Text.strip r).toList.count '\\' := by
      have counted := congrArg (List.count '\\') same
      rw [split, List.count_append, no_separators (by decide) all, List.count_append, inForm,
        List.count_cons_of_ne (by decide), inert.count_fixed (by decide), drop] at counted
      rw [whole', List.count_cons_of_ne other, List.count_cons_of_ne (by decide)]
      omega
    have last : ∀ c ∈ (Path.ntNormpath (Text.strip r)).toList.getLast?, Text.isSpace c = false := by
      obtain same | root := Path.ntNormpath_drive_same_count other backslashes stripped count
      · rw [same]
        exact ends
      · rw [root]
        rintro c ⟨⟩
        decide
    have last : ∀ c ∈ r.toList.getLast?, Text.isSpace c = false := by
      rw [whole', List.getLast?_cons_of_ne_nil (List.cons_ne_nil _ _),
        List.getLast?_cons_of_ne_nil (List.cons_ne_nil _ _)] at last
      have some : foldChars ('\\' :: ['\\'].intercalate parts') ≠ [] := fun none =>
        List.cons_ne_nil _ _ ((inert.empty _).mp none)
      rw [same, drop, List.getLast?_append_of_ne_nil _ (List.cons_ne_nil _ _),
        List.getLast?_cons_of_ne_nil some]
      refine (solid_iff inert fun c member => ?_).mpr last
      have inside : c ∈ (Path.ntNormpath (Text.strip r)).toList := by
        rw [whole']
        exact List.mem_cons_of_mem _ (List.mem_cons_of_mem _ member)
      have split' : Path.splitDrive (Text.replaceChar '/' '\\' (Text.strip r)).toList =
          ([letter, ':'], '\\' :: kept) := by
        rw [Path.replaceChar_eq_self backslashes, stripped]
        exact Path.splitDrive_letter other _
      obtain rfl | inside := Path.mem_ntNormpath_rooted split' inside
      · decide
      · exact plain' c inside
    have none : spaces = [] := spaces_nil all (split ▸ last)
    have whole : Text.strip r = r := String.toList_injective (by rw [split, none, List.append_nil])
    have fixed : Path.ntNormpath r = r := Path.ntNormpath_of_drive other other' ⟨parts, clean, chars⟩
    rw [whole] at admitted same
    rw [fixed, chars] at same
    have own : ':' ∉ letterForm letter := fun inside =>
      absurd (letterForm_unmarked laws alpha _ inside) (by decide)
    obtain ⟨form, folds⟩ := unmarked_append_inj (absent ':' (by decide)) own same
    exact ⟨last, admitted.bounded, ⟨letter, rfl, alpha, form.symm⟩, folds.symm⟩
  · rintro ⟨last, bounded, ⟨letter, rfl, alpha, form⟩, folds⟩
    obtain ⟨other, other'⟩ := letter_ne laws alpha
    have none : spaces = [] := spaces_nil all (split ▸ last)
    have whole : Text.strip r = r := String.toList_injective (by rw [split, none, List.append_nil])
    have fixed : Path.ntNormpath r = r := Path.ntNormpath_of_drive other other' ⟨parts, clean, chars⟩
    rw [normalizeWorktreePath_ok laws, whole]
    refine ⟨⟨?_, bounded, hasControl_of_plain plain⟩, ?_⟩
    · rintro rfl
      cases chars
    · have again : Platform.casefold (Platform.nfc
          (Platform.lower letter ++ ":" ++ Text.dropPrefix (Path.ntNormpath r) 2)) = r := by
        refine String.toList_injective ?_
        rw [toList_drive laws, fixed, chars, form]
        change [letter] ++ ':' :: foldChars ('\\' :: ['\\'].intercalate parts) = _
        rw [folds]
      have result := Normalizes.drive chars alpha (.inl rfl)
      rwa [again] at result

end Again

end Coordinate

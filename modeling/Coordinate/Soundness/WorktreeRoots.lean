import Coordinate.Model.HostProfiles
import Coordinate.Proofs.Statements
import Coordinate.Soundness.WorktreePaths

/-! # Stored worktree roots read back as they were written

The writer of a root list normalizes its items; every later reader requires that each stored root normalizes to
itself. They agree exactly if every item is settled and has no traversal part once it is stripped.
-/

namespace Coordinate

section Segments

/-- The separators of either flavour. -/
def isSeparator (c : Char) : Bool := c == '/' || c == '\\'

/-- The parts between separators of either flavour. -/
theorem splitOn_replaced : ∀ cs : List Char,
    (cs.map fun c => if c = '\\' then '/' else c).splitOn '/' = cs.splitOnP isSeparator
  | [] => rfl
  | c :: rest => by
    rw [List.map_cons, List.splitOn_cons_eq_if_modifyHead, splitOn_replaced rest,
      List.splitOnP_cons_eq_if_modifyHead]
    by_cases back : c = '\\'
    · rw [if_pos back, back]
      rfl
    · rw [if_neg back]
      by_cases slash : c = '/'
      · rw [slash]
        rfl
      · have none : isSeparator c = false := by simp [isSeparator, slash, back]
        rw [none, if_neg (by simpa using slash)]
        rfl

theorem hasTraversalSegments_eq (path : String) : hasTraversalSegments path =
    (path.toList.splitOnP isSeparator).any fun part => isTraversal (String.ofList part) := by
  rw [hasTraversalSegments, Text.split, Text.replaceChar, String.toList_ofList, splitOn_replaced, List.any_map]
  rfl

/-- A transformation that leaves the marks of paths alone makes no traversal parts. -/
theorem traversal_map {f : List Char → List Char} (inert : Inert f isPathMark isBlankMark) (cs : List Char) :
    hasTraversalSegments (String.ofList (f cs)) = hasTraversalSegments (String.ofList cs) := by
  have fixed : ∀ c, isSeparator c = true → isPathMark c = true := by
    intro c sep
    simp only [isSeparator, Bool.or_eq_true, beq_iff_eq] at sep
    obtain rfl | rfl := sep <;> decide
  have same : ∀ part : List Char, isTraversal (String.ofList (f part)) = isTraversal (String.ofList part) := by
    intro part
    have mark : isPathMark '.' = true := by decide
    have dot : f part = ['.'] ↔ part = ['.'] := inert.eq_fixed_iff (by simpa using mark) part
    have dots : f part = ['.', '.'] ↔ part = ['.', '.'] := inert.eq_fixed_iff (by simpa using mark) part
    have texts : ∀ part : List Char, isTraversal (String.ofList part) =
        (decide (part = ['.']) || decide (part = ['.', '.'])) := by
      intro part
      have one : String.ofList part = "." ↔ part = ['.'] := String.ofList_inj
      have two : String.ofList part = ".." ↔ part = ['.', '.'] := String.ofList_inj
      simp only [isTraversal, one, two]
    simp only [texts, dot, dots]
  rw [hasTraversalSegments_eq, hasTraversalSegments_eq, String.toList_ofList, String.toList_ofList,
    inert.splitOnP fixed, List.any_map]
  exact congrArg _ (funext fun part => same part)

end Segments

/-- A part that holds a colon, or nothing, before a separator adds no traversal part. -/
theorem traversal_cons {front back : List Char} {sep : Char} (isSep : isSeparator sep = true)
    (whole : ∀ c ∈ front, isSeparator c = false) (other : front = [] ∨ ':' ∈ front) :
    hasTraversalSegments (String.ofList (front ++ sep :: back)) =
      hasTraversalSegments (String.ofList back) := by
  have first : isTraversal (String.ofList front) = false := by
    have one : String.ofList front = "." ↔ front = ['.'] := String.ofList_inj
    have two : String.ofList front = ".." ↔ front = ['.', '.'] := String.ofList_inj
    simp only [isTraversal, one, two, Bool.or_eq_false_iff, decide_eq_false_iff_not]
    obtain rfl | inside := other
    · decide
    · constructor <;> rintro rfl <;> exact absurd inside (by decide)
  rw [hasTraversalSegments_eq, hasTraversalSegments_eq, String.toList_ofList, String.toList_ofList,
    List.splitOnP_append_cons_of_forall_mem whole sep isSep, List.any_cons, first, Bool.false_or]

variable [Platform]

section Roots

variable {path r root item workspacePath entryLabel : String}

/-- What a normalized path has of the path: no control characters, and its traversal parts. -/
theorem normalized_spec (laws : UnicodeLaws) (accepted : normalizeWorktreePath path = .ok r) :
    r ≠ "" ∧ (∀ c ∈ r.toList, Text.isControl c = false) ∧ hasTraversalSegments r =
      hasTraversalSegments (String.ofList (resolvedText (Text.strip path))) := by
  obtain ⟨admitted, normalizes⟩ := (normalizeWorktreePath_ok laws).mp accepted
  cases normalizes with
  | unc unc =>
    obtain ⟨back, start⟩ := start_of_unc (Path.uncNormal_ntNormpath (take_of_unc unc))
    have text : resolvedText (Text.strip path) = (Path.ntNormpath (Text.strip path)).toList := if_pos unc
    refine ⟨fun none => ?_, ?_, ?_⟩
    · have chars := congrArg String.toList none
      rw [toList_fold] at chars
      rw [(laws.fold.empty _).mp chars] at start
      cases start
    · rw [toList_fold]
      exact plain_image laws.fold (plain_unc admitted unc)
    · rw [← String.ofList_toList (s := Platform.casefold _), toList_fold, traversal_map laws.fold, text]
  | @drive letter sep rest start alpha isSep =>
    obtain ⟨⟨pieces, clean, whole⟩, -, -⟩ := normpath_drive laws start alpha isSep
    have drive : isWindowsDrive (Text.strip path).toList = true :=
      isWindowsDrive_iff.mpr ⟨letter, _, start, alpha⟩
    have text : resolvedText (Text.strip path) = '\\' :: ['\\'].intercalate pieces := by
      rw [resolvedText, if_neg (Bool.eq_false_iff.mp (not_unc_of_drive start)), if_pos drive, whole]
      rfl
    have back : isPathMark '\\' = true := by decide
    have chars := toList_drive laws letter (Path.ntNormpath (Text.strip path))
    rw [whole] at chars
    generalize Platform.casefold _ = r at chars ⊢
    change r.toList = letterForm letter ++ ':' :: foldChars ('\\' :: ['\\'].intercalate pieces) at chars
    refine ⟨?_, fun c member => ?_, ?_⟩
    · rintro rfl
      exact absurd chars.symm (by simp)
    · rw [chars, List.mem_append] at member
      rcases member with inLetter | member
      · rw [Bool.eq_false_iff]
        intro control
        have unmarked := letterForm_unmarked laws alpha c inLetter
        rw [mark_of_isControl control] at unmarked
        cases unmarked
      · rcases List.mem_cons.mp member with rfl | member
        · decide
        · refine plain_image laws.fold (fun c member => ?_) c member
          refine plain_drive laws admitted start alpha isSep c ?_
          rw [whole]
          exact List.mem_cons_of_mem _ (List.mem_cons_of_mem _ member)
    · have front : ∀ c ∈ letterForm letter ++ [':'], isSeparator c = false := by
        intro c member
        rcases List.mem_append.mp member with inLetter | colon
        · have unmarked := letterForm_unmarked laws alpha c inLetter
          rw [Bool.eq_false_iff]
          intro sep
          simp only [isSeparator, Bool.or_eq_true, beq_iff_eq] at sep
          obtain rfl | rfl := sep <;> exact absurd unmarked (by decide)
        · cases List.mem_singleton.mp colon
          decide
      have shape : r.toList = (letterForm letter ++ [':']) ++
          '\\' :: foldChars (['\\'].intercalate pieces) := by
        rw [chars, laws.fold.cons back]
        simp
      rw [← String.ofList_toList (s := r), shape, traversal_cons (by decide) front (.inr (by simp)),
        traversal_map laws.fold, text]
      exact (@traversal_cons [] _ '\\' (by decide) (List.forall_mem_nil _) (.inl rfl)).symm
  | @posix rest start single =>
    have text : resolvedText (Text.strip path) = (Path.posixNormpath (Text.strip path)).toList := by
      have notDrive : ¬ isWindowsDrive (Text.strip path).toList = true := by
        intro drive
        obtain ⟨letter, more, chars, alpha⟩ := isWindowsDrive_iff.mp drive
        exact (letter_ne laws alpha).2 (List.cons.inj (start.symm.trans chars)).1.symm
      rw [resolvedText, if_neg (Bool.eq_false_iff.mp (not_unc_of_posix start single)), if_neg notDrive]
    refine ⟨fun none => ?_, ?_, ?_⟩
    · have chars := congrArg String.toList none
      rw [toList_nfc] at chars
      have empty := (laws.nfc.empty _).mp chars
      rw [Path.toList_posixNormpath] at empty
      cases empty
    · rw [toList_nfc]
      exact plain_image laws.nfc (plain_posix admitted)
    · rw [← String.ofList_toList (s := Platform.nfc _), toList_nfc, traversal_map laws.nfc, text]

/-- A path whose stored form is accepted where the path was. -/
structure FixedRoot (path : String) : Prop where
  settled : Settled path
  straight : hasTraversalSegments (String.ofList (resolvedText (Text.strip path))) = false

theorem normalizeHostNative_ok : normalizeHostNativeWorktreePath path = .ok r ↔
    path ≠ "" ∧ Text.hasControl path = false ∧ hasTraversalSegments path = false ∧
      normalizeWorktreePath path = .ok r := by
  simp [normalizeHostNativeWorktreePath, Except.bind_ok]

/-- The checks of a root look at its normal form only. -/
theorem validateWorktreeRoot_of_ok {other : String} (accepted : validateWorktreeRoot root workspacePath = .ok r) :
    validateWorktreeRoot other workspacePath = .ok r ↔ normalizeHostNativeWorktreePath other = .ok r := by
  simp only [validateWorktreeRoot, Except.bind_ok, raiseIf_except_ok] at accepted ⊢
  obtain ⟨_, -, _, whole, workspace, normalized, _, flavour, _, apart, same⟩ := accepted
  cases same
  constructor
  · rintro ⟨_, native, _, -, _, -, _, -, _, -, same⟩
    cases same
    exact native
  · intro native
    exact ⟨r, native, (), whole, workspace, normalized, (), flavour, (), apart, rfl⟩

theorem validateWorktreeRoot_again_iff (laws : UnicodeLaws)
    (accepted : validateWorktreeRoot root workspacePath = .ok r) :
    validateWorktreeRoot r workspacePath = .ok r ↔ FixedRoot root := by
  obtain ⟨-, -, -, normalized⟩ :=
    normalizeHostNative_ok.mp ((validateWorktreeRoot_of_ok accepted).mp accepted)
  obtain ⟨some, plain, straight⟩ := normalized_spec laws normalized
  rw [validateWorktreeRoot_of_ok accepted, normalizeHostNative_ok, straight,
    normalize_again_iff laws normalized]
  constructor
  · rintro ⟨-, -, straight, settled⟩
    exact ⟨settled, straight⟩
  · rintro ⟨settled, straight⟩
    exact ⟨some, hasControl_of_plain plain, straight, settled⟩

end Roots

section Lists

variable {workspacePath entryLabel : String} {dedupe : Bool} {seen roots out : List String} {items : List Json}

/-- What the writer keeps of its items. -/
structure Kept (workspacePath : String) (seen : List String) (items : List Json) (roots : List String) : Prop where
  text : ∀ item ∈ items, ∃ root, item = .str root
  covered : ∀ root, .str root ∈ items →
    ∃ r, validateWorktreeRoot root workspacePath = .ok r ∧ (r ∈ seen ∨ r ∈ roots)
  origin : ∀ r ∈ roots, ∃ root, .str root ∈ items ∧ validateWorktreeRoot root workspacePath = .ok r
  fresh : ∀ r ∈ roots, r ∉ seen
  nodup : roots.Nodup

theorem Kept.nil : Kept workspacePath seen [] [] :=
  ⟨List.forall_mem_nil _, fun _ member => (by cases member), List.forall_mem_nil _, List.forall_mem_nil _,
    List.nodup_nil⟩

theorem Kept.skip {root r : String} (accepted : validateWorktreeRoot root workspacePath = .ok r)
    (known : r ∈ seen) (rest : Kept workspacePath seen items roots) :
    Kept workspacePath seen (.str root :: items) roots where
  text := List.forall_mem_cons.mpr ⟨⟨root, rfl⟩, rest.text⟩
  covered other member := by
    rcases List.mem_cons.mp member with same | later
    · cases same
      exact ⟨r, accepted, .inl known⟩
    · exact rest.covered other later
  origin r' member := by
    obtain ⟨other, inside, accepted'⟩ := rest.origin r' member
    exact ⟨other, List.mem_cons_of_mem _ inside, accepted'⟩
  fresh := rest.fresh
  nodup := rest.nodup

theorem Kept.keep {root r : String} (accepted : validateWorktreeRoot root workspacePath = .ok r)
    (new : r ∉ seen) (rest : Kept workspacePath (r :: seen) items roots) :
    Kept workspacePath seen (.str root :: items) (r :: roots) where
  text := List.forall_mem_cons.mpr ⟨⟨root, rfl⟩, rest.text⟩
  covered other member := by
    rcases List.mem_cons.mp member with same | later
    · cases same
      exact ⟨r, accepted, .inr List.mem_cons_self⟩
    · obtain ⟨r', accepted', place⟩ := rest.covered other later
      refine ⟨r', accepted', ?_⟩
      rcases place with known | kept
      · rcases List.mem_cons.mp known with rfl | known
        · exact .inr List.mem_cons_self
        · exact .inl known
      · exact .inr (List.mem_cons_of_mem _ kept)
  origin := by
    refine List.forall_mem_cons.mpr ⟨⟨root, List.mem_cons_self, accepted⟩, fun r' member => ?_⟩
    obtain ⟨other, inside, accepted'⟩ := rest.origin r' member
    exact ⟨other, List.mem_cons_of_mem _ inside, accepted'⟩
  fresh := by
    refine List.forall_mem_cons.mpr ⟨new, fun r' member known => ?_⟩
    exact rest.fresh r' member (List.mem_cons_of_mem _ known)
  nodup := List.nodup_cons.mpr ⟨fun member => rest.fresh r member List.mem_cons_self, rest.nodup⟩

/-- The writer keeps the first occurrence of each normal form. -/
theorem kept_of_ok (ran : normalizeRootsFrom workspacePath entryLabel true seen items = .ok roots) :
    Kept workspacePath seen items roots := by
  induction items generalizing seen roots with
  | nil =>
    cases ran
    exact .nil
  | cons item items ih =>
    cases item with
    | str root =>
      simp only [normalizeRootsFrom, Except.bind_ok, orRaise_except_ok] at ran
      obtain ⟨r, accepted, _, -, ran⟩ := ran
      split at ran
      · rename_i known
        obtain ⟨_, -, ran⟩ := Except.bind_ok.mp ran
        exact (ih ran).skip accepted known
      · rename_i new
        obtain ⟨later, rest, same⟩ := Except.bind_ok.mp ran
        cases same
        exact (ih rest).keep accepted new
    | null => cases ran
    | bool _ => cases ran
    | int _ => cases ran
    | arr _ => cases ran
    | obj _ => cases ran

/-- A list of distinct roots that are their own normal forms is read and written as it is. -/
theorem read_of_canonical (canonical : ∀ r ∈ roots, validateWorktreeRoot r workspacePath = .ok r)
    (nodup : roots.Nodup) (fresh : ∀ r ∈ roots, r ∉ seen) :
    normalizeRootsFrom workspacePath entryLabel dedupe seen (roots.map .str) = .ok roots := by
  induction roots generalizing seen with
  | nil => rfl
  | cons r roots ih =>
    obtain ⟨own, canonical⟩ := List.forall_mem_cons.mp canonical
    obtain ⟨new, fresh⟩ := List.forall_mem_cons.mp fresh
    obtain ⟨first, nodup⟩ := List.nodup_cons.mp nodup
    have rest := @ih (r :: seen) canonical nodup (by
      intro r' member known
      rcases List.mem_cons.mp known with rfl | known
      · exact first member
      · exact fresh r' member known)
    rw [List.map_cons, normalizeRootsFrom, Except.bind_ok]
    refine ⟨r, orRaise_except_ok.mpr own, Except.bind_ok.mpr ⟨(), raiseIf_except_ok.mpr (by simp), ?_⟩⟩
    rw [if_neg new]
    exact Except.bind_ok.mpr ⟨roots, rest, rfl⟩

/-- The reader accepts roots that are their own normal forms only. -/
theorem canonical_of_read
    (ran : normalizeRootsFrom workspacePath entryLabel false seen (roots.map .str) = .ok out) :
    ∀ r ∈ roots, validateWorktreeRoot r workspacePath = .ok r := by
  induction roots generalizing seen out with
  | nil => exact List.forall_mem_nil _
  | cons r roots ih =>
    simp only [List.map_cons, normalizeRootsFrom, Except.bind_ok, orRaise_except_ok, raiseIf_except_ok] at ran
    obtain ⟨r', accepted, _, same, ran⟩ := ran
    have own : r' = r := by simpa using same
    cases own
    refine List.forall_mem_cons.mpr ⟨accepted, ?_⟩
    split at ran
    · obtain ⟨_, -, ran⟩ := Except.bind_ok.mp ran
      exact ih ran
    · obtain ⟨later, ran, -⟩ := Except.bind_ok.mp ran
      exact ih ran

/-- The roots that a writer keeps are their own normal forms exactly if its items are steady. -/
theorem Kept.canonical_apart (laws : UnicodeLaws) (kept : Kept workspacePath [] items roots) :
    (∀ r ∈ roots, validateWorktreeRoot r workspacePath = .ok r) ↔ ∀ root, .str root ∈ items → FixedRoot root := by
  constructor
  · intro canonical root member
    obtain ⟨r, accepted, known | inside⟩ := kept.covered root member
    · cases known
    · exact (validateWorktreeRoot_again_iff laws accepted).mp (canonical r inside)
  · intro steady r member
    obtain ⟨root, inside, accepted⟩ := kept.origin r member
    exact (validateWorktreeRoot_again_iff laws accepted).mpr (steady root inside)

theorem parse_storedRoots : parseNormalizedWorktreeRoots (storedRoots roots) workspacePath =
    normalizeWorktreeRootList (roots.map .str) workspacePath "worktree_roots_json" false := rfl

end Lists

section Profiles

variable {arguments : HostProfileArguments} {s : Session Db} {items : List Json} {roots : List String}

/-- The roots that a call supplies: its own, or those of the stored profile where it has none. -/
inductive Supplies (arguments : HostProfileArguments) (s : Session Db) : List Json → Prop
  | own (items : List Json) (given : arguments.worktreeRoots = some (.arr items)) : Supplies arguments s items
  | preserved (existing : Option WorkspaceHostProfile) (absent : arguments.worktreeRoots = none)
      (found : getWorkspaceHostProfile s.visible arguments.workspaceId arguments.hostId = .ok existing) :
      Supplies arguments s (((existing.map (·.worktreeRoots)).getD []).map .str)

/-- A call that stores a root list: its checks pass, outside of a transaction. -/
structure Stores (arguments : HostProfileArguments) (s : Session Db) (items : List Json)
    (roots : List String) : Prop where
  closed : s.saved = none
  known : (getWorkspace s.visible arguments.workspaceId).isSome
  host : Text.isBlank arguments.hostId = false
  path : Text.isBlank arguments.workspacePath = false
  supplies : Supplies arguments s items
  accepted : normalizeWorktreeRootList items arguments.workspacePath "worktree root" true = .ok roots

/-- What is promised to the readers of a stored root list. -/
structure RootsAgree (arguments : HostProfileArguments) (s : Session Db) (roots : List String) : Prop where
  parsed : parseNormalizedWorktreeRoots (storedRoots roots) arguments.workspacePath = .ok roots
  idempotent : normalizeWorktreeRootList (roots.map .str) arguments.workspacePath "worktree root" true = .ok roots
  returns : ∃ profile s', (upsertWorkspaceHostProfile arguments).run s = .ok profile s' ∧
    profile.worktreeRoots = roots
  reads : ∀ db : Db, (db.hostProfiles.find? (HostProfileRow.hasKey arguments.workspaceId arguments.hostId)) =
      ((upsertWorkspaceHostProfile arguments).run s).final.durable.hostProfiles.find?
        (HostProfileRow.hasKey arguments.workspaceId arguments.hostId) →
    ∃ profile, getWorkspaceHostProfile db arguments.workspaceId arguments.hostId = .ok (some profile) ∧
      profile.worktreeRoots = roots

theorem acceptedRoots_run (stores : Stores arguments s items roots) :
    (acceptedRoots arguments).run s = .ok roots s := by
  have accepted := stores.accepted
  cases stores.supplies with
  | own _ given =>
    rw [acceptedRoots, given]
    exact Tx.orRaise_ok.mpr ⟨accepted, rfl⟩
  | preserved existing absent found =>
    rw [acceptedRoots, absent]
    refine Tx.bind_ok.mpr ⟨_, _, Tx.query_run _, Tx.bind_ok.mpr ⟨existing, s, Tx.orRaise_ok.mpr ⟨found, rfl⟩, ?_⟩⟩
    dsimp only
    split
    · rename_i empty
      rw [empty] at accepted
      cases accepted
      rfl
    · exact Tx.orRaise_ok.mpr ⟨accepted, rfl⟩

omit [Platform] in
theorem hasKey_iff {row : HostProfileRow} {workspaceId hostId : String} :
    HostProfileRow.hasKey workspaceId hostId row = true ↔ (row.workspaceId, row.hostId) = (workspaceId, hostId) := by
  simp [HostProfileRow.hasKey]

omit [Platform] in
/-- The write leaves its row under its key. -/
theorem writeHostProfile_run (row : HostProfileRow) (w : Work Db) : ∃ db : Db,
    (writeHostProfile row).run w = .ok () { w with store := db } ∧
      db.hostProfiles.find? (HostProfileRow.hasKey row.workspaceId row.hostId) = some row := by
  have own : HostProfileRow.hasKey row.workspaceId row.hostId row = true := hasKey_iff.mpr rfl
  have unique : ∀ other : HostProfileRow, HostProfileRow.hasKey row.workspaceId row.hostId other = true →
      decide ((other.workspaceId, other.hostId) = (row.workspaceId, row.hostId)) = true :=
    fun other same => decide_eq_true (hasKey_iff.mp same)
  have found : ∀ table : Table (keyedBy fun row : HostProfileRow => (row.workspaceId, row.hostId)), row ∈ table →
      table.find? (HostProfileRow.hasKey row.workspaceId row.hostId) = some row :=
    fun table member => Table.find?_eq_some_of_mem member own fun other _ same => unique other same
  suffices written : ∃ table, (if w.store.hostProfiles.any (HostProfileRow.hasKey row.workspaceId row.hostId) then
      w.store.hostProfiles.update? (HostProfileRow.hasKey row.workspaceId row.hostId) fun _ => row
      else w.store.hostProfiles.insert? row) = some table ∧ row ∈ table by
    obtain ⟨table, written, member⟩ := written
    exact ⟨{ w.store with hostProfiles := table }, replaceTable_ok.mpr ⟨table, written, rfl⟩, found table member⟩
  by_cases known : w.store.hostProfiles.any (HostProfileRow.hasKey row.workspaceId row.hostId) = true
  · obtain ⟨old, member, same⟩ := List.any_eq_true.mp known
    have sameKey : ∀ a : HostProfileRow,
        let new := if HostProfileRow.hasKey row.workspaceId row.hostId a then row else a
        (new.workspaceId, new.hostId) = (a.workspaceId, a.hostId) := by
      intro a
      dsimp only
      split
      · rename_i holds
        exact (hasKey_iff.mp holds).symm
      · rfl
    obtain ⟨table, updated⟩ := @Table.exists_update? _ _ w.store.hostProfiles
      (HostProfileRow.hasKey row.workspaceId row.hostId) (fun _ => row) (fun _ _ _ => rfl) (by
        intro a _ b _ apart
        refine decide_eq_false ?_
        dsimp only
        rw [sameKey a, sameKey b]
        exact of_decide_eq_false apart)
    rw [if_pos known]
    refine ⟨table, updated, (Table.mem_update? updated).mpr ⟨old, member, ?_⟩⟩
    rw [if_pos same]
  · rw [if_neg known]
    obtain ⟨table, inserted⟩ := @Table.exists_insert? _ _ w.store.hostProfiles row rfl (by
      intro other member
      refine decide_eq_false fun same => known ?_
      exact List.any_eq_true.mpr ⟨other, member, hasKey_iff.mpr same⟩)
    exact ⟨table, inserted, (Table.mem_insert? inserted).mpr (.inr rfl)⟩

/-- The call that stores a root list commits its row, then reads it back. -/
theorem upsert_run (stores : Stores arguments s items roots) : ∃ db : Db, ∃ s' : Session Db,
    db.hostProfiles.find? (HostProfileRow.hasKey arguments.workspaceId arguments.hostId) =
      some (arguments.row roots) ∧ s'.durable = db ∧
    (upsertWorkspaceHostProfile arguments).run s =
      match WorkspaceHostProfile.fromRow (arguments.row roots) with
      | .ok profile => .ok profile s'
      | .error e => .error e s' := by
  obtain ⟨db, written, found⟩ := writeHostProfile_run (arguments.row roots)
    { s.work with tick := s.work.tick + 1 }
  refine ⟨db, ⟨{ s.work with store := db, tick := s.work.tick + 1 }, db, none⟩, found, rfl, ?_⟩
  have known : ¬ (getWorkspace s.visible arguments.workspaceId).isNone = true := by
    have known := stores.known
    rw [Option.isSome_iff_ne_none] at known
    rwa [Option.isNone_iff_eq_none]
  have host : ¬ Text.isBlank arguments.hostId = true := Bool.eq_false_iff.mp stores.host
  have path : ¬ Text.isBlank arguments.workspacePath = true := Bool.eq_false_iff.mp stores.path
  have stored : getWorkspaceHostProfile db arguments.workspaceId arguments.hostId =
      some <$> WorkspaceHostProfile.fromRow (arguments.row roots) := by
    unfold getWorkspaceHostProfile
    have found' : db.hostProfiles.find? (fun row =>
        row.workspaceId = arguments.workspaceId && row.hostId = arguments.hostId) =
          some (arguments.row roots) := found
    rw [found']
  simp only [upsertWorkspaceHostProfile, raiseIf, if_neg known, if_neg host, if_neg path, Tx.bind_run,
    Tx.query_run, Tx.pure_run, acceptedRoots_run stores, Tx.clock_run, Tx.within_run, written, Tx.commit_run]
  simp only [Session.visible, stored]
  cases WorkspaceHostProfile.fromRow (arguments.row roots) <;> rfl

/-- The row of a root list that is read as it was written gives the profile with that list. -/
theorem fromRow_row (parsed : parseNormalizedWorktreeRoots (storedRoots roots) arguments.workspacePath = .ok roots) :
    ∃ profile, WorkspaceHostProfile.fromRow (arguments.row roots) = .ok profile ∧
      profile.worktreeRoots = roots := by
  refine ⟨⟨arguments.workspaceId, arguments.hostId, arguments.workspacePath, arguments.harnessRoot, roots⟩, ?_, rfl⟩
  exact Except.bind_ok.mpr ⟨_, rfl, Except.bind_ok.mpr ⟨roots, parsed, rfl⟩⟩

/-- **A stored root list is read as it was written exactly if every supplied root is steady.** -/
theorem worktree_roots_agree (laws : UnicodeLaws) (stores : Stores arguments s items roots) :
    RootsAgree arguments s roots ↔ ∀ root, .str root ∈ items → FixedRoot root := by
  have kept : Kept arguments.workspacePath [] items roots := kept_of_ok stores.accepted
  rw [← kept.canonical_apart laws]
  constructor
  · intro agree
    exact canonical_of_read agree.parsed
  · intro canonical
    have parsed : parseNormalizedWorktreeRoots (storedRoots roots) arguments.workspacePath = .ok roots :=
      read_of_canonical canonical kept.nodup kept.fresh
    obtain ⟨db', s', found, durable, ran⟩ := upsert_run stores
    obtain ⟨profile, reads, same⟩ := fromRow_row parsed
    rw [reads] at ran
    refine ⟨parsed, read_of_canonical canonical kept.nodup kept.fresh, ⟨profile, s', ran, same⟩, ?_⟩
    intro db row
    rw [ran, EStateM.Result.final_ok, durable, found] at row
    refine ⟨profile, ?_, same⟩
    have row' : db.hostProfiles.find? (fun row =>
        row.workspaceId = arguments.workspaceId && row.hostId = arguments.hostId) =
          some (arguments.row roots) := row
    unfold getWorkspaceHostProfile
    rw [row']
    change some <$> _ = _
    rw [reads]
    rfl

end Profiles

end Coordinate

namespace Coordinate.Sample

/-- A call for the sample host. -/
def rootCall (root : String) : HostProfileArguments where
  workspaceId := "w"
  hostId := "h"
  workspacePath := "/w"
  worktreeRoots := some (.arr [.str root])

def rootSession : Session Db := .connect { initialWork with store := configured } configured

theorem rootCall_stores {root r : String}
    (accepted : normalizeWorktreeRootList [.str root] "/w" "worktree root" true = .ok [r]) :
    Stores (rootCall root) rootSession [.str root] [r] := by
  have known : (getWorkspace rootSession.visible "w").isSome := by decide
  have host : Text.isBlank "h" = false := by decide
  have path : Text.isBlank "/w" = false := by decide
  exact ⟨rfl, known, host, path, .own _ rfl, accepted⟩

/-- A root that ends in a space behind its separator is stored with the space, and not read again. -/
theorem trailing_space_unread : ¬ ∀ (arguments : HostProfileArguments) s items roots,
    Stores arguments s items roots → RootsAgree arguments s roots := by
  intro every
  have accepted : normalizeWorktreeRootList [.str "/a /"] "/w" "worktree root" true = .ok ["/a "] := by
    decide +kernel
  have read := (every _ _ _ _ (rootCall_stores accepted)).parsed
  have refused : parseNormalizedWorktreeRoots (storedRoots ["/a "]) "/w" ≠ .ok ["/a "] := by decide +kernel
  exact refused read

/-- A plain root is read as it was written. -/
theorem plain_root_read : RootsAgree (rootCall "/srv//b/") rootSession ["/srv/b"] := by
  refine (worktree_roots_agree unicode_laws (rootCall_stores (by decide +kernel))).mpr ?_
  intro root member
  cases List.mem_singleton.mp member
  refine ⟨⟨?_, ?_, ?_, ?_⟩, by decide +kernel⟩
  · have last : (components (Text.strip "/srv//b/")).getLast? = some ['b'] := by decide +kernel
    rw [last]
    rintro component ⟨⟩ c ⟨⟩
    decide
  · decide +kernel
  · decide +kernel
  · intro letter rest chars alpha
    have start : (Text.strip "/srv//b/").toList.head? = some '/' := by decide +kernel
    rw [chars] at start
    cases start
    exact absurd alpha (by decide +kernel)

end Coordinate.Sample

import Coordinate.Model.Installation
import Coordinate.Proofs.Attempts
import Coordinate.Proofs.WorktreePaths

/-! # Normalizing a worktree path twice

A normalized path is left alone, keys the same resource and passes the check of stored leases exactly if the
path was settled: its last component does not end in a space, the forms of its components are stable and not
too long together, and its drive letter has a letter as its form.
-/

namespace Coordinate

variable [Platform]

section Settled

def isWindowsPath (s : String) : Bool :=
  isWindowsUnc s.toList || isWindowsDrive s.toList

/-- The text of a path behind its drive letter, with its components resolved. -/
def resolvedText (s : String) : List Char :=
  if isWindowsUnc s.toList then (Path.ntNormpath s).toList
  else if isWindowsDrive s.toList then (Path.ntNormpath s).toList.drop 2
  else (Path.posixNormpath s).toList

/-- The components of a path that remain when the parts `.` and `..` are resolved. -/
def components (s : String) : List (List Char) :=
  (resolvedText s).splitOn (if isWindowsPath s then '\\' else '/')

/-- The Unicode form of a component: NFC, and on Windows its case folding. -/
def componentForm (s : String) (component : List Char) : List Char :=
  if isWindowsPath s then foldChars component else nfcChars component

/-- A path whose normal form is left alone, by its components. -/
structure Settled (path : String) : Prop where
  solid : ∀ component ∈ (components (Text.strip path)).getLast?,
    ∀ c ∈ component.getLast?, Text.isSpace c = false
  stable : ∀ component ∈ components (Text.strip path), componentForm (Text.strip path)
    (componentForm (Text.strip path) component) = componentForm (Text.strip path) component
  bounded : ((components (Text.strip path)).map fun component =>
      (componentForm (Text.strip path) component).length + 1).sum +
    (if isWindowsDrive (Text.strip path).toList then 2 else 0) ≤ maxPathLen + 1
  letter : ∀ letter rest, (Text.strip path).toList = letter :: ':' :: rest → Platform.isalpha letter = true →
    ∃ c, letterForm letter = [c] ∧ Platform.isalpha c = true ∧ letterForm c = [c]

variable {path r s : String}

omit [Platform] in
theorem plain_unc (admitted : Admitted s) (unc : isWindowsUnc s.toList = true) :
    ∀ c ∈ (Path.ntNormpath s).toList, Text.isControl c = false := by
  intro c member
  obtain rfl | inside := Path.mem_ntNormpath_unc (take_of_unc unc) member
  · decide
  · exact plain_of_hasControl admitted.plain c inside

omit [Platform] in
theorem plain_posix (admitted : Admitted s) : ∀ c ∈ (Path.posixNormpath s).toList, Text.isControl c = false := by
  intro c member
  obtain rfl | inside := Path.mem_posixNormpath member
  · decide
  · exact plain_of_hasControl admitted.plain c inside

theorem plain_drive (laws : UnicodeLaws) {letter sep : Char} {rest : List Char} (admitted : Admitted s)
    (start : s.toList = letter :: ':' :: sep :: rest) (alpha : Platform.isalpha letter = true)
    (isSep : sep = '\\' ∨ sep = '/') : ∀ c ∈ (Path.ntNormpath s).toList, Text.isControl c = false := by
  intro c member
  obtain ⟨other, other'⟩ := letter_ne laws alpha
  have split : Path.splitDrive (Text.replaceChar '/' '\\' s).toList =
      ([letter, ':'], '\\' :: rest.map fun c => if c = '/' then '\\' else c) := by
    rw [Path.toList_replaceChar, start, List.map_cons, List.map_cons, List.map_cons, if_neg other',
      if_neg (by decide)]
    obtain rfl | rfl := isSep <;> exact Path.splitDrive_letter other _
  obtain rfl | inside := Path.mem_ntNormpath_rooted split member
  · decide
  · exact plain_of_hasControl admitted.plain c inside

omit [Platform] in
/-- The forms of the components, joined, are the form of the whole. -/
theorem length_form {f : List Char → List Char} (inert : Inert f isPathMark isBlankMark) {sep : Char}
    (isSep : isPathMark sep = true) (cs : List Char) :
    ((cs.splitOn sep).map fun piece => (f piece).length + 1).sum = (f cs).length + 1 := by
  have whole := inert.intercalate isSep (cs.splitOn sep)
  rw [List.intercalate_pieces] at whole
  rw [whole, length_intercalate (by simp), List.map_map]
  rfl

/-- Being settled, by the resolved text as a whole. -/
theorem settled_iff {f : List Char → List Char} (inert : Inert f isPathMark isBlankMark) {sep : Char}
    (isSep : isPathMark sep = true) (solid : Text.isSpace sep = false) {cs : List Char}
    (parts : components (Text.strip path) = cs.splitOn sep) (form : componentForm (Text.strip path) = f) :
    Settled path ↔ (∀ c ∈ cs.getLast?, Text.isSpace c = false) ∧ f (f cs) = f cs ∧
      (f cs).length + (if isWindowsDrive (Text.strip path).toList then 2 else 0) ≤ maxPathLen ∧
      ∀ letter rest, (Text.strip path).toList = letter :: ':' :: rest → Platform.isalpha letter = true →
        ∃ c, letterForm letter = [c] ∧ Platform.isalpha c = true ∧ letterForm c = [c] := by
  have length := length_form inert isSep cs
  rw [← last_component solid cs, stable_iff inert isSep cs]
  constructor
  · rintro ⟨ends, stable, bounded, letter⟩
    rw [parts] at ends stable bounded
    rw [form] at stable bounded
    exact ⟨ends, stable, by omega, letter⟩
  · rintro ⟨ends, stable, bounded, letter⟩
    refine ⟨?_, ?_, ?_, letter⟩
    · rw [parts]
      exact ends
    · rw [parts, form]
      exact stable
    · rw [parts, form]
      omega

theorem again_of_unc (laws : UnicodeLaws) (admitted : Admitted (Text.strip path))
    (unc : isWindowsUnc (Text.strip path).toList = true)
    (result : r = Platform.casefold (Platform.nfc (Path.ntNormpath (Text.strip path)))) :
    normalizeWorktreePath r = .ok r ↔ Settled path := by
  have windows : isWindowsPath (Text.strip path) = true := by rw [isWindowsPath, unc, Bool.true_or]
  have noLetter : ∀ letter rest, (Text.strip path).toList = letter :: ':' :: rest →
      Platform.isalpha letter ≠ true := by
    intro letter rest chars _
    rw [not_unc_of_drive chars] at unc
    cases unc
  have notDrive : ¬ isWindowsDrive (Text.strip path).toList = true := by
    intro drive
    obtain ⟨letter, rest, chars, alpha⟩ := isWindowsDrive_iff.mp drive
    exact noLetter letter rest chars alpha
  have parts : components (Text.strip path) = (Path.ntNormpath (Text.strip path)).toList.splitOn '\\' := by
    rw [components, if_pos windows, resolvedText, if_pos unc]
  have form : componentForm (Text.strip path) = foldChars := by
    funext component
    rw [componentForm, if_pos windows]
  have inert := laws.fold
  have normal := (Path.uncNormal_ntNormpath (take_of_unc unc)).map inert (by decide) (by decide) (by decide)
    (by decide) laws.device
  have plain := plain_unc admitted unc
  have chars : r.toList = foldChars (Path.ntNormpath (Text.strip path)).toList := by rw [result, toList_fold]
  have plain' := plain_image inert plain
  rw [← chars] at normal plain'
  rw [normalize_unc laws normal plain', chars, solid_iff inert plain,
    @settled_iff _ _ _ inert '\\' (by decide) (by decide) _ parts form, if_neg notDrive]
  constructor
  · rintro ⟨ends, bounded, stable⟩
    exact ⟨ends, stable, bounded, fun letter rest chars alpha => absurd alpha (noLetter letter rest chars)⟩
  · rintro ⟨ends, stable, bounded, -⟩
    exact ⟨ends, bounded, stable⟩

theorem again_of_posix (laws : UnicodeLaws) {rest : List Char} (admitted : Admitted (Text.strip path))
    (start : (Text.strip path).toList = '/' :: rest) (single : rest.head? ≠ some '/')
    (result : r = Platform.nfc (Path.posixNormpath (Text.strip path))) :
    normalizeWorktreePath r = .ok r ↔ Settled path := by
  have notUnc := not_unc_of_posix start single
  have noLetter : ∀ letter rest, (Text.strip path).toList = letter :: ':' :: rest →
      Platform.isalpha letter ≠ true := by
    intro letter rest chars alpha
    have same := (List.cons.inj (start.symm.trans chars)).1
    exact (letter_ne laws alpha).2 same.symm
  have notDrive : ¬ isWindowsDrive (Text.strip path).toList = true := by
    intro drive
    obtain ⟨letter, rest, chars, alpha⟩ := isWindowsDrive_iff.mp drive
    exact noLetter letter rest chars alpha
  have windows : ¬ isWindowsPath (Text.strip path) = true := by
    rw [isWindowsPath, notUnc, Bool.false_or]
    exact notDrive
  have parts : components (Text.strip path) = (Path.posixNormpath (Text.strip path)).toList.splitOn '/' := by
    rw [components, if_neg windows, resolvedText, if_neg (Bool.eq_false_iff.mp notUnc), if_neg notDrive]
  have form : componentForm (Text.strip path) = nfcChars := by
    funext component
    rw [componentForm, if_neg windows]
  have inert := laws.nfc
  have normal := (Path.posixNormal_posixNormpath (Text.strip path)).map inert (by decide) (by decide)
  have plain := plain_posix admitted
  have chars : r.toList = nfcChars (Path.posixNormpath (Text.strip path)).toList := by rw [result, toList_nfc]
  have plain' := plain_image inert plain
  rw [← chars] at normal plain'
  rw [normalize_posix laws normal plain', chars, solid_iff inert plain,
    @settled_iff _ _ _ inert '/' (by decide) (by decide) _ parts form, if_neg notDrive]
  constructor
  · rintro ⟨ends, bounded, stable⟩
    exact ⟨ends, stable, bounded, fun letter rest chars alpha => absurd alpha (noLetter letter rest chars)⟩
  · rintro ⟨ends, stable, bounded, -⟩
    exact ⟨ends, bounded, stable⟩

theorem again_of_drive (laws : UnicodeLaws) {letter sep : Char} {rest : List Char}
    (admitted : Admitted (Text.strip path)) (start : (Text.strip path).toList = letter :: ':' :: sep :: rest)
    (alpha : Platform.isalpha letter = true) (isSep : sep = '\\' ∨ sep = '/')
    (result : r = Platform.casefold (Platform.nfc (Platform.lower letter ++ ":" ++
      Text.dropPrefix (Path.ntNormpath (Text.strip path)) 2))) :
    normalizeWorktreePath r = .ok r ↔ Settled path := by
  have notUnc := not_unc_of_drive start
  have drive : isWindowsDrive (Text.strip path).toList = true := isWindowsDrive_iff.mpr ⟨letter, _, start, alpha⟩
  have windows : isWindowsPath (Text.strip path) = true := by rw [isWindowsPath, drive, Bool.or_true]
  obtain ⟨⟨pieces, clean, whole⟩, -, -⟩ := normpath_drive laws start alpha isSep
  have text : (Path.ntNormpath (Text.strip path)).toList.drop 2 = '\\' :: ['\\'].intercalate pieces := by
    rw [whole]
    rfl
  have parts : components (Text.strip path) = ('\\' :: ['\\'].intercalate pieces).splitOn '\\' := by
    rw [components, if_pos windows, resolvedText, if_neg (Bool.eq_false_iff.mp notUnc), if_pos drive, text]
  have form : componentForm (Text.strip path) = foldChars := by
    funext component
    rw [componentForm, if_pos windows]
  have inert := laws.fold
  have plain : ∀ c ∈ '\\' :: ['\\'].intercalate pieces, Text.isControl c = false := by
    intro c member
    refine plain_drive laws admitted start alpha isSep c ?_
    rw [whole]
    exact List.mem_cons_of_mem _ (List.mem_cons_of_mem _ member)
  have folded : foldChars ('\\' :: ['\\'].intercalate pieces) =
      '\\' :: ['\\'].intercalate (pieces.map foldChars) := by
    have sep : isPathMark '\\' = true := by decide
    rw [inert.cons sep, inert.intercalate sep]
  have chars : r.toList = letterForm letter ++ ':' :: foldChars ('\\' :: ['\\'].intercalate pieces) := by
    rw [result, toList_drive laws, text]
  have clean' : ∀ part ∈ pieces.map foldChars, Path.Clean '\\' part ∧ '/' ∉ part := by
    intro part member
    obtain ⟨piece, inside, rfl⟩ := List.mem_map.mp member
    obtain ⟨own, backslashes⟩ := clean piece inside
    have slash : isPathMark '/' = true := by decide
    exact ⟨own.map inert (by decide) (by decide), fun inside =>
      backslashes ((inert.mem_fixed slash piece).mp inside)⟩
  have some : foldChars ('\\' :: ['\\'].intercalate pieces) ≠ [] := fun none =>
    List.cons_ne_nil _ _ ((inert.empty _).mp none)
  have plain' : ∀ c ∈ r.toList, Text.isControl c = false := by
    intro c member
    rw [chars, List.mem_append] at member
    rcases member with inLetter | member
    · rw [Bool.eq_false_iff]
      intro control
      have unmarked := letterForm_unmarked laws alpha c inLetter
      rw [mark_of_isControl control] at unmarked
      cases unmarked
    · rcases List.mem_cons.mp member with rfl | member
      · decide
      · exact plain_image inert plain c member
  rw [normalize_drive laws (letterForm_unmarked laws alpha) clean' (folded ▸ chars) plain', ← folded, chars,
    List.getLast?_append_of_ne_nil _ (List.cons_ne_nil _ _), List.getLast?_cons_of_ne_nil some,
    solid_iff inert plain, @settled_iff _ _ _ inert '\\' (by decide) (by decide) _ parts form, if_pos drive]
  have length : (letterForm letter ++ ':' :: foldChars ('\\' :: ['\\'].intercalate pieces)).length =
      (letterForm letter).length + (foldChars ('\\' :: ['\\'].intercalate pieces)).length + 1 := by
    rw [List.length_append, List.length_cons, Nat.add_assoc]
  rw [length]
  constructor
  · rintro ⟨ends, bounded, ⟨c, own, alpha', again⟩, stable⟩
    rw [own, List.length_singleton] at bounded
    refine ⟨ends, stable, by omega, fun other more chars' _ => ?_⟩
    cases (List.cons.inj (start.symm.trans chars')).1
    exact ⟨c, own, alpha', again⟩
  · rintro ⟨ends, stable, bounded, letters⟩
    obtain ⟨c, own, alpha', again⟩ := letters letter _ start alpha
    refine ⟨ends, ?_, ⟨c, own, alpha', again⟩, stable⟩
    rw [own, List.length_singleton]
    omega

/-- **A normalized path is left alone exactly if the path was settled.** -/
theorem normalize_again_iff (laws : UnicodeLaws) (accepted : normalizeWorktreePath path = .ok r) :
    normalizeWorktreePath r = .ok r ↔ Settled path := by
  obtain ⟨admitted, normalizes⟩ := (normalizeWorktreePath_ok laws).mp accepted
  cases normalizes with
  | unc unc => exact again_of_unc laws admitted unc rfl
  | drive chars alpha isSep => exact again_of_drive laws admitted chars alpha isSep rfl
  | posix chars single => exact again_of_posix laws admitted chars single rfl

end Settled

section Identity

variable {path r hostId : String}

theorem buildWorktreeResource_ok {resource : WorktreeResource} :
    buildWorktreeResource hostId path = .ok resource ↔ validateHostId hostId = .ok hostId ∧
      ∃ r, normalizeWorktreePath path = .ok r ∧ resource = ⟨hostId, r⟩ := by
  have same : ∀ {valid}, validateHostId hostId = .ok valid → valid = hostId := by
    intro valid ran
    simp only [validateHostId, Except.bind_ok] at ran
    obtain ⟨_, -, _, -, _, -, _, -, ran⟩ := ran
    exact (Except.ok.inj ran).symm
  unfold buildWorktreeResource
  rw [Except.bind_ok]
  constructor
  · rintro ⟨valid, host, ran⟩
    obtain ⟨r, normalized, ran⟩ := Except.bind_ok.mp ran
    cases same host
    exact ⟨host, r, normalized, (Except.ok.inj ran).symm⟩
  · rintro ⟨host, r, normalized, rfl⟩
    exact ⟨hostId, host, Except.bind_ok.mpr ⟨r, normalized, rfl⟩⟩

/-- A resource passes the check of stored rows exactly if its path is left alone. -/
theorem validateResourceKeyMatches_iff (hash : ∀ text, Text.isHexDigest (sha256 text))
    (host : validateHostId hostId = .ok hostId) :
    validateResourceKeyMatches "worktree" ⟨hostId, r⟩ (computeResourceKey ⟨hostId, r⟩) = .ok () ↔
      normalizeWorktreePath r = .ok r := by
  have form : Text.matchSha256 (computeResourceKey ⟨hostId, r⟩) = true :=
    Text.matchSha256_of_isHexDigest (hash _)
  simp only [validateResourceKeyMatches, Except.bind_ok, raiseIf_except_ok, not_not]
  constructor
  · rintro ⟨_, _, _, _, _, _, normalized, ran, _, same, _⟩
    rwa [same] at ran
  · intro normalized
    exact ⟨(), form, (), trivial, hostId, host, r, normalized, (), rfl, trivial⟩

/-- What a normalized path promises to those who normalize it again. -/
structure LeftAlone (path r : String) : Prop where
  again : normalizeWorktreePath r = .ok r
  key : ∀ hostId spelling resource resource', spelling = r ∨ normalizeWorktreePath spelling = .ok r →
    buildWorktreeResource hostId path = .ok resource →
    buildWorktreeResource hostId spelling = .ok resource' →
      computeResourceKey resource' = computeResourceKey resource
  stored : ∀ jobId attemptToken agentId runnerProfileId hostId ttlSeconds w reserved w',
    (reserveAttemptLease jobId attemptToken agentId runnerProfileId hostId path ttlSeconds).run w =
        .ok reserved w' →
      ∀ lease ∈ w'.store.leases, lease ∉ w.store.leases → validateStoredResource lease = .ok ()

/-- The row that a reservation writes passes the check of stored rows exactly if its path is settled. -/
theorem stored_row_iff (laws : UnicodeLaws) (hash : ∀ text, Text.isHexDigest (sha256 text))
    {jobId agentId runnerProfileId : String} {attemptToken ttlSeconds : Int} {w w' : Work Db}
    {reserved : ReservedLease}
    (ran : (reserveAttemptLease jobId attemptToken agentId runnerProfileId hostId path ttlSeconds).run w =
      .ok reserved w') {lease : LeaseRow} (member : lease ∈ w'.store.leases)
    (written : lease ∉ w.store.leases) :
    validateStoredResource lease = .ok () ↔ Settled path := by
  obtain ⟨-, -, policy, resource, job, reserves, ⟨_, _, _, _, kept⟩ | ⟨-, -, leases, inserted, rfl⟩⟩ :=
    reserveAttemptLease_ok ran
  · rw [kept] at member
    exact absurd member written
  · obtain ⟨host, r, normalized, rfl⟩ := buildWorktreeResource_ok.mp reserves.resource
    rcases (Table.mem_insert? inserted).mp member with old | rfl
    · exact absurd old written
    · rw [← normalize_again_iff laws normalized, ← validateResourceKeyMatches_iff hash host]
      exact orRaise_except_ok

/-- **Normalizing twice is normalizing once, with what depends on it, exactly for the settled paths.** -/
theorem worktree_path_idempotent (laws : UnicodeLaws) (hash : ∀ text, Text.isHexDigest (sha256 text))
    (accepted : normalizeWorktreePath path = .ok r) : LeftAlone path r ↔ Settled path := by
  constructor
  · intro alone
    exact (normalize_again_iff laws accepted).mp alone.again
  · intro settled
    have again := (normalize_again_iff laws accepted).mpr settled
    refine ⟨again, ?_, ?_⟩
    · intro hostId spelling resource resource' spells built built'
      obtain ⟨-, r', normalized, rfl⟩ := buildWorktreeResource_ok.mp built
      obtain ⟨-, r'', normalized', rfl⟩ := buildWorktreeResource_ok.mp built'
      have same : normalizeWorktreePath spelling = .ok r := by
        obtain rfl | same := spells
        · exact again
        · exact same
      cases accepted.symm.trans normalized
      cases same.symm.trans normalized'
      rfl
    · intro jobId attemptToken agentId runnerProfileId hostId ttlSeconds w reserved w' ran lease member written
      exact (stored_row_iff laws hash ran member written).mpr settled

end Identity

end Coordinate

namespace Coordinate.Sample

theorem toNat_toLower (c : Char) :
    c.toLower.toNat = if 65 ≤ c.toNat ∧ c.toNat ≤ 90 then c.toNat + 32 else c.toNat := by
  by_cases upper : 'A'.val ≤ c.val ∧ c.val ≤ 'Z'.val
  · have low : 65 ≤ c.toNat := UInt32.le_iff_toNat_le.mp upper.1
    have high : c.toNat ≤ 90 := UInt32.le_iff_toNat_le.mp upper.2
    have value : c.toLower.toNat = (c.toNat + 32) % 4294967296 := by
      delta Char.toLower
      rw [dif_pos upper]
      change (c.val + ('a'.val - 'A'.val)).toNat = _
      rw [UInt32.toNat_add]
      rfl
    rw [value, if_pos ⟨low, high⟩]
    omega
  · have same : c.toLower = c := by
      delta Char.toLower
      rw [dif_neg upper]
    rw [same, if_neg fun range => upper ⟨UInt32.le_iff_toNat_le.mpr range.1, UInt32.le_iff_toNat_le.mpr range.2⟩]

/-- The letters are no marks. -/
theorem unmarked_letter {c : Char} (low : 65 ≤ c.toNat) (high : c.toNat ≤ 122) (other : c.toNat ≠ 92) :
    (isPathMark c || isBlankMark c) = false := by
  have apart : ∀ d : Char, d.toNat < 65 ∨ d.toNat = 92 → (c == d) = false := by
    intro d range
    refine beq_false_of_ne ?_
    rintro rfl
    omega
  have control : Text.isControl c = false := by
    simp only [Text.isControl, Bool.or_eq_false_iff, decide_eq_false_iff_not, beq_eq_false_iff_ne]
    omega
  have space : Text.isSpace c = false := by
    rw [Bool.eq_false_iff]
    simp only [Text.isSpace, ne_eq, Bool.or_eq_true, Bool.and_eq_true, decide_eq_true_eq, beq_iff_eq]
    omega
  rw [isPathMark, isBlankMark, control, space, apart '/' (by decide), apart '\\' (by decide),
    apart '.' (by decide), apart ':' (by decide), apart '?' (by decide)]
  rfl

theorem marks_apart (c : Char) (mark : isPathMark c = true) : isBlankMark c = false := by
  cases control : Text.isControl c with
  | true => rw [isBlankMark, control, Bool.not_true, Bool.and_false]
  | false =>
    simp only [isPathMark, control, Bool.false_or, Bool.or_eq_true, beq_iff_eq] at mark
    obtain (((rfl | rfl) | rfl) | rfl) | rfl := mark <;> decide

/-- Lower case leaves marks alone. -/
theorem toLower_mark {c : Char} (mark : (isPathMark c || isBlankMark c) = true) : c.toLower = c := by
  rw [← Char.toNat_inj, toNat_toLower, if_neg]
  rintro ⟨low, high⟩
  rw [unmarked_letter low (by omega) (by omega)] at mark
  cases mark

theorem lower_inert : Inert (List.map Char.toLower) isPathMark isBlankMark := by
  refine Inert.of_map marks_apart (fun c mark => ?_) (fun c blank => ?_) fun c plain => ?_
  · exact toLower_mark (by rw [mark, Bool.true_or])
  · rw [toLower_mark (by rw [blank, Bool.or_true])]
    exact blank
  · by_cases upper : 65 ≤ c.toNat ∧ c.toNat ≤ 90
    · have value := toNat_toLower c
      rw [if_pos upper] at value
      exact unmarked_letter (by omega) (by omega) (by omega)
    · have same : c.toLower = c := by rw [← Char.toNat_inj, toNat_toLower, if_neg upper]
      rw [same]
      exact plain

theorem toUpper_toLower (c : Char) : c.toLower.toUpper = c.toUpper := by
  rw [← Char.toNat_inj, Path.toNat_toUpper, Path.toNat_toUpper, toNat_toLower]
  split_ifs <;> omega

theorem foldChars_eq (cs : List Char) : foldChars cs = cs.map Char.toLower := by
  change (String.ofList ((String.ofList (String.ofList cs).toList).toList.map Char.toLower)).toList = _
  simp only [String.toList_ofList]

theorem alpha_unmarked {c : Char} (alpha : c.isAlpha = true) : (isPathMark c || isBlankMark c) = false := by
  have range : 65 ≤ c.toNat ∧ c.toNat ≤ 122 ∧ c.toNat ≠ 92 := by
    delta Char.isAlpha Char.isUpper Char.isLower at alpha
    simp only [Bool.or_eq_true, Bool.and_eq_true,
      decide_eq_true_eq, ge_iff_le, UInt32.le_iff_toNat_le] at alpha
    change (65 ≤ c.toNat ∧ c.toNat ≤ 90) ∨ (97 ≤ c.toNat ∧ c.toNat ≤ 122) at alpha
    omega
  exact unmarked_letter range.1 range.2.1 range.2.2

/-- The sample platform behaves as documented. -/
theorem unicode_laws : UnicodeLaws where
  nfc := by
    have same : nfcChars = id := by
      funext cs
      exact String.toList_ofList
    rw [same]
    exact ⟨marks_apart, fun _ _ _ _ => by simp, fun _ _ => rfl, fun c blank => ⟨c, rfl, blank⟩,
      fun _ plain => plain, fun _ => Iff.rfl⟩
  casefold := by
    have same : casefoldChars = List.map Char.toLower := by
      funext cs
      change (String.ofList ((String.ofList cs).toList.map Char.toLower)).toList = _
      rw [String.toList_ofList, String.toList_ofList]
    rw [same]
    exact lower_inert
  nfc_nfc _ := rfl
  device name := by
    rw [foldChars_eq, List.map_map]
    exact Iff.of_eq (congrArg (· = _) (List.map_congr_left fun c _ => toUpper_toLower c))
  isalpha _ alpha := alpha_unmarked alpha
  lower c alpha d member := by
    have lowered : d ∈ [c].map Char.toLower := by
      change d ∈ (String.ofList [c.toLower]).toList at member
      rwa [String.toList_ofList] at member
    refine (lower_inert.fresh [c] ?_) d lowered
    exact List.forall_mem_singleton.mpr (alpha_unmarked alpha)

/-- A parent component uncovers a space, which the next normalization removes. -/
theorem uncovered_space_moves : ¬ ∀ path r, normalizeWorktreePath path = .ok r → LeftAlone path r := by
  intro every
  have accepted : normalizeWorktreePath "/a /b/.." = .ok "/a " := by decide +kernel
  have again := (every _ _ accepted).again
  have moved : normalizeWorktreePath "/a " = .ok "/a" := by decide +kernel
  rw [moved] at again
  exact absurd (Except.ok.inj again) (by decide)

/-- A path without such a space is left alone. -/
theorem plain_path_left_alone : LeftAlone "/srv/a/../b" "/srv/b" := by
  have accepted : normalizeWorktreePath "/srv/a/../b" = .ok "/srv/b" := by decide +kernel
  refine (worktree_path_idempotent unicode_laws digest_form accepted).mpr ⟨?_, ?_, ?_, ?_⟩
  · have last : (components (Text.strip "/srv/a/../b")).getLast? = some ['b'] := by decide +kernel
    rw [last]
    rintro component ⟨⟩ c ⟨⟩
    decide
  · decide +kernel
  · decide +kernel
  · intro letter rest chars alpha
    have start : (Text.strip "/srv/a/../b").toList.head? = some '/' := by decide +kernel
    rw [chars] at start
    cases start
    exact absurd alpha (by decide +kernel)

end Coordinate.Sample

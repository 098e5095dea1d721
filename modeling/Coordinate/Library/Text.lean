import Mathlib.Data.List.DropRight

/-! # Python text operations

Executable counterparts of the `str` methods and regular expressions that a Python program applies
to identifiers, paths and messages. Every function works on the character list, so it evaluates in
the kernel and its lemmas are list lemmas. A pattern `^[...]+$` used with `re.match` also accepts
one trailing line feed, because `$` matches before it; `matchLine` keeps that behaviour.
-/

namespace Text

/-- The characters for which `str.isspace` holds, which are the ones `str.strip` removes. -/
def isSpace (c : Char) : Bool :=
  let n := c.toNat
  (9 ≤ n && n ≤ 13) || (28 ≤ n && n ≤ 32) || n == 0x85 || n == 0xa0 || n == 0x1680 ||
    (0x2000 ≤ n && n ≤ 0x200a) || n == 0x2028 || n == 0x2029 || n == 0x202f || n == 0x205f ||
    n == 0x3000

/-- The class `[\x00-\x1f\x7f]`. -/
def isControl (c : Char) : Bool :=
  c.toNat < 32 || c.toNat == 127

def isDigit (c : Char) : Bool :=
  48 ≤ c.toNat && c.toNat ≤ 57

def isAsciiAlpha (c : Char) : Bool :=
  (65 ≤ c.toNat && c.toNat ≤ 90) || (97 ≤ c.toNat && c.toNat ≤ 122)

def isAsciiAlnum (c : Char) : Bool :=
  isDigit c || isAsciiAlpha c

/-- The class `[0-9a-f]`. -/
def isLowerHex (c : Char) : Bool :=
  isDigit c || (97 ≤ c.toNat && c.toNat ≤ 102)

def stripChars (cs : List Char) : List Char :=
  (cs.dropWhile isSpace).rdropWhile isSpace

def strip (s : String) : String :=
  String.ofList (stripChars s.toList)

def rstrip (s : String) : String :=
  String.ofList (s.toList.rdropWhile isSpace)

/-- `not s.strip()`. -/
def isBlank (s : String) : Bool :=
  s.toList.all isSpace

def hasControl (s : String) : Bool :=
  s.toList.any isControl

def startsWith (s start : String) : Bool :=
  start.toList.isPrefixOf s.toList

def dropPrefix (s : String) (count : Nat) : String :=
  String.ofList (s.toList.drop count)

def takePrefix (s : String) (count : Nat) : String :=
  String.ofList (s.toList.take count)

def split (sep : Char) (s : String) : List String :=
  (s.toList.splitOn sep).map String.ofList

def join (sep : String) : List String → String
  | [] => ""
  | [part] => part
  | part :: next :: rest => part ++ sep ++ join sep (next :: rest)

/-- `str.split()` without a separator, joined by one blank again. -/
def collapseSpaces (s : String) : String :=
  join " " (((s.toList.splitOnP isSpace).filter (· ≠ [])).map String.ofList)

def replaceChar (old new : Char) (s : String) : String :=
  String.ofList (s.toList.map fun c => if c = old then new else c)

def rstripChar (c : Char) (s : String) : String :=
  String.ofList (s.toList.rdropWhile (· == c))

def stripChar (c : Char) (s : String) : String :=
  String.ofList ((s.toList.dropWhile (· == c)).rdropWhile (· == c))

/-- The line boundaries of `str.splitlines`. -/
def isLineBreak (c : Char) : Bool :=
  let n := c.toNat
  (10 ≤ n && n ≤ 13) || (28 ≤ n && n ≤ 30) || n == 0x85 || n == 0x2028 || n == 0x2029

/-- The lines of some characters after those of the line that has begun, the last one first. -/
def linesFrom : List Char → List Char → List (List Char)
  | [], [] => []
  | line, [] => [line.reverse]
  | line, '\r' :: '\n' :: rest => line.reverse :: linesFrom [] rest
  | line, c :: rest =>
    if isLineBreak c then line.reverse :: linesFrom [] rest else linesFrom (c :: line) rest

/-- `str.splitlines()`. -/
def splitlines (s : String) : List String :=
  (linesFrom [] s.toList).map String.ofList

/-- `s.strip(chars)`. -/
def stripOf (chars : List Char) (s : String) : String :=
  String.ofList ((s.toList.dropWhile (chars.contains ·)).rdropWhile (chars.contains ·))

/-- The text a pattern `^[class]{min,max}$` sees: one trailing line feed is not part of it. -/
def lineBody (cs : List Char) : List Char :=
  if cs.getLast? = some '\n' then cs.dropLast else cs

/-- `re.match(r"^[class]+$", s)`. -/
def matchLine (allowed : Char → Bool) (s : String) : Bool :=
  let body := lineBody s.toList
  body ≠ [] && body.all allowed

/-- `re.fullmatch(r"[class]+", s)`. -/
def fullmatch (allowed : Char → Bool) (s : String) : Bool :=
  s.toList ≠ [] && s.toList.all allowed

/-- `re.match(r"^sha256:[0-9a-f]{64}$", s)`. -/
def matchSha256 (s : String) : Bool :=
  let body := lineBody s.toList
  "sha256:".toList.isPrefixOf body && (body.drop 7).length == 64 && (body.drop 7).all isLowerHex

/-- Five groups of lowercase hexadecimal digits, as `str(uuid.uuid4())` prints them. -/
def uuidShape (cs : List Char) : Bool :=
  (cs.splitOn '-').map List.length = [8, 4, 4, 4, 12] && cs.all fun c => isLowerHex c || c == '-'

/-- `re.match` of the pattern of lowercase UUIDs. -/
def matchUuid (s : String) : Bool :=
  uuidShape (lineBody s.toList)

/-- The lowercase hexadecimal digests of a 256-bit hash. -/
def isHexDigest (s : String) : Prop :=
  s.toList.length = 64 ∧ s.toList.all isLowerHex = true

instance (s : String) : Decidable (isHexDigest s) :=
  inferInstanceAs (Decidable (s.toList.length = 64 ∧ s.toList.all isLowerHex = true))

private def hexDigit (n : Nat) : Char :=
  if n < 10 then Char.ofNat (48 + n) else Char.ofNat (87 + n)

private def reprChar (quote c : Char) : List Char :=
  if c = quote ∨ c = '\\' then ['\\', c]
  else if c = '\n' then ['\\', 'n']
  else if c = '\r' then ['\\', 'r']
  else if c = '\t' then ['\\', 't']
  else if isControl c then ['\\', 'x', hexDigit (c.toNat / 16), hexDigit (c.toNat % 16)]
  else [c]

/-- `repr(s)`. -/
def repr (s : String) : String :=
  let cs := s.toList
  let quote := if cs.contains '\'' && !cs.contains '"' then '"' else '\''
  String.ofList (quote :: (cs.flatMap (reprChar quote)) ++ [quote])

/-- `repr` of an optional text, where `None` prints as its name. -/
def reprOption : Option String → String
  | none => "None"
  | some s => repr s

theorem strip_eq_self_iff (s : String) : strip s = s ↔ stripChars s.toList = s.toList := by
  constructor
  · intro same
    have lists := congrArg String.toList same
    simpa [strip] using lists
  · intro same
    simp [strip, same]

theorem strip_eq_self {s : String} (solid : ∀ c ∈ s.toList, isSpace c = false) : strip s = s := by
  rw [strip_eq_self_iff, stripChars]
  have front : s.toList.dropWhile isSpace = s.toList :=
    List.dropWhile_eq_self_iff.mpr fun inside => by simp [solid _ (List.getElem_mem inside)]
  rw [front]
  exact List.rdropWhile_eq_self_iff.mpr fun nonempty => by simp [solid _ (List.getLast_mem nonempty)]

theorem stripChars_stripChars (cs : List Char) : stripChars (stripChars cs) = stripChars cs := by
  have front : (stripChars cs).dropWhile isSpace = stripChars cs := by
    refine List.dropWhile_eq_self_iff.mpr fun inside => ?_
    have nonempty : stripChars cs ≠ [] := List.ne_nil_of_length_pos inside
    have start : stripChars cs <+: cs.dropWhile isSpace := List.rdropWhile_prefix isSpace _
    rw [← List.head_eq_getElem nonempty, start.head nonempty]
    exact Bool.eq_false_iff.mp (List.head_dropWhile_not isSpace _)
  rw [stripChars, front]
  exact List.rdropWhile_idempotent _ _

theorem strip_strip (s : String) : strip (strip s) = strip s := by
  rw [strip_eq_self_iff, strip, String.toList_ofList]
  exact stripChars_stripChars s.toList

/-- Stripping a text that starts with no space removes the spaces at its end. -/
theorem strip_spec {s : String} {front back : List Char} {c : Char} (whole : s.toList = front ++ c :: back)
    (solid : isSpace c = false) (first : ∀ x ∈ s.toList.head?, isSpace x = false) :
    ∃ kept spaces, (strip s).toList = front ++ c :: kept ∧ back = kept ++ spaces ∧
      (∀ x ∈ spaces, isSpace x = true) ∧ ∀ x ∈ (strip s).toList.getLast?, isSpace x = false := by
  have start : s.toList.dropWhile isSpace = s.toList := by
    rw [whole] at first ⊢
    cases front with
    | nil => exact List.dropWhile_cons_of_neg (by simp [solid])
    | cons head rest => exact List.dropWhile_cons_of_neg (by simp [first head rfl])
  have chars : (strip s).toList = s.toList.rdropWhile isSpace := by
    rw [strip, String.toList_ofList, stripChars, start]
  have split : s.toList.rdropWhile isSpace ++ (s.toList.reverse.takeWhile isSpace).reverse = s.toList := by
    rw [List.rdropWhile, ← List.reverse_append, List.takeWhile_append_dropWhile, List.reverse_reverse]
  have ends : ∀ x ∈ (s.toList.rdropWhile isSpace).getLast?, isSpace x = false := by
    intro x member
    have nonempty : s.toList.rdropWhile isSpace ≠ [] := by
      intro none
      rw [none] at member
      cases member
    have last := List.rdropWhile_last_not isSpace s.toList nonempty
    rw [List.getLast?_eq_getLast_of_ne_nil nonempty] at member
    cases member
    simpa using last
  rw [chars]
  have spaces : ∀ x ∈ (s.toList.reverse.takeWhile isSpace).reverse, isSpace x = true := fun x member =>
    List.mem_takeWhile_imp (List.mem_reverse.mp member)
  generalize s.toList.rdropWhile isSpace = stripped at split ends ⊢
  generalize (s.toList.reverse.takeWhile isSpace).reverse = removed at split spaces
  rw [whole] at split
  obtain ⟨gap, rfl, same⟩ | ⟨gap, rfl, rest⟩ := List.append_eq_append_iff.mp split
  · have space := spaces c (by rw [same]; simp)
    rw [solid] at space
    cases space
  · cases gap with
    | nil =>
      have space := spaces c (by rw [← List.nil_append removed, ← rest]; exact List.mem_cons_self)
      rw [solid] at space
      cases space
    | cons x kept =>
      obtain ⟨rfl, rfl⟩ := List.cons.inj rest
      exact ⟨kept, removed, rfl, rfl, spaces, ends⟩

/-- A pattern `^[class]+$` matches what consists of the class and may end in a line feed. -/
theorem fullmatch_of_matchLine {allowed : Char → Bool} {s : String} (other : allowed '\n' = false)
    (line : matchLine allowed s = true) :
    fullmatch allowed s = true ↔ s.toList.getLast? ≠ some '\n' := by
  simp only [matchLine, lineBody, Bool.and_eq_true] at line
  split at line
  · rename_i ends
    refine iff_of_false (fun matched => ?_) (fun without => without ends)
    simp only [fullmatch, Bool.and_eq_true, List.all_eq_true] at matched
    have allowed := matched.2 '\n' (List.mem_of_getLast? ends)
    rw [other] at allowed
    cases allowed
  · rename_i plain
    refine iff_of_true ?_ plain
    simpa [fullmatch] using line

/-- A digest behind its prefix passes the pattern of digests. -/
theorem matchSha256_of_isHexDigest {digest : String} (form : isHexDigest digest) :
    matchSha256 ("sha256:" ++ digest) = true := by
  obtain ⟨length, hex⟩ := form
  have chars : ("sha256:" ++ digest).toList = "sha256:".toList ++ digest.toList := String.toList_append
  have plain : lineBody ("sha256:" ++ digest).toList = ("sha256:" ++ digest).toList := by
    refine if_neg fun ends => ?_
    have nonempty : digest.toList ≠ [] := by
      intro none
      rw [none] at length
      cases length
    rw [chars, List.getLast?_append_of_ne_nil _ nonempty] at ends
    have lowerHex := List.all_eq_true.mp hex _ (List.mem_of_getLast? ends)
    revert lowerHex
    decide
  simp only [matchSha256, plain, Bool.and_eq_true, beq_iff_eq]
  rw [chars]
  exact ⟨⟨rfl, length⟩, hex⟩

section Uuid

variable {cs : List Char}

theorem uuidShape_length (shape : uuidShape cs = true) : cs.length = 36 := by
  simp only [uuidShape, Bool.and_eq_true, decide_eq_true_eq] at shape
  have whole := @List.intercalate_splitOn _ cs _ _ '-'
  generalize cs.splitOn '-' = groups at shape whole
  simp only [List.map_eq_cons_iff, List.map_eq_nil_iff] at shape
  obtain ⟨⟨a, _, rfl, first, b, _, rfl, second, c, _, rfl, third, d, _, rfl, fourth, e, _, rfl, fifth,
    rfl⟩, _⟩ := shape
  rw [← whole]
  simp only [List.intercalate, List.intersperse, List.flatten_cons, List.flatten_nil,
    List.length_append, List.length_cons, List.length_nil, first, second, third, fourth, fifth]

theorem uuidShape_letters (shape : uuidShape cs = true) :
    ∀ c ∈ cs, isLowerHex c = true ∨ c = '-' := by
  simp only [uuidShape, Bool.and_eq_true, List.all_eq_true, Bool.or_eq_true, beq_iff_eq] at shape
  exact shape.2

/-- Its characters are neither spaces nor control characters. -/
theorem uuidShape_plain (shape : uuidShape cs = true) :
    ∀ c ∈ cs, isSpace c = false ∧ isControl c = false := by
  intro c member
  obtain hex | rfl := uuidShape_letters shape c member
  · simp only [isLowerHex, isDigit, Bool.or_eq_true, Bool.and_eq_true, decide_eq_true_eq] at hex
    have range : 48 ≤ c.toNat ∧ c.toNat ≤ 102 := by omega
    constructor
    · rw [Bool.eq_false_iff]
      simp only [isSpace, ne_eq, Bool.or_eq_true, Bool.and_eq_true, decide_eq_true_eq, beq_iff_eq]
      omega
    · rw [Bool.eq_false_iff]
      simp only [isControl, ne_eq, Bool.or_eq_true, decide_eq_true_eq, beq_iff_eq]
      omega
  · decide

end Uuid

/-- A text is determined by what stands before and after its last separator. -/
theorem append_cons_inj {sep : Char} {a b c d : List Char} (left : sep ∉ c) (right : sep ∉ d)
    (same : a ++ sep :: c = b ++ sep :: d) : a = b ∧ c = d := by
  obtain ⟨between, rfl, rest⟩ | ⟨between, rfl, rest⟩ := List.append_eq_append_iff.mp same
  · cases between with
    | nil =>
      simp only [List.nil_append, List.cons.injEq, true_and] at rest
      exact ⟨(List.append_nil a).symm, rest⟩
    | cons first more =>
      simp only [List.cons_append, List.cons.injEq] at rest
      exact absurd (rest.2 ▸ by simp) left
  · cases between with
    | nil =>
      simp only [List.nil_append, List.cons.injEq, true_and] at rest
      exact ⟨List.append_nil b, rest.symm⟩
    | cons first more =>
      simp only [List.cons_append, List.cons.injEq] at rest
      exact absurd (rest.2 ▸ by simp) right

end Text

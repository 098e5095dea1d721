import Coordinate.Library.Json

/-! # Reading JSON texts

The decoder of the standard library over the code points of a text, and the encoder of a flat object with ASCII
escapes. A number with a fraction or an exponent is only known to be one, and a text may hold lone surrogates.
Nesting deeper than the stack of the interpreter allows ends in its error. Reading what the encoder has written
gives the fields back.
-/

namespace JsonReader

/-- A code point. -/
abbrev Code := Nat

inductive Loaded where
  | null
  | bool (value : Bool)
  | int (value : Int)
  | float
  | text (codes : List Code)
  | list (items : List Loaded)
  | dict (fields : List (List Code × Loaded))

/-- How a text is refused: it is no JSON, or nested too deeply. -/
inductive Trouble where
  | invalid
  | tooDeep
deriving DecidableEq, Repr

section Texts

def codes (text : String) : List Code := text.toList.map Char.toNat

def isSpace (c : Code) : Bool := c = 32 || c = 9 || c = 10 || c = 13

def skipSpace (cs : List Code) : List Code := cs.dropWhile isSpace

def isDigit (c : Code) : Bool := 48 ≤ c && c ≤ 57

def hexValue? (c : Code) : Option Nat :=
  if 48 ≤ c ∧ c ≤ 57 then some (c - 48)
  else if 97 ≤ c ∧ c ≤ 102 then some (c - 87)
  else if 65 ≤ c ∧ c ≤ 70 then some (c - 55)
  else none

/-- The code unit of four hexadecimal digits. -/
def readUnit : List Code → Option (Nat × List Code)
  | a :: b :: c :: d :: rest => do
    let a ← hexValue? a
    let b ← hexValue? b
    let c ← hexValue? c
    let d ← hexValue? d
    return (((a * 16 + b) * 16 + c) * 16 + d, rest)
  | _ => none

/-- What follows a backslash and a `u`: a code unit, or a high and a low surrogate. -/
def readEscape (cs : List Code) : Option (Code × List Code) := do
  let (unit, rest) ← readUnit cs
  match rest with
  | 92 :: 117 :: more =>
    if 0xD800 ≤ unit ∧ unit < 0xDC00 then do
      let (low, rest') ← readUnit more
      if 0xDC00 ≤ low ∧ low < 0xE000 then
        return (0x10000 + (unit - 0xD800) * 0x400 + (low - 0xDC00), rest')
      else return (unit, rest)
    else return (unit, rest)
  | _ => return (unit, rest)

/-- The letters of the short escapes, and what they stand for. -/
def shortEscapes : List (Code × Code) :=
  [(34, 34), (92, 92), (47, 47), (98, 8), (102, 12), (110, 10), (114, 13), (116, 9)]

/-- One character of a quoted text. -/
def readChar : List Code → Option (Code × List Code)
  | 92 :: 117 :: rest => readEscape rest
  | 92 :: letter :: rest => (shortEscapes.lookup letter).map (·, rest)
  | [92] => none
  | c :: rest => if c < 32 then none else some (c, rest)
  | [] => none

/-- A quoted text after its opening quote; `fuel` bounds its characters. -/
def readString : Nat → List Code → Option (List Code × List Code)
  | 0, _ => none
  | fuel + 1, cs =>
    if cs.head? = some 34 then some ([], cs.tail)
    else do
      let (c, rest) ← readChar cs
      let (text, rest) ← readString fuel rest
      return (c :: text, rest)

end Texts

section Numbers

/-- The part of a number after its integer part, if it makes the number a float. -/
def skipFraction (cs : List Code) : List Code :=
  match cs with
  | 46 :: d :: rest => if isDigit d then rest.dropWhile isDigit else cs
  | _ => cs

def skipExponent (cs : List Code) : List Code :=
  match cs with
  | e :: rest =>
    if e = 101 ∨ e = 69 then
      let digits := match rest with
        | sign :: digits => if sign = 43 ∨ sign = 45 then digits else rest
        | [] => rest
      if digits.head?.any isDigit then digits.dropWhile isDigit else cs
    else cs
  | [] => cs

/-- An unsigned number: a longer one does not begin with zero. -/
def readDigits : List Code → Option (List Code × List Code)
  | 48 :: rest => some ([48], rest)
  | c :: rest => if isDigit c then some ((c :: rest).takeWhile isDigit, (c :: rest).dropWhile isDigit) else none
  | [] => none

def ofDigits (digits : List Code) : Nat := digits.foldl (fun n d => 10 * n + (d - 48)) 0

def readNumber (cs : List Code) : Option (Loaded × List Code) := do
  let negative := cs.head? = some 45
  let (digits, rest) ← readDigits (if negative then cs.tail else cs)
  let after := skipExponent (skipFraction rest)
  if after.length < rest.length then return (.float, after)
  else
    let value : Int := ofDigits digits
    return (.int (if negative then -value else value), rest)

end Numbers

section Values

/-- The words that stand for values. -/
def words : List (List Code × Loaded) :=
  [(codes "null", .null), (codes "true", .bool true), (codes "false", .bool false), (codes "NaN", .float),
    (codes "Infinity", .float), (codes "-Infinity", .float)]

def readWord (cs : List Code) : Option (Loaded × List Code) :=
  (words.find? fun word => word.1.isPrefixOf cs).map fun word => (word.2, cs.drop word.1.length)

def orInvalid {α : Type} : Option α → Except Trouble α
  | some value => .ok value
  | none => .error .invalid

mutual

/-- A value at the start of the characters, whose number `fuel` bounds; `stack` bounds the nesting. -/
def readValue : Nat → Nat → List Code → Except Trouble (Loaded × List Code)
  | 0, _, _ => throw .invalid
  | fuel + 1, _, 34 :: rest => do
    let (text, rest) ← orInvalid (readString (fuel + 1) rest)
    return (.text text, rest)
  | _ + 1, 0, 91 :: _ => throw .tooDeep
  | fuel + 1, stack + 1, 91 :: rest =>
    match skipSpace rest with
    | 93 :: rest => return (.list [], rest)
    | start => do
      let (items, rest) ← readItems fuel stack start
      return (.list items, rest)
  | _ + 1, 0, 123 :: _ => throw .tooDeep
  | fuel + 1, stack + 1, 123 :: rest =>
    match skipSpace rest with
    | 125 :: rest => return (.dict [], rest)
    | start => do
      let (fields, rest) ← readFields fuel stack start
      return (.dict fields, rest)
  | _ + 1, _, cs => orInvalid ((readWord cs).or (readNumber cs))

/-- The items of a list up to its closing bracket. -/
def readItems : Nat → Nat → List Code → Except Trouble (List Loaded × List Code)
  | 0, _, _ => throw .invalid
  | fuel + 1, stack, cs => do
    let (item, rest) ← readValue fuel stack cs
    match skipSpace rest with
    | 93 :: rest => return ([item], rest)
    | 44 :: rest => do
      let (items, rest) ← readItems fuel stack (skipSpace rest)
      return (item :: items, rest)
    | _ => throw .invalid

/-- The fields of an object up to its closing brace, as they are written. -/
def readFields : Nat → Nat → List Code → Except Trouble (List (List Code × Loaded) × List Code)
  | fuel + 1, stack, 34 :: rest => do
    let (key, rest) ← orInvalid (readString (fuel + 1) rest)
    match skipSpace rest with
    | 58 :: rest => do
      let (value, rest) ← readValue fuel stack (skipSpace rest)
      match skipSpace rest with
      | 125 :: rest => return ([(key, value)], rest)
      | 44 :: rest => do
        let (fields, rest) ← readFields fuel stack (skipSpace rest)
        return ((key, value) :: fields, rest)
      | _ => throw .invalid
    | _ => throw .invalid
  | _, _, _ => throw .invalid

end

/-- `json.loads` over the code points of a text. -/
def loads (stack : Nat) (text : List Code) : Except Trouble Loaded := do
  let cs := skipSpace text
  let (value, rest) ← readValue (cs.length + 1) stack cs
  if skipSpace rest = [] then return value else throw .invalid

/-- The value of a key: the last one that is written counts. -/
def Loaded.field? : Loaded → String → Option Loaded
  | .dict fields, key => (fields.reverse.lookup (codes key))
  | _, _ => none

end Values

section Encoding

def hexDigit (n : Nat) : Code := if n < 10 then 48 + n else 87 + n

/-- The escape of a code unit. -/
def unitEscape (unit : Nat) : List Code :=
  [92, 117, hexDigit (unit / 4096), hexDigit (unit / 256 % 16), hexDigit (unit / 16 % 16), hexDigit (unit % 16)]

/-- A character in ASCII. -/
def escape (c : Char) : List Code :=
  let n := c.toNat
  if n = 34 then [92, 34]
  else if n = 92 then [92, 92]
  else if 32 ≤ n ∧ n < 127 then [n]
  else if n = 10 then [92, 110]
  else if n = 13 then [92, 114]
  else if n = 9 then [92, 116]
  else if n = 8 then [92, 98]
  else if n = 12 then [92, 102]
  else if n < 0x10000 then unitEscape n
  else unitEscape (0xD800 + (n - 0x10000) / 0x400) ++ unitEscape (0xDC00 + (n - 0x10000) % 0x400)

def quote (text : String) : List Code := 34 :: (text.toList.flatMap escape ++ [34])

/-- The value of a field of a flat object. -/
inductive Scalar where
  | nat (value : Nat)
  | text (value : String)
deriving DecidableEq, Repr

def Scalar.dumps : Scalar → List Code
  | .nat value => codes (toString value)
  | .text value => quote value

def Scalar.load : Scalar → Loaded
  | .nat value => .int value
  | .text value => .text (codes value)

def dumpsFields : List (String × Scalar) → List Code
  | [] => []
  | [(key, value)] => quote key ++ 58 :: value.dumps
  | (key, value) :: others => quote key ++ 58 :: (value.dumps ++ 44 :: dumpsFields others)

/-- `json.dumps` of a flat object with compact separators. -/
def dumps (fields : List (String × Scalar)) : List Code :=
  123 :: (dumpsFields fields ++ [125])

end Encoding

section RoundTrip

theorem readUnit_unitEscape {unit : Nat} (bound : unit < 0x10000) (rest : List Code) :
    readUnit ((unitEscape unit).drop 2 ++ rest) = some (unit, rest) := by
  have digits : ∀ n < 16, hexValue? (hexDigit n) = some n := by decide
  have whole : ((unit / 4096 * 16 + unit / 256 % 16) * 16 + unit / 16 % 16) * 16 + unit % 16 = unit := by
    omega
  simp only [unitEscape, List.drop_succ_cons, List.drop_zero, List.cons_append, List.nil_append, readUnit,
    digits (unit / 4096) (by omega), digits (unit / 256 % 16) (by omega), digits (unit / 16 % 16) (by omega),
    digits (unit % 16) (by omega), Option.bind_eq_bind, Option.bind_some, Option.pure_def, whole]

/-- A code unit that is no high surrogate is read alone. -/
theorem readEscape_unit {unit : Nat} (bound : unit < 0x10000) (single : unit < 0xD800 ∨ 0xDC00 ≤ unit)
    (rest : List Code) : readEscape ((unitEscape unit).drop 2 ++ rest) = some (unit, rest) := by
  have alone : ¬ (0xD800 ≤ unit ∧ unit < 0xDC00) := by omega
  simp only [readEscape, readUnit_unitEscape bound, Option.bind_eq_bind, Option.bind_some, Option.pure_def]
  split
  · rw [if_neg alone]
  · rfl

/-- A high and a low surrogate are read as one character. -/
theorem readEscape_pair {high low : Nat} (first : 0xD800 ≤ high ∧ high < 0xDC00)
    (second : 0xDC00 ≤ low ∧ low < 0xE000) (rest : List Code) :
    readEscape ((unitEscape high).drop 2 ++ (unitEscape low ++ rest)) =
      some (0x10000 + (high - 0xD800) * 0x400 + (low - 0xDC00), rest) := by
  have unit := @readUnit_unitEscape high (by omega) (unitEscape low ++ rest)
  have following := @readUnit_unitEscape low (by omega) rest
  have escaped : unitEscape low ++ rest = 92 :: 117 :: ((unitEscape low).drop 2 ++ rest) := rfl
  simp only [readEscape, unit, Option.bind_eq_bind, Option.bind_some, Option.pure_def]
  rw [escaped]
  simp only [following, Option.bind_some, if_pos first, if_pos second]

/-- A character is no surrogate. -/
theorem toNat_valid (c : Char) : c.toNat < 0xD800 ∨ 0xE000 ≤ c.toNat ∧ c.toNat < 0x110000 := by
  rcases c.valid with low | ⟨high, bound⟩
  · exact .inl low
  · exact .inr ⟨high, bound⟩

/-- A character is read back from its escape. -/
theorem readChar_escape (c : Char) (rest : List Code) :
    readChar (escape c ++ rest) = some (c.toNat, rest) := by
  have valid := toNat_valid c
  unfold escape
  simp only
  split_ifs with quote slash plain feed ret tab back form basic
  · rw [quote]; rfl
  · rw [slash]; rfl
  · rw [List.cons_append, List.nil_append, readChar.eq_def]
    split
    · simp_all
    · simp_all
    · simp_all
    · rename_i c' rest' _ _ _ same
      obtain ⟨rfl, rfl⟩ := List.cons.inj same
      exact if_neg (Nat.not_lt.mpr plain.1)
    · simp_all
  · rw [feed]; rfl
  · rw [ret]; rfl
  · rw [tab]; rfl
  · rw [back]; rfl
  · rw [form]; rfl
  · exact readEscape_unit basic (by omega) rest
  · have whole : 0x10000 + (0xD800 + (c.toNat - 0x10000) / 0x400 - 0xD800) * 0x400 +
        (0xDC00 + (c.toNat - 0x10000) % 0x400 - 0xDC00) = c.toNat := by
      omega
    have read := @readEscape_pair (0xD800 + (c.toNat - 0x10000) / 0x400)
      (0xDC00 + (c.toNat - 0x10000) % 0x400) (by omega) (by omega) rest
    rw [whole] at read
    rw [List.append_assoc]
    exact read

/-- The escape of a character does not look like a closing quote. -/
theorem escape_head (c : Char) : ∃ code rest, escape c = code :: rest ∧ code ≠ 34 := by
  unfold escape
  simp only
  by_cases quote : c.toNat = 34
  · exact ⟨92, [34], if_pos quote, by decide⟩
  · rw [if_neg quote]
    split_ifs
    case pos => exact ⟨92, _, rfl, by decide⟩
    case pos => exact ⟨c.toNat, _, rfl, quote⟩
    all_goals exact ⟨92, _, rfl, by decide⟩

theorem readString_escape (rest : List Code) : ∀ (text : List Char) (fuel : Nat), text.length < fuel →
    readString fuel (text.flatMap escape ++ 34 :: rest) = some (text.map Char.toNat, rest)
  | [], fuel + 1, _ => rfl
  | c :: text, fuel + 1, bound => by
    have later := readString_escape rest text fuel (by simpa using bound)
    obtain ⟨code, tail, shape, other⟩ := escape_head c
    have read := readChar_escape c (text.flatMap escape ++ 34 :: rest)
    rw [List.flatMap_cons, List.append_assoc]
    rw [shape, List.cons_append] at read ⊢
    rw [readString, if_neg (by simpa using other), read]
    simp only [Option.bind_eq_bind, Option.bind_some, later]
    rfl

/-- What follows a value in an object. -/
def Delimited (rest : List Code) : Prop := rest.head? = some 44 ∨ rest.head? = some 125

/-- The codes of a number are digits. -/
theorem isDigit_codes (n : Nat) : ∀ code ∈ codes (toString n), isDigit code = true := by
  intro code member
  simp only [codes, Nat.toString_eq_ofList_toDigits, String.toList_ofList, List.mem_map] at member
  obtain ⟨c, digit, rfl⟩ := member
  have known := Nat.isDigit_of_mem_toDigits (by decide) (by decide) digit
  obtain ⟨low, high⟩ := Char.isDigit_iff_toNat.mp known
  exact Bool.and_eq_true_iff.mpr ⟨decide_eq_true low, decide_eq_true high⟩

theorem span_digits {digits rest : List Code} (all : ∀ code ∈ digits, isDigit code = true)
    (ends : Delimited rest) : (digits ++ rest).takeWhile isDigit = digits ∧
      (digits ++ rest).dropWhile isDigit = rest := by
  induction digits with
  | nil =>
    cases rest with
    | nil => exact ⟨rfl, rfl⟩
    | cons code tail =>
      have other : isDigit code = false := by
        rcases ends with comma | brace
        · rw [Option.some.inj comma]; rfl
        · rw [Option.some.inj brace]; rfl
      simp [other]
  | cons digit digits ih =>
    have first := all digit List.mem_cons_self
    obtain ⟨taken, dropped⟩ := ih fun code member => all code (List.mem_cons_of_mem _ member)
    simp [first, taken, dropped]

/-- A number other than zero does not begin with the digit zero. -/
theorem toDigits_head {n : Nat} (positive : 0 < n) : (Nat.toDigits 10 n).head? ≠ some '0' := by
  induction n using Nat.strong_induction_on with
  | h n ih =>
    by_cases small : n < 10
    · rw [Nat.toDigits_of_lt_base small]
      have digits : ∀ d < 10, 0 < d → [Nat.digitChar d].head? ≠ some '0' := by decide
      exact digits n small positive
    · rw [Nat.toDigits_of_base_le (by decide) (by omega), List.head?_append_of_ne_nil _ Nat.toDigits_ne_nil]
      exact ih (n / 10) (by omega) (by omega)

theorem readDigits_codes (n : Nat) {rest : List Code} (ends : Delimited rest) :
    readDigits (codes (toString n) ++ rest) = some (codes (toString n), rest) := by
  rcases Nat.eq_zero_or_pos n with rfl | positive
  · rfl
  · obtain ⟨taken, dropped⟩ := span_digits (isDigit_codes n) ends
    have first := isDigit_codes n
    have nonzero : (codes (toString n)).head? ≠ some 48 := by
      intro zero
      simp only [codes, Nat.toString_eq_ofList_toDigits, String.toList_ofList, List.head?_map,
        Option.map_eq_some_iff] at zero
      obtain ⟨c, head, code⟩ := zero
      have same : c = '0' := Char.toNat_inj.mp code
      exact toDigits_head positive (same ▸ head)
    cases shape : codes (toString n) with
    | nil =>
      simp only [codes, Nat.toString_eq_ofList_toDigits, String.toList_ofList, List.map_eq_nil_iff] at shape
      exact absurd shape Nat.toDigits_ne_nil
    | cons code tail =>
      rw [shape] at taken dropped first nonzero
      have digit := first code List.mem_cons_self
      rw [List.cons_append] at taken dropped ⊢
      rw [readDigits.eq_def]
      split
      · rename_i same
        exact absurd (congrArg some (List.cons.inj same).1) nonzero
      · rename_i same
        obtain ⟨rfl, rfl⟩ := List.cons.inj same
        rw [if_pos digit, taken, dropped]
      · rename_i same
        cases same

theorem ofDigits_codes (n : Nat) : ofDigits (codes (toString n)) = n := by
  have value := Nat.ofDigitChars_ten_toDigits (n := n)
  rw [Nat.ofDigitChars_eq_foldl] at value
  rw [ofDigits, codes, Nat.toString_eq_ofList_toDigits, String.toList_ofList, List.foldl_map]
  exact value

/-- A value that begins like no text, list or object is a word or a number. -/
theorem readValue_plain {fuel stack : Nat} {code : Code} {rest : List Code} (text : code ≠ 34)
    (list : code ≠ 91) (object : code ≠ 123) :
    readValue (fuel + 1) stack (code :: rest) =
      orInvalid ((readWord (code :: rest)).or (readNumber (code :: rest))) := by
  rw [readValue.eq_def]
  split <;> simp_all

/-- No word begins with a digit. -/
theorem readWord_digit {code : Code} {rest : List Code} (digit : isDigit code = true) :
    readWord (code :: rest) = none := by
  have heads : ∀ word ∈ words, ∃ first tail, word.1 = first :: tail ∧ isDigit first = false := by
    simp only [words, List.forall_mem_cons]
    exact ⟨⟨_, _, rfl, rfl⟩, ⟨_, _, rfl, rfl⟩, ⟨_, _, rfl, rfl⟩, ⟨_, _, rfl, rfl⟩, ⟨_, _, rfl, rfl⟩,
      ⟨_, _, rfl, rfl⟩, List.forall_mem_nil _⟩
  rw [readWord, Option.map_eq_none_iff, List.find?_eq_none]
  intro word member starts
  obtain ⟨first, tail, shape, letter⟩ := heads word member
  rw [shape, List.isPrefixOf_cons_cons, Bool.and_eq_true, beq_iff_eq] at starts
  rw [starts.1, digit] at letter
  cases letter

/-- Nothing that follows a value continues a number. -/
theorem skip_delimited {rest : List Code} (ends : Delimited rest) : skipExponent (skipFraction rest) = rest := by
  cases rest with
  | nil => rfl
  | cons code tail =>
    rcases ends with comma | brace
    · cases Option.some.inj comma
      rfl
    · cases Option.some.inj brace
      rfl

theorem readNumber_nat (n : Nat) {rest : List Code} (ends : Delimited rest)
    (unsigned : (codes (toString n) ++ rest).head? ≠ some 45) :
    readNumber (codes (toString n) ++ rest) = some (.int n, rest) := by
  simp only [readNumber, if_neg unsigned, readDigits_codes n ends, Option.bind_eq_bind, Option.bind_some,
    skip_delimited ends, Nat.lt_irrefl, if_false, ofDigits_codes]
  rfl

theorem readValue_nat (fuel stack n : Nat) {rest : List Code} (ends : Delimited rest) :
    readValue (fuel + 1) stack (codes (toString n) ++ rest) = .ok (.int n, rest) := by
  have number := readNumber_nat n ends
  cases shape : codes (toString n) with
  | nil =>
    simp only [codes, Nat.toString_eq_ofList_toDigits, String.toList_ofList, List.map_eq_nil_iff] at shape
    exact absurd shape Nat.toDigits_ne_nil
  | cons code tail =>
    have digit := isDigit_codes n code (by rw [shape]; exact List.mem_cons_self)
    have bounds := Bool.and_eq_true_iff.mp digit
    have low : 48 ≤ code := of_decide_eq_true bounds.1
    have high : code ≤ 57 := of_decide_eq_true bounds.2
    have other : ∀ symbol : Code, symbol < 48 ∨ 57 < symbol → code ≠ symbol := by
      rintro symbol (below | above) rfl
      · exact absurd low (Nat.not_le.mpr below)
      · exact absurd high (Nat.not_le.mpr above)
    rw [shape, List.cons_append] at number
    rw [List.cons_append, readValue_plain (other 34 (.inl (by decide))) (other 91 (.inr (by decide)))
      (other 123 (.inr (by decide))), readWord_digit digit,
      number (by simpa using other 45 (.inl (by decide)))]
    rfl

theorem length_escape (c : Char) : 0 < (escape c).length := by
  obtain ⟨code, rest, shape, -⟩ := escape_head c
  rw [shape]
  exact Nat.succ_pos _

theorem length_le_flatMap (text : List Char) : text.length ≤ (text.flatMap escape).length := by
  induction text with
  | nil => exact Nat.le_refl 0
  | cons c rest ih =>
    have first := length_escape c
    rw [List.flatMap_cons, List.length_append, List.length_cons]
    omega

/-- A quoted text is read back. -/
theorem readString_quote {fuel : Nat} {text : String} {rest : List Code}
    (bound : (quote text).length ≤ fuel) :
    readString fuel ((quote text ++ rest).tail) = some (codes text, rest) := by
  have shorter := length_le_flatMap text.toList
  have length : (quote text).length = (text.toList.flatMap escape).length + 2 := by
    simp [quote]
  have same : (quote text ++ rest).tail = text.toList.flatMap escape ++ 34 :: rest := by
    simp [quote]
  rw [same]
  exact readString_escape rest text.toList fuel (by omega)

/-- The value of a field is read back. -/
theorem readValue_dumps {fuel : Nat} (stack : Nat) (value : Scalar) {rest : List Code}
    (bound : value.dumps.length ≤ fuel) (ends : Delimited rest) :
    readValue (fuel + 1) stack (value.dumps ++ rest) = .ok (value.load, rest) := by
  cases value with
  | nat n => exact readValue_nat fuel stack n ends
  | text value =>
    have read := @readString_quote (fuel + 1) value rest
      (Nat.le_succ_of_le bound)
    rw [Scalar.dumps, quote, List.cons_append] at *
    rw [readValue]
    rw [List.tail_cons] at read
    rw [read]
    rfl

theorem skipSpace_of_head {code : Code} {rest : List Code} (solid : isSpace code = false) :
    skipSpace (code :: rest) = code :: rest := by
  simp [skipSpace, solid]

/-- The value of a field begins without white space. -/
theorem skipSpace_dumps (value : Scalar) (rest : List Code) :
    skipSpace (value.dumps ++ rest) = value.dumps ++ rest := by
  cases value with
  | text value => exact skipSpace_of_head rfl
  | nat n =>
    rw [Scalar.dumps]
    cases shape : codes (toString n) with
    | nil =>
      simp only [codes, Nat.toString_eq_ofList_toDigits, String.toList_ofList, List.map_eq_nil_iff] at shape
      exact absurd shape Nat.toDigits_ne_nil
    | cons code tail =>
      have digit := isDigit_codes n code (by rw [shape]; exact List.mem_cons_self)
      refine skipSpace_of_head (Bool.eq_false_iff.mpr fun space => ?_)
      simp only [isDigit, isSpace, Bool.and_eq_true, Bool.or_eq_true, decide_eq_true_eq] at digit space
      obtain ⟨low, -⟩ := digit
      rcases space with ((space | tab) | feed) | ret <;> simp_all

/-- The key and the value of a field are read, the last one's and another one's. -/
theorem readField {fuel : Nat} (stack : Nat) (key : String) (value : Scalar) (rest : List Code)
    (bound : (quote key).length + value.dumps.length ≤ fuel) :
    readFields (fuel + 1) stack (quote key ++ 58 :: (value.dumps ++ 125 :: rest)) =
        .ok ([(codes key, value.load)], rest) ∧
      readFields (fuel + 1) stack (quote key ++ 58 :: (value.dumps ++ 44 :: rest)) = (do
        let (fields, rest) ← readFields fuel stack (skipSpace rest)
        return ((codes key, value.load) :: fields, rest)) := by
  have length : 2 ≤ (quote key).length := by simp [quote]
  obtain ⟨fuel, rfl⟩ : ∃ more, fuel = more + 1 := ⟨fuel - 1, by omega⟩
  have name := fun rest : List Code => @readString_quote (fuel + 1 + 1) key rest
    (by omega)
  have read := fun {rest : List Code} (ends : Delimited rest) =>
    @readValue_dumps fuel stack value rest (by omega) ends
  have colon : ∀ cs : List Code, skipSpace (58 :: cs) = 58 :: cs := fun cs => skipSpace_of_head rfl
  simp only [quote, List.cons_append, List.tail_cons] at name ⊢
  constructor
  · rw [readFields, name]
    simp only [orInvalid, bind, Except.bind, colon, skipSpace_dumps, @read (125 :: rest) (.inr rfl)]
    rfl
  · rw [readFields, name]
    simp only [orInvalid, bind, Except.bind, colon, skipSpace_dumps, @read (44 :: rest) (.inl rfl)]
    rfl

/-- The fields of an object are read back in their order. -/
theorem readFields_dumps (stack : Nat) (rest : List Code) : ∀ (fields : List (String × Scalar)) (fuel : Nat),
    fields ≠ [] → (dumpsFields fields).length ≤ fuel →
    readFields (fuel + 1) stack (dumpsFields fields ++ 125 :: rest) =
      .ok (fields.map fun field => (codes field.1, field.2.load), rest)
  | [], _, nonempty, _ => absurd rfl nonempty
  | [(key, value)], fuel, _, bound => by
    have shape : dumpsFields [(key, value)] ++ 125 :: rest =
        quote key ++ 58 :: (value.dumps ++ 125 :: rest) := by
      simp [dumpsFields]
    have length : (quote key).length + value.dumps.length ≤ fuel := by
      simp only [dumpsFields, List.length_append, List.length_cons] at bound
      omega
    rw [shape]
    exact (readField stack key value rest length).1
  | (key, value) :: field :: others, fuel, _, bound => by
    have shape : dumpsFields ((key, value) :: field :: others) ++ 125 :: rest =
        quote key ++ 58 :: (value.dumps ++ 44 :: (dumpsFields (field :: others) ++ 125 :: rest)) := by
      simp [dumpsFields]
    have solid : skipSpace (dumpsFields (field :: others) ++ 125 :: rest) =
        dumpsFields (field :: others) ++ 125 :: rest := by
      cases others with
      | nil => exact skipSpace_of_head rfl
      | cons => exact skipSpace_of_head rfl
    have length : (quote key).length + value.dumps.length + (dumpsFields (field :: others)).length + 2 ≤ fuel := by
      simp only [dumpsFields, List.length_append, List.length_cons] at bound ⊢
      omega
    obtain ⟨fuel, rfl⟩ : ∃ more, fuel = more + 1 := ⟨fuel - 1, by omega⟩
    have later := readFields_dumps stack rest (field :: others) fuel (List.cons_ne_nil _ _) (by omega)
    rw [shape, (readField stack key value _ (by omega)).2]
    simp only [solid, later, bind, Except.bind]
    rfl

/-- A flat object is read back, by whatever interpreter can read an object at all. -/
theorem loads_dumps (stack : Nat) {fields : List (String × Scalar)} (nonempty : fields ≠ []) :
    loads (stack + 1) (dumps fields) =
      .ok (.dict (fields.map fun field => (codes field.1, field.2.load))) := by
  have head : ∃ tail, dumpsFields fields ++ [125] = 34 :: tail := by
    match fields, nonempty with
    | [(key, value)], _ => exact ⟨_, rfl⟩
    | (key, value) :: field :: others, _ => exact ⟨_, rfl⟩
  have read := readFields_dumps stack [] fields ((dumps fields).length - 1) nonempty (by simp [dumps])
  have length : (dumps fields).length - 1 + 1 = (dumps fields).length := by simp [dumps]
  have object : skipSpace (dumps fields) = dumps fields := skipSpace_of_head rfl
  rw [length] at read
  have value : readValue ((dumps fields).length + 1) (stack + 1) (dumps fields) =
      .ok (.dict (fields.map fun field => (codes field.1, field.2.load)), []) := by
    generalize (dumps fields).length = fuel at read
    obtain ⟨tail, shape⟩ := head
    rw [dumps, readValue]
    rw [shape] at read ⊢
    simp only [skipSpace_of_head (show isSpace 34 = false from rfl), read, bind, Except.bind]
    rfl
  rw [loads, object, value]
  rfl

end RoundTrip

end JsonReader

import Coordinate.Library.Text

/-! # JSON values as a Python program sees them

An object is a dictionary, so equality of values ignores the order of its keys and identifies the
booleans with the integers 0 and 1, as `==` does in Python. `dumps` is the canonical encoder
(sorted keys, compact separators, no ASCII escaping); `dumps_injective` says that it merges only
values that differ in key order. `reload` is an encoding followed by a decoding.
-/

inductive Json where
  | null
  | bool (value : Bool)
  | int (value : Int)
  | str (value : String)
  | arr (items : List Json)
  | obj (fields : List (String × Json))
deriving Repr, Inhabited

namespace Json

mutual

def decEq : (a b : Json) → Decidable (a = b)
  | null, null => isTrue rfl
  | bool a, bool b => decidable_of_iff (a = b) (by simp)
  | int a, int b => decidable_of_iff (a = b) (by simp)
  | str a, str b => decidable_of_iff (a = b) (by simp)
  | arr a, arr b =>
    match decEqItems a b with
    | isTrue same => isTrue (congrArg arr same)
    | isFalse differ => isFalse fun same => differ (arr.inj same)
  | obj a, obj b =>
    match decEqFields a b with
    | isTrue same => isTrue (congrArg obj same)
    | isFalse differ => isFalse fun same => differ (obj.inj same)
  | null, bool _ | null, int _ | null, str _ | null, arr _ | null, obj _ => isFalse nofun
  | bool _, null | bool _, int _ | bool _, str _ | bool _, arr _ | bool _, obj _ => isFalse nofun
  | int _, null | int _, bool _ | int _, str _ | int _, arr _ | int _, obj _ => isFalse nofun
  | str _, null | str _, bool _ | str _, int _ | str _, arr _ | str _, obj _ => isFalse nofun
  | arr _, null | arr _, bool _ | arr _, int _ | arr _, str _ | arr _, obj _ => isFalse nofun
  | obj _, null | obj _, bool _ | obj _, int _ | obj _, str _ | obj _, arr _ => isFalse nofun

def decEqItems : (a b : List Json) → Decidable (a = b)
  | [], [] => isTrue rfl
  | [], _ :: _ => isFalse nofun
  | _ :: _, [] => isFalse nofun
  | x :: xs, y :: ys =>
    match decEq x y with
    | isFalse differ => isFalse fun same => differ (List.cons.inj same).1
    | isTrue head =>
      match decEqItems xs ys with
      | isTrue tail => isTrue (by rw [head, tail])
      | isFalse differ => isFalse fun same => differ (List.cons.inj same).2

def decEqFields : (a b : List (String × Json)) → Decidable (a = b)
  | [], [] => isTrue rfl
  | [], _ :: _ => isFalse nofun
  | _ :: _, [] => isFalse nofun
  | (k, x) :: xs, (l, y) :: ys =>
    if key : k = l then
      match decEq x y with
      | isFalse differ => isFalse fun same => differ (Prod.mk.inj (List.cons.inj same).1).2
      | isTrue head =>
        match decEqFields xs ys with
        | isTrue tail => isTrue (by rw [key, head, tail])
        | isFalse differ => isFalse fun same => differ (List.cons.inj same).2
    else isFalse fun same => key (Prod.mk.inj (List.cons.inj same).1).1

end

instance : DecidableEq Json := decEq

/-- The value of a key, if the value is an object that has it. -/
def field? (value : Json) (key : String) : Option Json :=
  match value with
  | obj fields => fields.lookup key
  | _ => none

/-- `value.get(key)` of a dictionary. -/
def get (value : Json) (key : String) : Json :=
  (value.field? key).getD null

def keys : Json → List String
  | obj fields => fields.map Prod.fst
  | _ => []

def isObj : Json → Bool
  | obj _ => true
  | _ => false

def asStr? : Json → Option String
  | str value => some value
  | _ => none

def ofOption : Option String → Json
  | none => null
  | some value => str value

/-- `set(value.keys()) == set(expected)` for keys without repetition. -/
def hasExactlyKeys (value : Json) (expected : List String) : Bool :=
  value.keys.all (expected.contains ·) && expected.all (value.keys.contains ·)

def setField (key : String) (value : Json) : List (String × Json) → List (String × Json)
  | [] => [(key, value)]
  | (k, v) :: rest => if k = key then (k, value) :: rest else (k, v) :: setField key value rest

/-- `target[key] = value`. -/
def set (target : Json) (key : String) (value : Json) : Json :=
  match target with
  | obj fields => obj (setField key value fields)
  | other => other

/-- `target.pop(key, None)`. -/
def erase (target : Json) (key : String) : Json :=
  match target with
  | obj fields => obj (fields.filter fun field => field.1 ≠ key)
  | other => other

/-- `target.update(source)`, and `{**target, **source}`. -/
def update (target source : Json) : Json :=
  match source with
  | obj fields => fields.foldl (fun current field => current.set field.1 field.2) target
  | _ => target

/-- `target.setdefault(key, value)`. -/
def setDefault (target : Json) (key : String) (value : Json) : Json :=
  if (target.field? key).isSome then target else target.set key value

/-- The value of a key of a part. -/
def fieldIn? (target : Json) (part key : String) : Option Json := (target.get part).field? key

/-- `target[part].get(key)`. -/
def getIn (target : Json) (part key : String) : Json := (target.get part).get key

/-- `target[part][key] = value`. -/
def setIn (target : Json) (part key : String) (value : Json) : Json :=
  target.set part ((target.get part).set key value)

/-- `target[part].pop(key, None)`. -/
def eraseIn (target : Json) (part key : String) : Json :=
  target.set part ((target.get part).erase key)

def truthy : Json → Bool
  | null => false
  | bool value => value
  | int value => value ≠ 0
  | str value => value ≠ ""
  | arr items => !items.isEmpty
  | obj fields => !fields.isEmpty

mutual

/-- `repr(value)` of the decoded value. -/
def pyRepr : Json → String
  | null => "None"
  | bool value => if value then "True" else "False"
  | int value => toString value
  | str value => Text.repr value
  | arr items => "[" ++ pyReprItems items ++ "]"
  | obj fields => "\x7b" ++ pyReprFields fields ++ "\x7d"

def pyReprItems : List Json → String
  | [] => ""
  | [item] => pyRepr item
  | item :: rest => pyRepr item ++ ", " ++ pyReprItems rest

def pyReprFields : List (String × Json) → String
  | [] => ""
  | [(key, value)] => Text.repr key ++ ": " ++ pyRepr value
  | (key, value) :: rest => Text.repr key ++ ": " ++ pyRepr value ++ ", " ++ pyReprFields rest

end

/-- `str(value)`. -/
def pyStr : Json → String
  | str value => value
  | other => other.pyRepr

/-- `a or b`. -/
def orElse (a b : Json) : Json :=
  if a.truthy then a else b

def insertField (field : String × Json) : List (String × Json) → List (String × Json)
  | [] => [field]
  | head :: rest =>
    if field.1 ≤ head.1 then field :: head :: rest else head :: insertField field rest

mutual

/-- Order the keys of every object. -/
def sortKeys : Json → Json
  | arr items => arr (sortItems items)
  | obj fields => obj (sortFields fields)
  | null => null
  | bool value => bool value
  | int value => int value
  | str value => str value

def sortItems : List Json → List Json
  | [] => []
  | item :: rest => sortKeys item :: sortItems rest

def sortFields : List (String × Json) → List (String × Json)
  | [] => []
  | (key, value) :: rest => insertField (key, sortKeys value) (sortFields rest)

end

/-- `json.loads(json.dumps(value, sort_keys=True))`. -/
def reload (value : Json) : Json :=
  value.sortKeys

mutual

/-- Identify the booleans with the integers they equal. -/
def intBools : Json → Json
  | bool value => int (if value then 1 else 0)
  | arr items => arr (intBoolsItems items)
  | obj fields => obj (intBoolsFields fields)
  | null => null
  | int value => int value
  | str value => str value

def intBoolsItems : List Json → List Json
  | [] => []
  | item :: rest => intBools item :: intBoolsItems rest

def intBoolsFields : List (String × Json) → List (String × Json)
  | [] => []
  | (key, value) :: rest => (key, intBools value) :: intBoolsFields rest

end

/-- The representative of a value under Python equality. -/
def norm (value : Json) : Json :=
  value.intBools.sortKeys

/-- `a == b`. -/
def pyEq (a b : Json) : Bool :=
  a.norm = b.norm

private def hexChar (n : Nat) : Char :=
  if n < 10 then Char.ofNat (48 + n) else Char.ofNat (87 + n)

/-- The escapes of the encoder without ASCII escaping. -/
def escapeChar (c : Char) : List Char :=
  if c = '"' then ['\\', '"']
  else if c = '\\' then ['\\', '\\']
  else if c = '\n' then ['\\', 'n']
  else if c = '\r' then ['\\', 'r']
  else if c = '\t' then ['\\', 't']
  else if c.toNat = 8 then ['\\', 'b']
  else if c.toNat = 12 then ['\\', 'f']
  else if c.toNat < 32 then ['\\', 'u', '0', '0', hexChar (c.toNat / 16), hexChar (c.toNat % 16)]
  else [c]

def renderStr (s : String) : List Char :=
  '"' :: s.toList.flatMap escapeChar ++ ['"']

def renderInt : Int → List Char
  | .ofNat n => Nat.toDigits 10 n
  | .negSucc n => '-' :: Nat.toDigits 10 (n + 1)

mutual

def render : Json → List Char
  | null => "null".toList
  | bool true => "true".toList
  | bool false => "false".toList
  | int value => renderInt value
  | str value => renderStr value
  | arr [] => "[]".toList
  | arr (item :: rest) => '[' :: render item ++ renderItems rest
  | obj [] => "\x7b\x7d".toList
  | obj ((key, value) :: rest) =>
    '\x7b' :: renderStr key ++ ':' :: render value ++ renderFields rest

def renderItems : List Json → List Char
  | [] => [']']
  | item :: rest => ',' :: render item ++ renderItems rest

def renderFields : List (String × Json) → List Char
  | [] => ['\x7d']
  | (key, value) :: rest => ',' :: renderStr key ++ ':' :: render value ++ renderFields rest

end

/-- The characters of the canonical encoding. -/
def text (value : Json) : List Char :=
  value.sortKeys.render

/-- `json.dumps(value, ensure_ascii=False, sort_keys=True, separators=(",", ":"))`. -/
def dumps (value : Json) : String :=
  String.ofList value.text

example : dumps (obj [("b", arr [int 1, null]), ("a", str "x\"y")]) =
    "\x7b\"a\":\"x\\\"y\",\"b\":[1,null]\x7d" := by
  decide

private def hexVal (c : Char) : Nat :=
  if c.toNat < 58 then c.toNat - 48 else c.toNat - 87

/-- Undo one escape, and stop at the closing quote. -/
private def unescape : List Char → Option (Char × List Char)
  | '\\' :: 'n' :: rest => some ('\n', rest)
  | '\\' :: 'r' :: rest => some ('\r', rest)
  | '\\' :: 't' :: rest => some ('\t', rest)
  | '\\' :: 'b' :: rest => some (Char.ofNat 8, rest)
  | '\\' :: 'f' :: rest => some (Char.ofNat 12, rest)
  | '\\' :: 'u' :: '0' :: '0' :: a :: b :: rest =>
    some (Char.ofNat (16 * hexVal a + hexVal b), rest)
  | '\\' :: c :: rest => some (c, rest)
  | '"' :: _ => none
  | c :: rest => some (c, rest)
  | [] => none

private theorem hexVal_hexChar : ∀ d, d < 16 → hexVal (hexChar d) = d := by
  decide

private theorem unescape_escapeChar (c : Char) (rest : List Char) :
    unescape (escapeChar c ++ rest) = some (c, rest) := by
  unfold escapeChar
  split_ifs with quote slash feed ret tab back form low
  · subst quote; rfl
  · subst slash; rfl
  · subst feed; rfl
  · subst ret; rfl
  · subst tab; rfl
  · have same : Char.ofNat 8 = c := by rw [← back, Char.ofNat_toNat]
    exact congrArg (fun d => some (d, rest)) same
  · have same : Char.ofNat 12 = c := by rw [← form, Char.ofNat_toNat]
    exact congrArg (fun d => some (d, rest)) same
  · have high := hexVal_hexChar (c.toNat / 16) (by omega)
    have last := hexVal_hexChar (c.toNat % 16) (by omega)
    have code : 16 * (c.toNat / 16) + c.toNat % 16 = c.toNat := by omega
    simp [unescape, high, last, code, Char.ofNat_toNat]
  · simp only [List.cons_append, List.nil_append]
    rw [unescape.eq_def]
    split <;> simp_all

private theorem escapeChar_split {c d : Char} {x y : List Char}
    (same : escapeChar c ++ x = escapeChar d ++ y) : c = d ∧ x = y := by
  have decoded := unescape_escapeChar c x
  rw [same, unescape_escapeChar] at decoded
  simp only [Option.some.injEq, Prod.mk.injEq] at decoded
  exact ⟨decoded.1.symm, decoded.2.symm⟩

private theorem escapeChar_ne_quote {c : Char} {x y : List Char} :
    escapeChar c ++ x ≠ '"' :: y := by
  intro same
  have decoded := unescape_escapeChar c x
  rw [same] at decoded
  exact absurd decoded nofun

private theorem escape_split : ∀ {cs ds x y : List Char},
    cs.flatMap escapeChar ++ '"' :: x = ds.flatMap escapeChar ++ '"' :: y → cs = ds ∧ x = y
  | [], [], _, _, same => ⟨rfl, (List.cons.inj same).2⟩
  | [], d :: ds, _, _, same => by
    rw [List.flatMap_cons, List.append_assoc] at same
    exact (escapeChar_ne_quote same.symm).elim
  | c :: cs, [], _, _, same => by
    rw [List.flatMap_cons, List.append_assoc] at same
    exact (escapeChar_ne_quote same).elim
  | c :: cs, d :: ds, x, y, same => by
    rw [List.flatMap_cons, List.flatMap_cons, List.append_assoc, List.append_assoc] at same
    obtain ⟨rfl, rest⟩ := escapeChar_split same
    obtain ⟨rfl, rfl⟩ := escape_split rest
    exact ⟨rfl, rfl⟩

/-- A quoted text determines where it ends. -/
theorem renderStr_split {s t : String} {x y : List Char}
    (same : renderStr s ++ x = renderStr t ++ y) : s = t ∧ x = y := by
  simp only [renderStr, List.cons_append, List.append_assoc, List.nil_append, List.cons.injEq,
    true_and] at same
  obtain ⟨chars, rest⟩ := escape_split same
  exact ⟨String.toList_inj.mp chars, rest⟩

/-- What may follow a number: the text does not continue it. -/
def EndsNumber (rest : List Char) : Prop :=
  ∀ c tail, rest = c :: tail → c.isDigit = false

private theorem digits_split : ∀ {ds es x y : List Char}, (∀ c ∈ ds, c.isDigit = true) →
    (∀ c ∈ es, c.isDigit = true) → EndsNumber x → EndsNumber y → ds ++ x = es ++ y →
    ds = es ∧ x = y
  | [], [], _, _, _, _, _, _, same => ⟨rfl, same⟩
  | [], e :: es, _, _, _, digits, ends, _, same => by
    have digit := digits e (List.mem_cons_self ..)
    have other := ends e _ same
    simp [digit] at other
  | d :: ds, [], _, _, digits, _, _, ends, same => by
    have digit := digits d (List.mem_cons_self ..)
    have other := ends d _ same.symm
    simp [digit] at other
  | d :: ds, e :: es, x, y, left, right, endsX, endsY, same => by
    obtain ⟨rfl, rest⟩ := List.cons.inj same
    obtain ⟨rfl, rfl⟩ := digits_split (fun c m => left c (List.mem_cons_of_mem _ m))
      (fun c m => right c (List.mem_cons_of_mem _ m)) endsX endsY rest
    exact ⟨rfl, rfl⟩

private theorem toDigits_digit {n : Nat} : ∀ c ∈ Nat.toDigits 10 n, c.isDigit = true :=
  fun _ member => Nat.isDigit_of_mem_toDigits (by decide) (by decide) member

private theorem toDigits_inj {m n : Nat} (same : Nat.toDigits 10 m = Nat.toDigits 10 n) :
    m = n := by
  have value := congrArg (Nat.ofDigitChars 10 · 0) same
  simpa using value

private theorem toDigits_split {m n : Nat} {x y : List Char} (endsX : EndsNumber x)
    (endsY : EndsNumber y) (same : Nat.toDigits 10 m ++ x = Nat.toDigits 10 n ++ y) :
    m = n ∧ x = y := by
  obtain ⟨digits, rest⟩ := digits_split toDigits_digit toDigits_digit endsX endsY same
  exact ⟨toDigits_inj digits, rest⟩

private theorem toDigits_ne_minus {n : Nat} {x y : List Char} :
    Nat.toDigits 10 n ++ x ≠ '-' :: y := by
  intro same
  cases digits : Nat.toDigits 10 n with
  | nil => exact Nat.toDigits_ne_nil digits
  | cons c rest =>
    rw [digits] at same
    have digit := toDigits_digit (n := n) c (by simp [digits])
    simp only [List.cons_append, List.cons.injEq] at same
    rw [same.1] at digit
    exact absurd digit (by decide)

theorem renderInt_split {a b : Int} {x y : List Char} (endsX : EndsNumber x)
    (endsY : EndsNumber y) (same : renderInt a ++ x = renderInt b ++ y) : a = b ∧ x = y := by
  cases a with
  | ofNat m =>
    cases b with
    | ofNat n =>
      obtain ⟨rfl, rfl⟩ := toDigits_split endsX endsY same
      exact ⟨rfl, rfl⟩
    | negSucc n => exact (toDigits_ne_minus same).elim
  | negSucc m =>
    cases b with
    | ofNat n => exact (toDigits_ne_minus same.symm).elim
    | negSucc n =>
      obtain ⟨number, rfl⟩ := toDigits_split endsX endsY (List.cons.inj same).2
      exact ⟨by rw [Nat.succ.inj number], rfl⟩


/-- The constructor that the first character of an encoding announces. -/
private def headTag (c : Char) : Nat :=
  if c = 'n' then 0 else if c = 't' then 1 else if c = 'f' then 2 else if c = '"' then 3
  else if c = '[' then 4 else if c = '\x7b' then 5 else if c = ']' then 7 else 6

private def tag : Json → Nat
  | null => 0
  | bool true => 1
  | bool false => 2
  | str _ => 3
  | arr _ => 4
  | obj _ => 5
  | int _ => 6

private theorem headTag_of_isDigit {c : Char} (digit : c.isDigit = true) : headTag c = 6 := by
  unfold headTag
  split_ifs
  all_goals first | rfl | (subst c; exact absurd digit (by decide))

private theorem render_head (value : Json) :
    ∃ c rest, value.render = c :: rest ∧ headTag c = value.tag := by
  match value with
  | null | bool true | bool false | arr [] | obj [] => exact ⟨_, _, rfl, rfl⟩
  | str s => exact ⟨'"', _, rfl, rfl⟩
  | arr (_ :: _) => exact ⟨'[', _, rfl, rfl⟩
  | obj ((_, _) :: _) => exact ⟨'\x7b', _, rfl, rfl⟩
  | int (.negSucc n) => exact ⟨'-', _, rfl, rfl⟩
  | int (.ofNat n) =>
    cases digits : Nat.toDigits 10 n with
    | nil => exact (Nat.toDigits_ne_nil digits).elim
    | cons c rest =>
      have digit := toDigits_digit (n := n) c (by simp [digits])
      exact ⟨c, rest, by simpa [render, renderInt] using digits, headTag_of_isDigit digit⟩

private theorem tag_eq {a b : Json} {x y : List Char} (same : a.render ++ x = b.render ++ y) :
    a.tag = b.tag := by
  obtain ⟨c, _, left, tagA⟩ := render_head a
  obtain ⟨d, _, right, tagB⟩ := render_head b
  rw [left, right] at same
  rw [← tagA, ← tagB, (List.cons.inj same).1]

private theorem render_ne_close {value : Json} {x y : List Char} :
    value.render ++ x ≠ ']' :: y := by
  intro same
  obtain ⟨c, rest, shape, tagged⟩ := render_head value
  rw [shape, List.cons_append, List.cons.injEq] at same
  rw [same.1] at tagged
  change 7 = value.tag at tagged
  unfold tag at tagged
  split at tagged <;> omega

private theorem endsNumber_cons {c : Char} {rest : List Char} (other : c.isDigit = false) :
    EndsNumber (c :: rest) := by
  intro d tail same
  rw [← (List.cons.inj same).1, other]

private theorem renderItems_ends (items : List Json) (rest : List Char) :
    EndsNumber (renderItems items ++ rest) := by
  cases items <;> exact endsNumber_cons (by decide)

private theorem renderFields_ends (fields : List (String × Json)) (rest : List Char) :
    EndsNumber (renderFields fields ++ rest) := by
  cases fields <;> exact endsNumber_cons (by decide)

mutual

/-- An encoding determines its value and where it ends. -/
theorem render_split : ∀ (a b : Json) {x y : List Char}, EndsNumber x → EndsNumber y →
    a.render ++ x = b.render ++ y → a = b ∧ x = y
  | a, b, x, y, endsX, endsY, same => by
    have tags := tag_eq same
    match a, b with
    | null, null => exact ⟨rfl, List.append_cancel_left same⟩
    | bool true, bool true => exact ⟨rfl, List.append_cancel_left same⟩
    | bool false, bool false => exact ⟨rfl, List.append_cancel_left same⟩
    | int m, int n =>
      obtain ⟨rfl, rfl⟩ := renderInt_split endsX endsY same
      exact ⟨rfl, rfl⟩
    | str s, str t =>
      obtain ⟨rfl, rfl⟩ := renderStr_split same
      exact ⟨rfl, rfl⟩
    | arr [], arr [] => exact ⟨rfl, List.append_cancel_left same⟩
    | arr [], arr (item :: rest) =>
      simp only [render, List.cons_append, List.append_assoc] at same
      exact (render_ne_close (List.cons.inj same).2.symm).elim
    | arr (item :: rest), arr [] =>
      simp only [render, List.cons_append, List.append_assoc] at same
      exact (render_ne_close (List.cons.inj same).2).elim
    | arr (item :: rest), arr (item' :: rest') =>
      simp only [render, List.cons_append, List.append_assoc, List.cons.injEq, true_and] at same
      obtain ⟨rfl, tail⟩ := render_split item item' (renderItems_ends _ _) (renderItems_ends _ _) same
      obtain ⟨rfl, rfl⟩ := renderItems_split rest rest' endsX endsY tail
      exact ⟨rfl, rfl⟩
    | obj [], obj [] => exact ⟨rfl, List.append_cancel_left same⟩
    | obj [], obj ((_, _) :: _) => exact absurd (List.cons.inj (List.cons.inj same).2).1 (by decide)
    | obj ((_, _) :: _), obj [] => exact absurd (List.cons.inj (List.cons.inj same).2).1 (by decide)
    | obj ((key, value) :: rest), obj ((key', value') :: rest') =>
      simp only [render, List.cons_append, List.append_assoc, List.cons.injEq, true_and] at same
      obtain ⟨rfl, after⟩ := renderStr_split same
      obtain ⟨rfl, tail⟩ := render_split value value' (renderFields_ends _ _)
        (renderFields_ends _ _) (List.cons.inj after).2
      obtain ⟨rfl, rfl⟩ := renderFields_split rest rest' endsX endsY tail
      exact ⟨rfl, rfl⟩

theorem renderItems_split : ∀ (items items' : List Json) {x y : List Char}, EndsNumber x →
    EndsNumber y → renderItems items ++ x = renderItems items' ++ y → items = items' ∧ x = y
  | [], [], _, _, _, _, same => ⟨rfl, (List.cons.inj same).2⟩
  | [], _ :: _, _, _, _, _, same => absurd (List.cons.inj same).1 (by decide)
  | _ :: _, [], _, _, _, _, same => absurd (List.cons.inj same).1 (by decide)
  | item :: rest, item' :: rest', x, y, endsX, endsY, same => by
    simp only [renderItems, List.cons_append, List.append_assoc, List.cons.injEq, true_and] at same
    obtain ⟨rfl, tail⟩ := render_split item item' (renderItems_ends _ _) (renderItems_ends _ _) same
    obtain ⟨rfl, rfl⟩ := renderItems_split rest rest' endsX endsY tail
    exact ⟨rfl, rfl⟩

theorem renderFields_split : ∀ (fields fields' : List (String × Json)) {x y : List Char},
    EndsNumber x → EndsNumber y → renderFields fields ++ x = renderFields fields' ++ y →
    fields = fields' ∧ x = y
  | [], [], _, _, _, _, same => ⟨rfl, (List.cons.inj same).2⟩
  | [], (_, _) :: _, _, _, _, _, same => absurd (List.cons.inj same).1 (by decide)
  | (_, _) :: _, [], _, _, _, _, same => absurd (List.cons.inj same).1 (by decide)
  | (key, value) :: rest, (key', value') :: rest', x, y, endsX, endsY, same => by
    simp only [renderFields, List.cons_append, List.append_assoc, List.cons.injEq, true_and] at same
    obtain ⟨rfl, after⟩ := renderStr_split same
    obtain ⟨rfl, tail⟩ := render_split value value' (renderFields_ends _ _) (renderFields_ends _ _)
      (List.cons.inj after).2
    obtain ⟨rfl, rfl⟩ := renderFields_split rest rest' endsX endsY tail
    exact ⟨rfl, rfl⟩

end

/-- Ordering the keys keeps what a lookup finds. -/
theorem lookup_insertField (key name : String) (value : Json) :
    ∀ fields : List (String × Json), (insertField (name, value) fields).lookup key =
      ((name, value) :: fields).lookup key
  | [] => rfl
  | (head, first) :: rest => by
    unfold insertField
    split_ifs with ordered
    · rfl
    · have apart : name ≠ head := fun same => ordered (same ▸ String.le_refl head)
      have ih := lookup_insertField key name value rest
      simp only [List.lookup_cons] at ih ⊢
      rw [ih]
      by_cases found : key = head
      · subst found
        simp [beq_false_of_ne (Ne.symm apart)]
      · simp [beq_false_of_ne found]

theorem lookup_sortFields (key : String) : ∀ fields : List (String × Json),
    (sortFields fields).lookup key = (fields.lookup key).map sortKeys
  | [] => rfl
  | (name, value) :: rest => by
    rw [sortFields, lookup_insertField, List.lookup_cons, List.lookup_cons,
      lookup_sortFields key rest]
    cases key == name <;> rfl

theorem get_reload (value : Json) (key : String) :
    value.reload.get key = (value.get key).reload := by
  cases value with
  | obj fields =>
    simp only [reload, get, field?, sortKeys, lookup_sortFields]
    cases fields.lookup key <;> rfl
  | _ => rfl

@[simp] theorem reload_str (text : String) : (str text).reload = str text := rfl

@[simp] theorem reload_int (value : Int) : (int value).reload = int value := rfl

@[simp] theorem reload_null : null.reload = null := rfl

theorem reload_ofOption (text : Option String) : (ofOption text).reload = ofOption text := by
  cases text <;> rfl

theorem sortItems_eq_map : ∀ items : List Json, sortItems items = items.map sortKeys
  | [] => rfl
  | item :: rest => by rw [sortItems, sortItems_eq_map rest, List.map_cons]

theorem reload_arr (items : List Json) : (arr items).reload = arr (items.map reload) := by
  rw [reload, sortKeys, sortItems_eq_map]
  rfl

theorem lookup_setField_self (key : String) (value : Json) : ∀ fields : List (String × Json),
    (setField key value fields).lookup key = some value
  | [] => by simp [setField]
  | (k, v) :: rest => by
    by_cases same : k = key
    · simp [setField, same]
    · have apart : (key == k) = false := by simpa using Ne.symm same
      simp [setField, same, List.lookup_cons, apart, lookup_setField_self key value rest]

theorem lookup_setField_ne {key other : String} (different : other ≠ key) (value : Json) :
    ∀ fields : List (String × Json), (setField key value fields).lookup other = fields.lookup other
  | [] => by simp [setField, different]
  | (k, v) :: rest => by
    by_cases same : k = key
    · subst same
      have apart : (other == k) = false := by simpa using different
      simp [setField, List.lookup_cons, apart]
    · simp [setField, same, List.lookup_cons, lookup_setField_ne different value rest]

/-- A dictionary has what has been stored under a key. -/
@[simp] theorem get_set_self {target : Json} (isObj : target.isObj = true) (key : String) (value : Json) :
    (target.set key value).get key = value := by
  cases target with
  | obj fields => simp [set, get, field?, lookup_setField_self]
  | _ => cases isObj

/-- Storing under a key leaves the other keys alone. -/
@[simp] theorem get_set_ne {key other : String} (different : other ≠ key) (target value : Json) :
    (target.set key value).get other = target.get other := by
  cases target with
  | obj fields => simp [set, get, field?, lookup_setField_ne different]
  | _ => rfl

theorem get_update_ne {key : String} {fields : List (String × Json)}
    (absent : ∀ field ∈ fields, key ≠ field.1) (target : Json) :
    (target.update (.obj fields)).get key = target.get key := by
  unfold update
  dsimp only
  induction fields generalizing target with
  | nil => rfl
  | cons field rest ih =>
    rw [List.foldl_cons, ih (fun other member => absent other (List.mem_cons_of_mem _ member)),
      get_set_ne (absent field (List.mem_cons_self ..))]

theorem mem_keys_setField {key other : String} {value : Json} : ∀ {fields : List (String × Json)},
    other ∈ (setField key value fields).map Prod.fst ↔ other ∈ fields.map Prod.fst ∨ other = key
  | [] => by simp [setField]
  | (k, v) :: rest => by
    by_cases same : k = key
    · subst same
      simp only [setField, ↓reduceIte, List.map_cons, List.mem_cons]
      tauto
    · simp only [setField, same, ↓reduceIte, List.map_cons, List.mem_cons, @mem_keys_setField key other value rest]
      tauto

/-- Storing under a key adds at most that key. -/
theorem mem_keys_set {target : Json} (isObj : target.isObj = true) {key other : String} {value : Json} :
    other ∈ (target.set key value).keys ↔ other ∈ target.keys ∨ other = key := by
  cases target with
  | obj fields => exact mem_keys_setField
  | _ => cases isObj

@[simp] theorem isObj_set (target : Json) (key : String) (value : Json) :
    (target.set key value).isObj = target.isObj := by
  cases target <;> rfl

@[simp] theorem isObj_erase (target : Json) (key : String) : (target.erase key).isObj = target.isObj := by
  cases target <;> rfl

@[simp] theorem field?_set_self {target : Json} (isObj : target.isObj = true) (key : String) (value : Json) :
    (target.set key value).field? key = some value := by
  cases target with
  | obj fields => simp [set, field?, lookup_setField_self]
  | _ => cases isObj

@[simp] theorem field?_set_ne {key other : String} (different : other ≠ key) (target value : Json) :
    (target.set key value).field? other = target.field? other := by
  cases target with
  | obj fields => simp [set, field?, lookup_setField_ne different]
  | _ => rfl

theorem lookup_filter_ne (key other : String) : ∀ fields : List (String × Json),
    (fields.filter fun field => field.1 ≠ key).lookup other =
      if other = key then none else fields.lookup other
  | [] => by simp
  | (name, value) :: rest => by
    have ih := lookup_filter_ne key other rest
    by_cases same : name = key
    · subst same
      rw [List.filter_cons_of_neg (by simp), ih]
      by_cases found : other = name
      · simp [found]
      · have apart : (other == name) = false := beq_false_of_ne found
        simp [found, List.lookup_cons, apart]
    · rw [List.filter_cons_of_pos (by simpa using same), List.lookup_cons, List.lookup_cons, ih]
      by_cases found : other = name
      · subst found
        simp [same]
      · have apart : (other == name) = false := beq_false_of_ne found
        simp [apart]

/-- A key that has been removed is missing. -/
@[simp] theorem field?_erase_self (target : Json) (key : String) : (target.erase key).field? key = none := by
  cases target with
  | obj fields =>
    rw [erase, field?, lookup_filter_ne]
    exact if_pos rfl
  | _ => rfl

@[simp] theorem field?_erase_ne {key other : String} (different : other ≠ key) (target : Json) :
    (target.erase key).field? other = target.field? other := by
  cases target with
  | obj fields =>
    rw [erase, field?, lookup_filter_ne]
    exact if_neg different
  | _ => rfl

@[simp] theorem isObj_setDefault (target : Json) (key : String) (value : Json) :
    (target.setDefault key value).isObj = target.isObj := by
  unfold setDefault
  split
  · rfl
  · exact isObj_set ..

@[simp] theorem field?_setDefault_self {target : Json} (isObj : target.isObj = true) (key : String)
    (value : Json) :
    (target.setDefault key value).field? key = some ((target.field? key).getD value) := by
  unfold setDefault
  split
  · rename_i present
    obtain ⟨found, same⟩ := Option.isSome_iff_exists.mp present
    rw [same, Option.getD_some]
  · rename_i absent
    rw [Option.not_isSome_iff_eq_none] at absent
    rw [field?_set_self isObj, absent, Option.getD_none]

@[simp] theorem field?_setDefault_ne {key other : String} (different : other ≠ key)
    (target value : Json) : (target.setDefault key value).field? other = target.field? other := by
  unfold setDefault
  split
  · rfl
  · exact field?_set_ne different ..

theorem field?_of_not_isObj {target : Json} (other : target.isObj = false) (key : String) :
    target.field? key = none := by
  cases target with
  | obj fields => cases other
  | _ => rfl

@[simp] theorem isObj_obj (fields : List (String × Json)) : (obj fields).isObj = true := by
  simp only [isObj]

@[simp] theorem field?_empty (key : String) : (obj []).field? key = none := rfl

section Parts

variable {target : Json} {part other key : String}

theorem getIn_eq (target : Json) (part key : String) :
    target.getIn part key = (target.fieldIn? part key).getD null := rfl

@[simp] theorem isObj_setIn (target : Json) (part key : String) (value : Json) :
    (target.setIn part key value).isObj = target.isObj := isObj_set ..

@[simp] theorem isObj_get_setIn (isObj : target.isObj = true) (part key other : String) (value : Json) :
    ((target.setIn part key value).get other).isObj = (target.get other).isObj := by
  by_cases same : other = part
  · rw [same, setIn, get_set_self isObj, isObj_set]
  · rw [setIn, get_set_ne same]

@[simp] theorem get_setIn_ne (different : other ≠ part) (target : Json) (key : String) (value : Json) :
    (target.setIn part key value).get other = target.get other := get_set_ne different ..

@[simp] theorem fieldIn?_set_ne (different : part ≠ other) (target : Json) (key : String) (value : Json) :
    (target.set other value).fieldIn? part key = target.fieldIn? part key := by
  rw [fieldIn?, get_set_ne different, fieldIn?]

@[simp] theorem fieldIn?_set_self (isObj : target.isObj = true) (part key : String) (value : Json) :
    (target.set part value).fieldIn? part key = value.field? key := by
  rw [fieldIn?, get_set_self isObj]

@[simp] theorem fieldIn?_setIn_self (isObj : target.isObj = true) (isPart : (target.get part).isObj = true)
    (key : String) (value : Json) : (target.setIn part key value).fieldIn? part key = some value := by
  rw [setIn, fieldIn?_set_self isObj, field?_set_self isPart]

@[simp] theorem fieldIn?_setIn_key (isObj : target.isObj = true) (different : other ≠ key) (value : Json) :
    (target.setIn part key value).fieldIn? part other = target.fieldIn? part other := by
  rw [setIn, fieldIn?_set_self isObj, field?_set_ne different, fieldIn?]

@[simp] theorem fieldIn?_setIn_part (different : other ≠ part) (target : Json) (key name : String)
    (value : Json) : (target.setIn part key value).fieldIn? other name = target.fieldIn? other name := by
  rw [fieldIn?, get_setIn_ne different, fieldIn?]

@[simp] theorem isObj_eraseIn (target : Json) (part key : String) :
    (target.eraseIn part key).isObj = target.isObj := isObj_set ..

@[simp] theorem get_eraseIn_ne (different : other ≠ part) (target : Json) (key : String) :
    (target.eraseIn part key).get other = target.get other := get_set_ne different ..

@[simp] theorem fieldIn?_eraseIn_self (isObj : target.isObj = true) (part key : String) :
    (target.eraseIn part key).fieldIn? part key = none := by
  rw [eraseIn, fieldIn?_set_self isObj, field?_erase_self]

@[simp] theorem fieldIn?_eraseIn_key (isObj : target.isObj = true) (different : other ≠ key) :
    (target.eraseIn part key).fieldIn? part other = target.fieldIn? part other := by
  rw [eraseIn, fieldIn?_set_self isObj, field?_erase_ne different, fieldIn?]

@[simp] theorem fieldIn?_eraseIn_part (different : other ≠ part) (target : Json) (key name : String) :
    (target.eraseIn part key).fieldIn? other name = target.fieldIn? other name := by
  rw [fieldIn?, get_eraseIn_ne different, fieldIn?]

end Parts

theorem render_injective {a b : Json} (same : a.render = b.render) : a = b :=
  (render_split a b (x := []) (y := []) nofun nofun (by rw [same])).1

/-- The canonical encoding merges only values that differ in the order of their keys. -/
theorem dumps_injective {a b : Json} (same : a.dumps = b.dumps) : a.sortKeys = b.sortKeys :=
  render_injective (String.ofList_injective same)

end Json

import Mathlib.Data.List.Basic

/-! # URL-safe base64

`base64.urlsafe_b64encode` without the padding, and `base64.b64decode` of a text of the alphabet with the padding
put back. Bytes are the numbers below 256. The bits that a last character has too many are not looked at.
-/

namespace Base64

/-- The character of six bits. -/
def digit (n : Nat) : Char :=
  if n < 26 then Char.ofNat (65 + n)
  else if n < 52 then Char.ofNat (71 + n)
  else if n < 62 then Char.ofNat (n - 4)
  else if n = 62 then '-'
  else '_'

/-- The six bits of a character of the alphabet. -/
def value? (c : Char) : Option Nat :=
  let n := c.toNat
  if 65 ≤ n ∧ n ≤ 90 then some (n - 65)
  else if 97 ≤ n ∧ n ≤ 122 then some (n - 71)
  else if 48 ≤ n ∧ n ≤ 57 then some (n + 4)
  else if c = '-' then some 62
  else if c = '_' then some 63
  else none

def encode : List Nat → List Char
  | [] => []
  | [a] => [digit (a / 4), digit (a % 4 * 16)]
  | [a, b] => [digit (a / 4), digit (a % 4 * 16 + b / 16), digit (b % 16 * 4)]
  | a :: b :: c :: rest =>
    digit (a / 4) :: digit (a % 4 * 16 + b / 16) :: digit (b % 16 * 4 + c / 64) :: digit (c % 64) :: encode rest

def decode : List Char → Option (List Nat)
  | [] => some []
  | [_] => none
  | [w, x] => do
    let w ← value? w
    let x ← value? x
    return [w * 4 + x / 16]
  | [w, x, y] => do
    let w ← value? w
    let x ← value? x
    let y ← value? y
    return [w * 4 + x / 16, x % 16 * 16 + y / 4]
  | w :: x :: y :: z :: rest => do
    let w ← value? w
    let x ← value? x
    let y ← value? y
    let z ← value? z
    let others ← decode rest
    return (w * 4 + x / 16) :: (x % 16 * 16 + y / 4) :: (y % 4 * 64 + z) :: others

theorem value_digit : ∀ n < 64, value? (digit n) = some n := by
  decide

theorem digit_inAlphabet : ∀ n < 64, (value? (digit n)).isSome = true := by
  decide

/-- What is encoded is decoded again. -/
theorem decode_encode : ∀ {bytes : List Nat}, (∀ byte ∈ bytes, byte < 256) →
    decode (encode bytes) = some bytes
  | [], _ => rfl
  | [a], bounded => by
    have first := bounded a List.mem_cons_self
    simp only [encode, decode, value_digit (a / 4) (by omega), value_digit (a % 4 * 16) (by omega),
      Option.bind_eq_bind, Option.bind_some, Option.pure_def, Option.some.injEq, List.cons.injEq, and_true]
    omega
  | [a, b], bounded => by
    have first := bounded a (by simp)
    have second := bounded b (by simp)
    simp only [encode, decode, value_digit (a / 4) (by omega), value_digit (a % 4 * 16 + b / 16) (by omega),
      value_digit (b % 16 * 4) (by omega), Option.bind_eq_bind, Option.bind_some, Option.pure_def,
      Option.some.injEq, List.cons.injEq, and_true]
    omega
  | a :: b :: c :: rest, bounded => by
    have first := bounded a (by simp)
    have second := bounded b (by simp)
    have third := bounded c (by simp)
    have others : decode (encode rest) = some rest :=
      decode_encode fun byte member => bounded byte (by simp [member])
    simp only [encode, decode, value_digit (a / 4) (by omega), value_digit (a % 4 * 16 + b / 16) (by omega),
      value_digit (b % 16 * 4 + c / 64) (by omega), value_digit (c % 64) (by omega), others,
      Option.bind_eq_bind, Option.bind_some, Option.pure_def, Option.some.injEq, List.cons.injEq, and_true]
    omega

/-- The characters of an encoding are in the alphabet. -/
theorem encode_inAlphabet : ∀ {bytes : List Nat}, (∀ byte ∈ bytes, byte < 256) →
    ∀ c ∈ encode bytes, (value? c).isSome = true
  | [], _ => List.forall_mem_nil _
  | [a], bounded => by
    have first := bounded a List.mem_cons_self
    exact List.forall_mem_cons.mpr ⟨digit_inAlphabet _ (by omega),
      List.forall_mem_singleton.mpr (digit_inAlphabet _ (by omega))⟩
  | [a, b], bounded => by
    have first := bounded a (by simp)
    have second := bounded b (by simp)
    simp only [encode, List.forall_mem_cons]
    exact ⟨digit_inAlphabet _ (by omega), digit_inAlphabet _ (by omega), digit_inAlphabet _ (by omega),
      List.forall_mem_nil _⟩
  | a :: b :: c :: rest, bounded => by
    have first := bounded a (by simp)
    have second := bounded b (by simp)
    have third := bounded c (by simp)
    have others : ∀ d ∈ encode rest, (value? d).isSome = true :=
      encode_inAlphabet fun byte member => bounded byte (by simp [member])
    simp only [encode, List.forall_mem_cons]
    exact ⟨digit_inAlphabet _ (by omega), digit_inAlphabet _ (by omega), digit_inAlphabet _ (by omega),
      digit_inAlphabet _ (by omega), others⟩

/-- The length of an encoding only depends on the number of bytes. -/
theorem length_encode : ∀ bytes : List Nat, (encode bytes).length = (4 * bytes.length + 2) / 3
  | [] => rfl
  | [a] => by simp only [encode, List.length_cons, List.length_nil]
  | [a, b] => by simp only [encode, List.length_cons, List.length_nil]
  | a :: b :: c :: rest => by
    have others := length_encode rest
    simp only [encode, List.length_cons, others]
    omega

end Base64

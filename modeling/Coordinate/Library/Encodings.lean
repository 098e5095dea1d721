import Mathlib.Data.List.Basic

/-! # Decoding the bytes of a JSON text

`json.detect_encoding` and the decoders of UTF-8, UTF-16 and UTF-32 with `surrogatepass`, from bytes, which are the
numbers below 256, to code points. Bytes of ASCII other than zero stand for themselves.
-/

namespace Encodings

/-- A continuation byte. -/
def isTail (b : Nat) : Bool := 0x80 ≤ b && b < 0xC0

/-- Surrogates are passed on. -/
def utf8 : List Nat → Option (List Nat)
  | [] => some []
  | a :: rest =>
    if a < 0x80 then (utf8 rest).map (a :: ·)
    else
      match rest with
      | [] => none
      | b :: rest =>
        if !isTail b then none
        else if 0xC2 ≤ a ∧ a < 0xE0 then (utf8 rest).map (((a - 0xC0) * 64 + (b - 128)) :: ·)
        else
          match rest with
          | [] => none
          | c :: rest =>
            if !isTail c then none
            else if 0xE0 ≤ a ∧ a < 0xF0 then
              let code := ((a - 0xE0) * 64 + (b - 128)) * 64 + (c - 128)
              if code < 0x800 then none else (utf8 rest).map (code :: ·)
            else
              match rest with
              | [] => none
              | d :: rest =>
                if !isTail d then none
                else if 0xF0 ≤ a then
                  let code := (((a - 0xF0) * 64 + (b - 128)) * 64 + (c - 128)) * 64 + (d - 128)
                  if code < 0x10000 ∨ 0x10FFFF < code then none else (utf8 rest).map (code :: ·)
                else none

/-- The code units of two bytes. -/
def units (big : Bool) : List Nat → Option (List Nat)
  | [] => some []
  | [_] => none
  | a :: b :: rest => (units big rest).map ((if big then a * 256 + b else b * 256 + a) :: ·)

/-- A high and a low surrogate are one code point. -/
def joinUnits : List Nat → List Nat
  | [] => []
  | [unit] => [unit]
  | high :: low :: rest =>
    if 0xD800 ≤ high ∧ high < 0xDC00 ∧ 0xDC00 ≤ low ∧ low < 0xE000 then
      (0x10000 + (high - 0xD800) * 0x400 + (low - 0xDC00)) :: joinUnits rest
    else high :: joinUnits (low :: rest)

def utf16 (big : Bool) (bytes : List Nat) : Option (List Nat) :=
  (units big bytes).map joinUnits

def utf32 (big : Bool) : List Nat → Option (List Nat)
  | [] => some []
  | a :: b :: c :: d :: rest =>
    let code := if big then ((a * 256 + b) * 256 + c) * 256 + d else ((d * 256 + c) * 256 + b) * 256 + a
    if 0x10FFFF < code then none else (utf32 big rest).map (code :: ·)
  | _ => none

/-- The decoding of bytes without a mark of their order, by where zeros stand. -/
def unmarked (bytes : List Nat) : Option (List Nat) :=
  match bytes with
  | a :: b :: c :: d :: _ =>
    if a = 0 then if b ≠ 0 then utf16 true bytes else utf32 true bytes
    else if b = 0 then if c ≠ 0 ∨ d ≠ 0 then utf16 false bytes else utf32 false bytes
    else utf8 bytes
  | [a, b] =>
    if a = 0 then utf16 true bytes
    else if b = 0 then utf16 false bytes
    else utf8 bytes
  | _ => utf8 bytes

/-- The text of some bytes, as `json.loads` decodes it. -/
def decodeBytes (bytes : List Nat) : Option (List Nat) :=
  match bytes with
  | 0x00 :: 0x00 :: 0xFE :: 0xFF :: rest => utf32 true rest
  | 0xFF :: 0xFE :: 0x00 :: 0x00 :: rest => utf32 false rest
  | 0xFE :: 0xFF :: rest => utf16 true rest
  | 0xFF :: 0xFE :: rest => utf16 false rest
  | 0xEF :: 0xBB :: 0xBF :: rest => utf8 rest
  | _ => unmarked bytes

/-- The bytes of ASCII other than zero. -/
def Plain (bytes : List Nat) : Prop := ∀ byte ∈ bytes, 0 < byte ∧ byte < 128

theorem utf8_plain : ∀ {bytes : List Nat}, Plain bytes → utf8 bytes = some bytes
  | [], _ => rfl
  | a :: rest, plain => by
    obtain ⟨first, others⟩ := List.forall_mem_cons.mp plain
    rw [utf8.eq_def]
    exact (if_pos first.2).trans (by rw [utf8_plain others]; rfl)

theorem unmarked_plain {bytes : List Nat} (plain : Plain bytes) : unmarked bytes = some bytes := by
  rw [unmarked.eq_def]
  split
  · have first := plain _ List.mem_cons_self
    have second := plain _ (List.mem_cons_of_mem _ List.mem_cons_self)
    rw [if_neg (by omega), if_neg (by omega), utf8_plain plain]
  · have first := plain _ List.mem_cons_self
    have second := plain _ (List.mem_cons_of_mem _ List.mem_cons_self)
    rw [if_neg (by omega), if_neg (by omega), utf8_plain plain]
  · exact utf8_plain plain

/-- Plain bytes are their own text. -/
theorem decodeBytes_plain {bytes : List Nat} (plain : Plain bytes) : decodeBytes bytes = some bytes := by
  have first : ∀ byte rest, bytes = byte :: rest → 0 < byte ∧ byte < 128 := by
    rintro byte rest rfl
    exact plain byte List.mem_cons_self
  rw [decodeBytes.eq_def]
  split
  · exact absurd (first _ _ rfl) (by decide)
  · exact absurd (first _ _ rfl) (by decide)
  · exact absurd (first _ _ rfl) (by decide)
  · exact absurd (first _ _ rfl) (by decide)
  · exact absurd (first _ _ rfl) (by decide)
  · exact unmarked_plain plain

end Encodings

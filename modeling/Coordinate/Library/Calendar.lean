import Mathlib.Algebra.GroupWithZero.Nat
import Mathlib.Algebra.Ring.Int.Defs
import Mathlib.Tactic.Common

/-! # UTC timestamps with one-second granularity

A point in time is the number of seconds since the start of year 1 of the proleptic Gregorian
calendar. `isoformat` writes it as `YYYY-MM-DDTHH:MM:SSZ` and `parse` reads exactly that shape;
`parse_isoformat` is the round trip for every point that has a four-digit year.
-/

namespace Calendar

/-- The first second of year 10000, which no four-digit year reaches. -/
def horizon : Nat := 315537897600

def isLeap (year : Nat) : Bool :=
  year % 4 = 0 && (year % 100 ≠ 0 || year % 400 = 0)

def monthLengths (leap : Bool) : List Nat :=
  [31, if leap then 29 else 28, 31, 30, 31, 30, 31, 31, 30, 31, 30, 31]

/-- Days before the first of January of a year. -/
def daysBeforeYear (year : Nat) : Nat :=
  let past := year - 1
  past * 365 + past / 4 - past / 100 + past / 400

/-- Locate a day among consecutive spans: the index of its span and its offset there. -/
def locate : List Nat → Nat → Nat × Nat
  | [], day => (0, day)
  | span :: rest, day =>
    if day < span then (0, day)
    else ((locate rest (day - span)).1 + 1, (locate rest (day - span)).2)

/-- The year that contains a day, and the day's offset in it. -/
def yearOf (days : Nat) : Nat × Nat :=
  let n400 := days / 146097
  let r400 := days % 146097
  let n100 := min (r400 / 36524) 3
  let r100 := r400 - n100 * 36524
  let n4 := r100 / 1461
  let r4 := r100 % 1461
  let n1 := min (r4 / 365) 3
  (n400 * 400 + n100 * 100 + n4 * 4 + n1 + 1, r4 - n1 * 365)

structure Fields where
  year : Nat
  month : Nat
  day : Nat
  hour : Nat
  minute : Nat
  second : Nat
deriving DecidableEq, Repr

def ofSeconds (time : Nat) : Fields :=
  let date := yearOf (time / 86400)
  let place := locate (monthLengths (isLeap date.1)) date.2
  ⟨date.1, place.1 + 1, place.2 + 1, time % 86400 / 3600, time % 3600 / 60, time % 60⟩

def Fields.toSeconds (f : Fields) : Nat :=
  (daysBeforeYear f.year + ((monthLengths (isLeap f.year)).take (f.month - 1)).sum + (f.day - 1)) *
    86400 + f.hour * 3600 + f.minute * 60 + f.second

/-- The ranges that the constructor of a date-time enforces. -/
def Fields.inRange (f : Fields) : Bool :=
  1 ≤ f.year && 1 ≤ f.month && f.month ≤ 12 && 1 ≤ f.day &&
    f.day ≤ ((monthLengths (isLeap f.year)).getD (f.month - 1) 0) && f.hour ≤ 23 &&
    f.minute ≤ 59 && f.second ≤ 59

def digit (n : Nat) : Char :=
  Char.ofNat (48 + n % 10)

def twoDigits (n : Nat) : List Char :=
  [digit (n / 10), digit n]

def fourDigits (n : Nat) : List Char :=
  [digit (n / 1000), digit (n / 100), digit (n / 10), digit n]

def isoformat (time : Nat) : String :=
  let f := ofSeconds time
  String.ofList (fourDigits f.year ++ '-' :: twoDigits f.month ++ '-' :: twoDigits f.day ++
    'T' :: twoDigits f.hour ++ ':' :: twoDigits f.minute ++ ':' :: twoDigits f.second ++ ['Z'])

def digitValue? (c : Char) : Option Nat :=
  if 48 ≤ c.toNat ∧ c.toNat ≤ 57 then some (c.toNat - 48) else none

def two? (a b : Char) : Option Nat := do
  return (← digitValue? a) * 10 + (← digitValue? b)

def four? (a b c d : Char) : Option Nat := do
  return (← two? a b) * 100 + (← two? c d)

/-- Read `YYYY-MM-DDTHH:MM:SSZ`; the outer `none` is a wrong shape, the inner one no such date. -/
def readShape? (s : String) : Option Fields :=
  match s.toList with
  | [y1, y2, y3, y4, '-', m1, m2, '-', d1, d2, 'T', h1, h2, ':', n1, n2, ':', s1, s2, 'Z'] => do
    return ⟨← four? y1 y2 y3 y4, ← two? m1 m2, ← two? d1 d2, ← two? h1 h2, ← two? n1 n2,
      ← two? s1 s2⟩
  | _ => none

def hasShape (s : String) : Bool :=
  (readShape? s).isSome

def parse (s : String) : Option Nat :=
  match readShape? s with
  | some f => if f.inRange then some f.toSeconds else none
  | none => none

example : isoformat 63871286400 = "2025-01-01T00:00:00Z" := by decide

theorem locate_spec : ∀ (spans : List Nat) (day : Nat), day < spans.sum →
    (locate spans day).1 < spans.length ∧
      (locate spans day).2 < spans.getD (locate spans day).1 0 ∧
      (spans.take (locate spans day).1).sum + (locate spans day).2 = day
  | [], day, inside => by simp at inside
  | span :: rest, day, inside => by
    by_cases early : day < span
    · simp [locate, early]
    · obtain ⟨index, offset, total⟩ := locate_spec rest (day - span) (by
        simp only [List.sum_cons] at inside
        omega)
      simp only [locate, early, ↓reduceIte, List.length_cons, List.getD_cons_succ,
        List.take_succ_cons, List.sum_cons]
      exact ⟨by omega, offset, by omega⟩

theorem sum_monthLengths (leap : Bool) :
    (monthLengths leap).sum = if leap then 366 else 365 := by
  cases leap <;> rfl

private theorem daysBeforeYear_split (a b c e : Nat) (hb : b ≤ 3) (hc : c ≤ 24) (he : e ≤ 3) :
    daysBeforeYear (a * 400 + b * 100 + c * 4 + e + 1) =
      a * 146097 + b * 36524 + c * 1461 + e * 365 := by
  simp only [daysBeforeYear]
  omega

private theorem isLeap_split (a b c e : Nat) (hb : b ≤ 3) (hc : c ≤ 24) (he : e ≤ 3) :
    isLeap (a * 400 + b * 100 + c * 4 + e + 1) = true ↔ e = 3 ∧ (c ≠ 24 ∨ b = 3) := by
  simp only [isLeap, Bool.and_eq_true, Bool.or_eq_true, decide_eq_true_eq]
  omega

theorem yearOf_spec (days : Nat) :
    1 ≤ (yearOf days).1 ∧ daysBeforeYear (yearOf days).1 + (yearOf days).2 = days ∧
      (yearOf days).2 < (monthLengths (isLeap (yearOf days).1)).sum := by
  have century : min (days % 146097 / 36524) 3 ≤ 3 := Nat.min_le_right ..
  have cycle : (days % 146097 - min (days % 146097 / 36524) 3 * 36524) / 1461 ≤ 24 := by omega
  have single : min ((days % 146097 - min (days % 146097 / 36524) 3 * 36524) % 1461 / 365) 3 ≤ 3 :=
    Nat.min_le_right ..
  have leap := isLeap_split (days / 146097) _ _ _ century cycle single
  rw [sum_monthLengths]
  refine ⟨Nat.le_add_left .., ?_, ?_⟩
  · simp only [yearOf]
    rw [daysBeforeYear_split _ _ _ _ century cycle single]
    omega
  · change isLeap (yearOf days).1 = true ↔ _ at leap
    by_cases leapYear : isLeap (yearOf days).1 = true
    · rw [if_pos leapYear]
      simp only [yearOf]
      omega
    · rw [if_neg leapYear]
      rw [leap] at leapYear
      simp only [yearOf]
      omega

theorem yearOf_le {days : Nat} (bound : days < 3652059) : (yearOf days).1 ≤ 9999 := by
  simp only [yearOf]
  omega

private theorem digit_toNat (n : Nat) : (digit n).toNat = 48 + n % 10 := by
  have table : ∀ d, d < 10 → (Char.ofNat (48 + d)).toNat = 48 + d := by decide
  exact table (n % 10) (Nat.mod_lt _ (by decide))

private theorem digitValue?_digit (n : Nat) : digitValue? (digit n) = some (n % 10) := by
  have small : n % 10 < 10 := Nat.mod_lt _ (by decide)
  simp only [digitValue?, digit_toNat]
  rw [if_pos (by omega)]
  exact congrArg some (by omega)

private theorem two?_digits (n : Nat) (bound : n < 100) :
    two? (digit (n / 10)) (digit n) = some n := by
  simp only [two?, digitValue?_digit, Option.pure_def, Option.bind_eq_bind, Option.bind_some]
  exact congrArg some (by omega)

private theorem four?_digits (n : Nat) (bound : n < 10000) :
    four? (digit (n / 1000)) (digit (n / 100)) (digit (n / 10)) (digit n) = some n := by
  simp only [four?, two?, digitValue?_digit, Option.pure_def, Option.bind_eq_bind, Option.bind_some]
  exact congrArg some (by omega)

theorem ofSeconds_bounds {time : Nat} (bound : time < horizon) :
    (ofSeconds time).inRange = true ∧ (ofSeconds time).year ≤ 9999 := by
  have days : time / 86400 < 3652059 := by
    simp only [horizon] at bound
    omega
  obtain ⟨positive, _, inside⟩ := yearOf_spec (time / 86400)
  obtain ⟨index, offset, _⟩ := locate_spec _ _ inside
  refine ⟨?_, yearOf_le days⟩
  have months : (monthLengths (isLeap (yearOf (time / 86400)).1)).length = 12 := by
    cases isLeap (yearOf (time / 86400)).1 <;> rfl
  simp only [Fields.inRange, Bool.and_eq_true, decide_eq_true_eq]
  simp only [ofSeconds, Nat.add_sub_cancel]
  omega

theorem toSeconds_ofSeconds (time : Nat) : (ofSeconds time).toSeconds = time := by
  obtain ⟨_, total, inside⟩ := yearOf_spec (time / 86400)
  obtain ⟨_, _, place⟩ := locate_spec _ _ inside
  simp only [Fields.toSeconds, ofSeconds, Nat.add_sub_cancel]
  rw [Nat.add_assoc (daysBeforeYear _), place, total]
  omega

theorem readShape?_isoformat {time : Nat} (bound : time < horizon) :
    readShape? (isoformat time) = some (ofSeconds time) := by
  obtain ⟨valid, year⟩ := ofSeconds_bounds bound
  have month : (ofSeconds time).month < 100 := by
    simp only [Fields.inRange, Bool.and_eq_true, decide_eq_true_eq] at valid
    omega
  have day : (ofSeconds time).day < 100 := by
    simp only [Fields.inRange, Bool.and_eq_true, decide_eq_true_eq] at valid
    have length : (monthLengths (isLeap (ofSeconds time).year)).getD
        ((ofSeconds time).month - 1) 0 ≤ 31 := by
      have table : ∀ leap, ∀ i, i < 12 → (monthLengths leap).getD i 0 ≤ 31 := by decide
      exact table _ _ (by omega)
    omega
  have hour : (ofSeconds time).hour < 100 := by
    change time % 86400 / 3600 < 100
    omega
  have minute : (ofSeconds time).minute < 100 := by
    change time % 3600 / 60 < 100
    omega
  have second : (ofSeconds time).second < 100 := by
    change time % 60 < 100
    omega
  simp only [readShape?, isoformat, String.toList_ofList, fourDigits, twoDigits, List.cons_append,
    List.nil_append, four?_digits _ (show (ofSeconds time).year < 10000 by omega),
    two?_digits _ month, two?_digits _ day, two?_digits _ hour, two?_digits _ minute,
    two?_digits _ second]
  rfl

/-- Reading a written point in time gives it back. -/
theorem parse_isoformat {time : Nat} (bound : time < horizon) :
    parse (isoformat time) = some time := by
  simp [parse, readShape?_isoformat bound, (ofSeconds_bounds bound).1, toSeconds_ofSeconds]

theorem isoformat_injective {s t : Nat} (boundS : s < horizon) (boundT : t < horizon)
    (same : isoformat s = isoformat t) : s = t := by
  have read := parse_isoformat boundS
  rw [same, parse_isoformat boundT] at read
  exact (Option.some.inj read).symm

end Calendar

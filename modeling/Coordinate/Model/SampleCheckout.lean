import Coordinate.Model.Completion
import Coordinate.Model.Installation

/-! # Sample checkouts

The checkouts beside the sample installation: every reading of an adapter finds the checklist of its
number, and the parser of ISO times reads the stamps that the program writes.
-/

namespace Coordinate.Sample

section Times

/-- The characters of a stamp before its zone. -/
def stampChars (time : Nat) : List Char :=
  let f := Calendar.ofSeconds time
  Calendar.fourDigits f.year ++ '-' :: Calendar.twoDigits f.month ++ '-' ::
    Calendar.twoDigits f.day ++ 'T' :: Calendar.twoDigits f.hour ++ ':' ::
    Calendar.twoDigits f.minute ++ ':' :: Calendar.twoDigits f.second

theorem isoformat_stampChars (time : Nat) :
    Calendar.isoformat time = String.ofList (stampChars time ++ ['Z']) := by
  simp [Calendar.isoformat, stampChars]

theorem digit_ne_zulu (n : Nat) : Calendar.digit n ≠ 'Z' := by
  have digits : ∀ d < 10, Calendar.digit d ≠ 'Z' := by decide
  have small := digits (n % 10) (Nat.mod_lt _ (by decide))
  simpa [Calendar.digit] using small

theorem stampChars_plain (time : Nat) : ∀ c ∈ stampChars time, c ≠ 'Z' := by
  intro c member
  simp only [stampChars, Calendar.fourDigits, Calendar.twoDigits, List.cons_append, List.nil_append,
    List.mem_cons, List.not_mem_nil, or_false] at member
  obtain rfl | rfl | rfl | rfl | rfl | rfl | rfl | rfl | rfl | rfl | rfl | rfl | rfl | rfl | rfl |
    rfl | rfl | rfl | rfl := member
  all_goals first | exact digit_ne_zulu _ | decide

theorem replaceZulu_isoformat (time : Nat) :
    replaceZulu (Calendar.isoformat time) = String.ofList (stampChars time ++ "+00:00".toList) := by
  have same : (stampChars time).flatMap (fun c => if c = 'Z' then "+00:00".toList else [c]) =
      stampChars time := by
    refine (List.flatMap_congr fun c member => ?_).trans (List.flatMap_singleton' _)
    rw [if_neg (stampChars_plain time c member)]
  have chars : (Calendar.isoformat time).toList = stampChars time ++ ['Z'] := by
    rw [isoformat_stampChars, String.toList_ofList]
  rw [replaceZulu, chars, List.flatMap_append, same]
  rfl

/-- Read a time with the zone `+00:00`. -/
def fromIsoformat (text : String) : ParsedTime :=
  if text.toList.drop 19 = "+00:00".toList then
    match Calendar.parse (String.ofList (text.toList.take 19 ++ ['Z'])) with
    | some time => .aware (time * 1000000)
    | none => .malformed
  else .malformed

theorem fromIsoformat_stamp (time : Nat) (bound : time < Calendar.horizon) :
    fromIsoformat (replaceZulu (Calendar.isoformat time)) = .aware (time * 1000000) := by
  have length : (stampChars time).length = 19 := rfl
  rw [fromIsoformat, replaceZulu_isoformat, String.toList_ofList, List.drop_left' length,
    List.take_left' length, if_pos rfl, ← isoformat_stampChars, Calendar.parse_isoformat bound]

end Times

/-- A deployment whose checklist changes from reading to reading. -/
@[reducible] def deployment (checklists : Nat → Json) : Deployment where
  refreshState _ _ := .ok (.obj [])
  readChecklist reading _ := .ok (checklists reading)
  micros _ := 0
  micros_lt _ := by decide
  fromIsoformat := fromIsoformat
  fromIsoformat_stamp := fromIsoformat_stamp

/-- A checklist with one item. -/
def checklistOf (item : Json) : Json := .obj [("items", .arr [item])]

end Coordinate.Sample

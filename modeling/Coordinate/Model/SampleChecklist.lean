import Coordinate.Model.Installation
import Coordinate.Model.Workflow

/-! # A sample checklist

One item that is ready to be taken, and the parser of ISO times that reads the stamps of the scripts.
-/

namespace Coordinate.Sample

open Coordinate.Checklist

/-- Read a time with the zone `+00:00`. -/
def readStamp (text : String) : Option Int :=
  if text.toList.drop 19 = "+00:00".toList then
    (Calendar.parse (String.ofList (text.toList.take 19 ++ ['Z']))).map fun time => time * 1000000
  else none

instance : Scripting where
  fromisoformat text := .ok (readStamp text)
  isCategoryC char := char.toNat < 32
  formatNamespace _ owner itemId := .ok s!"agent/{owner}/{itemId}"

def site : Site where
  projectRoot := "/p"
  isReadable _ := true

/-- An item that has just been added, as far as the status goes. -/
def itemOf (status : String) (fields : List (String × Json)) : Json :=
  .obj ([("id", .str "a"), ("title", .str "t"), ("status", .str status), ("priority", .str "p1"),
    ("owner", .null), ("selected_in_session", .null), ("updated_at", .str "2025-01-01"),
    ("dependencies", .arr []), ("blocked_by", .arr []), ("blocked_reason", .null),
    ("acceptance", .str "x"), ("verification", .str "v"), ("handoff", .str "")] ++ fields)

/-- The harness with one item. -/
def harnessOf (item : Json) : Checklist.State where
  files := ⟨some (.value (.obj [("project", .str "p"), ("harness_root", .str "docs"),
    ("updated_at", .str "2025-01-01"), ("items", .arr [item])])), none⟩
  tick := 0

end Coordinate.Sample

namespace Coordinate.Checklist.Sample

open Coordinate.Sample

def start : State := harnessOf (itemOf "todo" [])

def claim (owner : String) : ClaimArguments := { item := "a", owner, session := "s" }

end Coordinate.Checklist.Sample

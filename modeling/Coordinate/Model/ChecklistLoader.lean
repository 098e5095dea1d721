import Coordinate.Model.TaskDependencies

/-! # The loader of the checklist

`load_checklist` of `checklist_io.py`, of a file that may hold anything. What the bytes are is said by how
reading, decoding and `json.loads` end.
-/

namespace Coordinate.ChecklistLoader

open Coordinate.Checklist Coordinate.ChecklistWriters Coordinate.TaskDependencies

/-- How reading a file and decoding it ends. -/
inductive Content where
  /-- an `OSError` of `read_bytes` -/
  | unreadable (problem : String)
  /-- a text that is empty, a `UnicodeDecodeError` or a `JSONDecodeError`, or a value -/
  | text (text : JsonText)
  /-- another exception of `json.loads`: the `ValueError` of a number with too many digits, or the
  `RecursionError` of a text that is nested too deeply -/
  | raises (error : Exn)
deriving DecidableEq, Repr

/-- What a call finds of the two files. -/
structure Folder where
  isFile : Kind → Bool
  content : Kind → Content

/-- `resolved or resolve_checklist(harness_root, purpose=purpose)`. -/
def resolve (root : String) (resolved : Option Kind) (folder : Folder) : Except Refusal Kind :=
  match resolved with
  | some kind => return kind
  | none =>
    let present := fun kind => if folder.isFile kind then some JsonText.blank else none
    resolveManaged root ⟨present .new, present .legacy⟩

/-- `load_checklist`. -/
def loadChecklist (root : String) (resolved : Option Kind) (folder : Folder) :
    Except Refusal (Json × Kind) := do
  let kind ← resolve root resolved folder
  let path := pathUnder root kind
  match folder.content kind with
  | .unreadable problem =>
    throw (.checklist s!"checklist {path} cannot be read: {problem}" "validation_error")
  | .raises error => throw (.raised error)
  | .text text => do
    let data ← loadText path text
    return (data, kind)

end Coordinate.ChecklistLoader

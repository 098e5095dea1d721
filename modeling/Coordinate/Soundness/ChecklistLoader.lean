import Coordinate.Model.ChecklistLoader
import Coordinate.Model.SampleChecklist
import Coordinate.Proofs.ChecklistRules
import Coordinate.Proofs.DependencyEdits

/-! # How the loader of the checklist fails

A checklist that is returned keeps the rules. All that is wrong with a file ends in a `ChecklistError`,
except for what `json.loads` itself raises, and for a list or an object where the validator looks a value
up in a set.
-/

namespace Coordinate.ChecklistLoader

open Coordinate.Checklist Coordinate.ChecklistWriters Coordinate.TaskDependencies

section Loading

variable {root : String} {resolved : Option Kind} {folder : Folder} {kind : Kind} {data : Json}

/-- The call returns a checklist that keeps the rules, or ends in a `ChecklistError`. -/
def Disciplined (root : String) (resolved : Option Kind) (folder : Folder) : Prop :=
  (∃ data kind, loadChecklist root resolved folder = .ok (data, kind) ∧ Rules data) ∨
    ∃ message reason, loadChecklist root resolved folder = .error (.checklist message reason)

/-- `json.loads` ends in a value or in a `JSONDecodeError`, and the items of a value can be tested. -/
def Testable (content : Content) : Prop :=
  (∀ error, content ≠ .raises error) ∧ ∀ data, content = .text (.value data) → Hashed data

/-- Resolving ends in one of the files or in a `ChecklistError`. -/
theorem resolve_cases (root : String) (resolved : Option Kind) (folder : Folder) :
    (∃ kind, resolve root resolved folder = .ok kind) ∨
      ∃ message reason, resolve root resolved folder = .error (.checklist message reason) := by
  cases resolved with
  | some kind => exact .inl ⟨kind, rfl⟩
  | none =>
    unfold resolve
    dsimp only
    cases folder.isFile .new <;> cases folder.isFile .legacy
    · exact .inr ⟨_, _, rfl⟩
    · exact .inl ⟨_, rfl⟩
    · exact .inl ⟨_, rfl⟩
    · exact .inr ⟨_, _, rfl⟩

/-- A text is refused with a `ChecklistError`, or it is a value that keeps the rules or cannot be tested. -/
theorem loadText_cases (path : String) (text : JsonText) :
    (∃ message reason, loadText path text = .error (.checklist message reason) ∧
      ∀ data, text = .value data → Hashed data) ∨
    (∃ data, text = .value data ∧ Rules data ∧ loadText path text = .ok data) ∨
    ∃ data error, text = .value data ∧ ¬ Hashed data ∧ loadText path text = .error (.raised error) := by
  cases text with
  | blank => exact .inl ⟨_, _, rfl, fun _ other => by cases other⟩
  | malformed problem => exact .inl ⟨_, _, rfl, fun _ other => by cases other⟩
  | value data =>
    by_cases object : data.isObj = true
    · rw [loadText_object path object]
      cases tested : validateChecklist data with
      | error error =>
        refine .inr (.inr ⟨data, error, rfl, fun hashed => ?_, rfl⟩)
        obtain ⟨errors, ran⟩ := hashed_iff.mpr hashed
        cases tested.symm.trans ran
      | ok errors =>
        by_cases clean : errors = []
        · subst clean
          exact .inr (.inl ⟨data, rfl, rules_iff.mp tested, rfl⟩)
        · dsimp only
          rw [if_neg clean]
          refine .inl ⟨_, _, rfl, fun other same => ?_⟩
          cases same
          exact hashed_iff.mp ⟨errors, tested⟩
    · refine .inl ⟨s!"checklist {path} root must be a JSON object", "validation_error", ?_, ?_⟩
      · simp only [loadText, JsonText.loads, orRaise, raiseIf, pure_bind, object]
        rfl
      · intro other same items there
        cases same
        rw [Json.field?_of_not_isObj (by simpa using object)] at there
        cases there

/-- The content of the file that is resolved decides how the call ends. -/
theorem loadChecklist_eq (found : resolve root resolved folder = .ok kind) :
    loadChecklist root resolved folder = match folder.content kind with
      | .unreadable problem => .error (.checklist
        s!"checklist {pathUnder root kind} cannot be read: {problem}" "validation_error")
      | .raises error => .error (.raised error)
      | .text text => match loadText (pathUnder root kind) text with
        | .ok data => .ok (data, kind)
        | .error refusal => .error refusal := by
  unfold loadChecklist
  rw [found]
  dsimp only [bind, Except.bind]
  cases folder.content kind with
  | unreadable problem => rfl
  | raises error => rfl
  | text text =>
    dsimp only
    cases loadText (pathUnder root kind) text with
    | ok data => rfl
    | error refusal => rfl

/-- **When the loader fails only as it says**: exactly if `json.loads` ends in a value or a
`JSONDecodeError`, and no item that is an object has a list or an object as its status, its priority, the
mode or the status of its workflow, or the decision of its review. -/
theorem disciplined_iff : Disciplined root resolved folder ↔
    ∀ kind, resolve root resolved folder = .ok kind → Testable (folder.content kind) := by
  unfold Disciplined
  rcases resolve_cases root resolved folder with ⟨kind, found⟩ | ⟨message, reason, refused⟩
  · rw [loadChecklist_eq found]
    simp only [found, Except.ok.injEq, forall_eq']
    cases folder.content kind with
    | unreadable problem =>
      refine iff_of_true (.inr ⟨_, _, rfl⟩) ⟨?_, ?_⟩
      · intro error other
        cases other
      · intro data other
        cases other
    | raises error =>
      refine iff_of_false ?_ ?_
      · rintro (⟨data, kind, ran, -⟩ | ⟨message, reason, ran⟩)
        · cases ran
        · cases ran
      · rintro ⟨others, -⟩
        exact others error rfl
    | text text =>
      have quiet : ∀ error, Content.text text ≠ .raises error := by
        intro error other
        cases other
      dsimp only
      rcases loadText_cases (pathUnder root kind) text with ⟨message, reason, ran, hashed⟩ |
        ⟨data, rfl, rules, ran⟩ | ⟨data, error, rfl, unhashed, ran⟩
      · rw [ran]
        refine iff_of_true (.inr ⟨message, reason, rfl⟩) ⟨quiet, fun data same => ?_⟩
        exact hashed data (Content.text.inj same)
      · rw [ran]
        refine iff_of_true (.inl ⟨data, kind, rfl, rules⟩) ⟨quiet, fun other same => ?_⟩
        cases same
        exact hashed_iff.mp ⟨[], rules_iff.mpr rules⟩
      · rw [ran]
        refine iff_of_false ?_ ?_
        · rintro (⟨data, kind, ran, -⟩ | ⟨message, reason, ran⟩)
          · cases ran
          · cases ran
        · rintro ⟨-, testable⟩
          exact unhashed (testable data rfl)
  · refine iff_of_true (.inr ⟨message, reason, ?_⟩) ?_
    · rw [loadChecklist, refused]
      rfl
    · intro kind other
      cases refused.symm.trans other

end Loading

namespace Sample

open Coordinate.Sample

/-- A harness with one item. -/
def folderOf (item : Json) : Folder where
  isFile kind := kind = .new
  content _ := .text (.value (.obj [("project", .str "p"), ("harness_root", .str "docs"),
    ("updated_at", .str "2025-01-01"), ("items", .arr [item])]))

/-- A list stands where the status is looked up, and its `TypeError` leaves the loader. -/
theorem type_error_escapes : ¬ ∀ root resolved folder, Disciplined root resolved folder := by
  intro disciplined
  have escaped : loadChecklist "/p" none (folderOf ((itemOf "todo" []).set "status" (.arr []))) =
      .error (.raised (Exn.type "unhashable type: 'list'")) := by decide +kernel
  rcases disciplined "/p" none (folderOf ((itemOf "todo" []).set "status" (.arr []))) with
    ⟨data, kind, ran, -⟩ | ⟨message, reason, ran⟩
  · cases escaped.symm.trans ran
  · cases escaped.symm.trans ran

/-- A number there is refused. -/
example : ∃ message, loadChecklist "/p" none (folderOf ((itemOf "todo" []).set "status" (.int 1))) =
    .error (.checklist message "validation_error") := ⟨_, rfl⟩

end Sample

end Coordinate.ChecklistLoader

import Coordinate.Proofs.Dependencies

/-! # The rules of a checklist

What the validator tests, as rules that a checklist keeps or breaks. It finds no error exactly if all of
them are kept, and it raises exactly if a list or an object stands where it looks a value up in a set.
-/

namespace Coordinate.Checklist

section Values

variable {value : Json} {names : List String} {known : Bool}

/-- A value that has a hash. -/
def HasHash (value : Json) : Prop := (∀ entries, value ≠ .arr entries) ∧ ∀ fields, value ≠ .obj fields

/-- One of the texts that a field may be. -/
def OneOf (value : Json) (names : List String) : Prop := ∃ name ∈ names, value = .str name

theorem isIn_ok : isIn value names = .ok known ↔ HasHash value ∧ (known = true ↔ OneOf value names) := by
  unfold isIn HasHash OneOf
  cases value <;> cases known <;> simp [pure, Except.pure, throw, throwThe, MonadExceptOf.throw]

theorem OneOf.hasHash (one : OneOf value names) : HasHash value := by
  obtain ⟨name, -, rfl⟩ := one
  constructor <;> intro _ other <;> cases other

theorem hasHash_null : HasHash .null := by
  constructor <;> intro _ other <;> cases other

theorem isIn_defined : (∃ known, isIn value names = .ok known) ↔ HasHash value := by
  simp only [isIn_ok]
  constructor
  · rintro ⟨_, hashed, -⟩
    exact hashed
  · intro hashed
    by_cases one : OneOf value names
    · exact ⟨true, hashed, by simp [one]⟩
    · exact ⟨false, hashed, by simp [one]⟩

theorem isBlank_of_text {text : String} (named : value = .str text)
    (own : isNonEmptyString value = true) : Text.isBlank text = false := by
  subst named
  simpa [isNonEmptyString] using own

end Values

section Rules

/-- What a workflow keeps: one that has no status yet says only its mode. -/
structure WorkflowRules (item workflow : Json) : Prop where
  isObj : workflow.isObj = true
  mode : (workflow.field? "mode").isSome = true → OneOf (workflow.get "mode") workflowModes
  status : workflow.get "status" ≠ .null → OneOf (workflow.get "status") allowedWorkflowStatuses
  opening : workflow.get "status" = .null → (workflow.field? "mode").isSome = true ∧
    workflow.hasExactlyKeys ["mode"] = true ∧ item.get "status" = .str "todo"

structure LeaseRules (lease : Json) : Prop where
  isObj : lease.isObj = true
  texts : ∀ field ∈ ["owner", "session", "acquired_at", "expires_at"],
    isNonEmptyString (lease.get field) = true
  minutes : ∀ value, lease.field? "ttl_minutes" = some value →
    (∃ number, value = .int number) ∨ ∃ truth, value = .bool truth

structure ReviewRules (review : Json) : Prop where
  isObj : review.isObj = true
  decision : review.get "decision" ≠ .null → OneOf (review.get "decision") allowedReviewDecisions

/-- An artifact has a name, and is a text or a list of texts. -/
structure ArtifactRules (key : String) (value : Json) : Prop where
  named : Text.isBlank key = false
  texts : isNonEmptyString value = true ∨
    ∃ entries, value = .arr entries ∧ ∀ entry ∈ entries, isNonEmptyString entry = true

/-- What an item keeps by itself. -/
structure ItemRules (item : Json) : Prop where
  isObj : item.isObj = true
  required : ∀ field ∈ itemRequired, (item.field? field).isSome = true
  texts : ∀ field ∈ ["id", "title", "updated_at", "acceptance"], isNonEmptyString (item.get field) = true
  status : OneOf (item.get "status") allowedStatuses
  priority : OneOf (item.get "priority") allowedPriorities
  lists : ∀ field ∈ ["dependencies", "blocked_by"], ∃ entries, item.get field = .arr entries
  reason : item.get "blocked_reason" = .null ∨ ∃ text, item.get "blocked_reason" = .str text
  owned : item.get "status" = .str "doing" → isNonEmptyString (item.get "owner") = true ∧
    isNonEmptyString (item.get "selected_in_session") = true
  verified : item.get "status" = .str "done" → isNonEmptyString (item.get "verification") = true
  workflow : item.get "workflow" ≠ .null → WorkflowRules item (item.get "workflow")
  lease : item.get "lease" ≠ .null → LeaseRules (item.get "lease")
  artifacts : item.get "artifacts" ≠ .null → ∃ fields, item.get "artifacts" = .obj fields ∧
    ∀ field ∈ fields, ArtifactRules field.1 field.2
  review : item.get "review" ≠ .null → ReviewRules (item.get "review")

/-- The rules of a checklist. -/
structure Rules (data : Json) : Prop where
  isObj : data.isObj = true
  texts : ∀ field ∈ ["project", "harness_root", "updated_at"], isNonEmptyString (data.get field) = true
  listed : ∃ items, data.get "items" = .arr items
  items : ∀ item ∈ entries data, ItemRules item
  distinct : ((entries data).map fun item => item.get "id").Nodup
  links : ∀ item ∈ entries data, ∀ field ∈ ["dependencies", "blocked_by"], ∀ links,
    item.get field = .arr links → ∀ link ∈ links, ∃ other ∈ entries data, other.get "id" = link

/-- The fields of an item that are looked up in a set have a hash. -/
structure ItemHashed (item : Json) : Prop where
  status : HasHash (item.get "status")
  priority : HasHash (item.get "priority")
  mode : (item.get "workflow").isObj = true → HasHash ((item.get "workflow").get "mode")
  workflowStatus : (item.get "workflow").isObj = true → HasHash ((item.get "workflow").get "status")
  decision : (item.get "review").isObj = true → HasHash ((item.get "review").get "decision")

/-- The items of a checklist that are objects can be tested. -/
def Hashed (data : Json) : Prop :=
  ∀ items, data.field? "items" = some (.arr items) → ∀ item ∈ items, item.isObj = true → ItemHashed item

end Rules

section Tests

variable {first second : Except Exn (List String)} {message : String} {value : Json} {names : List String}

/-- A test of a set, with the error that it reports. -/
def membership (value : Json) (names : List String) (message : String) : Except Exn (List String) := do
  let known ← isIn value names
  return if known then [] else [message]

theorem membership_clean : membership value names message = .ok [] ↔ OneOf value names := by
  unfold membership
  simp only [Except.bind_ok, isIn_ok, pure, Except.pure, Except.ok.injEq]
  constructor
  · rintro ⟨known, ⟨-, iff⟩, clean⟩
    cases known with
    | true => exact iff.mp rfl
    | false => cases clean
  · intro one
    exact ⟨true, ⟨one.hasHash, by simp [one]⟩, rfl⟩

theorem membership_defined : (∃ errors, membership value names message = .ok errors) ↔ HasHash value := by
  rw [← isIn_defined]
  simp only [membership, Except.bind_ok]
  constructor
  · rintro ⟨_, known, tested, -⟩
    exact ⟨known, tested⟩
  · rintro ⟨known, tested⟩
    exact ⟨_, known, tested, rfl⟩

/-- Two tests of which both report. -/
def both (first second : Except Exn (List String)) : Except Exn (List String) := do
  let errors ← first
  let others ← second
  return errors ++ others

theorem both_clean : both first second = .ok [] ↔ first = .ok [] ∧ second = .ok [] := by
  simp only [both, Except.bind_ok, pure, Except.pure, Except.ok.injEq, List.append_eq_nil_iff]
  constructor
  · rintro ⟨_, own, _, other, rfl, rfl⟩
    exact ⟨own, other⟩
  · rintro ⟨own, other⟩
    exact ⟨[], own, [], other, rfl, rfl⟩

theorem both_defined : (∃ errors, both first second = .ok errors) ↔
    (∃ errors, first = .ok errors) ∧ ∃ errors, second = .ok errors := by
  simp only [both, Except.bind_ok]
  constructor
  · rintro ⟨_, errors, own, others, other, -⟩
    exact ⟨⟨errors, own⟩, others, other⟩
  · rintro ⟨⟨errors, own⟩, others, other⟩
    exact ⟨_, errors, own, others, other, rfl⟩

end Tests

section Parts

variable {item : Json} {label : String}

theorem modeOnlyErrors_nil {workflow : Json} : modeOnlyErrors item workflow label = [] ↔
    (workflow.field? "mode").isSome = true ∧ workflow.hasExactlyKeys ["mode"] = true ∧
      item.get "status" = .str "todo" := by
  unfold modeOnlyErrors
  dsimp only
  cases present : workflow.field? "mode" with
  | none => simp
  | some mode =>
    cases keys : workflow.hasExactlyKeys ["mode"] with
    | false => simp
    | true =>
      by_cases status : item.get "status" = .str "todo"
      · simp [status]
      · simp [status]

/-- A workflow is tested for its mode, and for its status or for not having one. -/
theorem workflow_eq (label : String) {fields : List (String × Json)} (there : item.get "workflow" = .obj fields) :
    ∃ mode status, validateOptionalWorkflow item label = both
      (if ((Json.obj fields).field? "mode").isNone then .ok [] else
        membership ((Json.obj fields).get "mode") workflowModes mode)
      (if (Json.obj fields).get "status" = .null then .ok (modeOnlyErrors item (.obj fields) label) else
        membership ((Json.obj fields).get "status") allowedWorkflowStatuses status) := by
  let mode := (Json.obj fields).get "mode"
  let status := (Json.obj fields).get "status"
  refine ⟨s!"{label} workflow.mode must be one of {reprTexts workflowModes}, got {mode.pyRepr}",
    s!"{label} workflow.status must be one of {reprTexts allowedWorkflowStatuses}, " ++
      s!"got {status.pyRepr}", ?_⟩
  unfold validateOptionalWorkflow membership both
  rw [there, if_neg (by simp), if_neg (by simp)]
  dsimp only
  by_cases blank : (Json.obj fields).get "status" = .null
  · rw [if_pos blank]
    split
    · rfl
    · cases isIn ((Json.obj fields).get "mode") workflowModes <;> rfl
  · rw [if_neg blank]
    cases isIn ((Json.obj fields).get "status") allowedWorkflowStatuses <;> split
    · rfl
    · cases isIn ((Json.obj fields).get "mode") workflowModes <;> rfl
    · rfl
    · cases isIn ((Json.obj fields).get "mode") workflowModes <;> rfl

theorem workflow_clean : validateOptionalWorkflow item label = .ok [] ↔
    (item.get "workflow" ≠ .null → WorkflowRules item (item.get "workflow")) := by
  cases there : item.get "workflow" with
  | obj fields =>
    obtain ⟨mode, status, tests⟩ := workflow_eq label there
    rw [tests, both_clean]
    constructor
    · rintro ⟨modes, statuses⟩ -
      refine ⟨rfl, fun present => ?_, fun given => ?_, fun absent => ?_⟩
      · rw [if_neg (by rw [Option.isNone_iff_eq_none, ← ne_eq, ← Option.isSome_iff_ne_none, present])] at modes
        exact membership_clean.mp modes
      · rw [if_neg given] at statuses
        exact membership_clean.mp statuses
      · rw [if_pos absent] at statuses
        exact modeOnlyErrors_nil.mp (Except.ok.inj statuses)
    · intro rules
      obtain ⟨-, mode, status, opening⟩ := rules (by simp)
      constructor
      · split
        · rfl
        · rename_i present
          rw [Option.isNone_iff_eq_none, ← ne_eq, ← Option.isSome_iff_ne_none] at present
          exact membership_clean.mpr (mode present)
      · split
        · rename_i absent
          rw [modeOnlyErrors_nil.mpr (opening absent)]
        · rename_i given
          exact membership_clean.mpr (status given)
  | null => simp [validateOptionalWorkflow, there, pure, Except.pure]
  | _ =>
    constructor
    · intro clean
      simp [validateOptionalWorkflow, there, Json.isObj, pure, Except.pure] at clean
    · intro rules
      cases (rules (by simp)).isObj

/-- The test of a workflow raises exactly if its mode or its status has no hash. -/
theorem workflow_defined : (∃ errors, validateOptionalWorkflow item label = .ok errors) ↔
    ((item.get "workflow").isObj = true → HasHash ((item.get "workflow").get "mode") ∧
      HasHash ((item.get "workflow").get "status")) := by
  cases there : item.get "workflow" with
  | obj fields =>
    obtain ⟨mode, status, tests⟩ := workflow_eq label there
    rw [tests, both_defined]
    simp only [Json.isObj_obj, forall_const]
    refine and_congr ?_ ?_
    · split
      · rename_i absent
        have absent : (Json.obj fields).field? "mode" = none := by simpa using absent
        simp [Json.get, absent, hasHash_null]
      · exact membership_defined
    · split
      · rename_i absent
        simp [absent, hasHash_null]
      · exact membership_defined
  | _ => simp [validateOptionalWorkflow, there, Json.isObj, pure, Except.pure]

theorem review_eq (label : String) {fields : List (String × Json)} (there : item.get "review" = .obj fields) :
    ∃ message, validateOptionalReview item label =
      if (Json.obj fields).get "decision" = .null then .ok [] else
        membership ((Json.obj fields).get "decision") allowedReviewDecisions message := by
  refine ⟨s!"{label} review.decision must be one of {reprTexts allowedReviewDecisions} or null", ?_⟩
  unfold validateOptionalReview membership
  rw [there, if_neg (by simp), if_neg (by simp)]
  dsimp only
  split <;> rfl

theorem review_clean : validateOptionalReview item label = .ok [] ↔
    (item.get "review" ≠ .null → ReviewRules (item.get "review")) := by
  cases there : item.get "review" with
  | obj fields =>
    obtain ⟨message, test⟩ := review_eq label there
    rw [test]
    constructor
    · intro clean _
      refine ⟨rfl, fun given => ?_⟩
      rw [if_neg given] at clean
      exact membership_clean.mp clean
    · intro rules
      obtain ⟨-, decision⟩ := rules (by simp)
      split
      · rfl
      · rename_i given
        exact membership_clean.mpr (decision given)
  | null => simp [validateOptionalReview, there, pure, Except.pure]
  | _ =>
    constructor
    · intro clean
      simp [validateOptionalReview, there, Json.isObj, pure, Except.pure] at clean
    · intro rules
      cases (rules (by simp)).isObj

theorem review_defined : (∃ errors, validateOptionalReview item label = .ok errors) ↔
    ((item.get "review").isObj = true → HasHash ((item.get "review").get "decision")) := by
  cases there : item.get "review" with
  | obj fields =>
    obtain ⟨message, test⟩ := review_eq label there
    rw [test]
    simp only [Json.isObj_obj, forall_const]
    split
    · rename_i absent
      simp [absent, hasHash_null]
    · exact membership_defined
  | _ => simp [validateOptionalReview, there, Json.isObj, pure, Except.pure]

theorem lease_clean : validateOptionalLease item label = [] ↔
    (item.get "lease" ≠ .null → LeaseRules (item.get "lease")) := by
  cases there : item.get "lease" with
  | obj fields =>
    simp only [validateOptionalLease, there, reduceCtorEq, if_false, Json.isObj_obj, Bool.not_true,
      Bool.false_eq_true, List.append_eq_nil_iff, List.map_eq_nil_iff, List.filter_eq_nil_iff, ne_eq,
      not_false_eq_true, forall_const, Bool.not_eq_true', Bool.not_eq_false]
    constructor
    · rintro ⟨texts, minutes⟩
      refine ⟨rfl, texts, fun value present => ?_⟩
      rw [present] at minutes
      cases value <;> simp at minutes ⊢
    · rintro ⟨-, texts, minutes⟩
      refine ⟨texts, ?_⟩
      split
      · rfl
      · rfl
      · rfl
      · rename_i value notInt notBool present
        rcases minutes value present with ⟨number, rfl⟩ | ⟨truth, rfl⟩
        · exact absurd rfl (notInt number)
        · exact absurd rfl (notBool truth)
  | null => simp [validateOptionalLease, there]
  | _ =>
    constructor
    · intro clean
      simp [validateOptionalLease, there, Json.isObj] at clean
    · intro rules
      cases (rules (by simp)).isObj

theorem artifactErrors_nil {key : String} {value : Json} :
    artifactErrors label key value = [] ↔ ArtifactRules key value := by
  unfold artifactErrors
  simp only [List.append_eq_nil_iff]
  constructor
  · rintro ⟨named, texts⟩
    refine ⟨by simpa using named, ?_⟩
    cases value <;> simp [isNonEmptyString] at texts ⊢ <;> assumption
  · rintro ⟨named, texts⟩
    refine ⟨by simp [named], ?_⟩
    rcases texts with text | ⟨entries, rfl, texts⟩
    · cases value <;> simp_all [isNonEmptyString]
    · simpa using texts

theorem artifacts_clean : validateOptionalArtifacts item label = [] ↔
    (item.get "artifacts" ≠ .null → ∃ fields, item.get "artifacts" = .obj fields ∧
      ∀ field ∈ fields, ArtifactRules field.1 field.2) := by
  unfold validateOptionalArtifacts
  cases item.get "artifacts" with
  | obj fields => simp [artifactErrors_nil]
  | _ => simp

theorem statusErrors_nil : statusErrors item label = [] ↔
    (item.get "status" = .str "doing" → isNonEmptyString (item.get "owner") = true ∧
      isNonEmptyString (item.get "selected_in_session") = true) ∧
    (item.get "status" = .str "done" → isNonEmptyString (item.get "verification") = true) := by
  simp only [statusErrors, List.append_eq_nil_iff, ite_eq_right_iff, reduceCtorEq, imp_false,
    Bool.and_eq_true, decide_eq_true_eq, Bool.not_eq_true', not_and, Bool.not_eq_false]
  rw [and_assoc, ← and_assoc, ← imp_and]

theorem known_of_clean {value : Json} {names : List String} {known : Bool} {message : String}
    (tested : isIn value names = .ok known) (clean : (if known then [] else [message]) = []) :
    OneOf value names := by
  cases known with
  | true => exact (isIn_ok.mp tested).2.mp rfl
  | false => cases clean

/-- Of a field that is there, the test is one of its value. -/
theorem text_field {field : String} (present : (item.field? field).isSome = true) :
    ¬ ((item.field? field).any fun value => !isNonEmptyString value) = true ↔
      isNonEmptyString (item.get field) = true := by
  obtain ⟨value, there⟩ := Option.isSome_iff_exists.mp present
  simp [Json.get, there]

theorem list_field {field : String} (present : (item.field? field).isSome = true) :
    ¬ (match item.field? field with
      | none | some (.arr _) => false
      | some _ => true) = true ↔ ∃ entries, item.get field = .arr entries := by
  obtain ⟨value, there⟩ := Option.isSome_iff_exists.mp present
  rw [Json.get, there]
  cases value <;> simp

/-- The fields that every item has. -/
theorem fieldErrors_clean {identifier : List String} :
    fieldErrors item label identifier = .ok [] ↔ identifier = [] ∧
      (∀ field ∈ itemRequired, (item.field? field).isSome = true) ∧
      (∀ field ∈ ["title", "updated_at", "acceptance"], isNonEmptyString (item.get field) = true) ∧
      OneOf (item.get "status") allowedStatuses ∧ OneOf (item.get "priority") allowedPriorities ∧
      (∀ field ∈ ["dependencies", "blocked_by"], ∃ entries, item.get field = .arr entries) ∧
      (item.get "blocked_reason" = .null ∨ ∃ text, item.get "blocked_reason" = .str text) := by
  have textual : ∀ field ∈ ["title", "updated_at", "acceptance"], field ∈ itemRequired := by decide
  have listed : ∀ field ∈ ["dependencies", "blocked_by"], field ∈ itemRequired := by decide
  simp only [fieldErrors, Except.bind_ok, pure, Except.pure, Except.ok.injEq, List.append_eq_nil_iff,
    List.map_eq_nil_iff, List.filter_eq_nil_iff]
  constructor
  · rintro ⟨_, status, _, priority, ⟨⟨⟨⟨⟨missing, rfl⟩, texts⟩, statuses⟩, priorities⟩, lists⟩, reason⟩
    have required : ∀ field ∈ itemRequired, (item.field? field).isSome = true := by
      intro field member
      have present := missing field member
      rwa [Option.isNone_iff_eq_none, ← ne_eq, ← Option.isSome_iff_ne_none] at present
    refine ⟨rfl, required, ?_, known_of_clean status statuses, known_of_clean priority priorities, ?_, ?_⟩
    · intro field member
      exact (text_field (required field (textual field member))).mp (texts field member)
    · intro field member
      exact (list_field (required field (listed field member))).mp (lists field member)
    · cases there : item.get "blocked_reason" <;> simp [there] at reason ⊢
  · rintro ⟨rfl, required, texts, status, priority, lists, reason⟩
    have tested {value : Json} {names : List String} (one : OneOf value names) :
        isIn value names = .ok true := isIn_ok.mpr ⟨one.hasHash, by simp [one]⟩
    refine ⟨true, tested status, true, tested priority, ⟨⟨⟨⟨⟨?_, rfl⟩, ?_⟩, rfl⟩, rfl⟩, ?_⟩, ?_⟩
    · intro field member absent
      have present := required field member
      rw [Option.isNone_iff_eq_none.mp absent] at present
      cases present
    · intro field member
      exact (text_field (required field (textual field member))).mpr (texts field member)
    · intro field member
      exact (list_field (required field (listed field member))).mpr (lists field member)
    · rcases reason with blank | ⟨text, given⟩
      · rw [blank]
      · rw [given]

theorem fieldErrors_defined {identifier : List String} :
    (∃ errors, fieldErrors item label identifier = .ok errors) ↔
      HasHash (item.get "status") ∧ HasHash (item.get "priority") := by
  simp only [fieldErrors, Except.bind_ok]
  constructor
  · rintro ⟨_, _, status, _, priority, -⟩
    exact ⟨isIn_defined.mp ⟨_, status⟩, isIn_defined.mp ⟨_, priority⟩⟩
  · rintro ⟨status, priority⟩
    obtain ⟨_, status⟩ := isIn_defined.mpr status
    obtain ⟨_, priority⟩ := isIn_defined.mpr priority
    exact ⟨_, _, status, _, priority, rfl⟩

theorem identifierErrors_clean {seen all : List String} : identifierErrors seen item label = ([], all) ↔
    ∃ itemId, item.get "id" = .str itemId ∧ Text.isBlank itemId = false ∧ itemId ∉ seen ∧
      all = seen ++ [itemId] := by
  unfold identifierErrors
  cases item.get "id" with
  | str itemId =>
    dsimp only
    by_cases blank : Text.isBlank itemId = true
    · rw [if_pos blank]
      simp [blank]
    · rw [if_neg blank]
      by_cases known : itemId ∈ seen
      · rw [if_pos (List.contains_iff_mem.mpr known)]
        simp [known]
      · rw [if_neg (fun found => known (List.contains_iff_mem.mp found)), Bool.not_eq_true] at *
        simp only [Prod.mk.injEq, true_and, Json.str.injEq, exists_eq_left', blank, known,
          not_false_eq_true]
        exact eq_comm
  | _ => simp

theorem referenceErrors_clean {seen : List String} {field missing : String} : ∀ {index : Nat}
    {entries : List Json}, referenceErrors seen label field missing index entries = [] ↔
      ∀ entry ∈ entries, ∃ name ∈ seen, Text.isBlank name = false ∧ entry = .str name
  | _, [] => by simp [referenceErrors]
  | index, entry :: rest => by
    unfold referenceErrors
    rw [List.append_eq_nil_iff, referenceErrors_clean, List.forall_mem_cons]
    refine and_congr_left fun _ => ?_
    cases entry with
    | str itemId =>
      dsimp only
      by_cases blank : Text.isBlank itemId = true
      · rw [if_pos blank]
        simp [blank]
      · rw [if_neg blank]
        by_cases known : itemId ∈ seen
        · rw [if_pos (List.contains_iff_mem.mpr known)]
          simp [known, blank]
        · rw [if_neg (fun found => known (List.contains_iff_mem.mp found))]
          simp [known]
    | _ => simp

end Parts

section Items

variable {item : Json} {items : List Json} {seen all : List String} {index : Nat}

/-- What the tests of one item say together. -/
theorem item_clean {label : String} {seen later : List String} {identifier : List String}
    (pair : identifierErrors seen item label = (identifier, later)) (object : item.isObj = true) :
    (fieldErrors item label identifier = .ok [] ∧ statusErrors item label = [] ∧
      validateOptionalWorkflow item label = .ok [] ∧ validateOptionalLease item label = [] ∧
      validateOptionalArtifacts item label = [] ∧ validateOptionalReview item label = .ok []) ↔
      ItemRules item ∧ ∃ itemId, item.get "id" = .str itemId ∧ itemId ∉ seen ∧ later = seen ++ [itemId] := by
  rw [fieldErrors_clean, statusErrors_nil, workflow_clean, lease_clean, artifacts_clean, review_clean]
  constructor
  · rintro ⟨⟨rfl, required, texts, status, priority, lists, reason⟩, ⟨owned, verified⟩, workflow, lease,
      artifacts, review⟩
    obtain ⟨itemId, named, blank, fresh, grown⟩ := identifierErrors_clean.mp pair
    refine ⟨⟨object, required, ?_, status, priority, lists, reason, owned, verified, workflow, lease,
      artifacts, review⟩, itemId, named, fresh, grown⟩
    refine List.forall_mem_cons.mpr ⟨?_, texts⟩
    rw [named, isNonEmptyString, blank, Bool.not_false]
  · rintro ⟨rules, itemId, named, fresh, grown⟩
    obtain ⟨own, texts⟩ := List.forall_mem_cons.mp rules.texts
    have blank := isBlank_of_text named own
    have clean : identifierErrors seen item label = ([], later) :=
      identifierErrors_clean.mpr ⟨itemId, named, blank, fresh, grown⟩
    rw [pair] at clean
    exact ⟨⟨(Prod.mk.inj clean).1, rules.required, texts, rules.status, rules.priority, rules.lists,
      rules.reason⟩, ⟨rules.owned, rules.verified⟩, rules.workflow, rules.lease, rules.artifacts,
      rules.review⟩

theorem itemsErrors_cons {label : String} (labelled : label = itemLabel item index)
    (object : item.isObj = true) : itemsErrors seen index (item :: items) = .ok ([], all) ↔
      (fieldErrors item label (identifierErrors seen item label).1 = .ok [] ∧
        statusErrors item label = [] ∧ validateOptionalWorkflow item label = .ok [] ∧
        validateOptionalLease item label = [] ∧ validateOptionalArtifacts item label = [] ∧
        validateOptionalReview item label = .ok []) ∧
      itemsErrors (identifierErrors seen item label).2 (index + 1) items = .ok ([], all) := by
  subst labelled
  rw [itemsErrors]
  simp only [object, Bool.not_true, Bool.false_eq_true, if_false, Except.bind_ok, pure, Except.pure,
    Except.ok.injEq, Prod.mk.injEq, List.append_eq_nil_iff]
  constructor
  · rintro ⟨_, fields, _, workflow, _, review, ⟨_, _⟩, rest, ⟨⟨⟨⟨⟨⟨rfl, status⟩, rfl⟩, lease⟩, artifacts⟩, rfl⟩, rfl⟩,
      rfl⟩
    exact ⟨⟨fields, status, workflow, lease, artifacts, review⟩, rest⟩
  · rintro ⟨⟨fields, status, workflow, lease, artifacts, review⟩, rest⟩
    exact ⟨[], fields, [], workflow, [], review, ([], all), rest,
      ⟨⟨⟨⟨⟨⟨rfl, status⟩, rfl⟩, lease⟩, artifacts⟩, rfl⟩, rfl⟩, rfl⟩

/-- The items keep their rules, and none has the identifier of another. -/
theorem itemsErrors_clean (distinct : seen.Nodup) : itemsErrors seen index items = .ok ([], all) ↔
    (∀ item ∈ items, ItemRules item) ∧ ∃ names : List String,
      (items.map fun item => item.get "id") = names.map .str ∧ all = seen ++ names ∧ all.Nodup := by
  induction items generalizing seen index with
  | nil =>
    constructor
    · intro clean
      cases clean
      exact ⟨List.forall_mem_nil _, [], rfl, (List.append_nil _).symm, distinct⟩
    · rintro ⟨-, names, none, rfl, -⟩
      rw [List.map_eq_nil_iff.mp none.symm, List.append_nil]
      rfl
  | cons item rest ih =>
    by_cases object : item.isObj = true
    · rcases pair : identifierErrors seen item (itemLabel item index) with ⟨identifier, later⟩
      rw [itemsErrors_cons rfl object, pair, item_clean pair object, List.forall_mem_cons]
      constructor
      · rintro ⟨⟨rules, itemId, named, fresh, rfl⟩, clean⟩
        have apart : (seen ++ [itemId]).Nodup := distinct.append (List.nodup_singleton _) (by simpa using fresh)
        obtain ⟨others, names, same, rfl, unique⟩ := (ih apart).mp clean
        refine ⟨⟨rules, others⟩, itemId :: names, ?_, ?_, unique⟩
        · rw [List.map_cons, List.map_cons, named, same]
        · rw [List.append_assoc, List.singleton_append]
      · rintro ⟨⟨rules, others⟩, names, same, rfl, unique⟩
        cases names with
        | nil => cases same
        | cons itemId names =>
          obtain ⟨named, same⟩ := List.cons.inj same
          have split : seen ++ itemId :: names = seen ++ [itemId] ++ names := by simp
          have fresh : itemId ∉ seen := by
            intro known
            exact (List.nodup_append.mp unique).2.2 itemId known itemId (List.mem_cons_self ..) rfl
          obtain ⟨own, -⟩ := List.forall_mem_cons.mp rules.texts
          have blank := isBlank_of_text named own
          have clean : identifierErrors seen item (itemLabel item index) = ([], seen ++ [itemId]) :=
            identifierErrors_clean.mpr ⟨itemId, named, blank, fresh, rfl⟩
          obtain ⟨-, rfl⟩ := Prod.mk.inj (pair.symm.trans clean)
          have apart : (seen ++ [itemId]).Nodup := by
            rw [split] at unique
            exact (List.nodup_append.mp unique).1
          exact ⟨⟨rules, itemId, named, fresh, rfl⟩, (ih apart).mpr ⟨others, names, same, split, unique⟩⟩
    · have refused : (!item.isObj) = true := by simpa using object
      constructor
      · intro clean
        rw [itemsErrors, if_pos refused] at clean
        obtain ⟨_, -, other⟩ := Except.bind_ok.mp clean
        simp [pure, Except.pure] at other
      · rintro ⟨rules, -⟩
        exact absurd (rules item (List.mem_cons_self ..)).isObj object

/-- Testing the items raises exactly if one that is an object cannot be tested. -/
theorem itemsErrors_defined : (∃ result, itemsErrors seen index items = .ok result) ↔
    ∀ item ∈ items, item.isObj = true → ItemHashed item := by
  induction items generalizing seen index with
  | nil => exact ⟨fun _ => List.forall_mem_nil _, fun _ => ⟨_, rfl⟩⟩
  | cons item rest ih =>
    rw [List.forall_mem_cons, itemsErrors]
    by_cases object : item.isObj = true
    · have parts : ItemHashed item ↔ (∃ errors, fieldErrors item (itemLabel item index)
          (identifierErrors seen item (itemLabel item index)).1 = .ok errors) ∧
          (∃ errors, validateOptionalWorkflow item (itemLabel item index) = .ok errors) ∧
          ∃ errors, validateOptionalReview item (itemLabel item index) = .ok errors := by
        rw [fieldErrors_defined, workflow_defined, review_defined]
        constructor
        · rintro ⟨status, priority, mode, phase, decision⟩
          exact ⟨⟨status, priority⟩, fun isObj => ⟨mode isObj, phase isObj⟩, decision⟩
        · rintro ⟨⟨status, priority⟩, workflow, decision⟩
          exact ⟨status, priority, fun isObj => (workflow isObj).1, fun isObj => (workflow isObj).2, decision⟩
      rw [forall_prop_of_true object, parts]
      simp only [object, Bool.not_true, Bool.false_eq_true, if_false, Except.bind_ok]
      constructor
      · rintro ⟨_, fields, tested, workflow, phases, review, decided, later, ran, -⟩
        exact ⟨⟨⟨fields, tested⟩, ⟨workflow, phases⟩, review, decided⟩, ih.mp ⟨later, ran⟩⟩
      · rintro ⟨⟨⟨fields, tested⟩, ⟨workflow, phases⟩, review, decided⟩, others⟩
        obtain ⟨later, ran⟩ := ih.mpr others
        exact ⟨_, fields, tested, workflow, phases, review, decided, later, ran, rfl⟩
    · have refused : (!item.isObj) = true := by simpa using object
      rw [if_pos refused]
      simp only [Except.bind_ok, object, Bool.false_eq_true, false_implies, true_and]
      constructor
      · rintro ⟨_, later, ran, -⟩
        exact ih.mp ⟨later, ran⟩
      · intro others
        obtain ⟨later, ran⟩ := ih.mpr others
        exact ⟨_, later, ran, rfl⟩

end Items

section Checklists

variable {data : Json} {items : List Json}

theorem linkErrors_clean {seen : List String} {index : Nat} {item : Json} (rules : ItemRules item) :
    linkErrors seen index item = [] ↔ ∀ field ∈ ["dependencies", "blocked_by"], ∀ links,
      item.get field = .arr links → ∀ link ∈ links, ∃ name ∈ seen, Text.isBlank name = false ∧
        link = .str name := by
  obtain ⟨dependencies, listed⟩ := rules.lists "dependencies" (by decide)
  obtain ⟨blockers, blocked⟩ := rules.lists "blocked_by" (by decide)
  simp [linkErrors, listed, blocked, referenceErrors_clean]

theorem Rules.isBlank_of_mem (rules : Rules data) {item : Json} (member : item ∈ entries data)
    {name : String} (named : item.get "id" = .str name) : Text.isBlank name = false :=
  isBlank_of_text named ((rules.items item member).texts "id" (by decide))

theorem validateChecklist_clean (object : data.isObj = true)
    (there : data.field? "items" = some (.arr items)) : validateChecklist data = .ok [] ↔
      (∀ field ∈ topRequired, (data.field? field).isSome = true) ∧
      (∀ field ∈ ["project", "harness_root", "updated_at"], isNonEmptyString (data.get field) = true) ∧
      ∃ seen, itemsErrors [] 0 items = .ok ([], seen) ∧
        ∀ entry ∈ items.zipIdx.filter (·.1.isObj), linkErrors seen entry.2 entry.1 = [] := by
  have textual : ∀ field ∈ ["project", "harness_root", "updated_at"], field ∈ topRequired := by decide
  unfold validateChecklist
  simp only [object, Bool.not_true, Bool.false_eq_true, if_false, there, Except.bind_ok, pure, Except.pure,
    Except.ok.injEq, List.append_eq_nil_iff, List.map_eq_nil_iff, List.filter_eq_nil_iff,
    List.flatMap_eq_nil_iff]
  constructor
  · rintro ⟨⟨errors, seen⟩, ran, ⟨⟨missing, texts⟩, rfl⟩, links⟩
    have required : ∀ field ∈ topRequired, (data.field? field).isSome = true := by
      intro field member
      have present := missing field member
      rwa [Option.isNone_iff_eq_none, ← ne_eq, ← Option.isSome_iff_ne_none] at present
    refine ⟨required, fun field member => ?_, seen, ran, links⟩
    exact (text_field (required field (textual field member))).mp (texts field member)
  · rintro ⟨required, texts, seen, ran, links⟩
    refine ⟨([], seen), ran, ⟨⟨fun field member absent => ?_, fun field member => ?_⟩, rfl⟩, links⟩
    · have present := required field member
      rw [Option.isNone_iff_eq_none.mp absent] at present
      cases present
    · exact (text_field (required field (textual field member))).mpr (texts field member)

/-- **The validator finds no error exactly in a checklist that keeps the rules.** -/
theorem rules_iff : validateChecklist data = .ok [] ↔ Rules data := by
  suffices kept : ∀ items, data.isObj = true → data.get "items" = .arr items →
      (validateChecklist data = .ok [] ↔ Rules data) by
    constructor
    · intro valid
      obtain ⟨object, ⟨items, listed⟩, -⟩ := validateChecklist_ok valid
      exact (kept items object listed).mp valid
    · intro rules
      obtain ⟨items, listed⟩ := rules.listed
      exact (kept items rules.isObj listed).mpr rules
  intro items object listed
  have there : data.field? "items" = some (.arr items) := by
    cases found : data.field? "items" with
    | none => simp [Json.get, found] at listed
    | some value => simpa [Json.get, found] using listed
  have all : entries data = items := by rw [entries, listed]
  rw [validateChecklist_clean object there]
  simp only [itemsErrors_clean List.nodup_nil, List.nil_append]
  -- the identifiers that have been seen are those of the items
  have linked : ∀ names : List String, (items.map fun item => item.get "id") = names.map .str →
      ∀ link, (∃ name ∈ names, link = Json.str name) ↔ ∃ other ∈ items, other.get "id" = link := by
    intro names same link
    have mapped : link ∈ names.map Json.str ↔ link ∈ items.map fun item => item.get "id" := by rw [same]
    simpa [eq_comm] using mapped
  constructor
  · rintro ⟨required, texts, seen, ⟨rules, names, same, rfl, distinct⟩, links⟩
    refine ⟨object, texts, ⟨items, listed⟩, all ▸ rules, ?_, ?_⟩
    · rw [all, same]
      exact distinct.map fun _ _ equal => Json.str.inj equal
    · rw [all]
      intro item member field among entries found link inside
      obtain ⟨index, bound, rfl⟩ := List.mem_iff_getElem.mp member
      have clean := links (items[index], index) (List.mem_filter.mpr
        ⟨List.mem_zipIdx_iff_getElem?.mpr (by simp [bound]), (rules _ member).isObj⟩)
      obtain ⟨name, known, -, rfl⟩ := (linkErrors_clean (rules _ member)).mp clean field among entries found
        link inside
      exact (linked seen same _).mp ⟨name, known, rfl⟩
  · intro rules
    have kept : ∀ item ∈ items, ItemRules item := all ▸ rules.items
    have named : ∃ names : List String, (items.map fun item => item.get "id") = names.map .str := by
      refine ⟨items.map fun item => ((item.get "id").asStr?).getD "", ?_⟩
      rw [List.map_map]
      refine List.map_congr_left fun item member => ?_
      have text := (kept item member).texts "id" (by decide)
      cases found : item.get "id" <;> simp_all [isNonEmptyString, Json.asStr?]
    obtain ⟨names, same⟩ := named
    have distinct : names.Nodup := by
      have unique := rules.distinct
      rw [all, same] at unique
      exact unique.of_map
    refine ⟨?_, rules.texts, names, ⟨kept, names, same, rfl, distinct⟩, ?_⟩
    · intro field member
      rcases List.mem_cons.mp (show field ∈ "items" :: ["harness_root", "project", "updated_at"] from by
        simpa [topRequired, or_left_comm] using member) with rfl | textual
      · rw [there]
        rfl
      · have text := rules.texts field (by simpa [or_left_comm] using textual)
        cases found : data.field? field with
        | none => simp [Json.get, found, isNonEmptyString] at text
        | some value => rfl
    · rintro ⟨item, index⟩ member
      obtain ⟨place, -⟩ := List.mem_filter.mp member
      have inside : item ∈ items := List.fst_mem_of_mem_zipIdx place
      refine (linkErrors_clean (kept item inside)).mpr fun field among links found link listedLink => ?_
      obtain ⟨other, present, named⟩ := rules.links item (all ▸ inside) field among links found link listedLink
      obtain ⟨name, known, rfl⟩ := (linked names same link).mpr ⟨other, all ▸ present, named⟩
      exact ⟨name, known, rules.isBlank_of_mem present named, rfl⟩

/-- **The validator raises exactly if an item that is an object cannot be tested.** -/
theorem hashed_iff : (∃ errors, validateChecklist data = .ok errors) ↔ Hashed data := by
  unfold validateChecklist Hashed
  by_cases object : data.isObj = true
  · have refused : ¬ (!data.isObj) = true := by simp [object]
    rw [if_neg refused]
    dsimp only
    cases there : data.field? "items" with
    | none => simp [pure, Except.pure]
    | some value =>
      cases value with
      | arr items =>
        simp only [Except.bind_ok, Option.some.injEq, Json.arr.injEq, forall_eq']
        have tested : (∃ result, itemsErrors [] 0 items = .ok result) ↔ _ := itemsErrors_defined
        rw [← tested]
        constructor
        · rintro ⟨_, result, ran, -⟩
          exact ⟨result, ran⟩
        · rintro ⟨result, ran⟩
          exact ⟨_, result, ran, rfl⟩
      | _ => simp [pure, Except.pure]
  · have refused : (!data.isObj) = true := by simpa using object
    rw [if_pos refused]
    have absent := Json.field?_of_not_isObj (by simpa using object) "items"
    simp [absent, pure, Except.pure]

end Checklists

end Coordinate.Checklist

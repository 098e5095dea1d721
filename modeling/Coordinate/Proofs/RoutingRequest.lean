import Coordinate.Library.JsonErasure
import Coordinate.Model.RoutingRequest
import Coordinate.Proofs.ExecutorRouting
import Mathlib.Data.List.Dedup

/-! # What the validators of a routing request accept

One lemma for each validator says exactly what it accepts. The validators of a caller accept more than those
of a stored request; what they return is what the others accept.
-/

namespace Coordinate.Routing

variable [Platform]

section Labels

variable {value : Json} {label text : String} {maxLen : Nat}

/-- A text that `_validate_safe_label` passes. -/
structure Label (maxLen : Nat) (text : String) : Prop where
  bounded : text.toList.length ≤ maxLen
  line : Text.matchLine isSafeLabelChar text = true

omit [Platform] in
theorem Label.ne_empty (valid : Label maxLen text) : text ≠ "" := by
  rintro rfl
  have line := valid.line
  revert line
  decide

omit [Platform] in
theorem validateSafeLabel_ok :
    validateSafeLabel value label maxLen = .ok text ↔ value = .str text ∧ Label maxLen text := by
  constructor
  · intro ran
    cases value with
    | str found =>
      obtain ⟨_, _, ran⟩ := Except.bind_ok.mp ran
      obtain ⟨_, bounded, ran⟩ := Except.bind_ok.mp ran
      obtain ⟨_, line, ran⟩ := Except.bind_ok.mp ran
      cases ran
      refine ⟨rfl, not_lt.mp (raiseIf_except_ok.mp bounded), ?_⟩
      exact not_not.mp (raiseIf_except_ok.mp line)
    | _ => cases ran
  · rintro ⟨rfl, valid⟩
    simp only [validateSafeLabel, Except.bind_ok, raiseIf_except_ok]
    exact ⟨(), valid.ne_empty, (), not_lt.mpr valid.bounded, (), not_not.mpr valid.line, rfl⟩

omit [Platform] in
theorem validateOptionalSafeLabel_ok {found : Option String} :
    validateOptionalSafeLabel value label maxLen = .ok found ↔
      value = .ofOption found ∧ ∀ text ∈ found, Label maxLen text := by
  unfold validateOptionalSafeLabel
  split
  · constructor
    · intro ran
      cases ran
      exact ⟨rfl, fun text member => by cases member⟩
    · rintro ⟨same, -⟩
      cases found with
      | none => rfl
      | some text => cases same
  · rename_i other
    constructor
    · intro ran
      cases checked : validateSafeLabel value label maxLen with
      | error e => rw [checked] at ran; cases ran
      | ok text =>
        rw [checked] at ran
        cases ran
        obtain ⟨rfl, valid⟩ := validateSafeLabel_ok.mp checked
        exact ⟨rfl, fun text member => by cases member; exact valid⟩
    · rintro ⟨rfl, valid⟩
      cases found with
      | none => exact absurd rfl other
      | some text =>
        have checked : validateSafeLabel (.str text) label maxLen = .ok text :=
          validateSafeLabel_ok.mpr ⟨rfl, valid text rfl⟩
        exact congrArg (some <$> ·) checked

end Labels

section Capabilities

variable {values : List Json} {value : Json} {label : String} {items texts : List String}

/-- A list of capabilities as a request stores it. -/
structure Capabilities (items : List String) : Prop where
  some : items ≠ []
  labels : ∀ item ∈ items, Label maxCapabilityLen item
  bounded : items.length ≤ maxCapabilities
  sorted : items.Pairwise (· < ·)

omit [Platform] in
theorem canonicalItems_ok : ∀ {values : List Json} {items : List String},
    canonicalItems label values = .ok items ↔
      values = items.map .str ∧ ∀ item ∈ items, Text.matchLine isSafeLabelChar item = true
  | [], items => by
    constructor
    · intro ran
      cases ran
      exact ⟨rfl, List.forall_mem_nil _⟩
    · rintro ⟨same, -⟩
      rw [List.map_eq_nil_iff.mp same.symm]
      rfl
  | value :: rest, items => by
    constructor
    · intro ran
      cases value with
      | str item =>
        obtain ⟨_, line, ran⟩ := Except.bind_ok.mp ran
        obtain ⟨later, others, ran⟩ := Except.bind_ok.mp ran
        cases ran
        obtain ⟨rfl, valid⟩ := canonicalItems_ok.mp others
        refine ⟨rfl, List.forall_mem_cons.mpr ⟨?_, valid⟩⟩
        exact not_not.mp (raiseIf_except_ok.mp line)
      | _ => cases ran
    · rintro ⟨same, valid⟩
      cases items with
      | nil => cases same
      | cons item later =>
        obtain ⟨rfl, rfl⟩ := List.cons.inj same
        obtain ⟨own, others⟩ := List.forall_mem_cons.mp valid
        have rest : canonicalItems label (later.map .str) = .ok later :=
          canonicalItems_ok.mpr ⟨rfl, others⟩
        simp only [canonicalItems, Except.bind_ok, raiseIf_except_ok]
        exact ⟨(), not_not.mpr own, later, rest, rfl⟩

omit [Platform] in
/-- Distinct and in order is in strict order. -/
theorem sorted_iff : (items.Nodup ∧ ExecutorIdentity.isSorted items = true) ↔ items.Pairwise (· < ·) := by
  rw [ExecutorIdentity.isSorted, decide_eq_true_eq, List.Nodup]
  constructor
  · rintro ⟨distinct, sorted⟩
    exact (distinct.and sorted).imp fun apart => lt_of_le_of_ne apart.2 apart.1
  · intro sorted
    exact ⟨sorted.imp ne_of_lt, sorted.imp le_of_lt⟩

omit [Platform] in
theorem validateCanonicalCapabilities_ok :
    validateCanonicalCapabilities value label = .ok items ↔
      value = .arr (items.map .str) ∧ Capabilities items := by
  constructor
  · intro ran
    cases value with
    | arr values =>
      obtain ⟨_, nonempty, ran⟩ := Except.bind_ok.mp ran
      obtain ⟨found, read, ran⟩ := Except.bind_ok.mp ran
      obtain ⟨_, short, ran⟩ := Except.bind_ok.mp ran
      obtain ⟨_, distinct, ran⟩ := Except.bind_ok.mp ran
      obtain ⟨_, bounded, ran⟩ := Except.bind_ok.mp ran
      obtain ⟨_, sorted, ran⟩ := Except.bind_ok.mp ran
      cases ran
      obtain ⟨rfl, lines⟩ := canonicalItems_ok.mp read
      have nonempty := raiseIf_except_ok.mp nonempty
      have short := raiseIf_except_ok.mp short
      have distinct := not_not.mp (raiseIf_except_ok.mp distinct)
      have sorted := not_not.mp (raiseIf_except_ok.mp sorted)
      refine ⟨rfl, ?_, fun item member => ⟨?_, lines item member⟩, ?_, sorted_iff.mp ⟨distinct, sorted⟩⟩
      · rintro rfl
        exact nonempty rfl
      · by_contra long
        refine short (List.any_eq_true.mpr ⟨item, member, ?_⟩)
        simpa using long
      · exact not_lt.mp (raiseIf_except_ok.mp bounded)
    | _ => cases ran
  · rintro ⟨rfl, valid⟩
    obtain ⟨distinct, sorted⟩ := sorted_iff.mpr valid.sorted
    have read : canonicalItems label (items.map .str) = .ok items :=
      canonicalItems_ok.mpr ⟨rfl, fun item member => (valid.labels item member).line⟩
    have short : ¬ items.any (·.toList.length > maxCapabilityLen) = true := by
      rw [List.any_eq_true]
      rintro ⟨item, member, long⟩
      exact absurd (valid.labels item member).bounded (by simpa using long)
    simp only [validateCanonicalCapabilities, Except.bind_ok, raiseIf_except_ok]
    exact ⟨(), fun none => valid.some (List.map_eq_nil_iff.mp none), items, read, (), short, (),
      not_not.mpr distinct, (), not_lt.mpr valid.bounded, (), not_not.mpr sorted, rfl⟩

omit [Platform] in
theorem collectCapabilities_ok : ∀ {values : List Json} {texts : List String},
    collectCapabilities label values = .ok texts ↔
      values = texts.map .str ∧ ∀ text ∈ texts, Label maxCapabilityLen text
  | [], texts => by
    constructor
    · intro ran
      cases ran
      exact ⟨rfl, List.forall_mem_nil _⟩
    · rintro ⟨same, -⟩
      rw [List.map_eq_nil_iff.mp same.symm]
      rfl
  | value :: rest, texts => by
    constructor
    · intro ran
      obtain ⟨cap, own, ran⟩ := Except.bind_ok.mp ran
      obtain ⟨later, others, ran⟩ := Except.bind_ok.mp ran
      cases ran
      obtain ⟨rfl, valid⟩ := validateSafeLabel_ok.mp own
      obtain ⟨rfl, valid'⟩ := collectCapabilities_ok.mp others
      exact ⟨rfl, List.forall_mem_cons.mpr ⟨valid, valid'⟩⟩
    · rintro ⟨same, valid⟩
      cases texts with
      | nil => cases same
      | cons cap later =>
        obtain ⟨rfl, rfl⟩ := List.cons.inj same
        obtain ⟨own, others⟩ := List.forall_mem_cons.mp valid
        refine Except.bind_ok.mpr ⟨cap, validateSafeLabel_ok.mpr ⟨rfl, own⟩, ?_⟩
        exact Except.bind_ok.mpr ⟨later, collectCapabilities_ok.mpr ⟨rfl, others⟩, rfl⟩

omit [Platform] in
theorem normalizeCapabilities_ok :
    normalizeCapabilities value label = .ok items ↔
      ∃ texts : List String, value = .arr (texts.map .str) ∧ texts ≠ [] ∧
        (∀ text ∈ texts, Label maxCapabilityLen text) ∧ texts.dedup.length ≤ maxCapabilities ∧
        items = sortBy (· < ·) texts.dedup := by
  constructor
  · intro ran
    cases value with
    | arr values =>
      obtain ⟨_, nonempty, ran⟩ := Except.bind_ok.mp ran
      obtain ⟨texts, read, ran⟩ := Except.bind_ok.mp ran
      obtain ⟨_, bounded, ran⟩ := Except.bind_ok.mp ran
      cases ran
      obtain ⟨rfl, valid⟩ := collectCapabilities_ok.mp read
      refine ⟨texts, rfl, ?_, valid, not_lt.mp (raiseIf_except_ok.mp bounded), rfl⟩
      rintro rfl
      exact raiseIf_except_ok.mp nonempty rfl
    | _ => cases ran
  · rintro ⟨texts, rfl, nonempty, valid, bounded, rfl⟩
    have read : collectCapabilities label (texts.map .str) = .ok texts :=
      collectCapabilities_ok.mpr ⟨rfl, valid⟩
    simp only [normalizeCapabilities, Except.bind_ok, raiseIf_except_ok]
    exact ⟨(), fun none => nonempty (List.map_eq_nil_iff.mp none), texts, read, (), not_lt.mpr bounded, rfl⟩

omit [Platform] in
theorem pairwise_sortBy_texts (distinct : texts.Nodup) :
    (sortBy (fun a b : String => decide (a < b)) texts).Pairwise (· < ·) := by
  have compares : texts.Pairwise fun a b => decide (b < a) = true ∨ decide (a < b) = true := by
    refine List.Pairwise.imp (fun {a b} apart => ?_) distinct
    rw [decide_eq_true_eq, decide_eq_true_eq]
    exact lt_or_gt_of_ne (Ne.symm apart)
  refine (pairwise_sortBy (fun a b c first second => ?_) compares).imp of_decide_eq_true
  exact decide_eq_true ((of_decide_eq_true first).trans (of_decide_eq_true second))

omit [Platform] in
/-- **What the caller's validator returns is what the stored one accepts.** -/
theorem capabilities_normalized (ran : normalizeCapabilities value label = .ok items) :
    Capabilities items := by
  obtain ⟨texts, -, nonempty, valid, bounded, rfl⟩ := normalizeCapabilities_ok.mp ran
  refine ⟨?_, fun item member => ?_, ?_, pairwise_sortBy_texts texts.nodup_dedup⟩
  · obtain ⟨text, member⟩ := List.exists_mem_of_ne_nil texts nonempty
    exact List.ne_nil_of_mem (mem_sortBy.mpr (List.mem_dedup.mpr member))
  · exact valid item (List.mem_dedup.mp (mem_sortBy.mp member))
  · rwa [(sortBy_perm _).length_eq]

omit [Platform] in
theorem normalizeCapabilities_canonical (valid : Capabilities items) :
    normalizeCapabilities (.arr (items.map .str)) label = .ok items := by
  have distinct : items.dedup = items := List.dedup_eq_self.mpr (sorted_iff.mpr valid.sorted).1
  refine normalizeCapabilities_ok.mpr ⟨items, rfl, valid.some, valid.labels, ?_, ?_⟩
  · rw [distinct]
    exact valid.bounded
  · rw [distinct]
    refine List.Perm.eq_of_pairwise (fun a b _ _ first second => ?_) valid.sorted
      (pairwise_sortBy_texts (sorted_iff.mpr valid.sorted).1) (sortBy_perm items).symm
    exact absurd first second.asymm

end Capabilities

section Override

variable {value agentId reason : Json} {text : String}

/-- Audit text as a request stores it. -/
structure Reason (text : String) : Prop where
  stripped : Text.strip text = text
  some : text ≠ ""
  bounded : text.toList.length ≤ routingMaxReasonLen
  plain : ∀ c ∈ text.toList, Platform.isCategoryC c = false

theorem validateReasonText_ok {label checked : String} :
    validateReasonText text label = .ok checked ↔ checked = text ∧
      text.toList.length ≤ routingMaxReasonLen ∧ ∀ c ∈ text.toList, Platform.isCategoryC c = false := by
  simp only [validateReasonText, Except.bind_ok, raiseIf_except_ok, List.any_eq_true, not_exists, not_and,
    Bool.not_eq_true, not_lt]
  constructor
  · rintro ⟨_, bounded, _, plain, ran⟩
    cases ran
    exact ⟨rfl, bounded, plain⟩
  · rintro ⟨rfl, bounded, plain⟩
    exact ⟨(), bounded, (), plain, rfl⟩

theorem validateCanonicalReason_ok :
    validateCanonicalReason value = .ok text ↔ value = .str text ∧ Reason text := by
  constructor
  · intro ran
    cases value with
    | str found =>
      obtain ⟨_, stripped, ran⟩ := Except.bind_ok.mp ran
      obtain ⟨_, nonempty, ran⟩ := Except.bind_ok.mp ran
      obtain ⟨rfl, bounded, plain⟩ := validateReasonText_ok.mp ran
      have stripped := not_not.mp (raiseIf_except_ok.mp stripped)
      exact ⟨rfl, stripped.symm, raiseIf_except_ok.mp nonempty, bounded, plain⟩
    | _ => cases ran
  · rintro ⟨rfl, valid⟩
    simp only [validateCanonicalReason, Except.bind_ok, raiseIf_except_ok]
    exact ⟨(), not_not.mpr valid.stripped.symm, (), valid.some,
      validateReasonText_ok.mpr ⟨rfl, valid.bounded, valid.plain⟩⟩

theorem normalizeOverrideReason_ok :
    normalizeOverrideReason value = .ok text ↔
      ∃ given, value = .str given ∧ text = Text.strip given ∧ Reason text := by
  constructor
  · intro ran
    cases value with
    | str given =>
      obtain ⟨_, nonempty, ran⟩ := Except.bind_ok.mp ran
      obtain ⟨rfl, bounded, plain⟩ := validateReasonText_ok.mp ran
      exact ⟨given, rfl, rfl, Text.strip_strip given, raiseIf_except_ok.mp nonempty, bounded, plain⟩
    | _ => cases ran
  · rintro ⟨given, rfl, rfl, valid⟩
    simp only [normalizeOverrideReason, Except.bind_ok, raiseIf_except_ok]
    exact ⟨(), valid.some, validateReasonText_ok.mpr ⟨rfl, valid.bounded, valid.plain⟩⟩

omit [Platform] in
/-- The override of a request is absent, or both of its parts pass. -/
theorem overridePair_ok {validator : Json → Except ExecutorRoutingError String}
    {found : Option String × Option String} :
    overridePair validator agentId reason = .ok found ↔
      (agentId = .null ∧ reason = .null ∧ found = (none, none)) ∨
      ∃ agent text, agentId = .str agent ∧ Label 256 agent ∧ reason ≠ .null ∧ validator reason = .ok text ∧
        found = (some agent, some text) := by
  unfold overridePair
  split
  · rename_i absent
    obtain ⟨rfl, rfl⟩ := absent
    constructor
    · intro ran
      cases ran
      exact .inl ⟨rfl, rfl, rfl⟩
    · rintro (⟨_, _, rfl⟩ | ⟨_, _, given, _⟩)
      · rfl
      · cases given
  · rename_i supplied
    constructor
    · intro ran
      obtain ⟨_, both, ran⟩ := Except.bind_ok.mp ran
      obtain ⟨agent, own, ran⟩ := Except.bind_ok.mp ran
      obtain ⟨text, checked, ran⟩ := Except.bind_ok.mp ran
      cases ran
      obtain ⟨rfl, valid⟩ := validateSafeLabel_ok.mp own
      have both := raiseIf_except_ok.mp both
      exact .inr ⟨agent, text, rfl, valid, fun missing => both (.inr missing), checked, rfl⟩
    · rintro (⟨missing, missing', _⟩ | ⟨agent, text, rfl, valid, given, checked, rfl⟩)
      · exact absurd ⟨missing, missing'⟩ supplied
      · have both : ¬ (Json.str agent = .null ∨ reason = .null) := by
          rintro (missing | missing)
          · cases missing
          · exact given missing
        refine Except.bind_ok.mpr ⟨(), raiseIf_except_ok.mpr both, ?_⟩
        refine Except.bind_ok.mpr ⟨agent, validateSafeLabel_ok.mpr ⟨rfl, valid⟩, ?_⟩
        exact Except.bind_ok.mpr ⟨text, checked, rfl⟩

end Override

end Coordinate.Routing

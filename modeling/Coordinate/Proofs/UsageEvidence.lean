import Mathlib.Data.List.Forall2
import Mathlib.Data.String.Basic
import Coordinate.Library.Transaction
import Coordinate.Model.UsageEvidence

/-! # What the parser of usage evidence accepts

Inversion lemmas of the checks of one record, none of which depends on where the record stands, and the
canonical order of the records.
-/

namespace Coordinate.Usage

section Order

variable {a b c : UsageRecord} {records later : List UsageRecord}

/-- The order of the unique keys. -/
def UsageRecord.Before (a b : UsageRecord) : Prop :=
  a.provider < b.provider ∨ (a.provider = b.provider ∧ a.model.getD "" < b.model.getD "")

theorem UsageRecord.Before.trans (first : a.Before b) (second : b.Before c) : a.Before c := by
  rcases first with first | ⟨same, first⟩ <;> rcases second with second | ⟨same', second⟩
  · exact .inl (first.trans second)
  · exact .inl (same' ▸ first)
  · exact .inl (same ▸ second)
  · exact .inr ⟨same.trans same', first.trans second⟩

theorem UsageRecord.Before.asymm (first : a.Before b) : ¬ b.Before a := by
  rintro (second | ⟨same, second⟩) <;> rcases first with first | ⟨same', first⟩
  · exact first.asymm second
  · exact second.ne same'.symm
  · exact first.ne same.symm
  · exact first.asymm second

theorem UsageRecord.before_or_after (apart : a.uniqueKey ≠ b.uniqueKey) : a.Before b ∨ b.Before a := by
  rcases lt_trichotomy a.provider b.provider with before | same | after
  · exact .inl (.inl before)
  · rcases lt_trichotomy (a.model.getD "") (b.model.getD "") with before | model | after
    · exact .inl (.inr ⟨same, before⟩)
    · exact absurd (Prod.ext same model) apart
    · exact .inr (.inr ⟨same.symm, after⟩)
  · exact .inr (.inl after)

theorem insert_perm (record : UsageRecord) : ∀ kept : List UsageRecord,
    (sortRecords.insert record kept).Perm (record :: kept)
  | [] => .refl _
  | head :: rest => by
    unfold sortRecords.insert
    dsimp only [UsageRecord.uniqueKey]
    split
    · exact ((insert_perm record rest).cons head).trans (.swap record head rest)
    · exact .refl _

theorem sortRecords_perm : ∀ records : List UsageRecord, (sortRecords records).Perm records
  | [] => .nil
  | record :: rest => (insert_perm record (sortRecords rest)).trans ((sortRecords_perm rest).cons record)

theorem pairwise_insert {record : UsageRecord} {kept : List UsageRecord}
    (sorted : kept.Pairwise UsageRecord.Before)
    (apart : ∀ other ∈ kept, record.uniqueKey ≠ other.uniqueKey) :
    (sortRecords.insert record kept).Pairwise UsageRecord.Before := by
  induction kept with
  | nil => exact List.pairwise_singleton _ _
  | cons head rest ih =>
    obtain ⟨first, sorted⟩ := List.pairwise_cons.mp sorted
    unfold sortRecords.insert
    dsimp only [UsageRecord.uniqueKey]
    split
    · rename_i before
      refine List.pairwise_cons.mpr ⟨fun other member => ?_,
        ih sorted fun other member => apart other (List.mem_cons_of_mem _ member)⟩
      rcases List.mem_cons.mp ((insert_perm record rest).mem_iff.mp member) with rfl | member
      · exact before
      · exact first other member
    · rename_i unordered
      have after : record.Before head :=
        (UsageRecord.before_or_after (apart head List.mem_cons_self)).resolve_right unordered
      refine List.pairwise_cons.mpr ⟨fun other member => ?_, List.pairwise_cons.mpr ⟨first, sorted⟩⟩
      rcases List.mem_cons.mp member with rfl | member
      · exact after
      · exact after.trans (first other member)

theorem duplicateKey_eq_none : duplicateKey records = none ↔ (records.map (·.uniqueKey)).Nodup := by
  induction records with
  | nil => simp [duplicateKey]
  | cons record rest ih =>
    rw [duplicateKey, List.map_cons, List.nodup_cons, ← ih]
    split
    · rename_i twice
      obtain ⟨other, member, same⟩ := List.any_eq_true.mp twice
      refine ⟨fun unused => (by cases unused), fun ⟨fresh, _⟩ => absurd ?_ fresh⟩
      exact List.mem_map.mpr ⟨other, member, of_decide_eq_true same⟩
    · rename_i once
      refine ⟨fun unused => ⟨fun taken => once ?_, unused⟩, fun ⟨_, unused⟩ => unused⟩
      obtain ⟨other, member, same⟩ := List.mem_map.mp taken
      exact List.any_eq_true.mpr ⟨other, member, decide_eq_true same⟩

theorem pairwise_sortRecords (distinct : (records.map (·.uniqueKey)).Nodup) :
    (sortRecords records).Pairwise UsageRecord.Before := by
  induction records with
  | nil => exact .nil
  | cons record rest ih =>
    rw [List.map_cons, List.nodup_cons] at distinct
    refine pairwise_insert (ih distinct.2) fun other member same => distinct.1 ?_
    exact List.mem_map.mpr ⟨other, (sortRecords_perm rest).mem_iff.mp member, same.symm⟩

/-- The canonical order does not depend on the order in which the records come. -/
theorem sortRecords_eq (perm : records.Perm later) (distinct : (records.map (·.uniqueKey)).Nodup) :
    sortRecords records = sortRecords later := by
  have distinct' : (later.map (·.uniqueKey)).Nodup := (perm.map _).nodup_iff.mp distinct
  refine List.Perm.eq_of_pairwise (fun a b _ _ before after => absurd after before.asymm)
    (pairwise_sortRecords distinct) (pairwise_sortRecords distinct') ?_
  exact (sortRecords_perm records).trans (perm.trans (sortRecords_perm later).symm)

theorem sortRecords_sortRecords (distinct : (records.map (·.uniqueKey)).Nodup) :
    sortRecords (sortRecords records) = sortRecords records :=
  (sortRecords_eq (sortRecords_perm records).symm distinct).symm

end Order

section Records

variable {index : Nat} {raw : Json} {field : String} {limit : Int} {record : UsageRecord}

/-- A number within its bounds, or an unknown one. -/
def Fits (limit : Int) (value : Option Int) : Prop := ∀ n ∈ value, 0 ≤ n ∧ n ≤ limit

/-- A name of at most so many characters. -/
def IsName (limit : Nat) (text : String) : Prop :=
  (text = Text.strip text ∧ text ≠ "") ∧ text.toList.length ≤ limit ∧ hasLowControl text = false

theorem validateProvider_ok {value : Json} {provider : String} :
    validateProvider value = .ok provider ↔ value = .str provider ∧ IsName maxProviderLen provider := by
  cases value with
  | str text =>
    simp only [validateProvider, Except.bind_ok, raiseIf_except_ok, IsName, Json.str.injEq]
    constructor
    · rintro ⟨_, stripped, _, short, _, clean, same⟩
      cases same
      exact ⟨rfl, by simpa [not_or] using stripped, by omega, by simpa using clean⟩
    · rintro ⟨rfl, stripped, short, clean⟩
      exact ⟨(), by simpa [not_or] using stripped, (), by omega, (), by simpa using clean, rfl⟩
  | _ => simp [validateProvider, throw, throwThe, MonadExceptOf.throw]

theorem validateModel_ok {value : Json} {model : Option String} : validateModel value = .ok model ↔
    value = .ofOption model ∧ ∀ text ∈ model, IsName maxModelLen text := by
  cases value with
  | null => cases model <;> simp [validateModel, Json.ofOption, pure, Except.pure]
  | str text =>
    simp only [validateModel, Except.bind_ok, raiseIf_except_ok, IsName]
    constructor
    · rintro ⟨_, stripped, _, short, _, clean, same⟩
      cases same
      refine ⟨rfl, fun other own => ?_⟩
      cases own
      exact ⟨by simpa [not_or] using stripped, by omega, by simpa using clean⟩
    · rintro ⟨same, named⟩
      cases model with
      | none => cases same
      | some other =>
        cases same
        obtain ⟨stripped, short, clean⟩ := named _ rfl
        exact ⟨(), by simpa [not_or] using stripped, (), by omega, (), by simpa using clean, rfl⟩
  | _ => cases model <;> simp [validateModel, Json.ofOption, throw, throwThe, MonadExceptOf.throw]

theorem validateNumeric_ok {value : Option Int} : validateNumeric raw field index limit = .ok value ↔
    raw.get field = ofInt value ∧ Fits limit value := by
  unfold validateNumeric
  cases raw.get field with
  | null => cases value <;> simp [ofInt, Fits, pure, Except.pure]
  | int n =>
    simp only [Except.bind_ok, raiseIf_except_ok]
    constructor
    · rintro ⟨_, positive, _, bounded, same⟩
      cases same
      refine ⟨rfl, fun m own => ?_⟩
      cases own
      omega
    · rintro ⟨same, fits⟩
      cases value with
      | none => cases same
      | some m =>
        cases same
        have := fits n rfl
        exact ⟨(), by omega, (), by omega, rfl⟩
  | _ => cases value <;> simp [ofInt, throw, throwThe, MonadExceptOf.throw]

theorem oneOf_ok {allowed : List String} {text : String} : oneOf raw field index allowed = .ok text ↔
    raw.get field = .str text ∧ text ∈ allowed := by
  unfold oneOf
  cases raw.get field with
  | str other =>
    simp only [Except.bind_ok, raiseIf_except_ok, not_not, Json.str.injEq]
    constructor
    · rintro ⟨_, member, same⟩
      cases same
      exact ⟨rfl, member⟩
    · rintro ⟨rfl, member⟩
      exact ⟨(), member, rfl⟩
  | _ => simp [throw, throwThe, MonadExceptOf.throw]

def UsageRecord.numerics (record : UsageRecord) : List (Option Int) :=
  record.tokens ++ [record.providerCostMicrousd]

/-- The rules of one record. -/
structure UsageRecord.Wellformed (record : UsageRecord) : Prop where
  provider : IsName maxProviderLen record.provider
  model : ∀ text ∈ record.model, IsName maxModelLen text
  tokens : ∀ value ∈ record.tokens, Fits maxTokenValue value
  cost : Fits maxCostMicrousd record.providerCostMicrousd
  source : record.source ∈ sources
  unknown : ¬ (record.source = "unknown" ∧ record.numerics.any (·.isSome) = true)
  completeness : record.completeness ∈ completenessNames
  derived : record.completeness = deriveCompleteness record.source record.numerics

/-- A dictionary with the fields of the record and no others. -/
structure UsageRecord.Carries (raw : Json) (record : UsageRecord) : Prop where
  isObj : raw.isObj = true
  known : ∀ key ∈ raw.keys, key ∈ recordFields
  complete : ∀ key ∈ recordFields, key ∈ raw.keys
  fields : ∀ key ∈ recordFields, raw.get key = record.toDict.get key

/-- The parser accepts a dictionary wherever it stands, by the rules of the record that it carries. -/
theorem parseRecord_ok : parseRecord index raw = .ok record ↔ record.Carries raw ∧ record.Wellformed := by
  simp only [parseRecord, Except.bind_ok, raiseIf_except_ok, validateProvider_ok, validateModel_ok,
    validateNumeric_ok, oneOf_ok, not_not]
  constructor
  · rintro ⟨_, isObj, _, known, _, complete, provider, ⟨providerField, isProvider⟩, model,
      ⟨modelField, isModel⟩, input, ⟨inputField, inputFits⟩, output, ⟨outputField, outputFits⟩, read,
      ⟨readField, readFits⟩, written, ⟨writtenField, writtenFits⟩, cost, ⟨costField, costFits⟩, source,
      ⟨sourceField, isSource⟩, _, unknown, completeness, ⟨completenessField, isCompleteness⟩, _, derived,
      same⟩
    cases same
    refine ⟨⟨isObj, ?_, ?_, ?_⟩, isProvider, isModel, ?_, costFits, isSource, unknown, isCompleteness,
      derived⟩
    · simpa using known
    · simpa using complete
    · simp only [recordFields, List.forall_mem_cons]
      exact ⟨providerField, modelField, inputField, outputField, readField, writtenField, costField,
        sourceField, completenessField, List.forall_mem_nil _⟩
    · simp only [UsageRecord.tokens, List.forall_mem_cons]
      exact ⟨inputFits, outputFits, readFits, writtenFits, List.forall_mem_nil _⟩
  · rintro ⟨carries, formed⟩
    have fields := carries.fields
    simp only [recordFields, List.forall_mem_cons] at fields
    obtain ⟨provider, model, input, output, read, written, cost, source, completeness, -⟩ := fields
    have tokens := formed.tokens
    simp only [UsageRecord.tokens, List.forall_mem_cons] at tokens
    obtain ⟨inputFits, outputFits, readFits, writtenFits, -⟩ := tokens
    exact ⟨(), carries.isObj, (), by simpa using carries.known, (), by simpa using carries.complete,
      record.provider, ⟨provider, formed.provider⟩, record.model, ⟨model, formed.model⟩,
      record.inputTokens, ⟨input, inputFits⟩, record.outputTokens, ⟨output, outputFits⟩,
      record.cacheReadTokens, ⟨read, readFits⟩, record.cacheWriteTokens, ⟨written, writtenFits⟩,
      record.providerCostMicrousd, ⟨cost, formed.cost⟩, record.source, ⟨source, formed.source⟩,
      (), formed.unknown, record.completeness, ⟨completeness, formed.completeness⟩, (), formed.derived,
      rfl⟩

/-- The dictionary of a record carries it. -/
theorem UsageRecord.carries_toDict (record : UsageRecord) : record.Carries record.toDict :=
  ⟨rfl, fun _ member => member, fun _ member => member, fun _ _ => rfl⟩

theorem parseRecords_ok {raws : List Json} {records : List UsageRecord} :
    parseRecords index raws = .ok records ↔
      List.Forall₂ (fun raw record => UsageRecord.Carries raw record ∧ record.Wellformed) raws records := by
  induction raws generalizing index records with
  | nil => simp [parseRecords, pure, Except.pure, eq_comm]
  | cons raw rest ih =>
    simp only [parseRecords, Except.bind_ok, parseRecord_ok, ih, List.forall₂_cons_left_iff]
    constructor
    · rintro ⟨record, carried, later, parsed, same⟩
      cases same
      exact ⟨record, later, carried, parsed, rfl⟩
    · rintro ⟨record, later, carried, parsed, rfl⟩
      exact ⟨record, carried, later, parsed, rfl⟩

end Records

section Blocks

variable {raw : Json} {records : List UsageRecord}

/-- What the parser asks of a block before it adds anything up. -/
structure Checked (raw : Json) (records : List UsageRecord) : Prop where
  isObj : raw.isObj = true
  version : raw.get "contract_version" = .int contractVersion
  known : ∀ key ∈ raw.keys, key ∈ blockFields
  complete : "records" ∈ raw.keys
  parsed : ∃ items, raw.get "records" = .arr items ∧ 1 ≤ items.length ∧ items.length ≤ maxRecords ∧
    parseRecords 0 items = .ok records
  distinct : duplicateKey records = none

/-- Evidence with what has been added up. -/
def evidenceOf [Platform] (records : List UsageRecord) (sums : Option Int × Option Int × String) :
    UsageEvidence :=
  ⟨records, sums.1, sums.2.1, sums.2.2, sha256 (canonicalOf records).text⟩

variable [Platform]

theorem parseUsageEvidence_of_checked (checked : Checked raw records) : parseUsageEvidence raw =
    (aggregate (sortRecords records)).map fun sums => some (evidenceOf (sortRecords records) sums) := by
  obtain ⟨items, own, many, few, parsed⟩ := checked.parsed
  have filled : raw.keys ≠ [] := List.ne_nil_of_mem checked.complete
  have isNot : raw ≠ .null := by
    rintro rfl
    cases checked.isObj
  have known : (raw.keys.any fun key => !blockFields.contains key) = false := by
    simpa using checked.known
  have complete : raw.keys.contains "records" = true := by simpa using checked.complete
  have nonempty : Json.arr items ≠ .arr [] := by
    rintro same
    cases same
    simp at many
  unfold parseUsageEvidence
  simp only [isNot, checked.isObj, filled, own, nonempty, checked.version, known, complete, many, few, parsed,
    checked.distinct, false_and, ↓reduceIte, not_true_eq_false, raiseIf, ne_eq,
    Bool.false_eq_true, and_self, bind, Except.bind]
  cases aggregate (sortRecords records) <;> rfl

theorem parseUsageEvidence_ok {evidence : UsageEvidence} :
    parseUsageEvidence raw = .ok (some evidence) ↔ ∃ records, Checked raw records ∧
      ∃ sums, aggregate (sortRecords records) = .ok sums ∧
        evidence = evidenceOf (sortRecords records) sums := by
  constructor
  · intro accepted
    unfold parseUsageEvidence at accepted
    split at accepted
    · cases accepted
    simp only [Except.bind_ok, raiseIf_except_ok, not_not] at accepted
    obtain ⟨_, isObj, accepted⟩ := accepted
    split at accepted
    · cases accepted
    split at accepted
    · cases accepted
    simp only [Except.bind_ok, raiseIf_except_ok, not_not] at accepted
    obtain ⟨_, version, _, known, _, complete, accepted⟩ := accepted
    split at accepted
    swap
    · cases accepted
    rename_i items own
    simp only [Except.bind_ok, raiseIf_except_ok, not_not] at accepted
    obtain ⟨_, ⟨many, few⟩, records, parsed, accepted⟩ := accepted
    split at accepted
    · cases accepted
    rename_i distinct
    simp only [Except.bind_ok] at accepted
    obtain ⟨sums, added, same⟩ := accepted
    cases same
    exact ⟨records, ⟨isObj, version, by simpa using known, by simpa using complete,
      ⟨items, own, many, few, parsed⟩, distinct⟩, sums, added, rfl⟩
  · rintro ⟨records, checked, sums, added, rfl⟩
    rw [parseUsageEvidence_of_checked checked, added]
    rfl

end Blocks

end Coordinate.Usage

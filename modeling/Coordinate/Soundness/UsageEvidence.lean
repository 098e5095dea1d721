import Mathlib.Algebra.Order.BigOperators.Group.List
import Mathlib.Data.List.Perm.Basic
import Coordinate.Library.Correspondence
import Coordinate.Model.Installation
import Coordinate.Proofs.UsageEvidence

/-! # The canonical form of usage evidence

Evidence that has been accepted is read back from its canonical form, with its digest, and does not depend
on the order of its records. The costs are added up before the parser looks whether one of them is unknown,
so that a sum that nobody would be shown may refuse the block.
-/

namespace Coordinate.Usage

section Sums

variable {records later : List UsageRecord} {total : Int}

/-- The sum of the costs that are known. -/
def knownCosts (records : List UsageRecord) : Int :=
  (records.filterMap (·.providerCostMicrousd)).sum

theorem knownCosts_cons (record : UsageRecord) (records : List UsageRecord) :
    knownCosts (record :: records) = record.providerCostMicrousd.getD 0 + knownCosts records := by
  unfold knownCosts
  cases own : record.providerCostMicrousd <;> simp [own]

theorem knownCosts_perm (perm : records.Perm later) : knownCosts records = knownCosts later :=
  (perm.filterMap _).sum_eq

theorem knownCosts_nonneg (fits : ∀ record ∈ records, Fits maxCostMicrousd record.providerCostMicrousd) :
    0 ≤ knownCosts records := by
  refine List.sum_nonneg fun cost member => ?_
  obtain ⟨record, inside, own⟩ := List.mem_filterMap.mp member
  exact (fits record inside cost own).1

/-- The running sum leaves its bound exactly when the whole sum does, as no cost is negative. -/
theorem sumCosts_isOk (start : total ≤ maxCostMicrousd)
    (fits : ∀ record ∈ records, Fits maxCostMicrousd record.providerCostMicrousd) :
    (∃ sum, sumCosts total records = .ok sum) ↔ total + knownCosts records ≤ maxCostMicrousd := by
  induction records generalizing total with
  | nil => simpa [sumCosts, knownCosts, pure, Except.pure] using start
  | cons record rest ih =>
    obtain ⟨own, others⟩ := List.forall_mem_cons.mp fits
    rw [knownCosts_cons, sumCosts]
    cases known : record.providerCostMicrousd with
    | none => simpa using ih start others
    | some cost =>
      simp only [Option.getD_some, Except.bind_ok, raiseIf_except_ok]
      by_cases exceeds : total + cost > maxCostMicrousd
      · have positive := knownCosts_nonneg others
        constructor
        · rintro ⟨_, _, bounded, _⟩
          exact absurd exceeds bounded
        · intro bounded
          omega
      · rw [← add_assoc, ← ih (by omega) others]
        constructor
        · rintro ⟨sum, _, _, added⟩
          exact ⟨sum, added⟩
        · rintro ⟨sum, added⟩
          exact ⟨sum, (), exceeds, added⟩

theorem aggregate_isOk (fits : ∀ record ∈ records, Fits maxCostMicrousd record.providerCostMicrousd) :
    (∃ sums, aggregate records = .ok sums) ↔ knownCosts records ≤ maxCostMicrousd := by
  have sum : (∃ sum, sumCosts 0 records = .ok sum) ↔ 0 + knownCosts records ≤ maxCostMicrousd :=
    sumCosts_isOk (by decide) fits
  rw [zero_add] at sum
  rw [← sum]
  simp only [aggregate, Except.bind_ok]
  constructor
  · rintro ⟨_, cost, added, _⟩
    exact ⟨cost, added⟩
  · rintro ⟨cost, added⟩
    exact ⟨_, cost, added, rfl⟩

end Sums

section Parser

variable {raw : Json} {records : List UsageRecord}

theorem Checked.wellformed (checked : Checked raw records) : ∀ record ∈ records, record.Wellformed := by
  obtain ⟨items, -, -, -, parsed⟩ := checked.parsed
  intro record member
  obtain ⟨item, -, -, formed⟩ := (parseRecords_ok.mp parsed).exists_left member
  exact formed

theorem Checked.nodup (checked : Checked raw records) : (records.map (·.uniqueKey)).Nodup :=
  duplicateKey_eq_none.mp checked.distinct

/-- The canonical form passes the checks with the records in their order. -/
theorem Checked.canonical (checked : Checked raw records) :
    Checked (canonicalOf (sortRecords records)) (sortRecords records) := by
  obtain ⟨items, -, many, few, parsed⟩ := checked.parsed
  have perm := sortRecords_perm records
  have length : ((sortRecords records).map (·.toDict)).length = items.length := by
    rw [List.length_map, perm.length_eq, (parseRecords_ok.mp parsed).length_eq]
  refine ⟨rfl, rfl, fun _ member => member, List.mem_cons_of_mem _ List.mem_cons_self,
    ⟨_, rfl, ?_, ?_, ?_⟩, ?_⟩
  · rw [length]
    exact many
  · rw [length]
    exact few
  · refine parseRecords_ok.mpr (List.forall₂_map_left_iff.mpr (List.forall₂_same.mpr fun record member => ?_))
    exact ⟨record.carries_toDict, checked.wellformed record (perm.mem_iff.mp member)⟩
  · exact duplicateKey_eq_none.mpr ((perm.map _).nodup_iff.mpr checked.nodup)

/-- The records of a block in another order pass the checks in that order. -/
theorem Checked.permuted {items later : List Json} (checked : Checked raw records)
    (own : raw.get "records" = .arr items) (perm : items.Perm later) :
    ∃ others, Checked (raw.set "records" (.arr later)) others ∧ records.Perm others := by
  obtain ⟨items', own', many, few, parsed⟩ := checked.parsed
  cases own.symm.trans own'
  obtain ⟨others, carried, reordered⟩ := List.perm_comp_forall₂ perm.symm (parseRecords_ok.mp parsed)
  refine ⟨others, ⟨?_, ?_, ?_, ?_, ⟨later, ?_, ?_, ?_, parseRecords_ok.mpr carried⟩, ?_⟩, reordered.symm⟩
  · rw [Json.isObj_set, checked.isObj]
  · rw [Json.get_set_ne (by decide), checked.version]
  · intro key member
    rcases (Json.mem_keys_set checked.isObj).mp member with old | rfl
    · exact checked.known key old
    · decide
  · exact (Json.mem_keys_set checked.isObj).mpr (.inr rfl)
  · exact Json.get_set_self checked.isObj ..
  · rwa [← perm.length_eq]
  · rwa [← perm.length_eq]
  · exact duplicateKey_eq_none.mpr ((reordered.map _).nodup_iff.mpr checked.nodup)

end Parser

section Evidence

variable [Platform]

/-- What the canonical form of evidence promises of a block. -/
structure Canonical (raw : Json) : Prop where
  again : ∀ evidence, parseUsageEvidence raw = .ok (some evidence) →
    parseUsageEvidence evidence.canonicalDict = .ok (some evidence)
  permuted : ∀ evidence items later, parseUsageEvidence raw = .ok (some evidence) →
    raw.get "records" = .arr items → items.Perm later →
    parseUsageEvidence (raw.set "records" (.arr later)) = .ok (some evidence)
  /-- A block that passes the checks of all its records is only refused for a cost that is known. -/
  unknown : ∀ records, Checked raw records → (∀ evidence, parseUsageEvidence raw ≠ .ok (some evidence)) →
    ∀ record ∈ records, record.providerCostMicrousd.isSome = true

/-- A block that passes the checks of all its records, with a cost that is unknown, whose known costs leave
their bound. -/
def Overflows (raw : Json) : Prop :=
  ∃ records, Checked raw records ∧ (∃ record ∈ records, record.providerCostMicrousd = none) ∧
    maxCostMicrousd < knownCosts records

theorem accepted_iff {raw : Json} {records : List UsageRecord} (checked : Checked raw records) :
    (∃ evidence, parseUsageEvidence raw = .ok (some evidence)) ↔ knownCosts records ≤ maxCostMicrousd := by
  have perm := sortRecords_perm records
  rw [← knownCosts_perm perm, ← aggregate_isOk fun record member =>
    (checked.wellformed record (perm.mem_iff.mp member)).cost, parseUsageEvidence_of_checked checked]
  cases aggregate (sortRecords records) <;> simp [Except.map]

/-- **The canonical form of usage evidence.** Every block that is accepted is read back from its canonical
form and in every order of its records; what is refused for the sum of its costs has only known costs,
exactly when the block is none whose known costs overflow beside an unknown one. -/
theorem canonical_iff (raw : Json) : Canonical raw ↔ ¬ Overflows raw := by
  constructor
  · rintro canonical ⟨records, checked, ⟨record, member, absent⟩, exceeds⟩
    have known := canonical.unknown records checked (fun evidence accepted => ?_) record member
    · rw [absent] at known
      cases known
    · exact absurd ((accepted_iff checked).mp ⟨evidence, accepted⟩) (by omega)
  · intro fits
    refine ⟨fun evidence accepted => ?_, fun evidence items later accepted own perm => ?_,
      fun records checked refused record member => ?_⟩
    · obtain ⟨records, checked, sums, added, rfl⟩ := parseUsageEvidence_ok.mp accepted
      refine parseUsageEvidence_ok.mpr ⟨sortRecords records, checked.canonical, sums, ?_, ?_⟩
      · rw [sortRecords_sortRecords checked.nodup, added]
      · rw [sortRecords_sortRecords checked.nodup]
    · obtain ⟨records, checked, sums, added, rfl⟩ := parseUsageEvidence_ok.mp accepted
      obtain ⟨others, passes, reordered⟩ := checked.permuted own perm
      have same := sortRecords_eq reordered checked.nodup
      refine parseUsageEvidence_ok.mpr ⟨others, passes, sums, ?_, ?_⟩
      · rw [← same, added]
      · rw [same]
    · by_contra unknown
      refine fits ⟨records, checked, ⟨record, member, by simpa using unknown⟩, ?_⟩
      by_contra bounded
      obtain ⟨evidence, accepted⟩ := (accepted_iff checked).mpr (by omega)
      exact refused evidence accepted

end Evidence

namespace Sample

/-- A record with its cost only. -/
def record (model : String) (cost : Option Int) : UsageRecord :=
  ⟨"p", some model, none, none, none, none, cost, "provider_reported", "partial"⟩

/-- The two known costs overflow, the third is unknown. -/
def records : List UsageRecord :=
  [record "a" (some maxCostMicrousd), record "b" (some maxCostMicrousd), record "c" none]

/-- The block is refused for a sum that would be reported as unknown. -/
theorem sum_of_unknown_refused : ¬ Canonical (canonicalOf records) := by
  intro canonical
  have checked : Checked (canonicalOf records) records :=
    ⟨rfl, rfl, fun _ member => member, by decide, ⟨_, rfl, by decide, by decide, by decide +kernel⟩,
      by decide⟩
  have known := canonical.unknown records checked (fun evidence accepted => ?_) (record "c" none) (by decide)
  · cases known
  · exact absurd ((accepted_iff checked).mp ⟨evidence, accepted⟩) (by decide)

end Sample

end Coordinate.Usage

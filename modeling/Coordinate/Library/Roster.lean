import Mathlib.Order.WithBot
import Mathlib.Tactic.Common

/-! # Rosters with expiring overrides

A roster gives every name at most one key of its own and at most one override, which hides it until
the override expires. What is visible therefore changes with time alone. `Roster.Safe` says that from
a point in time on no two names ever show one key; the lemmas say when a new override, the removal of
one and the replacement of the keys keep it.
-/

/-- Each name's own key, and its override with the time at which it expires (`⊤` is never). -/
structure Roster (Name Key Time : Type) where
  base : Name → Option Key
  override : Name → Option (Key × WithTop Time)

namespace Roster

variable {Name Key Time : Type} [LinearOrder Time]

/-- The key that a name shows at a time. -/
def visible (roster : Roster Name Key Time) (time : Time) (name : Name) : Option Key :=
  match roster.override name with
  | some (key, expiry) => if (time : WithTop Time) < expiry then some key else roster.base name
  | none => roster.base name

/-- No two names show one key. -/
def Distinct (roster : Roster Name Key Time) (time : Time) : Prop :=
  ∀ a b key, roster.visible time a = some key → roster.visible time b = some key → a = b

/-- The keys are distinct at every time from `since` on, and the own keys are distinct. -/
structure Safe (roster : Roster Name Key Time) (since : Time) : Prop where
  own : ∀ a b key, roster.base a = some key → roster.base b = some key → a = b
  shown : ∀ time, since ≤ time → roster.Distinct time

/-- Another name has an override with the key that has not expired. -/
def Overridden (roster : Roster Name Key Time) (now : Time) (name : Name) (key : Key)
    (expiry : WithTop Time) : Prop :=
  ∃ other, other ≠ name ∧ roster.override other = some (key, expiry) ∧ (now : WithTop Time) < expiry

section Visibility

variable {roster : Roster Name Key Time} {since now time : Time} {name : Name} {key : Key}

theorem Safe.mono (safe : roster.Safe since) (later : since ≤ now) : roster.Safe now :=
  ⟨safe.own, fun time reached => safe.shown time (later.trans reached)⟩

/-- What is visible is the key of a live override, or the own key when there is none. -/
theorem visible_eq_some :
    roster.visible time name = some key ↔
      (∃ expiry, roster.override name = some (key, expiry) ∧ (time : WithTop Time) < expiry) ∨
      (∀ other expiry, roster.override name = some (other, expiry) →
        expiry ≤ (time : WithTop Time)) ∧ roster.base name = some key := by
  unfold visible
  cases held : roster.override name with
  | none => simp
  | some pair =>
    obtain ⟨own, expiry⟩ := pair
    by_cases live : (time : WithTop Time) < expiry
    · simp [live, not_le.mpr live]
    · simp [live, not_lt.mp live]

end Visibility

section Changes

variable [DecidableEq Name] {roster : Roster Name Key Time} {since now : Time} {name : Name}
  {key : Key} {expiry : WithTop Time}

def setOverride (roster : Roster Name Key Time) (name : Name) (key : Key) (expiry : WithTop Time) :
    Roster Name Key Time :=
  { roster with override := Function.update roster.override name (some (key, expiry)) }

def removeOverride (roster : Roster Name Key Time) (name : Name) : Roster Name Key Time :=
  { roster with override := Function.update roster.override name none }

/-- Two names at one time show different keys because one of them is not the name changed. -/
theorem distinct_of_changed {changed : Roster Name Key Time} {time : Time}
    (same : ∀ other, other ≠ name → changed.visible time other = roster.visible time other)
    (distinct : roster.Distinct time)
    (apart : ∀ other key, other ≠ name → changed.visible time name = some key →
      roster.visible time other ≠ some key) : changed.Distinct time := by
  intro a b key left right
  by_cases first : a = name
  · by_cases second : b = name
    · exact first.trans second.symm
    · rw [first] at left
      rw [same b second] at right
      exact absurd right (apart b key second left)
  · by_cases second : b = name
    · rw [second] at right
      rw [same a first] at left
      exact absurd left (apart a key first right)
    · rw [same a first] at left
      rw [same b second] at right
      exact distinct a b key left right

/-- A new override that meets no key of another name as long as it lives, and after whose end the
own key of the name meets no override that outlives it. -/
structure Fits (roster : Roster Name Key Time) (now : Time) (name : Name) (key : Key)
    (expiry : WithTop Time) : Prop where
  /-- No live override of another name has the key. -/
  overrides : ∀ other, ¬ roster.Overridden now name key other
  /-- Another name's own key is hidden for as long as the new override lives. -/
  hidden : ∀ other, other ≠ name → roster.base other = some key →
    ∃ cover limit, roster.override other = some (cover, limit) ∧
      (now : WithTop Time) < limit ∧ expiry ≤ limit
  /-- An own key that shows earlier than before meets no live override. -/
  exposed : ∀ own before limit other, roster.base name = some own →
    roster.override name = some (before, limit) → roster.Overridden now name own other →
    limit ≤ expiry ∨ other ≤ expiry

theorem Safe.setOverride (safe : roster.Safe since) (later : since ≤ now)
    (fits : roster.Fits now name key expiry) : (roster.setOverride name key expiry).Safe now := by
  refine ⟨safe.own, fun time reached => ?_⟩
  have unchanged : ∀ other, other ≠ name →
      (roster.setOverride name key expiry).visible time other = roster.visible time other := by
    intro other differs
    simp [visible, Roster.setOverride, Function.update_of_ne differs]
  refine distinct_of_changed unchanged (safe.shown time (later.trans reached)) ?_
  have present : ∀ limit : WithTop Time, (time : WithTop Time) < limit →
      (now : WithTop Time) < limit := fun _ => (WithTop.coe_le_coe.mpr reached).trans_lt
  intro other shown differs left right
  rw [visible_eq_some] at left right
  obtain ⟨limit, held, live⟩ | ⟨dead, own⟩ := left
  · -- the new override is live
    simp only [Roster.setOverride, Function.update_self, Option.some.injEq, Prod.mk.injEq] at held
    obtain ⟨rfl, rfl⟩ := held
    obtain ⟨limit, held, alive⟩ | ⟨expired, base⟩ := right
    · exact fits.overrides limit ⟨other, differs, held, present _ alive⟩
    · obtain ⟨cover, limit, held, _, outlives⟩ := fits.hidden other differs base
      exact absurd (live.trans_le (outlives.trans (expired cover limit held))) (lt_irrefl _)
  · -- the own key shows again
    have ended : expiry ≤ (time : WithTop Time) :=
      dead key expiry (by simp [Roster.setOverride])
    change roster.base name = some shown at own
    obtain ⟨limit, held, alive⟩ | ⟨_, base⟩ := right
    · have overridden : roster.Overridden now name shown limit :=
        ⟨other, differs, held, present _ alive⟩
      have still : roster.visible time name ≠ some shown := by
        intro same
        refine differs (safe.shown time (later.trans reached) other name shown ?_ same)
        exact visible_eq_some.mpr (.inl ⟨limit, held, alive⟩)
      rw [Ne, visible_eq_some, not_or] at still
      obtain ⟨_, still⟩ := still
      rw [not_and_or] at still
      obtain hides | absent := still
      · push Not at hides
        obtain ⟨before, cover, ownHeld, outlasts⟩ := hides
        obtain short | short := fits.exposed shown before cover limit own ownHeld overridden
        · exact absurd (outlasts.trans_le (short.trans ended)) (lt_irrefl _)
        · exact absurd (alive.trans_le (short.trans ended)) (lt_irrefl _)
      · exact absent own
    · exact differs (safe.own other name shown base own)

/-- Without its override a name shows its own key, which no live override of another has. -/
theorem Safe.removeOverride (safe : roster.Safe since) (later : since ≤ now)
    (fits : ∀ own other, roster.base name = some own → ¬ roster.Overridden now name own other) :
    (roster.removeOverride name).Safe now := by
  refine ⟨safe.own, fun time reached => ?_⟩
  have unchanged : ∀ other, other ≠ name →
      (roster.removeOverride name).visible time other = roster.visible time other := by
    intro other differs
    simp [visible, Roster.removeOverride, Function.update_of_ne differs]
  refine distinct_of_changed unchanged (safe.shown time (later.trans reached)) ?_
  intro other shown differs left right
  have own : roster.base name = some shown := by
    simpa [visible, Roster.removeOverride] using left
  rw [visible_eq_some] at right
  obtain ⟨limit, held, alive⟩ | ⟨_, base⟩ := right
  · exact fits shown limit own
      ⟨other, differs, held, (WithTop.coe_le_coe.mpr reached).trans_lt alive⟩
  · exact differs (safe.own other name shown base own)

/-- New keys of their own, each hidden as long as another name's override with its key lives. -/
theorem Safe.replaceBase {base : Name → Option Key} (safe : roster.Safe since) (later : since ≤ now)
    (own : ∀ a b key, base a = some key → base b = some key → a = b)
    (fits : ∀ name key other, base name = some key → roster.Overridden now name key other →
      ∃ cover limit, roster.override name = some (cover, limit) ∧ other ≤ limit) :
    ({ roster with base } : Roster Name Key Time).Safe now := by
  refine ⟨own, fun time reached a b key left right => ?_⟩
  have present : ∀ limit : WithTop Time, (time : WithTop Time) < limit →
      (now : WithTop Time) < limit := fun _ => (WithTop.coe_le_coe.mpr reached).trans_lt
  have mixed : ∀ a b, (∃ expiry, roster.override a = some (key, expiry) ∧
      (time : WithTop Time) < expiry) → (∀ other expiry,
      roster.override b = some (other, expiry) → expiry ≤ (time : WithTop Time)) →
      base b = some key → a = b := by
    rintro a b ⟨expiry, held, alive⟩ expired shown
    by_contra differs
    obtain ⟨cover, limit, hides, outlives⟩ :=
      fits b key expiry shown ⟨a, differs, held, present _ alive⟩
    exact absurd (alive.trans_le (outlives.trans (expired cover limit hides))) (lt_irrefl _)
  rw [visible_eq_some] at left right
  obtain first | ⟨firstExpired, firstBase⟩ := left
  · obtain second | ⟨secondExpired, secondBase⟩ := right
    · exact safe.shown time (later.trans reached) a b key (visible_eq_some.mpr (.inl first))
        (visible_eq_some.mpr (.inl second))
    · exact mixed a b first secondExpired secondBase
  · obtain second | ⟨secondExpired, secondBase⟩ := right
    · exact (mixed b a second firstExpired firstBase).symm
    · exact own a b key firstBase secondBase

end Changes

end Roster

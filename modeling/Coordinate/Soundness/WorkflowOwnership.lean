import Coordinate.Model.SampleChecklist
import Coordinate.Proofs.Checklists

/-! # The holder of an item

Five of the transitions compare the caller with the owner, the lease or the handoff target of the item.
What they keep out is said here of every call that somebody else makes while the lease of the holder is
active, together with what the other transitions then do. An accepted handoff leaves no target behind, so
nobody can decline in the holder's place until the next handoff is requested.
-/

namespace Coordinate.Checklist

section Moves

variable [Platform] [Scripting] {item changed : Json} {n : Nat} {transition : Transition}
  {holder : String}

/-- Who makes a call, as far as its arguments say. -/
def Transition.actor : Transition → Option String
  | assign actor _ => some actor
  | accept arguments | renewLease arguments => some arguments.owner
  | start actor arguments => some ((given actor).getD arguments.owner)
  | decline arguments | release arguments | unblock arguments | markDone arguments => some arguments.actor
  | reviewResult arguments => some arguments.reviewer
  | blocker arguments => given arguments.actor
  | handoff arguments => some arguments.actor
  | closeout _ => none

/-- The item is owned under a lease that is active at a reading of the clock. -/
structure IsHeld (item : Json) (holder : String) (n : Nat) : Prop where
  named : holder ≠ ""
  owner : item.get "owner" = .str holder
  lease : ∃ lease, activeLease item (now n) = .ok (some lease) ∧ lease.get "owner" = .str holder

/-- What the call of somebody else may do to an item that is held. -/
def Intervention (item changed : Json) (holder : String) : Transition → Prop
  | .assign _ arguments => isHandoffTarget item arguments.owner = true ∨
    arguments.owner = holder ∧ changed.get "owner" = .str holder ∧ IsClaimed (changed.get "lease") holder ∧
      changed.get "status" = item.get "status"
  | .accept arguments => isHandoffTarget item arguments.owner = true
  | .start _ arguments =>
    arguments.owner = holder ∧ changed.get "owner" = .str holder ∧ IsClaimed (changed.get "lease") holder
  | .renewLease _ | .release _ => False
  | .decline arguments => item.getIn "workflow" "handoff_target" = .str arguments.actor
  | .unblock _ => item.get "status" = .str "blocked" ∧ changed.get "owner" = .str holder
  | .reviewResult _ => changed.get "owner" = .str holder ∧ changed.get "lease" = item.get "lease"
  | .closeout _ => changed.get "owner" = .str holder ∧ changed.get "lease" = item.get "lease" ∧
    changed.get "status" = item.get "status"
  | .markDone _ => item.getIn "review" "decision" = .str "approved"
  | .blocker _ | .handoff _ => True

omit [Platform] [Scripting] in
theorem str_truthy {text : String} (nonempty : text ≠ "") : (Json.str text).truthy = true := by
  rw [Json.truthy, decide_eq_true_eq]
  exact nonempty

/-- A claim in the name of another owner passes only for the target of a handoff. -/
theorem IsHeld.claimant (held : IsHeld item holder n) {owner : String} {targeted : Bool}
    (free : Free item owner targeted n) : owner = holder ∨ targeted = true := by
  obtain ⟨lease, active, owned⟩ := held.lease
  rcases free lease active with own | targeted
  · exact .inl (Json.str.inj (own.symm.trans owned))
  · exact .inr targeted

/-- What an owner test lets pass is the holder. -/
theorem IsHeld.only (held : IsHeld item holder n) {owner : String}
    (owned : (standingOf item).owner.truthy = true → (standingOf item).owner = .str owner) :
    owner = holder := by
  have same : (standingOf item).owner = .str holder := held.owner
  rw [same] at owned
  exact (Json.str.inj (owned (str_truthy held.named))).symm

/-- An item that is handed to nobody is meant for its holder. -/
theorem IsHeld.addressee (held : IsHeld item holder n)
    (untargeted : (item.getIn "workflow" "handoff_target").truthy = false) :
    (standingOf item).addressee = .str holder := by
  have none : (standingOf item).target.truthy = false := untargeted
  rw [Standing.addressee, Json.orElse, none]
  exact held.owner

/-- The transitions one by one. -/
theorem Moved.intervenes (moved : Moved item changed n transition) (held : IsHeld item holder n)
    (other : transition.actor ≠ some holder) : Intervention item changed holder transition := by
  cases moved with
  | assign claimable claimed leaves =>
    rcases held.claimant claimable.free with rfl | targeted
    · have standing := leaves.standing
      refine .inr ⟨rfl, congrArg Standing.owner standing, ?_, congrArg Standing.status standing⟩
      rw [show changed.get "lease" = _ from congrArg Standing.lease standing]
      exact claimed
    · exact .inl targeted
  | accept claimable =>
    rcases held.claimant claimable.free with rfl | targeted
    · exact absurd rfl other
    · exact targeted
  | start claimable claimed leaves =>
    rcases held.claimant claimable.free with rfl | targeted
    · have standing := leaves.standing
      refine ⟨rfl, congrArg Standing.owner standing, ?_⟩
      rw [show changed.get "lease" = _ from congrArg Standing.lease standing]
      exact claimed
    · cases targeted
  | decline meant =>
    rename_i arguments _ _
    cases aimed : (item.getIn "workflow" "handoff_target").truthy with
    | false =>
      have only := held.addressee aimed
      rw [only] at meant
      cases meant (str_truthy held.named)
      exact absurd rfl other
    | true =>
      have truthy : (standingOf item).target.truthy = true := aimed
      have addressed : (standingOf item).addressee = (standingOf item).target := by
        rw [Standing.addressee, Json.orElse, truthy]
        rfl
      rw [addressed] at meant
      exact meant truthy
  | renewLease free owned =>
    cases held.only owned
    exact absurd rfl other
  | release owned =>
    cases held.only owned
    exact absurd rfl other
  | unblock blocked _ leaves =>
    exact ⟨blocked, (congrArg Standing.owner leaves.standing).trans held.owner⟩
  | reviewResult _ leaves =>
    have standing := leaves.standing
    exact ⟨(congrArg Standing.owner standing).trans held.owner, congrArg Standing.lease standing⟩
  | markDone _ approved => exact approved
  | blocker => exact trivial
  | handoff => exact trivial
  | closeout leaves =>
    have standing := leaves.standing
    exact ⟨(congrArg Standing.owner standing).trans held.owner, congrArg Standing.lease standing,
      congrArg Standing.status standing⟩

/-- Only a handoff writes a target. -/
theorem Moved.target (moved : Moved item changed n transition)
    (none : item.getIn "workflow" "handoff_target" = .null) :
    changed.getIn "workflow" "handoff_target" = .null ∨ ∃ arguments, transition = .handoff arguments := by
  have none : (standingOf item).target = .null := none
  cases moved with
  | handoff => exact .inr ⟨_, rfl⟩
  | accept _ _ leaves => exact .inl (congrArg Standing.target leaves.standing)
  | _ =>
    rename_i leaves
    exact .inl ((congrArg Standing.target leaves.standing).trans none)

end Moves

section Runs

variable [Platform] [Scripting] {r s t u : State} {itemId holder : String} {site : Site}
  {transition : Transition}

/-- What belongs to the holder of an item. -/
structure Tenure where
  owner : Json
  lease : Json
  status : Json
  workflow : Option Json
deriving DecidableEq

def tenureOf (item : Json) : Tenure :=
  ⟨item.get "owner", item.get "lease", item.get "status", item.fieldIn? "workflow" "status"⟩

def Undisturbed (itemId : String) (s t : State) : Prop :=
  (t.item itemId).map tenureOf = (s.item itemId).map tenureOf

def Held (s : State) (itemId holder : String) : Prop :=
  ∃ item, s.item itemId = some item ∧ IsHeld item holder s.tick

/-- Nobody is the target of a handoff of the item. -/
def Untargeted (s : State) (itemId : String) : Prop :=
  ∃ item, s.item itemId = some item ∧ item.getIn "workflow" "handoff_target" = .null

/-- A call that is not a handoff of the item, or a handoff that fails. -/
def NoHandoff (itemId : String) (s : State) (label : Label) : Prop :=
  ∀ site arguments, label = .call site (.handoff arguments) → arguments.item = itemId →
    ∀ t, step s label = some t → t.files = s.files

theorem intervention_of_step (held : Held s itemId holder) (other : transition.actor ≠ some holder)
    (stepped : step s (.call site transition) = some t) :
    Undisturbed itemId s t ∨ transition.item = itemId ∧ ∃ item changed, s.item itemId = some item ∧
      t.item itemId = some changed ∧ Intervention item changed holder transition := by
  obtain ⟨item, found, held⟩ := held
  rcases step_cases stepped with same | ⟨_, _, before, changed, same, -, commit⟩
  · exact .inl (congrArg (Option.map tenureOf) (State.item_of_files same itemId))
  · cases same
    by_cases own : itemId = transition.item
    · subst own
      cases commit.before.symm.trans found
      exact .inr ⟨rfl, item, changed, found, commit.after, commit.moved.intervenes held other⟩
    · exact .inl (congrArg (Option.map tenureOf) (commit.others itemId own))

theorem untargeted_step {label : Label} (untargeted : Untargeted s itemId)
    (quiet : NoHandoff itemId s label) (stepped : step s label = some t) : Untargeted t itemId := by
  obtain ⟨item, found, none⟩ := untargeted
  rcases step_cases stepped with same | ⟨site, transition, before, changed, rfl, -, commit⟩
  · exact ⟨item, (State.item_of_files same itemId).trans found, none⟩
  · by_cases own : itemId = transition.item
    · subst own
      cases commit.before.symm.trans found
      rcases commit.moved.target none with still | ⟨arguments, rfl⟩
      · exact ⟨changed, commit.after, still⟩
      · have same := quiet site arguments rfl rfl t stepped
        exact ⟨item, (State.item_of_files same _).trans found, none⟩
    · exact ⟨item, (commit.others itemId own).trans found, none⟩

/-- An accepted item has no target left. -/
theorem untargeted_accept {arguments : ClaimArguments}
    (stepped : step s (.call site (.accept arguments)) = some t) (through : t.files ≠ s.files) :
    Untargeted t arguments.item := by
  rcases step_cases stepped with same | ⟨_, _, before, changed, same, -, commit⟩
  · exact absurd same through
  · cases same
    have moved := commit.moved
    cases moved with
    | accept _ _ leaves => exact ⟨changed, commit.after, congrArg Standing.target leaves.standing⟩

/-- **The holder of an item is disturbed only so far.** While the holder's lease is active, the call of
somebody else fails, or is one of the interventions: no renewal and no release, a claim in another name
only for the target of a pending handoff. After a handoff has been accepted, nobody else can decline the
item until another handoff is requested. -/
theorem holder_undisturbed (itemId holder : String) :
    (∀ s t site transition, Held s itemId holder → transition.actor ≠ some holder →
      transitions.step s (.call site transition) = some t →
      Undisturbed itemId s t ∨ transition.item = itemId ∧ ∃ item changed, s.item itemId = some item ∧
        t.item itemId = some changed ∧ Intervention item changed holder transition) ∧
    (∀ r s t u site site' accepts declines,
      transitions.step r (.call site (.accept accepts)) = some s → s.files ≠ r.files →
      accepts.item = itemId → transitions.Reaches (NoHandoff itemId) s t → Held t itemId holder →
      declines.actor ≠ holder → transitions.step t (.call site' (.decline declines)) = some u →
      Undisturbed itemId t u) := by
  refine ⟨fun s t site transition held other stepped => intervention_of_step held other stepped,
    fun r s t u site site' accepts declines accepted through own run held other stepped => ?_⟩
  subst own
  have untargeted : Untargeted t accepts.item :=
    run.invariant (P := fun t => Untargeted t accepts.item)
      (fun _ _ _ untargeted quiet stepped => untargeted_step untargeted quiet stepped)
      (untargeted_accept accepted through)
  obtain ⟨item, found, none⟩ := untargeted
  have apart : (Transition.decline declines).actor ≠ some holder := fun same =>
    other (Option.some.inj same)
  rcases intervention_of_step held apart stepped with same | ⟨-, before, changed, known, -, aimed⟩
  · exact same
  · cases known.symm.trans found
    exact absurd (none.symm.trans aimed) (by simp)

end Runs

namespace Sample

open Coordinate.Sample

/-- A test of `Held`. -/
def holds (holder : String) (s : State) : Bool :=
  holder ≠ "" && (s.item "a").any fun item => item.get "owner" = .str holder &&
    match activeLease item (now s.tick) with
    | .ok (some lease) => lease.get "owner" = .str holder
    | _ => false

theorem held_of_holds {holder : String} {s : State} (passed : holds holder s = true) : Held s "a" holder := by
  simp only [holds, Bool.and_eq_true, decide_eq_true_eq, Option.any_eq_true] at passed
  obtain ⟨named, item, found, owner, lease⟩ := passed
  refine ⟨item, found, named, owner, ?_⟩
  split at lease
  · rename_i active
    exact ⟨_, active, of_decide_eq_true lease⟩
  · cases lease

def handoffTo (target actor : String) : Transition := .handoff { item := "a", target, actor }

def review (decision : String) : Transition := .reviewResult { item := "a", reviewer := "r", decision }

/-- How `h` has come to hold the item, and what somebody else does then. In the first two, the handoff is
older than the tenure. -/
def scenes : List (List Transition × Transition) :=
  [([handoffTo "t" "x", .assign "operator" (claim "h")], .decline { item := "a", actor := "t" }),
    ([handoffTo "t" "x", .renewLease (claim "h")], .accept (claim "t")),
    ([.accept (claim "h")], .assign "b" (claim "h")),
    ([.assign "operator" (claim "h")], .start (some "b") (claim "h")),
    ([.assign "operator" (claim "h"), review "blocked"], .unblock { item := "a", actor := "b" }),
    ([.assign "operator" (claim "h"), .closeout { item := "a" }, review "approved"],
      .markDone { item := "a", actor := "b" }),
    ([.assign "operator" (claim "h")], .blocker { item := "a", actor := some "b" }),
    ([.assign "operator" (claim "h")], handoffTo "b" "b"),
    ([.assign "operator" (claim "h")], .closeout { item := "a" })]

/-- `h` holds the item in the end, and the last transition, by somebody else, disturbs it. -/
def Disturbing (scene : List Transition × Transition) : Prop :=
  scene.2.item = "a" ∧ scene.2.actor ≠ some "h" ∧
    ∃ t u, transitions.run start (scene.1.map (.call site)) = some t ∧ Held t "a" "h" ∧
      transitions.step t (.call site scene.2) = some u ∧ ¬ Undisturbed "a" t u

/-- Each of them disturbs the holder. -/
theorem holder_disturbed : scenes.Forall Disturbing := by
  have ran : scenes.all (fun scene => scene.2.item = "a" && scene.2.actor ≠ some "h" &&
      (transitions.run start (scene.1.map (.call site))).any fun t => holds "h" t &&
        (transitions.step t (.call site scene.2)).any fun u =>
          (u.item "a").map tenureOf ≠ (t.item "a").map tenureOf) = true := by decide +kernel
  refine List.forall_iff_forall_mem.mpr fun scene member => ?_
  have passed := List.all_eq_true.mp ran scene member
  simp only [Bool.and_eq_true, Option.any_eq_true, decide_eq_true_eq] at passed
  obtain ⟨⟨item, actor⟩, t, run, held, u, stepped, differs⟩ := passed
  exact ⟨item, actor, t, u, run, held_of_holds held, stepped, differs⟩

def declining : ActArguments := { item := "a", actor := "t" }

/-- An item that somebody else has accepted is not the old target's to decline. -/
theorem accepted_kept : ∃ r s u, transitions.run start [.call site (handoffTo "t" "x")] = some r ∧
    transitions.step r (.call site (.accept (claim "h"))) = some s ∧ Held s "a" "h" ∧
    transitions.step s (.call site (.decline declining)) = some u ∧ Undisturbed "a" s u := by
  have ran : ((transitions.run start [.call site (handoffTo "t" "x")]).any fun r =>
      (transitions.step r (.call site (.accept (claim "h")))).any fun s =>
        s.files ≠ r.files && holds "h" s &&
          (transitions.step s (.call site (.decline declining))).isSome) = true := by decide +kernel
  simp only [Option.any_eq_true, Bool.and_eq_true, decide_eq_true_eq, Option.isSome_iff_exists] at ran
  obtain ⟨r, run, s, accepted, ⟨through, held⟩, u, stepped⟩ := ran
  exact ⟨r, s, u, run, accepted, held_of_holds held, stepped,
    (holder_undisturbed "a" "h").2 r s s u site site (claim "h") declining accepted through rfl .refl
      (held_of_holds held) (by decide) stepped⟩

end Sample

end Coordinate.Checklist

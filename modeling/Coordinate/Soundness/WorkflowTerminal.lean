import Coordinate.Model.SampleChecklist
import Coordinate.Proofs.Checklists

/-! # Done is terminal

An item that is done and closed stays so as long as none of the seven transitions without a test of the
status goes through on it; each of them that goes through reopens it. An item becomes done through
`mark-done` only.
-/

namespace Coordinate.Checklist

section Moves

variable [Platform] [Scripting] {item changed : Json} {n : Nat} {transition : Transition}

def isDone (item : Json) : Prop := item.get "status" = .str "done"

instance : Decidable (isDone item) := decEq _ _

/-- Nobody owns the item, and its workflow is closed. -/
structure IsClosed (item : Json) : Prop where
  workflow : item.fieldIn? "workflow" "status" = some (.str "closed")
  owner : item.get "owner" = .null
  session : item.get "selected_in_session" = .null
  lease : IsReleased (item.get "lease")

/-- The transitions that do not test the status of the item. -/
def Transition.reopens : Transition → Bool
  | decline _ | renewLease _ | release _ | reviewResult _ | blocker _ | handoff _ | closeout _ => true
  | _ => false

omit [Platform] in
theorem activeLease_of_released (released : IsReleased (item.get "lease")) (time : Nat) :
    activeLease item time = .ok none := by
  rw [activeLease]
  rcases released with absent | ⟨object, given⟩
  · rw [absent]
    rfl
  · rw [object, given]
    rfl

/-- A transition that tests the status passes on an open item only. -/
theorem Moved.isOpen (moved : Moved item changed n transition) (tests : transition.reopens = false) :
    ¬ isDone item := by
  cases moved with
  | assign claimable => exact claimable.open_
  | accept claimable => exact claimable.open_
  | start claimable => exact claimable.open_
  | unblock blocked =>
    intro done
    exact absurd (blocked.symm.trans done) (by decide)
  | markDone isOpen => exact isOpen
  | _ => cases tests

/-- Only `mark-done` leaves an item done that was not. -/
theorem Moved.becomes (moved : Moved item changed n transition) (done : isDone changed) :
    isDone item ∨ (∃ arguments, transition = .markDone arguments) ∧ IsClosed changed := by
  have status : (standingOf changed).status = .str "done" := done
  cases moved with
  | assign _ _ leaves => rw [leaves.standing] at status; exact .inl status
  | accept _ _ leaves => rw [leaves.standing] at status; exact absurd (Json.str.inj status) (by decide)
  | start _ _ leaves => rw [leaves.standing] at status; exact absurd (Json.str.inj status) (by decide)
  | decline _ _ leaves => rw [leaves.standing] at status; exact absurd (Json.str.inj status) (by decide)
  | renewLease _ _ _ leaves => rw [leaves.standing] at status; exact .inl status
  | release _ _ leaves =>
    rw [leaves.standing] at status
    dsimp only [Standing.given] at status
    split at status
    · exact absurd (Json.str.inj status) (by decide)
    · exact .inl status
  | unblock _ _ leaves => rw [leaves.standing] at status; exact absurd (Json.str.inj status) (by decide)
  | reviewResult _ leaves =>
    rw [leaves.standing] at status
    dsimp only [Standing.reviewed] at status
    split at status
    · exact absurd (Json.str.inj status) (by decide)
    · exact .inl status
  | markDone _ _ _ released leaves =>
    have standing := leaves.standing
    refine .inr ⟨⟨_, rfl⟩, congrArg Standing.workflow standing, congrArg Standing.owner standing,
      congrArg Standing.session standing, ?_⟩
    rw [show changed.get "lease" = _ from congrArg Standing.lease standing]
    exact released
  | blocker _ leaves => rw [leaves.standing] at status; exact absurd (Json.str.inj status) (by decide)
  | handoff _ leaves => rw [leaves.standing] at status; exact absurd (Json.str.inj status) (by decide)
  | closeout leaves => rw [leaves.standing] at status; exact .inl status

/-- A transition that does not test the status leaves no item done and closed. -/
theorem Moved.breaks (moved : Moved item changed n transition) (reopens : transition.reopens = true) :
    ¬ (isDone changed ∧ IsClosed changed) := by
  rintro ⟨done, closed⟩
  have status : (standingOf changed).status = .str "done" := done
  have workflow : (standingOf changed).workflow = some (.str "closed") := closed.workflow
  have owner : (standingOf changed).owner = .null := closed.owner
  cases moved with
  | decline _ _ leaves => rw [leaves.standing] at status; exact absurd (Json.str.inj status) (by decide)
  | renewLease _ _ _ leaves => rw [leaves.standing] at owner; cases owner
  | release _ _ leaves =>
    rw [leaves.standing] at workflow
    exact absurd (Json.str.inj (Option.some.inj workflow)) (by decide)
  | reviewResult known leaves =>
    rw [leaves.standing] at workflow
    simp only [approvalDecisions, List.mem_cons, List.not_mem_nil, or_false] at known
    rcases known with decision | decision | decision <;>
      simp [Standing.reviewed, decision] at workflow
  | blocker _ leaves => rw [leaves.standing] at status; exact absurd (Json.str.inj status) (by decide)
  | handoff _ leaves => rw [leaves.standing] at status; exact absurd (Json.str.inj status) (by decide)
  | closeout leaves =>
    rw [leaves.standing] at workflow
    exact absurd (Json.str.inj (Option.some.inj workflow)) (by decide)
  | _ => cases reopens

end Moves

section Runs

variable [Platform] [Scripting] {s t : State} {itemId : String}

/-- Every done item is closed. -/
def DoneClosed (s : State) : Prop := ∀ item ∈ s.items, isDone item → IsClosed item

/-- The item is done. -/
def State.IsDone (s : State) (itemId : String) : Prop := ∃ item, s.item itemId = some item ∧ isDone item

/-- A call that does not reopen a done item: it tests the status, or the item is not done, or it is a
decline of somebody the item is not meant for. -/
def Respects (s : State) : Label → Prop
  | .wait _ => True
  | .call _ transition => transition.reopens = true → ∀ item, s.item transition.item = some item →
    isDone item → ∃ arguments, transition = .decline arguments ∧
      (standingOf item).addressee.truthy = true ∧
      (standingOf item).addressee ≠ .str arguments.actor

theorem Commit.open_ {site : Site} {transition : Transition} {item changed : Json}
    (commit : Commit s t transition item changed) (respects : Respects s (.call site transition)) :
    ¬ isDone item := by
  cases tests : transition.reopens with
  | false => exact commit.moved.isOpen tests
  | true =>
    intro done
    obtain ⟨arguments, rfl, truthy, other⟩ := respects tests item commit.before done
    have moved := commit.moved
    cases moved with
    | decline meant => exact other (meant truthy)

/-- The step lemma. -/
theorem doneClosed_step {label : Label} (closed : DoneClosed s) (respects : Respects s label)
    (stepped : step s label = some t) : DoneClosed t := by
  rcases step_cases stepped with same | ⟨site, transition, item, changed, rfl, -, commit⟩
  · rw [DoneClosed, State.items, same]
    exact closed
  · intro entry member done
    rcases commit.entries entry member with rfl | old
    · rcases commit.moved.becomes done with was | ⟨-, closed⟩
      · exact absurd was (commit.open_ respects)
      · exact closed
    · exact closed entry old done

theorem isDone_step {label : Label} (respects : Respects s label) (stepped : step s label = some t)
    (done : s.IsDone itemId) : t.IsDone itemId := by
  obtain ⟨item, found, done⟩ := done
  rcases step_cases stepped with same | ⟨site, transition, other, changed, rfl, -, commit⟩
  · exact ⟨item, (State.item_of_files same itemId).trans found, done⟩
  · by_cases own : itemId = transition.item
    · subst own
      cases commit.before.symm.trans found
      exact absurd done (commit.open_ respects)
    · exact ⟨item, (commit.others itemId own).trans found, done⟩

/-- **Done is terminal.** From a checklist whose done items are closed, every run of respectful calls
keeps them done, closed, without owner, session and active lease; every step on which an item becomes
done is a `mark-done` of it; and a call that does not test the status leaves no item done and closed. -/
theorem done_is_terminal (closed : DoneClosed s) (run : transitions.Reaches Respects s t) :
    (∀ item ∈ t.items, isDone item → IsClosed item ∧ ∀ time, activeLease item time = .ok none) ∧
    (∀ itemId, s.IsDone itemId → t.IsDone itemId) ∧
    (∀ label u itemId, transitions.step t label = some u → ¬ t.IsDone itemId → u.IsDone itemId →
      ∃ site arguments, label = .call site (.markDone arguments) ∧ arguments.item = itemId ∧
        arguments.force = false) ∧
    (∀ site transition u item, transitions.step t (.call site transition) = some u →
      u.files ≠ t.files → transition.reopens = true → u.item transition.item = some item →
      ¬ (isDone item ∧ IsClosed item)) := by
  refine ⟨fun item member done => ?_, fun itemId done => ?_, fun label u itemId stepped was is => ?_,
    fun site transition u item stepped written reopens found => ?_⟩
  · have closed : DoneClosed t := run.invariant (fun _ _ _ closed respects stepped =>
      doneClosed_step closed respects stepped) closed
    exact ⟨closed item member done, activeLease_of_released (closed item member done).lease⟩
  · exact run.invariant (P := fun u => u.IsDone itemId)
      (fun _ _ _ done respects stepped => isDone_step respects stepped done) done
  · obtain ⟨changed, found, done⟩ := is
    rcases step_cases stepped with same | ⟨site, transition, item, written, rfl, unforced, commit⟩
    · exact absurd ⟨changed, (State.item_of_files same itemId).symm.trans found, done⟩ was
    · by_cases own : itemId = transition.item
      · subst own
        cases commit.after.symm.trans found
        rcases commit.moved.becomes done with before | ⟨⟨arguments, rfl⟩, -⟩
        · exact absurd ⟨item, commit.before, before⟩ was
        · exact ⟨site, arguments, rfl, rfl, unforced⟩
      · exact absurd ⟨changed, (commit.others itemId own).symm.trans found, done⟩ was
  · have stepped : step t (.call site transition) = some u := stepped
    rcases step_cases stepped with same | ⟨_, _, _, changed, same, -, commit⟩
    · exact absurd same written
    · cases same
      cases commit.after.symm.trans found
      exact commit.moved.breaks reopens

end Runs

namespace Sample

open Coordinate.Sample

theorem start_closed : DoneClosed start := by
  intro item member done
  cases List.mem_singleton.mp member
  exact absurd (Json.str.inj done) (by decide)

/-- The way of an item to its end. -/
def completion : List Transition :=
  [.closeout { item := "a" }, .reviewResult { item := "a", reviewer := "r", decision := "approved" },
    .markDone { item := "a", actor := "operator" }]

/-- Calls that name no done item. -/
def spares (s : State) : Label → Bool
  | .call _ transition => !transition.reopens || (s.item transition.item).all fun item => ¬ isDone item
  | .wait _ => true

theorem respects_of_spares (s : State) (label : Label) (spared : spares s label = true) :
    Respects s label := by
  cases label with
  | wait readings => trivial
  | call site transition =>
    intro reopens item found done
    rw [spares, reopens, found] at spared
    exact absurd done (by simpa using spared)

/-- Attempts to assign and to unblock an item that has been marked done. -/
def attempts : List Transition :=
  completion ++ [.assign "operator" (claim "b"), .unblock { item := "a", actor := "b" }]

theorem completed_stays : ∃ t, transitions.Reaches Respects start t ∧ t.IsDone "a" ∧
    ∀ item ∈ t.items, isDone item → IsClosed item ∧ ∀ time, activeLease item time = .ok none := by
  obtain ⟨t, run, checked⟩ : ∃ t, transitions.Reaches Respects start t ∧
      ((t.item "a").any fun item => isDone item) = true :=
    @Machine.exists_reaches _ _ _ _ _ spares _ respects_of_spares (attempts.map (.call site))
      (by decide +kernel)
  obtain ⟨item, found, done⟩ := (Option.any_eq_true _ _).mp checked
  exact ⟨t, run, ⟨item, found, of_decide_eq_true done⟩, (done_is_terminal start_closed run).1⟩

/-- The lease of a done item is renewed by somebody, who owns it then. -/
theorem done_renewed : ∃ t u item, transitions.Reaches Machine.anyStep start t ∧ DoneClosed t ∧
    t.IsDone "a" ∧ transitions.step t (.call site (.renewLease (claim "b"))) = some u ∧
    u.item "a" = some item ∧ isDone item ∧ item.get "owner" = .str "b" ∧
    activeLease item (now u.tick) ≠ .ok none := by
  obtain ⟨t, run, checked⟩ : ∃ t, transitions.Reaches Respects start t ∧
      ((t.item "a").any (fun item => isDone item) &&
        (transitions.step t (.call site (.renewLease (claim "b")))).any fun u =>
          (u.item "a").any fun item => isDone item && item.get "owner" = .str "b" &&
            (activeLease item (now u.tick)).toOption.any Option.isSome) = true :=
    @Machine.exists_reaches _ _ _ _ _ spares _ respects_of_spares (completion.map (.call site))
      (by decide +kernel)
  simp only [Bool.and_eq_true, Option.any_eq_true, decide_eq_true_eq] at checked
  obtain ⟨⟨before, known, done⟩, u, stepped, item, found, ⟨still, owned⟩, lease, active, some_⟩ := checked
  have closed : DoneClosed t := run.invariant (fun _ _ _ closed respects stepped =>
    doneClosed_step closed respects stepped) start_closed
  refine ⟨t, u, item, run.any, closed, ⟨before, known, done⟩, stepped, found, still, owned, fun none => ?_⟩
  rw [none] at active
  cases active
  cases some_

end Sample

end Coordinate.Checklist

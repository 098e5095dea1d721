import Coordinate.Soundness.WorkflowTerminal

/-! # Completion and the review before it

`mark-done` looks at two fields that the last review has left in the item. They are compared here with a
record of the transitions that went through on the item: whatever happens, there is a closeout in it and
an approval after it, and no other review later. Seven transitions take the item back to work and leave
the two fields as they are; as long as none of them goes through while an approval stands, the approval
that `mark-done` finds is of the work as it is.
-/

namespace Coordinate.Checklist

section Record

/-- The transitions that take an item back to work without a word about the review. -/
def Transition.retains : Transition → Bool
  | assign .. | accept _ | start .. | decline _ | release _ | blocker _ | handoff _ => true
  | _ => false

/-- The transitions that take an item back to work. -/
def Transition.returns : Transition → Bool
  | unblock _ => true
  | transition => transition.retains

/-- The transitions that write the decision of a review. -/
def Transition.judges : Transition → Bool
  | unblock _ | reviewResult _ | closeout _ => true
  | _ => false

/-- There is a closeout in a record, an approval after it, and no review, no closeout and no unblocking
in the rest. -/
def Approval (rest trail : List Transition) : Prop :=
  (∃ before request between review, review.decision = "approved" ∧
    trail = before ++ .closeout request :: (between ++ .reviewResult review :: rest)) ∧
  ∀ transition ∈ rest, transition.judges = false

/-- An approval after which nothing has taken the item back to work. -/
def Current (trail : List Transition) : Prop :=
  ∃ rest, Approval rest trail ∧ ∀ transition ∈ rest, transition.returns = false

/-- A `mark-done` on a current approval. -/
def Completed (trail : List Transition) : Prop :=
  ∃ completed arguments later, trail = completed ++ .markDone arguments :: later ∧ Current completed

def Requested (trail : List Transition) : Prop :=
  ∃ before request between, trail = before ++ .closeout request :: between

variable {trail rest : List Transition} {transition : Transition}

theorem Requested.append (requested : Requested trail) (transition : Transition) :
    Requested (trail ++ [transition]) := by
  obtain ⟨before, request, between, rfl⟩ := requested
  exact ⟨before, request, between ++ [transition], by simp⟩

theorem Requested.approve (requested : Requested trail) {review : ReviewArguments}
    (approves : review.decision = "approved") : Approval [] (trail ++ [.reviewResult review]) := by
  obtain ⟨before, request, between, rfl⟩ := requested
  exact ⟨⟨before, request, between, review, approves, by simp⟩, List.forall_mem_nil _⟩

theorem Approval.append (approval : Approval rest trail) (silent : transition.judges = false) :
    Approval (rest ++ [transition]) (trail ++ [transition]) := by
  obtain ⟨⟨before, request, between, review, approves, rfl⟩, silence⟩ := approval
  refine ⟨⟨before, request, between, review, approves, by simp⟩, ?_⟩
  rw [List.forall_mem_append]
  exact ⟨silence, List.forall_mem_singleton.mpr silent⟩

theorem Current.append (current : Current trail) (silent : transition.judges = false)
    (stays : transition.returns = false) : Current (trail ++ [transition]) := by
  obtain ⟨rest, approval, still⟩ := current
  refine ⟨_, approval.append silent, ?_⟩
  rw [List.forall_mem_append]
  exact ⟨still, List.forall_mem_singleton.mpr stays⟩

theorem Completed.append (completed : Completed trail) (transition : Transition) :
    Completed (trail ++ [transition]) := by
  obtain ⟨completed, arguments, later, rfl, current⟩ := completed
  exact ⟨completed, arguments, later ++ [transition], by simp, current⟩

/-- What takes the item back to work leaves no approval current. -/
theorem not_current_append (returns : transition.returns = true) : ¬ Current (trail ++ [transition]) := by
  rintro ⟨rest, ⟨⟨before, request, between, review, -, same⟩, -⟩, still⟩
  rcases List.eq_nil_or_concat rest with rfl | ⟨rest, last, rfl⟩
  · rw [← List.cons_append, ← List.append_assoc] at same
    obtain ⟨-, same⟩ := List.append_inj' same rfl
    cases List.singleton_inj.mp same
    cases returns
  · have shape : before ++ .closeout request :: (between ++ .reviewResult review :: (rest ++ [last])) =
        (before ++ .closeout request :: (between ++ .reviewResult review :: rest)) ++ [last] := by simp
    rw [List.concat_eq_append, shape] at same
    obtain ⟨-, same⟩ := List.append_inj' same rfl
    cases List.singleton_inj.mp same
    rw [still transition (by simp)] at returns
    cases returns

end Record

section Items

variable {item : Json} {trail : List Transition}

/-- What `mark-done` asks of the review. -/
structure IsApproved (item : Json) : Prop where
  decision : item.getIn "review" "decision" = .str "approved"
  phase : item.getIn "review" "phase" = .str "closeout_requested"

/-- An item that nothing has been done to. -/
structure IsFresh (item : Json) : Prop where
  status : item.get "status" = .str "todo"
  workflow : item.fieldIn? "workflow" "status" = none ∨
    item.fieldIn? "workflow" "status" = some (.str "todo")
  decision : item.getIn "review" "decision" = .null

theorem isApproved_iff : IsApproved item ↔ (standingOf item).decision = .str "approved" ∧
    (standingOf item).phase = .str "closeout_requested" :=
  ⟨fun approved => ⟨approved.decision, approved.phase⟩, fun ⟨decision, phase⟩ => ⟨decision, phase⟩⟩

/-- The record knows of the closeout and of the approval that an item speaks of. -/
structure Noted (item : Json) (trail : List Transition) : Prop where
  requested : (standingOf item).workflowStatus = .str "closeout_requested" → Requested trail
  approved : IsApproved item → ∃ rest, Approval rest trail

/-- The approval of an open item is current, and so was that of a done one. -/
structure Vouched (item : Json) (trail : List Transition) : Prop where
  current : IsApproved item → ¬ isDone item → Current trail
  completed : isDone item → Completed trail

theorem IsFresh.noted (fresh : IsFresh item) : Noted item [] where
  requested requested := by
    have status : (standingOf item).workflowStatus = .str "todo" := by
      have working : (standingOf item).status = .str "todo" := fresh.status
      rcases fresh.workflow with absent | given
      · rw [Standing.workflowStatus, show (standingOf item).workflow = none from absent, working]
        rfl
      · rw [Standing.workflowStatus, show (standingOf item).workflow = some _ from given]
        rfl
    rw [status] at requested
    exact absurd (Json.str.inj requested) (by decide)
  approved approved := by
    have decision := approved.decision
    rw [fresh.decision] at decision
    cases decision

theorem IsFresh.vouched (fresh : IsFresh item) : Vouched item [] where
  current approved := by
    have decision := approved.decision
    rw [fresh.decision] at decision
    cases decision
  completed done := absurd (Json.str.inj (fresh.status.symm.trans done)) (by decide)

/-- Marking a done item again. -/
theorem Noted.again (noted : Noted item trail) (arguments : ActArguments) :
    Noted item (trail ++ [.markDone arguments]) where
  requested requested := (noted.requested requested).append _
  approved approved := by
    obtain ⟨rest, approval⟩ := noted.approved approved
    exact ⟨_, approval.append rfl⟩

theorem Vouched.again (vouched : Vouched item trail) (arguments : ActArguments) :
    Vouched item (trail ++ [.markDone arguments]) where
  current approved opened := (vouched.current approved opened).append rfl rfl
  completed done := (vouched.completed done).append _

end Items

section Moves

variable [Platform] [Scripting] {item changed : Json} {n : Nat} {transition : Transition}
  {trail : List Transition}

/-- Only a closeout asks for a closing review. -/
theorem Moved.requests (moved : Moved item changed n transition)
    (requested : (standingOf changed).workflowStatus = .str "closeout_requested") :
    (∃ arguments, transition = .closeout arguments) ∨
      (standingOf item).workflowStatus = .str "closeout_requested" := by
  cases moved with
  | renewLease _ _ _ leaves =>
    rw [leaves.standing] at requested
    exact .inr requested
  | closeout => exact .inl ⟨_, rfl⟩
  | reviewResult known leaves =>
    rw [leaves.standing] at requested
    simp only [approvalDecisions, List.mem_cons, List.not_mem_nil, or_false] at known
    rcases known with decision | decision | decision <;>
      simp [Standing.workflowStatus, Standing.reviewed, decision] at requested
  | _ =>
    rename_i leaves
    rw [leaves.standing] at requested
    exact absurd (Json.str.inj requested) (by decide)

/-- Only a review of a closing request approves an item. -/
theorem Moved.approves (moved : Moved item changed n transition) (approved : IsApproved changed) :
    (∃ review, transition = .reviewResult review ∧ review.decision = "approved" ∧
      (standingOf item).workflowStatus = .str "closeout_requested") ∨
      IsApproved item ∧ transition.judges = false := by
  obtain ⟨decision, phase⟩ := isApproved_iff.mp approved
  cases moved with
  | reviewResult known leaves =>
    rw [leaves.standing] at decision phase
    exact .inl ⟨_, rfl, Json.str.inj decision, phase⟩
  | unblock _ _ leaves =>
    rw [leaves.standing] at decision
    cases decision
  | closeout leaves =>
    rw [leaves.standing] at decision
    cases decision
  | _ =>
    rename_i leaves
    rw [leaves.standing] at decision phase
    exact .inr ⟨isApproved_iff.mpr ⟨decision, phase⟩, rfl⟩

/-- What takes an open item back to work leaves it open, and approved if it was. -/
theorem Moved.retains (moved : Moved item changed n transition) (retains : transition.retains = true)
    (approved : IsApproved item) : IsApproved changed := by
  obtain ⟨decision, phase⟩ := isApproved_iff.mp approved
  rw [isApproved_iff]
  cases moved with
  | renewLease | unblock | reviewResult | markDone | closeout => cases retains
  | _ =>
    rename_i leaves
    rw [leaves.standing]
    exact ⟨decision, phase⟩

/-- A done item is opened again by three of the transitions that take it back to work, or by a review. -/
theorem Moved.opens (moved : Moved item changed n transition) (done : isDone item)
    (opened : ¬ isDone changed) : transition.judges = true ∨
      transition.retains = true ∧ ∀ arguments, transition ≠ .release arguments := by
  cases moved with
  | assign claimable => exact absurd done claimable.open_
  | accept claimable => exact absurd done claimable.open_
  | start claimable => exact absurd done claimable.open_
  | renewLease _ _ _ leaves =>
    exact absurd ((congrArg Standing.status leaves.standing).trans done) opened
  | release _ _ leaves =>
    refine absurd ((congrArg Standing.status leaves.standing).trans ?_) opened
    dsimp only [Standing.given]
    rw [if_neg fun doing => absurd (Json.str.inj (doing.symm.trans done)) (by decide)]
    exact done
  | markDone isOpen => exact absurd done isOpen
  | decline | blocker | handoff => exact .inr ⟨rfl, fun _ same => by cases same⟩
  | unblock | reviewResult | closeout => exact .inl rfl

/-- What takes an item back to work leaves it open, unless it is the release of a done item. -/
theorem Moved.staysOpen (moved : Moved item changed n transition) (retains : transition.retains = true)
    (working : ¬ (isDone item ∧ ∃ arguments, transition = .release arguments)) : ¬ isDone changed := by
  intro done
  rcases moved.becomes done with was | ⟨⟨arguments, rfl⟩, -⟩
  · cases moved with
    | assign claimable => exact claimable.open_ was
    | accept claimable => exact claimable.open_ was
    | start claimable => exact claimable.open_ was
    | release => exact working ⟨was, _, rfl⟩
    | renewLease | unblock | reviewResult | markDone | closeout => cases retains
    | _ =>
      rename_i leaves
      exact absurd (Json.str.inj ((congrArg Standing.status leaves.standing).symm.trans done)) (by decide)
  · cases retains

/-- The step lemma of every run. -/
theorem Noted.step (noted : Noted item trail) (moved : Moved item changed n transition) :
    Noted changed (trail ++ [transition]) where
  requested requested := by
    rcases moved.requests requested with ⟨request, rfl⟩ | before
    · exact ⟨trail, request, [], rfl⟩
    · exact (noted.requested before).append transition
  approved approved := by
    rcases moved.approves approved with ⟨review, rfl, approves, requested⟩ | ⟨before, silent⟩
    · exact ⟨[], (noted.requested requested).approve approves⟩
    · obtain ⟨rest, approval⟩ := noted.approved before
      exact ⟨_, approval.append silent⟩

/-- The step lemma of the runs that leave an approved item alone. -/
theorem Vouched.step (vouched : Vouched item trail) (noted : Noted item trail)
    (moved : Moved item changed n transition)
    (steady : transition.retains = true → IsApproved item →
      isDone item ∧ ∃ arguments, transition = .release arguments) :
    Vouched changed (trail ++ [transition]) where
  current approved opened := by
    rcases moved.approves approved with ⟨review, rfl, approves, requested⟩ | ⟨before, silent⟩
    · exact ⟨[], (noted.requested requested).approve approves, List.forall_mem_nil _⟩
    · by_cases done : isDone item
      · rcases moved.opens done opened with judges | ⟨retains, others⟩
        · rw [silent] at judges
          cases judges
        · obtain ⟨-, arguments, release⟩ := steady retains before
          exact absurd release (others arguments)
      · refine (vouched.current before done).append silent ?_
        cases retains : transition.retains with
        | true => exact absurd (steady retains before).1 done
        | false =>
          cases transition with
          | unblock => cases silent
          | _ => exact retains
  completed done := by
    rcases moved.becomes done with was | ⟨⟨arguments, rfl⟩, -⟩
    · exact (vouched.completed was).append transition
    · cases moved with
      | markDone isOpen approved closing =>
        exact ⟨trail, arguments, [], rfl,
          vouched.current (isApproved_iff.mpr ⟨approved, closing⟩) isOpen⟩

end Moves

section Runs

variable [Platform] [Scripting] {s t u : State} {itemId : String} {item : Json}
  {trail trail' : List Transition} {label : Label}

/-- A transition that goes through. -/
def succeeds (s : State) (site : Site) (transition : Transition) : Bool :=
  !transition.force && (perform site transition s.files s.tick).toBool

/-- The transition that goes through on an item. -/
def noteOf (itemId : String) (s : State) : Label → Option Transition
  | .call site transition =>
    if transition.item = itemId ∧ succeeds s site transition = true then some transition else none
  | .wait _ => none

/-- The harness with a record of the transitions that went through on an item. -/
def recorded (itemId : String) : Machine (State × List Transition) Label :=
  transitions.recording (noteOf itemId)

/-- A call that does not take an approved item back to work behind the back of its review, unless it
releases an item that is done. -/
def Steady (itemId : String) (s : State) : Label → Prop
  | .wait _ => True
  | .call site transition => transition.item = itemId → transition.retains = true →
    succeeds s site transition = true → ∀ item, s.item itemId = some item → IsApproved item →
      isDone item ∧ ∃ arguments, transition = .release arguments

/-- A call that goes through has committed, or marked a done item. -/
theorem succeeds_cases {site : Site} {transition : Transition}
    (through : succeeds s site transition = true) :
    transition.force = false ∧ ∃ t : State, perform site transition s.files s.tick = .ok (t.files, t.tick) ∧
      (t.files = s.files ∧ MarksDone s.files transition ∨
        ∃ item changed, Commit s t transition item changed) := by
  rw [succeeds, Bool.and_eq_true, Bool.not_eq_true'] at through
  obtain ⟨unforced, through⟩ := through
  cases ran : perform site transition s.files s.tick with
  | error exit =>
    rw [ran] at through
    cases through
  | ok answer => exact ⟨unforced, ⟨answer.1, answer.2⟩, rfl, call_ok unforced ran⟩

/-- One step beside its record: nothing happens to the item, or a done item is marked again, or the item
moves. -/
theorem recorded_cases (stepped : (recorded itemId).step (s, trail) label = some (t, trail')) :
    (t.item itemId = s.item itemId ∧ noteOf itemId s label = none ∧ trail' = trail) ∨
    (t.item itemId = s.item itemId ∧ ∃ site arguments, label = .call site (.markDone arguments) ∧
      trail' = trail ++ [.markDone arguments]) ∨
    ∃ site transition item changed, label = .call site transition ∧ transition.item = itemId ∧
      succeeds s site transition = true ∧ s.item itemId = some item ∧ t.item itemId = some changed ∧
      Moved item changed s.tick transition ∧ trail' = trail ++ [transition] := by
  obtain ⟨inner, rfl⟩ := Machine.recording_step.mp stepped
  have stepped : step s label = some t := inner
  cases label with
  | wait readings =>
    cases stepped
    exact .inl ⟨rfl, rfl, List.append_nil _⟩
  | call site transition =>
    cases through : succeeds s site transition with
    | false =>
      have silent : noteOf itemId s (.call site transition) = none := by simp [noteOf, through]
      rw [silent]
      refine .inl ⟨?_, rfl, List.append_nil _⟩
      dsimp only [step] at stepped
      split at stepped
      · cases stepped
      · rename_i unforced
        rw [succeeds, (Bool.not_eq_true _).mp unforced] at through
        split at stepped
        · rename_i ran
          rw [ran] at through
          cases through
        · cases stepped
          rfl
    | true =>
      obtain ⟨unforced, after, ran, cases⟩ := succeeds_cases through
      dsimp only [step] at stepped
      rw [unforced, ran] at stepped
      cases stepped
      by_cases own : transition.item = itemId
      · have noted : noteOf itemId s (.call site transition) = some transition := by
          simp [noteOf, through, own]
        rw [noted]
        rcases cases with ⟨same, arguments, rfl, -⟩ | ⟨item, changed, commit⟩
        · exact .inr (.inl ⟨State.item_of_files same itemId, site, arguments, rfl, rfl⟩)
        · subst own
          exact .inr (.inr ⟨site, transition, item, changed, rfl, rfl, through, commit.before, commit.after,
            commit.moved, rfl⟩)
      · have silent : noteOf itemId s (.call site transition) = none := by simp [noteOf, own]
        rw [silent]
        refine .inl ⟨?_, rfl, List.append_nil _⟩
        rcases cases with ⟨same, -⟩ | ⟨item, changed, commit⟩
        · exact State.item_of_files same itemId
        · exact commit.others itemId (Ne.symm own)

/-- The item and its record agree. -/
def Agrees (itemId : String) (about : Json → List Transition → Prop) (s : State × List Transition) : Prop :=
  ∃ item, s.1.item itemId = some item ∧ about item s.2

theorem noted_step (noted : Agrees itemId Noted (s, trail))
    (stepped : (recorded itemId).step (s, trail) label = some (t, trail')) :
    Agrees itemId Noted (t, trail') := by
  obtain ⟨item, found, noted⟩ := noted
  rcases recorded_cases stepped with ⟨same, -, rfl⟩ | ⟨same, -, arguments, -, rfl⟩ |
    ⟨-, transition, before, changed, -, -, -, known, after, moved, rfl⟩
  · exact ⟨item, same.trans found, noted⟩
  · exact ⟨item, same.trans found, noted.again arguments⟩
  · cases known.symm.trans found
    exact ⟨changed, after, noted.step moved⟩

theorem vouched_step
    (vouched : Agrees itemId (fun item trail => Noted item trail ∧ Vouched item trail) (s, trail))
    (steady : Steady itemId s label)
    (stepped : (recorded itemId).step (s, trail) label = some (t, trail')) :
    Agrees itemId (fun item trail => Noted item trail ∧ Vouched item trail) (t, trail') := by
  obtain ⟨item, found, noted, vouched⟩ := vouched
  rcases recorded_cases stepped with ⟨same, -, rfl⟩ | ⟨same, -, arguments, -, rfl⟩ |
    ⟨site, transition, before, changed, rfl, own, through, known, after, moved, rfl⟩
  · exact ⟨item, same.trans found, noted, vouched⟩
  · exact ⟨item, same.trans found, noted.again arguments, vouched.again arguments⟩
  · cases known.symm.trans found
    exact ⟨changed, after, noted.step moved, vouched.step noted moved fun retains approved =>
      steady own retains through item found approved⟩

/-- A `mark-done` that goes through finds the item done or approved. -/
theorem markDone_cases {site : Site} {arguments : ActArguments} (own : arguments.item = itemId)
    (found : s.item itemId = some item) (through : succeeds s site (.markDone arguments) = true) :
    isDone item ∨ IsApproved item := by
  subst own
  obtain ⟨-, after, -, cases⟩ := succeeds_cases through
  rcases cases with ⟨-, others, same, checklist, entry, inForce, named, done⟩ | ⟨entry, changed, commit⟩
  · cases same
    rw [State.item, inForce, Option.bind_some, named] at found
    cases found
    exact .inl done
  · have moved := commit.moved
    cases commit.before.symm.trans found
    cases moved with
    | markDone _ approved closing => exact .inr (isApproved_iff.mpr ⟨approved, closing⟩)

/-- **Completion and approval.** In every run from a fresh item, a `mark-done` that completes it comes
after a closeout and an approval that no review has followed. In a steady run nothing has taken the item
back to work since, and a `mark-done` of a done item comes after such a completion. A step that is not
steady leaves the item open to `mark-done` although its approval is not current. -/
theorem done_is_approved (found : s.item itemId = some item) (fresh : IsFresh item) :
    (∀ t trail site arguments, (recorded itemId).Reaches Machine.anyStep (s, []) (t, trail) →
      arguments.item = itemId → succeeds t site (.markDone arguments) = true → ¬ t.IsDone itemId →
      ∃ rest, Approval rest trail) ∧
    (∀ t trail site arguments, (recorded itemId).Reaches (fun u => Steady itemId u.1) (s, []) (t, trail) →
      arguments.item = itemId → succeeds t site (.markDone arguments) = true →
      (¬ t.IsDone itemId → Current trail) ∧ (t.IsDone itemId → Completed trail)) ∧
    (∀ t trail label u trail', (recorded itemId).step (t, trail) label = some (u, trail') →
      ¬ Steady itemId t label → ¬ Current trail' ∧
        ∃ changed, u.item itemId = some changed ∧ ¬ isDone changed ∧ IsApproved changed) := by
  refine ⟨fun t trail site arguments run own through isOpen => ?_,
    fun t trail site arguments run own through => ?_, fun t trail label u trail' stepped unsteady => ?_⟩
  · obtain ⟨item, found, noted⟩ : Agrees itemId Noted (t, trail) :=
      run.invariant (fun _ _ _ noted _ stepped => noted_step noted stepped) ⟨item, found, fresh.noted⟩
    rcases markDone_cases own found through with done | approved
    · exact absurd ⟨item, found, done⟩ isOpen
    · exact noted.approved approved
  · obtain ⟨item, found, -, vouched⟩ :
        Agrees itemId (fun item trail => Noted item trail ∧ Vouched item trail) (t, trail) :=
      run.invariant (fun _ _ _ vouched steady stepped => vouched_step vouched steady stepped)
        ⟨item, found, fresh.noted, fresh.vouched⟩
    refine ⟨fun isOpen => ?_, fun ⟨other, same, done⟩ => ?_⟩
    · rcases markDone_cases own found through with done | approved
      · exact absurd ⟨item, found, done⟩ isOpen
      · exact vouched.current approved fun done => isOpen ⟨item, found, done⟩
    · cases same.symm.trans found
      exact vouched.completed done
  · cases label with
    | wait readings => exact absurd trivial unsteady
    | call site transition =>
      simp only [Steady, Classical.not_imp, not_forall] at unsteady
      obtain ⟨own, retains, through, item, found, approved, working⟩ := unsteady
      have returns : transition.returns = true := by
        cases transition with
        | unblock => cases retains
        | _ => exact retains
      rcases recorded_cases stepped with ⟨-, silent, -⟩ | ⟨-, _, arguments, same, -⟩ |
        ⟨_, _, before, changed, same, -, -, known, after, moved, rfl⟩
      · simp [noteOf, own, through] at silent
      · cases same
        cases retains
      · cases same
        cases known.symm.trans found
        exact ⟨not_current_append returns, changed, after, moved.staysOpen retains working,
          moved.retains retains approved⟩

end Runs

namespace Sample

open Coordinate.Sample

/-- The item after its closing request has been approved. -/
def approval : List Transition :=
  [.closeout { item := "a" }, .reviewResult { item := "a", reviewer := "r", decision := "approved" }]

/-- The approved item is given to somebody. -/
def reassignment : List Transition := approval ++ [.assign "operator" (claim "b")]

def marking : ActArguments := { item := "a", actor := "operator" }

theorem start_item : start.item "a" = some (itemOf "todo" []) := by decide +kernel

theorem start_fresh : IsFresh (itemOf "todo" []) := ⟨rfl, .inl rfl, rfl⟩

/-- Calls that take no item back to work. -/
def calm (_ : State × List Transition) : Label → Bool
  | .call _ transition => !transition.retains
  | .wait _ => true

theorem steady_of_calm (s : State × List Transition) (label : Label) (still : calm s label = true) :
    Steady "a" s.1 label := by
  cases label with
  | wait readings => trivial
  | call site transition =>
    intro _ retains
    rw [calm, retains] at still
    cases still

theorem approved_completion : ∃ t trail,
    (recorded "a").Reaches (fun u => Steady "a" u.1) (start, []) (t, trail) ∧
    succeeds t site (.markDone marking) = true ∧ Current trail := by
  obtain ⟨⟨t, trail⟩, run, checked⟩ : ∃ t, (recorded "a").Reaches (fun u => Steady "a" u.1) (start, []) t ∧
      (succeeds t.1 site (.markDone marking) && (t.1.item "a").all fun item => ¬ isDone item) = true :=
    @Machine.exists_reaches _ _ _ _ _ calm _ steady_of_calm (approval.map (.call site)) (by decide +kernel)
  obtain ⟨through, isOpen⟩ := (Bool.and_eq_true _ _).mp checked
  refine ⟨t, trail, run, through, ?_⟩
  refine ((done_is_approved start_item start_fresh).2.1 t trail site marking run rfl through).1 ?_
  rintro ⟨item, found, done⟩
  rw [found] at isOpen
  exact absurd done (by simpa using isOpen)

/-- The approved item is assigned to somebody, and may still be marked done. -/
theorem approval_outlived : ∃ t trail item, start.item "a" = some item ∧ IsFresh item ∧
    (recorded "a").Reaches Machine.anyStep (start, []) (t, trail) ∧ ¬ t.IsDone "a" ∧
    succeeds t site (.markDone marking) = true ∧ ¬ Current trail := by
  obtain ⟨⟨t, trail⟩, run, checked⟩ : ∃ t, (recorded "a").Reaches Machine.anyStep (start, []) t ∧
      (succeeds t.1 site (.markDone marking) && ((t.1.item "a").all fun item => ¬ isDone item) &&
        (t.2 == reassignment)) = true :=
    @Machine.exists_reaches _ _ _ _ _ (fun _ _ => true) _ (fun _ _ _ => trivial)
      (reassignment.map (.call site)) (by decide +kernel)
  simp only [Bool.and_eq_true, beq_iff_eq] at checked
  obtain ⟨⟨through, isOpen⟩, rfl⟩ := checked
  refine ⟨t, _, _, start_item, start_fresh, run, ?_, through, not_current_append rfl⟩
  rintro ⟨item, found, done⟩
  rw [found] at isOpen
  exact absurd done (by simpa using isOpen)

end Sample

end Coordinate.Checklist
